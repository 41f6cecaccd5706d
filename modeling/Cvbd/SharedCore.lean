import Mathlib.Algebra.Ring.Int.Defs
import Mathlib.Algebra.Ring.Nat

/-!
Message types of `SharedMemShared.h`. Integer fields have the widths of the C
types (`uint64_t`, `off_t`, `int`). A `char` array is given by the C string a
reader finds in it, and is `none` where no terminator follows inside the
message object.
-/

namespace Cvbd

/-- A volume name or message-queue name: the bytes before the terminating NUL. -/
abbrev Name := List UInt8

def maxQueueNum : Nat := 1
def maxQueueSize : Nat := 32
def maxSectorsWrite : Nat := 128

/-- `WriteRequest::max_data_size`, `ReadRequest::max_data_size` and `ReadReply::max_data_size`. -/
def maxDataSize : Nat := 4096 * maxSectorsWrite

/-- `PATH_MAX` of `linux/limits.h`. -/
def pathMax : Nat := 4096

inductive RequestType
  | reqUnknow
  | reqRead
  | reqWrite
  | reqOpen
  | reqClose
  | reqGetsize
  | reqFsync
  deriving DecidableEq, Repr

structure Header where
  stop : Bool
  type : RequestType
  id : UInt64
  volume : UInt64
  acb : UInt64
  deriving DecidableEq, Repr

structure WriteRequest where
  header : Header
  offset : Int64
  sizeInBytes : UInt64
  data : Nat → UInt8

structure ReadRequest where
  header : Header
  offset : Int64
  sizeInBytes : UInt64

structure OpenRequest where
  header : Header
  volumeName : Option Name
  replyMqName : Option Name

/-- `CloseRequest`, `GetSizeRequest` and `FsyncRequest` consist of a header only. -/
structure HeaderRequest where
  header : Header

/-- A request as `handle_requests` sees it in its buffer: the stop flag is tested first, then
the type. -/
inductive Request
  | stop (header : Header)
  | write (req : WriteRequest)
  | read (req : ReadRequest)
  | openVolume (req : OpenRequest)
  | close (req : HeaderRequest)
  | getsize (req : HeaderRequest)
  | fsync (req : HeaderRequest)
  | unknown (header : Header)

def Request.header : Request → Header
  | .stop header => header
  | .write req => req.header
  | .read req => req.header
  | .openVolume req => req.header
  | .close req => req.header
  | .getsize req => req.header
  | .fsync req => req.header
  | .unknown header => header

/-- WRITE, CLOSE, stop and unknown messages are handled without a reply. -/
def Request.answered : Request → Bool
  | .read _ | .openVolume _ | .getsize _ | .fsync _ => true
  | .stop _ | .write _ | .close _ | .unknown _ => false

structure ReadReply where
  header : Header
  sizeInBytes : UInt64
  data : Nat → UInt8

structure OpenReply where
  header : Header
  volume : UInt64
  err : Int32

structure GetSizeReply where
  header : Header
  sizeInBytes : Int64

structure FsyncReply where
  header : Header
  err : Int32

inductive Reply
  | read (reply : ReadReply)
  | openVolume (reply : OpenReply)
  | getsize (reply : GetSizeReply)
  | fsync (reply : FsyncReply)

def Reply.header : Reply → Header
  | .read reply => reply.header
  | .openVolume reply => reply.header
  | .getsize reply => reply.header
  | .fsync reply => reply.header

end Cvbd
