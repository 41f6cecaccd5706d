import Cvbd.SharedCore
import Cvbd.Lib.LittleEndian
import Cvbd.Lib.CString

/-!
Byte layout of the messages. Both ends keep one union object per direction and
never clear it: a sender writes the fields of its message kind over whatever the
union held, transmits the kind's `sizeof`, and a receiver gets those bytes over
its own old buffer. Offsets are those of the x86-64 ABI.
-/

namespace Cvbd

/-- The bytes of a union object. Positions past the object stand for whatever memory follows. -/
abbrev Bytes := Nat → UInt8

structure Message where
  bytes : Bytes
  size : Nat

namespace Wire

open LittleEndian

def headerSize : Nat := 32
def writerequestSize : Nat := 48 + maxDataSize
def readrequestSize : Nat := 48
def volumeNameStart : Nat := headerSize
def replyMqNameStart : Nat := headerSize + pathMax
def openrequestSize : Nat := headerSize + pathMax + pathMax
def requestSize : Nat := writerequestSize
def readreplySize : Nat := 40 + maxDataSize
def openreplySize : Nat := 48
def getsizereplySize : Nat := 40
def fsyncreplySize : Nat := 40

def typeCode : RequestType → Nat
  | .reqUnknow => 0
  | .reqRead => 1
  | .reqWrite => 2
  | .reqOpen => 3
  | .reqClose => 4
  | .reqGetsize => 5
  | .reqFsync => 6

/-- Codes outside the enumeration take the same branch of every test as `REQ_UNKNOW`. -/
def typeOfCode : Nat → RequestType
  | 1 => .reqRead
  | 2 => .reqWrite
  | 3 => .reqOpen
  | 4 => .reqClose
  | 5 => .reqGetsize
  | 6 => .reqFsync
  | _ => .reqUnknow

/-- Assignment of a `Header`; the three padding bytes after `stop` keep their old value. -/
def storeHeader (bytes : Bytes) (header : Header) : Bytes :=
  let bytes := store bytes 0 1 header.stop.toNat
  let bytes := store bytes 4 4 (typeCode header.type)
  let bytes := store bytes 8 8 header.id.toNat
  let bytes := store bytes 16 8 header.volume.toNat
  store bytes 24 8 header.acb.toNat

def viewHeader (bytes : Bytes) : Header where
  stop := load bytes 0 1 != 0
  type := typeOfCode (load bytes 4 4)
  id := UInt64.ofNat (load bytes 8 8)
  volume := UInt64.ofNat (load bytes 16 8)
  acb := UInt64.ofNat (load bytes 24 8)

/-- `WriteRequest::init` and `ReadRequest::init`. -/
def storeRange (bytes : Bytes) (offset : Int64) (sizeInBytes : UInt64) : Bytes :=
  store (store bytes 32 8 offset.toUInt64.toNat) 40 8 sizeInBytes.toNat

def viewOffset (bytes : Bytes) : Int64 := (UInt64.ofNat (load bytes 32 8)).toInt64
def viewSize (bytes : Bytes) : UInt64 := UInt64.ofNat (load bytes 40 8)

def charAt (name : Name) (index : Nat) : UInt8 := name.getD index 0

/-- `OpenRequest::init`: both copies take the volume name and neither adds a terminator, so the
argument `replyMqName` is not used. -/
def initOpen (bytes : Bytes) (volumeName _replyMqName : Name) : Bytes :=
  let bytes := Region.copy bytes volumeNameStart (charAt volumeName) volumeName.length
  Region.copy bytes replyMqNameStart (charAt volumeName) volumeName.length

def viewVolumeName (bytes : Bytes) : Option Name :=
  CString.read bytes (requestSize - volumeNameStart) volumeNameStart

def viewReplyMqName (bytes : Bytes) : Option Name :=
  CString.read bytes (requestSize - replyMqNameStart) replyMqNameStart

/-- What `handle_requests` reads from its buffer: the stop flag, the type, and the fields of the
structure the type selects. -/
def viewRequest (bytes : Bytes) : Request :=
  let header := viewHeader bytes
  if header.stop then .stop header
  else match header.type with
    | .reqWrite => .write ⟨header, viewOffset bytes, viewSize bytes, fun index => bytes (48 + index)⟩
    | .reqRead => .read ⟨header, viewOffset bytes, viewSize bytes⟩
    | .reqOpen => .openVolume ⟨header, viewVolumeName bytes, viewReplyMqName bytes⟩
    | .reqClose => .close ⟨header⟩
    | .reqGetsize => .getsize ⟨header⟩
    | .reqFsync => .fsync ⟨header⟩
    | .reqUnknow => .unknown header

/-- `message_queue::receive` into an old buffer. -/
def receive (old : Bytes) (message : Message) : Bytes :=
  Region.copy old 0 message.bytes message.size

/-! The messages the `send_*` functions of the clients build in their request buffer. -/

def openMessage (old : Bytes) (id volume acb : UInt64) (volumeName replyMqName : Name) : Message :=
  ⟨initOpen (storeHeader old ⟨false, .reqOpen, id, volume, acb⟩) volumeName replyMqName,
    openrequestSize⟩

def readMessage (old : Bytes) (id volume acb : UInt64) (offset : Int64) (sizeInBytes : UInt64) :
    Message :=
  ⟨storeRange (storeHeader old ⟨false, .reqRead, id, volume, acb⟩) offset sizeInBytes,
    readrequestSize⟩

def writeMessage (old : Bytes) (id volume acb : UInt64) (offset : Int64) (sizeInBytes : UInt64)
    (data : Bytes) : Message :=
  ⟨Region.copy (storeRange (storeHeader old ⟨false, .reqWrite, id, volume, acb⟩) offset sizeInBytes)
    48 data sizeInBytes.toNat, writerequestSize⟩

/-- CLOSE, GETSIZE and FSYNC transmit a header only. -/
def headerMessage (old : Bytes) (type : RequestType) (id volume acb : UInt64) : Message :=
  ⟨storeHeader old ⟨false, type, id, volume, acb⟩, headerSize⟩

end Wire

end Cvbd
