import Cvbd.SharedCore
import Cvbd.Lib.Region

/-!
The part of POSIX the server uses. A volume file has a current content and the
durable content a power failure would leave; system calls answer as a `Kernel`
value says, and `Kernel.Valid` is what POSIX promises of such answers.
-/

namespace Cvbd

/-- A positive `errno` value. -/
structure Errno where
  code : Int32
  positive : 0 < code.toInt

def enoent : Errno := ⟨2, by decide⟩
def eio : Errno := ⟨5, by decide⟩
def einval : Errno := ⟨22, by decide⟩

/-- `-errno` as an `int`. -/
def Errno.negative (errno : Errno) : Int32 := -errno.code

/-- File bytes past the end of the file read as zero once the file grows over them. -/
@[ext] structure File where
  size : Nat
  byte : Nat → UInt8
  hole : ∀ index, size ≤ index → byte index = 0

namespace File

def empty : File := ⟨0, fun _ => 0, fun _ _ => rfl⟩

/-- `pwrite` of `count` bytes of `data` at `offset`, transferred in full. -/
def pwrite (file : File) (offset : Nat) (data : Nat → UInt8) (count : Nat) : File where
  size := if count = 0 then file.size else max file.size (offset + count)
  byte := Region.copy file.byte offset data count
  hole := by
    intro index beyond
    split at beyond
    · rename_i none
      rw [none, Region.copy_zero]
      exact file.hole index beyond
    · rw [Region.copy_outside (by omega)]
      exact file.hole index (by omega)

/-- How many of `count` bytes at `offset` lie inside the file. -/
def available (file : File) (offset count : Nat) : Nat := min count (file.size - offset)

def truncate (file : File) (length : Nat) : File where
  size := length
  byte := fun index => if index < length then file.byte index else 0
  hole := by
    intro index beyond
    simp [Nat.not_lt.mpr beyond]

end File

structure VolumeFile where
  content : File
  durable : File

/-- What the kernel and the allocator answer while one request is handled. -/
structure Kernel where
  open1 : Except Errno Nat
  open2 : Except Errno Nat
  ftruncate : Except Errno Unit
  newVolume : UInt64
  fstat : Except Errno Unit
  fsync : Except Errno Unit
  durableAfterFailure : File
  pread : Except Errno Nat
  pwrite : Except Errno Nat
  /-- What the data area of the thread's reply buffer held before the request. -/
  stale : Nat → UInt8

/-- The `ssize_t` result of a transfer: the byte count, or -1. -/
def transferResult : Except Errno Nat → Int64
  | .ok count => Int64.ofNat count
  | .error _ => -1

namespace Kernel

/-- The data area of the reply after `pread` of the file at `offset`. -/
def readData (kernel : Kernel) (content : File) (offset : Nat) : Nat → UInt8 :=
  match kernel.pread with
  | .ok count => Region.copy kernel.stale 0 (fun index => content.byte (offset + index)) count
  | .error _ => kernel.stale

/-- The size reported after `fstat`. -/
def statSize (kernel : Kernel) (content : File) : Int64 :=
  match kernel.fstat with
  | .ok _ => Int64.ofNat content.size
  | .error _ => 0

/-- The file content after `pwrite` of `data` at `offset`. -/
def written (kernel : Kernel) (content : File) (offset : Nat) (data : Nat → UInt8) : File :=
  match kernel.pwrite with
  | .ok count => content.pwrite offset data count
  | .error _ => content

end Kernel

/-- A transfer of `size` bytes at `offset` that stays inside the file. -/
def Inside (content : File) (offset : Int64) (size : UInt64) : Prop :=
  0 ≤ offset.toInt ∧ offset.toInt.toNat + size.toNat ≤ content.size

instance (content : File) (offset : Int64) (size : UInt64) : Decidable (Inside content offset size) :=
  inferInstanceAs (Decidable (_ ∧ _))

/-- `pread` and `pwrite` inside the file transfer the full count. -/
def Kernel.Full (kernel : Kernel) (content : File) : Request → Prop
  | .read req => Inside content req.offset req.sizeInBytes →
      kernel.pread = .ok req.sizeInBytes.toNat
  | .write req => Inside content req.offset req.sizeInBytes →
      kernel.pwrite = .ok req.sizeInBytes.toNat
  | _ => True

end Cvbd
