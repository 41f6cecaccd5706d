import Cvbd.ServiceCore

/-!
Contents of a volume file: joining adjacent writes, the effect of a list of
requests, and what the server does with a transfer inside the file.
-/

namespace Cvbd

namespace File

@[simp] theorem pwrite_zero (file : File) (offset : Nat) (data : Nat → UInt8) :
    file.pwrite offset data 0 = file := by
  apply File.ext
  · simp [pwrite]
  · simp [pwrite]

theorem pwrite_size_inside {file : File} {offset count : Nat} (data : Nat → UInt8)
    (inside : offset + count ≤ file.size) : (file.pwrite offset data count).size = file.size := by
  simp only [pwrite]
  split <;> omega

theorem pwrite_congr (file : File) (offset : Nat) {data other : Nat → UInt8} {count : Nat}
    (same : ∀ index, index < count → data index = other index) :
    file.pwrite offset data count = file.pwrite offset other count := by
  apply File.ext
  · rfl
  · exact Region.copy_congr same

/-- Writing a buffer in two adjacent pieces is writing it at once. -/
theorem pwrite_adjacent (file : File) (offset : Nat) (data : Nat → UInt8) (first second : Nat) :
    (file.pwrite offset data first).pwrite (offset + first) (fun index => data (first + index))
      second = file.pwrite offset data (first + second) := by
  apply File.ext
  · simp only [pwrite]
    split <;> split <;> split <;> omega
  · exact Region.copy_copy_adjacent file.byte data offset first second

end File

/-- The content after a request has been carried out in full. -/
def Request.apply (content : File) : Request → File
  | .write req => content.pwrite req.offset.toInt.toNat req.data req.sizeInBytes.toNat
  | _ => content

/-- The content after a list of requests, oldest first. -/
def File.applyAll {Client : Type} (content : File) (requests : List (Envelope Client Request)) :
    File :=
  requests.foldl (fun content request => request.body.apply content) content

theorem File.applyAll_append {Client : Type} (content : File)
    (first second : List (Envelope Client Request)) :
    content.applyAll (first ++ second) = (content.applyAll first).applyAll second := by
  simp [applyAll]

@[simp] theorem File.applyAll_nil {Client : Type} (content : File) :
    content.applyAll ([] : List (Envelope Client Request)) = content := rfl

@[simp] theorem File.applyAll_cons {Client : Type} (content : File)
    (request : Envelope Client Request) (rest : List (Envelope Client Request)) :
    content.applyAll (request :: rest) = (request.body.apply content).applyAll rest := rfl

/-- The transfers of a request stay inside a file of `size` bytes. -/
def Request.InsideSize (size : Nat) : Request → Prop
  | .write req => 0 ≤ req.offset.toInt ∧ req.offset.toInt.toNat + req.sizeInBytes.toNat ≤ size
  | .read req => 0 ≤ req.offset.toInt ∧ req.offset.toInt.toNat + req.sizeInBytes.toNat ≤ size
  | _ => True

theorem Request.apply_size {content : File} {request : Request}
    (inside : request.InsideSize content.size) : (request.apply content).size = content.size := by
  cases request with
  | write req => exact File.pwrite_size_inside _ inside.2
  | _ => rfl

theorem transferResult_ok (size : UInt64) : (transferResult (.ok size.toNat)).toUInt64 = size := by
  simp [transferResult]

theorem serve_write_full {file : VolumeFile} {kernel : Kernel} {req : WriteRequest}
    (inside : (Request.write req).InsideSize file.content.size)
    (full : kernel.Full file.content (.write req)) :
    file.serve kernel (.write req) =
      .done { file with content := (Request.write req).apply file.content } := by
  have answer : kernel.pwrite = .ok req.sizeInBytes.toNat := full inside
  simp [VolumeFile.serve, answer, transferResult_ok, Kernel.written, Request.apply]

theorem serve_read_full {file : VolumeFile} {kernel : Kernel} {req : ReadRequest}
    (inside : (Request.read req).InsideSize file.content.size)
    (full : kernel.Full file.content (.read req)) :
    ∃ data, file.serve kernel (.read req) = .reply file (.read ⟨req.header, req.sizeInBytes, data⟩) ∧
      ∀ index, index < req.sizeInBytes.toNat →
        data index = file.content.byte (req.offset.toInt.toNat + index) := by
  have answer : kernel.pread = .ok req.sizeInBytes.toNat := full inside
  refine ⟨kernel.readData file.content req.offset.toInt.toNat, ?_, ?_⟩
  · simp [VolumeFile.serve, answer, transferResult_ok]
  · intro index below
    simp [Kernel.readData, answer, Region.copy_prefix below]

/-! A kernel that transfers in full what lies inside the file, and fails otherwise. -/

def Kernel.transfer (content : File) (offset : Int64) (size : UInt64) : Kernel where
  open1 := .error eio
  open2 := .error eio
  ftruncate := .error eio
  newVolume := 1
  fstat := .ok ()
  fsync := .ok ()
  durableAfterFailure := File.empty
  pread := if Inside content offset size then .ok size.toNat else .error eio
  pwrite := if Inside content offset size then .ok size.toNat else .error eio
  stale := fun _ => 0

def Kernel.ofRequest (content : File) : Request → Kernel
  | .read req => .transfer content req.offset req.sizeInBytes
  | .write req => .transfer content req.offset req.sizeInBytes
  | _ => .transfer content 0 0

theorem Kernel.ofRequest_full (content : File) (request : Request) :
    (Kernel.ofRequest content request).Full content request := by
  cases request with
  | read req => exact fun inside => by simp [Kernel.ofRequest, Kernel.transfer, inside]
  | write req => exact fun inside => by simp [Kernel.ofRequest, Kernel.transfer, inside]
  | _ => trivial

theorem Kernel.ofRequest_valid {world : World} {volume : VolumeState} {request : Request}
    (io : request.isIo = true) (live : world.volumes request.header.volume = some volume) :
    (Kernel.ofRequest (world.content volume.fd) request).Valid world request where
  open1 := by cases request <;> simp [Kernel.ofRequest, Kernel.transfer]
  open2 := by cases request <;> simp [Kernel.ofRequest, Kernel.transfer]
  newVolume := by
    rintro req rfl
    simp [Request.isIo] at io
  pread := by
    rintro req found count rfl used answer
    obtain rfl : volume = found := Option.some.inj (live.symm.trans used)
    simp only [Kernel.ofRequest, Kernel.transfer] at answer
    split at answer
    · rename_i inside
      obtain rfl := Except.ok.inj answer
      obtain ⟨nonneg, fits⟩ := inside
      exact ⟨nonneg, by simp only [File.available]; omega⟩
    · simp at answer
  pwrite := by
    rintro req count rfl answer
    simp only [Kernel.ofRequest, Kernel.transfer] at answer
    split at answer
    · rename_i inside
      obtain rfl := Except.ok.inj answer
      exact ⟨inside.1, Nat.le_refl _⟩
    · simp at answer

/-- Whether a kernel that opens nothing may answer a request on an open volume so. -/
def Kernel.permits (kernel : Kernel) (world : World) (request : Request) : Bool :=
  !kernel.open1.isOk && !kernel.open2.isOk &&
    match request with
    | .openVolume _ => false
    | .read req =>
        match world.volumes req.header.volume, kernel.pread with
        | some volume, .ok count => decide (0 ≤ req.offset.toInt ∧
            count ≤ (world.content volume.fd).available req.offset.toInt.toNat
              req.sizeInBytes.toNat)
        | _, _ => true
    | .write req =>
        match kernel.pwrite with
        | .ok count => decide (0 ≤ req.offset.toInt ∧ count ≤ req.sizeInBytes.toNat)
        | .error _ => true
    | _ => true

theorem Kernel.permits_valid {kernel : Kernel} {world : World} {request : Request}
    (permits : kernel.permits world request = true) : kernel.Valid world request := by
  simp only [Kernel.permits, Bool.and_eq_true, Bool.not_eq_true'] at permits
  obtain ⟨⟨open1, open2⟩, answer⟩ := permits
  refine ⟨?_, ?_, ?_, ?_, ?_⟩
  · intro fd opened
    simp [opened, Except.isOk, Except.toBool] at open1
  · intro fd opened
    simp [opened, Except.isOk, Except.toBool] at open2
  · rintro req rfl
    simp at answer
  · rintro req volume count rfl live transferred
    simpa [live, transferred] using answer
  · rintro req count rfl transferred
    simpa [transferred] using answer

/-! A connected client alone with its volume, and its requests in the queue. -/

def File.filled (size : Nat) (value : UInt8) : File where
  size := size
  byte := fun index => if index < size then value else 0
  hole := by
    intro index beyond
    simp [Nat.not_lt.mpr beyond]

def Endpoint.sample : Endpoint Unit := ⟨(), 4096, [118], 3, 0⟩

def Exchange.sample (fileSize : Nat) (backlog : List (Envelope Unit Request)) :
    Exchange Unit Unit where
  world := {
    files := Function.update (fun _ => none) [118]
      (some ⟨File.filled fileSize 1, File.filled fileSize 1⟩)
    fds := Function.update (fun _ => none) 3 (some [118])
    volumes := Function.update (fun _ => none) 4096 (some ⟨[118], 3, 0⟩)
    mqNames := Function.update (fun _ => none) [118] (some 0) }
  requestMq := fun _ => backlog
  thread := fun _ => .idle
  replyMq := fun _ => []
  fault := none
  owner := fun _ => some ()

theorem Exchange.sample_service (fileSize : Nat) (backlog : List (Envelope Unit Request)) :
    (sample fileSize backlog).service .sample () =
      ⟨backlog, [], ⟨File.filled fileSize 1, File.filled fileSize 1⟩, true⟩ := by
  simp [Exchange.service, sample, Endpoint.sample, Thread.requestsOf, Thread.repliesOf]

theorem Exchange.sample_wired (fileSize : Nat) (backlog : List (Envelope Unit Request))
    (own : ∀ request ∈ backlog, request.body.header.volume = 4096 ∧ request.body.isIo = true) :
    (sample fileSize backlog).Wired fun _ => .sample where
  isOpen := fun _ => ⟨by decide, by simp [sample, Endpoint.sample],
    by simp [sample, Endpoint.sample], by simp [sample, Endpoint.sample]⟩
  nameInjective := fun _ _ _ => rfl
  mqInjective := fun _ _ _ => rfl
  queued := fun _ request member => ⟨rfl, (own request member).1, (own request member).2⟩
  inHand := by simp [sample]
  sending := by simp [sample]
  notClosing := by simp [sample]
  notStopped := by simp [sample]
  replied := by simp [sample]

end Cvbd
