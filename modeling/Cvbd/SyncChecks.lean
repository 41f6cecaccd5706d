import Cvbd.Client
import Cvbd.Service
import Cvbd.SyncLoop
import Cvbd.Transfer

/-!
What holds at each position of the chunk loop, in terms of the client's private
service: a prefix of the call has taken effect on the file with the backlog
applied, or has been copied out of it. Serving a request keeps it.
-/

namespace Cvbd

/-- A WRITE that stays inside a file of `size` bytes. -/
def Request.IsWriteInside (size : Nat) (request : Request) : Prop :=
  ∃ req, request = .write req ∧ request.InsideSize size

namespace SyncCall

/-- The file once the first `count` bytes of the call have taken effect on `target`. -/
def fileAfter (call : SyncCall) (target : File) (memory : Bytes) (count : Nat) : File :=
  if call.write then target.pwrite call.offset (fun index => memory (call.buffer + index)) count
  else target

/-- The client's memory once the first `count` bytes of the call have been transferred. -/
def memoryAfter (call : SyncCall) (target : File) (memory : Bytes) (count : Nat) : Bytes :=
  if call.write then memory
  else Region.copy memory call.buffer (fun index => target.byte (call.offset + index)) count

/-- The READ for the chunk of `size` bytes behind the first `count` bytes of the call. -/
def IsChunkRead (call : SyncCall) (count : Nat) (size : UInt64) (request : Request) : Prop :=
  ∃ header chunk, request = .read ⟨header, chunk, size⟩ ∧ header.type = .reqRead ∧
    chunk.toInt = (call.offset + count : Nat)

/-- The reply to that READ on the file `target`. -/
def IsChunkReply (call : SyncCall) (target : File) (count : Nat) (size : UInt64) (reply : Reply) :
    Prop :=
  ∃ header data, reply = .read ⟨header, size, data⟩ ∧ header.type = .reqRead ∧
    ∀ index, index < size.toNat → data index = target.byte (call.offset + count + index)

/-- A chunk of `size` bytes has been cut off behind the first `count` bytes of the call. -/
structure Chunk (call : SyncCall) (copy : NonAlignedCopy) (count : Nat) (size : UInt64) : Prop where
  progress : call.Progress copy
  advanced : done copy = count + size.toNat
  positive : 0 < size.toNat
  fits : size.toNat ≤ maxDataSize

/-- What holds at each position of the client thread, for the call on the file `target` with
`initial` the memory at the start. -/
def PcInv (call : SyncCall) (target : File) (initial memory : Bytes) (service : Service Unit)
    (fileSize : Nat) : SyncPc → Prop
  | .looping copy =>
      call.Progress copy ∧
      (∀ request ∈ service.requests, request.body.IsWriteInside fileSize) ∧
      service.replies = [] ∧
      memory = call.memoryAfter target initial (done copy) ∧
      service.file.content.applyAll service.requests = call.fileAfter target initial (done copy)
  | .sending request copy none =>
      call.write = true ∧ (∃ count size, call.Chunk copy count size) ∧
      (∀ request ∈ service.requests, request.body.IsWriteInside fileSize) ∧
      request.IsWriteInside fileSize ∧
      service.replies = [] ∧
      memory = initial ∧
      request.apply (service.file.content.applyAll service.requests) =
        call.fileAfter target initial (done copy)
  | .sending request copy (some (message, size)) =>
      call.write = false ∧ ∃ count, call.Chunk copy count size ∧
      (∀ request ∈ service.requests, request.body.IsWriteInside fileSize) ∧
      call.IsChunkRead count size request ∧
      service.replies = [] ∧
      message = call.buffer + count ∧
      memory = call.memoryAfter target initial count ∧
      service.file.content.applyAll service.requests = target
  | .receiving copy message size =>
      call.write = false ∧ ∃ count, call.Chunk copy count size ∧
      message = call.buffer + count ∧
      memory = call.memoryAfter target initial count ∧
      service.file.content.applyAll service.requests = target ∧
      ((∃ writes last, service.requests = writes ++ [last] ∧
          (∀ request ∈ writes, request.body.IsWriteInside fileSize) ∧
          call.IsChunkRead count size last.body ∧ service.replies = []) ∨
        (service.requests = [] ∧ ∃ reply, service.replies = [reply] ∧
          call.IsChunkReply target count size reply.body))
  | .returned ret =>
      ret = 0 ∧
      (∀ request ∈ service.requests, request.body.IsWriteInside fileSize) ∧
      service.replies = [] ∧
      memory = call.memoryAfter target initial call.length ∧
      service.file.content.applyAll service.requests = call.fileAfter target initial call.length
  | .aborted => False

theorem memoryAfter_zero (call : SyncCall) (target : File) (memory : Bytes) :
    call.memoryAfter target memory 0 = memory := by
  simp [memoryAfter]

theorem fileAfter_zero (call : SyncCall) (target : File) (memory : Bytes) :
    call.fileAfter target memory 0 = target := by
  simp [fileAfter]

/-- A write chunk behind the first `count` bytes extends the written prefix. -/
theorem fileAfter_chunk {call : SyncCall} (write : call.write = true) (target : File)
    (memory : Bytes) (count size : Nat) :
    (call.fileAfter target memory count).pwrite (call.offset + count)
        (fun index => memory (call.buffer + count + index)) size =
      call.fileAfter target memory (count + size) := by
  simp only [fileAfter, write, if_true]
  rw [← File.pwrite_adjacent]
  simp only [Nat.add_assoc]

/-- A read chunk behind the first `count` bytes extends the filled prefix. -/
theorem memoryAfter_chunk {call : SyncCall} (read : call.write = false) (target : File)
    (memory data : Bytes) (count size : Nat)
    (same : ∀ index, index < size → data index = target.byte (call.offset + count + index)) :
    Region.copy (call.memoryAfter target memory count) (call.buffer + count) data size =
      call.memoryAfter target memory (count + size) := by
  simp only [memoryAfter, read, Bool.false_eq_true, if_false]
  rw [← Region.copy_copy_adjacent]
  refine Region.copy_congr fun index below => ?_
  rw [same index below, Nat.add_assoc]

/-! The server's effect on the client's service. -/

theorem serve_write {service after : Service Unit} {kernel : Kernel}
    {request : Envelope Unit Request} {rest : List (Envelope Unit Request)}
    (queue : service.requests = request :: rest)
    (write : request.body.IsWriteInside service.file.content.size)
    (full : kernel.Full service.file.content request.body)
    (served : service.serve kernel = some after) :
    after.requests = rest ∧ after.replies = service.replies ∧ after.alive = true ∧
      after.file.content = request.body.apply service.file.content := by
  obtain ⟨req, body, inside⟩ := write
  simp only [Service.serve, queue] at served
  split at served
  · rename_i first others alive equal
    obtain ⟨rfl, rfl⟩ := List.cons.inj equal
    rw [body] at full inside served
    rw [serve_write_full inside full] at served
    simp only [Option.some.injEq] at served
    subst served
    exact ⟨rfl, rfl, alive, by rw [body]⟩
  · simp at served

theorem serve_read {call : SyncCall} {service after : Service Unit} {kernel : Kernel}
    {request : Envelope Unit Request} {count : Nat} {size : UInt64}
    (queue : service.requests = [request]) (quiet : service.replies = [])
    (chunk : call.IsChunkRead count size request.body)
    (inside : request.body.InsideSize service.file.content.size)
    (full : kernel.Full service.file.content request.body)
    (served : service.serve kernel = some after) :
    after.requests = [] ∧ after.alive = true ∧ after.file = service.file ∧
      ∃ reply, after.replies = [reply] ∧
        call.IsChunkReply service.file.content count size reply.body := by
  obtain ⟨header, position, body, type, position_eq⟩ := chunk
  simp only [Service.serve, queue] at served
  split at served
  · rename_i first others alive equal
    obtain ⟨rfl, rfl⟩ := List.cons.inj equal
    rw [body] at full inside served
    obtain ⟨data, reply_eq, same⟩ := serve_read_full inside full
    rw [reply_eq] at served
    simp only [Option.some.injEq] at served
    subst served
    refine ⟨rfl, alive, rfl, ⟨request.sender, request.call, .read ⟨header, size, data⟩⟩,
      by simp [quiet], header, data, rfl, type, ?_⟩
    intro index below
    rw [same index below, position_eq]
    rfl
  · simp at served

theorem PcInv.serve {call : SyncCall} {target : File} {initial memory : Bytes}
    {service after : Service Unit} {pc : SyncPc} {kernel : Kernel}
    {request : Envelope Unit Request} {rest : List (Envelope Unit Request)}
    (holds : call.PcInv target initial memory service service.file.content.size pc)
    (fits : call.offset + call.length ≤ target.size)
    (queue : service.requests = request :: rest)
    (full : kernel.Full service.file.content request.body)
    (served : service.serve kernel = some after) :
    call.PcInv target initial memory after service.file.content.size pc ∧
      after.alive = true ∧ after.file.content.size = service.file.content.size := by
  have written (writes : ∀ queued ∈ service.requests,
      queued.body.IsWriteInside service.file.content.size) :
      after.requests = rest ∧ after.replies = service.replies ∧ after.alive = true ∧
        after.file.content.applyAll rest = service.file.content.applyAll service.requests ∧
        after.file.content.size = service.file.content.size ∧
        ∀ queued ∈ rest, queued.body.IsWriteInside service.file.content.size := by
    have write := writes request (by simp [queue])
    obtain ⟨requests, replies, alive, content⟩ := serve_write queue write full served
    obtain ⟨req, _, inside⟩ := write
    refine ⟨requests, replies, alive, ?_, ?_, fun queued member => writes queued (by simp [queue, member])⟩
    · rw [content, queue, File.applyAll_cons]
    · rw [content, Request.apply_size inside]
  cases pc with
  | looping copy =>
      obtain ⟨progress, writes, quiet, memory_eq, effect⟩ := holds
      obtain ⟨requests, replies, alive, same, size, rest_writes⟩ := written writes
      exact ⟨⟨progress, by rwa [requests], by rw [replies, quiet], memory_eq,
        by rw [requests, same, effect]⟩, alive, size⟩
  | sending pending copy reply =>
      cases reply with
      | none =>
          obtain ⟨write, chunk, writes, own, quiet, memory_eq, effect⟩ := holds
          obtain ⟨requests, replies, alive, same, size, rest_writes⟩ := written writes
          exact ⟨⟨write, chunk, by rwa [requests], own, by rw [replies, quiet], memory_eq,
            by rw [requests, same, effect]⟩, alive, size⟩
      | some destination =>
          obtain ⟨read, count, chunk, writes, own, quiet, message_eq, memory_eq, effect⟩ := holds
          obtain ⟨requests, replies, alive, same, size, rest_writes⟩ := written writes
          exact ⟨⟨read, count, chunk, by rwa [requests], own, by rw [replies, quiet], message_eq,
            memory_eq, by rw [requests, same, effect]⟩, alive, size⟩
  | receiving copy message size =>
      obtain ⟨read, count, chunk, message_eq, memory_eq, effect, inFlight⟩ := holds
      rcases inFlight with ⟨writes, last, split, all, own, quiet⟩ | ⟨none, _⟩
      · cases writes with
        | nil =>
            simp only [List.nil_append] at split
            obtain ⟨rfl, rfl⟩ := List.cons.inj (queue.symm.trans split)
            obtain ⟨header, position, body, type, position_eq⟩ := own
            have content : service.file.content = target := by
              simpa [split, Request.apply, body] using effect
            have inside : request.body.InsideSize service.file.content.size := by
              have bound := chunk.progress.done_le
              have advanced := chunk.advanced
              simp only [body, Request.InsideSize, content, position_eq]
              exact ⟨by omega, by simp only [Int.toNat_natCast]; omega⟩
            obtain ⟨requests, alive, file, reply, replies, answer⟩ :=
              serve_read split quiet ⟨header, position, body, type, position_eq⟩ inside full served
            refine ⟨⟨read, count, chunk, message_eq, memory_eq, ?_, Or.inr ⟨requests, reply, replies, ?_⟩⟩,
              alive, by rw [file]⟩
            · rw [requests, file, File.applyAll_nil, content]
            · rw [← content]
              exact answer
        | cons first others =>
            have head := List.cons.inj (queue.symm.trans split)
            obtain ⟨rfl, rest_eq⟩ := head
            obtain ⟨requests, replies, alive, content⟩ :=
              serve_write queue (all request (by simp)) full served
            obtain ⟨req, _, inside⟩ := all request (by simp)
            refine ⟨⟨read, count, chunk, message_eq, memory_eq, ?_, Or.inl ⟨others, last, ?_, ?_, own, ?_⟩⟩,
              alive, ?_⟩
            · rw [requests, content, ← File.applyAll_cons, ← queue, effect]
            · exact requests.trans rest_eq
            · exact fun queued member => all queued (List.mem_cons_of_mem _ member)
            · rw [replies, quiet]
            · rw [content, Request.apply_size inside]
      · simp [none] at queue
  | returned ret =>
      obtain ⟨zero, writes, quiet, memory_eq, effect⟩ := holds
      obtain ⟨requests, replies, alive, same, size, rest_writes⟩ := written writes
      exact ⟨⟨zero, by rwa [requests], by rw [replies, quiet], memory_eq,
        by rw [requests, same, effect]⟩, alive, size⟩
  | aborted => exact holds.elim

end SyncCall

end Cvbd
