import Cvbd.AsyncPrivate
import Cvbd.Posix
import Cvbd.Transfer

/-!
What serving the oldest request of an asynchronous client can do to its service,
said once for each kind of call.
-/

namespace Cvbd

variable {Client : Type}

/-- The `err` field of the reply to an FSYNC. -/
def Kernel.fsyncErr (kernel : Kernel) : Int32 :=
  match kernel.fsync with
  | .ok _ => 0
  | .error errno => errno.negative

/-- The service after the request ahead of `rest` was answered with `reply`. -/
def Service.answered (service : Service Client) (rest : List (Envelope Client Request))
    (request : Envelope Client Request) (reply : Reply) : Service Client :=
  { service with
    requests := rest
    replies := service.replies ++ [⟨request.sender, request.call, reply⟩] }

/-- The service after the request ahead of `rest` left `content` in the volume's file. -/
def Service.stored (service : Service Client) (rest : List (Envelope Client Request))
    (content : File) : Service Client :=
  { service with
    requests := rest
    file := { service.file with content } }

/-- The ways in which the request of a call is served. -/
inductive Serves (kernel : Kernel) (service : Service Client) (request : Envelope Client Request)
    (rest : List (Envelope Client Request)) : CoCall → Service Client → Prop
  | read {header sectorNum nbSectors qiov}
      (body : request.body = .read ⟨header, byteOffset sectorNum, byteSize nbSectors⟩)
      (type : header.stop = false ∧ header.type = .reqRead)
      (passed : (transferResult kernel.pread).toUInt64 = byteSize nbSectors) :
      Serves kernel service request rest (.readv sectorNum nbSectors qiov)
        (service.answered rest request (.read ⟨header, byteSize nbSectors,
          kernel.readData service.file.content (byteOffset sectorNum).toInt.toNat⟩))
  | write {header sectorNum nbSectors qiov sent}
      (body : request.body = .write ⟨header, byteOffset sectorNum, byteSize nbSectors, sent⟩)
      (passed : (transferResult kernel.pwrite).toUInt64 = byteSize nbSectors) :
      Serves kernel service request rest (.writev sectorNum nbSectors qiov)
        (service.stored rest
          (kernel.written service.file.content (byteOffset sectorNum).toInt.toNat sent))
  | flush {header durable} (body : request.body = .fsync ⟨header⟩)
      (type : header.stop = false ∧ header.type = .reqFsync)
      (made : kernel.fsync = .ok () → durable = service.file.content) :
      Serves kernel service request rest .flush
        ({ service.answered rest request (.fsync ⟨header, kernel.fsyncErr⟩) with
            file.durable := durable })
  | abort {what file} (transfers : what ≠ .flush) :
      Serves kernel service request rest what { service with file, alive := false }

/-- A served request leaves the queue, unless the server aborts. -/
theorem Serves.requests {kernel : Kernel} {service served : Service Client}
    {request : Envelope Client Request} {rest : List (Envelope Client Request)} {what : CoCall}
    (serves : Serves kernel service request rest what served) :
    served.requests = rest ∨ served.requests = service.requests ∧ served.alive = false := by
  cases serves with
  | read body type passed => exact Or.inl rfl
  | write body passed => exact Or.inl rfl
  | flush body type made => exact Or.inl rfl
  | abort transfers => exact Or.inr ⟨rfl, rfl⟩

theorem CoCall.Asks.serves {data : Bytes} {volume acb : UInt64} {what : CoCall} {kernel : Kernel}
    {request : Envelope Client Request} {rest : List (Envelope Client Request)}
    {service served : Service Client} (asks : what.Asks data volume acb request.body)
    (queue : service.requests = request :: rest) (step : service.serve kernel = some served) :
    Serves kernel service request rest what served := by
  unfold Service.serve at step
  split at step
  · rename_i first others alive equal
    obtain ⟨rfl, rfl⟩ := List.cons.inj (queue.symm.trans equal)
    cases what with
    | readv sectorNum nbSectors qiov =>
        obtain ⟨id, body⟩ := asks
        by_cases passed : (transferResult kernel.pread).toUInt64 = byteSize nbSectors
        · simp only [body, VolumeFile.serve, passed, if_true, Option.some.injEq] at step
          subst step
          exact Serves.read body ⟨rfl, rfl⟩ passed
        · simp only [body, VolumeFile.serve, passed, if_false, Option.some.injEq] at step
          subst step
          exact Serves.abort (by simp)
    | writev sectorNum nbSectors qiov =>
        obtain ⟨id, sent, body, _⟩ := asks
        by_cases passed : (transferResult kernel.pwrite).toUInt64 = byteSize nbSectors
        · simp only [body, VolumeFile.serve, passed, if_true, Option.some.injEq] at step
          subst step
          exact Serves.write body passed
        · simp only [body, VolumeFile.serve, passed, if_false, Option.some.injEq] at step
          subst step
          exact Serves.abort (by simp)
    | flush =>
        obtain ⟨id, body⟩ := asks
        have answer (durable : File)
            (made : kernel.fsync = .ok () → durable = service.file.content) :
            Serves kernel service request rest .flush _ :=
          Serves.flush body ⟨rfl, rfl⟩ made
        simp only [Service.answered, Kernel.fsyncErr] at answer
        cases made : kernel.fsync with
        | ok =>
            simp only [body, VolumeFile.serve, made, Option.some.injEq] at step
            subst step
            simp only [made] at answer
            exact answer _ fun _ => rfl
        | error errno =>
            simp only [body, VolumeFile.serve, made, Option.some.injEq] at step
            subst step
            simp only [made] at answer
            exact answer _ (by simp)
  · simp at step

/-- A read that passes the server's assert returns the bytes of the file. -/
theorem Kernel.readData_full {kernel : Kernel} {header : Header} {offset : Int64} {size : UInt64}
    {content : File} (small : size.toNat ≤ maxDataSize)
    (honest : kernel.Honest content (.read ⟨header, offset, size⟩))
    (passed : (transferResult kernel.pread).toUInt64 = size) {index : Nat}
    (below : index < size.toNat) :
    kernel.readData content offset.toInt.toNat index = content.byte (offset.toInt.toNat + index) := by
  have bounded (count : Nat) (transferred : kernel.pread = .ok count) : count ≤ size.toNat :=
    (honest.pread _ count rfl transferred).2.trans (Nat.min_le_left _ _)
  simp only [Kernel.readData, transferResult_full small bounded passed]
  exact Region.copy_prefix below

end Cvbd
