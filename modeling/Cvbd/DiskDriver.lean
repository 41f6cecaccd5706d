import Cvbd.DiskProgress

/-! Two machines on the one request queue, each with a volume of two blocks. -/

namespace Cvbd

/-- The kernel transfers all that it is asked to. -/
def Kernel.fills (kernel : Kernel) : Request → Bool
  | .read req =>
      match kernel.pread with
      | .ok count => count == req.sizeInBytes.toNat
      | .error _ => false
  | .write req =>
      match kernel.pwrite with
      | .ok count => count == req.sizeInBytes.toNat
      | .error _ => false
  | _ => true

theorem Kernel.fills_full {kernel : Kernel} {request : Request}
    (passes : kernel.fills request = true) (content : File) : kernel.Full content request := by
  cases request with
  | read req =>
      intro _
      cases answer : kernel.pread <;> simp_all [Kernel.fills]
  | write req =>
      intro _
      cases answer : kernel.pwrite <;> simp_all [Kernel.fills]
  | stop header => trivial
  | openVolume req => trivial
  | close req => trivial
  | getsize req => trivial
  | fsync req => trivial
  | unknown header => trivial

namespace DisksState

section

variable {Index Client : Type} [DecidableEq Client]

/-- What a schedule has to pass. -/
def allowed (endpoints : Client → Endpoint Index) (state : DisksState Index Client) :
    DisksLabel Index Client → Bool
  | .enter client call _ =>
      let size := (state.exchange.service (endpoints client) client).file.content.size
      !isRequestAligned call.sectorNum call.nbSectors ||
        decide (0 ≤ call.sectorNum.toInt ∧ 0 ≤ call.nbSectors.toInt ∧
          (call.sectorNum.toInt + call.nbSectors.toInt) * 512 ≤ size ∧ size < 2 ^ 63)
  | .client _ => true
  | .server (.handle index kernel) =>
      match state.exchange.thread index with
      | .hand request => kernel.permits state.exchange.world request.body &&
          kernel.fills request.body
      | _ => true
  | .server _ => true

theorem allowed_sound {endpoints : Client → Endpoint Index} {state : DisksState Index Client}
    {label : DisksLabel Index Client} (passes : state.allowed endpoints label = true) :
    state.Permitted endpoints label := by
  cases label with
  | enter client call memory =>
      intro aligned
      simp only [allowed, aligned, Bool.not_true, Bool.false_or, decide_eq_true_eq] at passes
      obtain ⟨sectorNonneg, nbNonneg, inside, representable⟩ := passes
      exact ⟨sectorNonneg, nbNonneg, inside, representable⟩
  | client client => trivial
  | server label =>
      cases label with
      | handle index kernel =>
          refine ⟨?_, ?_⟩
          · intro request hand
            simp only [allowed, hand, Bool.and_eq_true] at passes
            exact Kernel.permits_valid passes.1
          · intro request volState hand live
            simp only [allowed, hand, Bool.and_eq_true] at passes
            exact Kernel.fills_full passes.2 _
      | receive index => exact ⟨trivial, trivial⟩
      | send index => exact ⟨trivial, trivial⟩
      | close index => exact ⟨trivial, trivial⟩

end

/-- The volumes `a` and `b`; their bytes are 1 and 2. -/
def twoEndpoints (client : Bool) : Endpoint Unit :=
  if client then ⟨(), 8192, [98], 4, 1⟩ else ⟨(), 4096, [97], 3, 0⟩

def twoVolumes : World where
  files := fun name =>
    if name = [97] then some ⟨File.filled 8192 1, File.filled 8192 1⟩
    else if name = [98] then some ⟨File.filled 8192 2, File.filled 8192 2⟩
    else none
  fds := fun fd => if fd = 3 then some [97] else if fd = 4 then some [98] else none
  volumes := fun volume =>
    if volume = 4096 then some ⟨[97], 3, 0⟩
    else if volume = 8192 then some ⟨[98], 4, 1⟩
    else none
  mqNames := fun _ => none

def twoDisks : DisksState Unit Bool where
  exchange := {
    world := twoVolumes
    requestMq := fun _ => []
    thread := fun _ => .idle
    replyMq := fun _ => []
    fault := none
    owner := fun _ => none }
  disks := fun client => {
    client := ⟨(twoEndpoints client).name, (twoEndpoints client).volume, 1, fun _ => 0⟩
    memory := fun _ => 0
    call := cvbdRead 0 0 0
    pc := .returned 0 }

theorem twoDisks_started : twoDisks.Started twoEndpoints where
  wired := {
    isOpen := by
      rintro (_ | _) <;>
        exact ⟨by decide, by decide, by decide, by simp [twoEndpoints, twoDisks, twoVolumes]⟩
    nameInjective := by
      rintro (_ | _) (_ | _) <;> simp [twoEndpoints]
    mqInjective := by
      rintro (_ | _) (_ | _) <;> simp [twoEndpoints]
    queued := by simp [twoDisks]
    inHand := by simp [twoDisks]
    sending := by simp [twoDisks]
    notClosing := by simp [twoDisks]
    notStopped := by simp [twoDisks]
    replied := by simp [twoDisks] }
  running := rfl
  volume := fun _ => rfl
  outside := fun _ => ⟨0, rfl⟩
  noRequests := fun _ => rfl
  idle := fun _ => rfl
  noReplies := fun _ => rfl

/-- The first machine is refused a call that is not aligned and then writes its first block, while
the second one reads its own. -/
def sampleCalls : List (DisksLabel Unit Bool) :=
  let kernel := Kernel.transfer (File.filled 8192 1) 0 4096
  [.enter false (cvbdWrite 1 8 100) fun _ => 9, .enter false (cvbdWrite 0 8 100) fun _ => 7,
    .client false, .client false, .enter true (cvbdRead 0 8 100) fun _ => 0, .client true,
    .client true, .client false, .server (.receive ()), .server (.handle () kernel),
    .server (.receive ()), .server (.handle () kernel), .server (.send ()), .client true,
    .client true]

/-- The second machine has read its own byte, and the first one's file holds the new byte. -/
def keptApart (trace : List (Bool × DiskEvent)) (state : DisksState Unit Bool) : Bool :=
  (trace.any fun
    | (true, .returned 0 memory) => memory 100 == 2
    | _ => false) &&
    (state.content twoEndpoints false).byte 0 == 7 && (state.content twoEndpoints true).byte 0 == 2

theorem sample_plain : ∃ trace state,
    (machine twoEndpoints).Run (Permitted twoEndpoints) twoDisks trace state ∧
      keptApart trace state = true ∧ ∀ client, ∃ disk,
        PlainDisk.machine.Run (fun _ _ => True) ⟨twoDisks.content twoEndpoints client, none⟩
          (trace.flatMap (visible client)) disk := by
  obtain ⟨trace, state, run, test⟩ := Machine.Run.of_exec (machine twoEndpoints) twoDisks (allowed twoEndpoints)
    (fun _ _ => allowed_sound) sampleCalls keptApart (by decide +kernel)
  refine ⟨trace, state, run, test, fun client => ?_⟩
  obtain ⟨disk, plays, _⟩ := plain_run twoDisks_started run client
  exact ⟨disk, plays⟩

/-- One machine is in the middle of a READ and the WRITE of the other one is still queued. -/
def underway (state : DisksState Unit Bool) : Bool :=
  match (state.disks true).pc with
  | .receiving .. => (state.exchange.requestMq ()).length == 2
  | _ => false

theorem sample_settles : ∃ trace state,
    (machine twoEndpoints).Run (Permitted twoEndpoints) twoDisks trace state ∧
      underway state = true ∧
      (machine twoEndpoints).Settles
        (fun state label => state.Permitted twoEndpoints label ∧ Carries label)
        (fun state => state.Finished twoEndpoints) state := by
  obtain ⟨trace, state, run, test⟩ := Machine.Run.of_exec (machine twoEndpoints) twoDisks (allowed twoEndpoints)
    (fun _ _ => allowed_sound) (sampleCalls.take 7) (fun _ => underway) (by decide +kernel)
  exact ⟨trace, state, run, test, settles_run twoDisks_started run⟩

end DisksState

end Cvbd
