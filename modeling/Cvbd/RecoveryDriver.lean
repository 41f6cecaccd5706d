import Cvbd.RecoveryTotal

/-! A WRITE, an FSYNC, a power failure, and a READ by a client of the next server. -/

namespace Cvbd

namespace Host

open IOHandler (sampleVolume sample_sound sampleStore sampleReopen)

def sample : Host := ⟨sampleVolume, fun _ _ => true⟩

def sampleSync : HostLabel :=
  .turn (Kernel.transfer File.empty 0 0) (.fsync ⟨⟨false, .reqFsync, 2, 4096, 64⟩⟩)

def sampleNames : Name → Option Nat := fun name => if name = [118] then some 0 else none

def sampleReread : HostLabel :=
  .turn { Kernel.transfer File.empty 0 0 with pread := .ok 8192 }
    (.read ⟨⟨false, .reqRead, 2, 8192, 64⟩, 0, 8192⟩)

/-- The disk may hold just what has been synced. -/
theorem mayLeave_durable (host : Host) :
    host.MayLeave fun name => (host.world.files name).map VolumeFile.durable := by
  intro name file position found inside _
  exact ⟨file.durable, by simp [found], inside, rfl⟩

/-- After a power failure the volume can be opened and read again. -/
theorem reread (host : Host) : ∃ trace last data, machine.Run Permitted host trace last ∧
    trace = [.powerFailed, .effect (.resized [118])] ++ [.read [118] 0 8192 data] := by
  have reopens (files : Name → Option VolumeFile) (touched : Name → Nat → Bool) :
      Permitted ⟨World.started files sampleNames, touched⟩
        (.turn sampleReopen.1 sampleReopen.2) := by
    refine ⟨⟨?_, ?_, ?_, ?_, ?_⟩, by rintro _ ⟨⟩⟩
    · rintro fd ⟨⟩
      rfl
    · rintro fd ⟨⟩
    · rintro _ _
      exact ⟨(by decide : (8192 : UInt64) ≠ 0), rfl⟩
    · rintro _ _ _ ⟨⟩
    · rintro _ _ ⟨⟩
  have reads (host : Host) (large : ∀ volState, host.world.volumes 8192 = some volState →
      8192 ≤ (host.world.content volState.fd).size) : host.Permitted sampleReread := by
    refine ⟨⟨?_, ?_, ?_, ?_, ?_⟩, ?_⟩
    · rintro fd ⟨⟩
    · rintro fd ⟨⟩
    · rintro _ ⟨⟩
    · rintro _ volState count ⟨⟩ live ⟨⟩
      exact ⟨by decide, Nat.le_min.mpr ⟨Nat.le_refl 8192, large volState live⟩⟩
    · rintro _ _ ⟨⟩
    · rintro req ⟨⟩
      decide
  have failed := ((@Machine.Run.start _ _ _ machine Permitted host).next
    (show Permitted _ (.powerFailure _) from host.mayLeave_durable) rfl).next
    (show Permitted _ (.names sampleNames) from trivial) rfl
  have read := (failed.next (reopens _ _) rfl).next (reads _ (by
    intro volState live
    obtain rfl := Option.some.inj live
    show 8192 ≤ 2 ^ 34
    decide)) rfl
  exact ⟨_, _, _, read, rfl⟩

theorem sample_synced : ∃ host, machine.Run Permitted sample
    [.effect (.stored [118] 0 512 fun _ => 7), .synced [118]] host := by
  have stores : sample.Permitted (.turn (sampleStore 0).1 (sampleStore 0).2) := by
    refine ⟨⟨by rintro _ ⟨⟩, by rintro _ ⟨⟩, by rintro _ ⟨⟩, by rintro _ _ _ ⟨⟩, ?_⟩, by rintro _ ⟨⟩⟩
    rintro _ _ ⟨⟩ ⟨⟩
    exact ⟨by decide, Nat.le_refl 512⟩
  have syncs (host : Host) : host.Permitted sampleSync :=
    ⟨⟨by rintro _ ⟨⟩, by rintro _ ⟨⟩, by rintro _ ⟨⟩, by rintro _ _ _ ⟨⟩, by rintro _ _ ⟨⟩⟩,
      by rintro _ ⟨⟩⟩
  exact ⟨_, ((@Machine.Run.start _ _ _ machine Permitted sample).next stores rfl).next
    (syncs _) rfl⟩

theorem sample_promised : ∃ trace host before data later,
    machine.Run Permitted sample trace host ∧
      trace = before ++ .read [118] 0 8192 data :: later ∧ .powerFailed ∈ before ∧ data 5 = 7 := by
  obtain ⟨host, synced⟩ := sample_synced
  obtain ⟨trace, last, data, again, rfl⟩ := reread host
  have run := synced.trans again
  let before : List HostEvent := [.effect (.stored [118] 0 512 fun _ => 7), .synced [118],
    .powerFailed, .effect (.resized [118])]
  refine ⟨_, last, before, data, [], run, rfl, by simp [before], ?_⟩
  exact (@promised_run [118] 5 last .nothing sample sample_sound trivial _ run).2 before 0 8192 data
    [] rfl (by decide) (by decide) 7 rfl

end Host

end Cvbd
