import HuddleCluster.Lib.Checkpoint
import HuddleCluster.Master.Leave
import HuddleCluster.Master.StateFile
import HuddleCluster.Ring.SavedState

set_option autoImplicit false

namespace HuddleCluster.Persistence

open Checkpoint (Saver Capture Alone Kept Orderly Solo)
open Master (Members RegistryUpdate memberStep)

-- Where MasterNode.stop() stands: before its own save, at it, after it, and back
-- with its caller. Applied is the number of updates that its capture shows.
inductive StopPhase where
  | running
  | stopping
  | saving (stamp applied : Nat)
  | saved (applied : Nat)
  | returned (applied : Nat)
deriving DecidableEq, Repr

-- The updates that the answered requests have made before stop() returned are
-- not in the program.
structure MasterSaver where
  saver : Saver Members RegistryUpdate Json
  stop : StopPhase
  acknowledged : List Nat

-- The server answers requests until it is shut down, which stop() does after its
-- save. The monitor loop may have begun a save before.
inductive MasterEvent where
  | update (event : RegistryUpdate)
  | acknowledge (k : Nat)
  | monitorSave (now : ℚ)
  | beginStop
  | stopSave (now : ℚ)
  | write (i : Nat)
  | fail (i : Nat)
  | endStop

def snapshot (now : ℚ) (members : Members) : Json := members.registry.snapshot now

-- The requests that are a join or a leave, the latter when it has removed its node.
def isMembership : RegistryUpdate → Bool
  | .receive (.join ..) | .finishLeave _ => true
  | _ => false

def StopPhase.afterSave (stop : StopPhase) (capture : Capture Json) : StopPhase :=
  match stop with
  | .saving stamp applied => if stamp = capture.stamp then .saved applied else stop
  | _ => stop

def save (m : Master.Settings) (s : MasterSaver) (event : Checkpoint.Event RegistryUpdate ℚ) : Option MasterSaver :=
  (Checkpoint.step (memberStep m) snapshot s.saver event).map fun saver => { s with saver := saver }

def finish (m : Master.Settings) (s : MasterSaver) (i : Nat) (event : Checkpoint.Event RegistryUpdate ℚ) : Option MasterSaver :=
  match s.saver.pending[i]? with
  | none => none
  | some capture => (save m s event).map fun after => { after with stop := s.stop.afterSave capture }

def masterStep (m : Master.Settings) (s : MasterSaver) : MasterEvent → Option MasterSaver
  | .update event => save m s (.update event)
  | .acknowledge k =>
      match s.saver.updates[k]?, s.stop with
      | none, _ => none
      | some _, .returned _ => some s
      | some event, _ => if isMembership event then some { s with acknowledged := s.acknowledged ++ [k] } else none
  | .monitorSave now => save m s (.capture now)
  | .beginStop => if s.stop = .running then some { s with stop := .stopping } else none
  | .stopSave now =>
      if s.stop = .stopping then
        (save m s (.capture now)).map fun after => { after with stop := .saving s.saver.captured s.saver.updates.length }
      else none
  | .write i => finish m s i (.write i)
  | .fail i => finish m s i (.fail i)
  | .endStop =>
      match s.stop with
      | .saved applied => some { s with stop := .returned applied }
      | _ => none

abbrev MasterRun (m : Master.Settings) (allowed : MasterSaver → MasterEvent → Prop) := Runs.Run (masterStep m) allowed

def MasterSaver.fresh (start : Members) : MasterSaver := ⟨.fresh start, .running, []⟩

-- The updates that stop() has saved, from its capture to its return.
def StopPhase.shown : StopPhase → Option Nat
  | .saving _ applied | .saved applied => some applied
  | _ => none

-- Saves do not overlap and none fails, and no join or leave takes effect from the capture
-- of stop() to its return.
def Timely (s : MasterSaver) : MasterEvent → Prop
  | .monitorSave _ | .stopSave _ => s.saver.pending = []
  | .fail _ => False
  | .update event => isMembership event = true → s.stop.shown = none
  | _ => True

structure MasterKept (m : Master.Settings) (start : Members) (s : MasterSaver) : Prop where
  file : Kept (memberStep m) snapshot start s.saver
  complete : ∀ applied, s.stop = .returned applied → ∀ k ∈ s.acknowledged, ∃ capture, s.saver.file = some capture ∧
    k < capture.applied

-- The capture of stop() is on its way, and later the file shows as much. No
-- request that was acknowledged has missed it.
def Accounted (saver : Saver Members RegistryUpdate Json) (acknowledged : List Nat) : StopPhase → Prop
  | .running | .stopping => ∀ k ∈ acknowledged, k < saver.updates.length
  | .saving stamp applied =>
      (∃ capture ∈ saver.pending, capture.stamp = stamp ∧ capture.applied = applied) ∧ ∀ k ∈ acknowledged, k < applied
  | .saved applied | .returned applied =>
      (∃ capture, saver.file = some capture ∧ applied ≤ capture.applied) ∧ ∀ k ∈ acknowledged, k < applied

structure MasterOrderly (m : Master.Settings) (start : Members) (s : MasterSaver) : Prop where
  orderly : Orderly (memberStep m) snapshot start s.saver
  solo : Solo s.saver
  shown : ∀ applied, s.stop.shown = some applied →
    ∀ k event, s.saver.updates[k]? = some event → isMembership event = true → k < applied
  accounted : Accounted s.saver s.acknowledged s.stop

theorem after_save_shown (stop : StopPhase) (capture : Capture Json) : (stop.afterSave capture).shown = stop.shown := by
  cases stop with
  | saving stamp applied =>
      simp only [StopPhase.afterSave]
      split <;> rfl
  | _ => rfl

theorem accounted_mono (saver after : Saver Members RegistryUpdate Json) (acknowledged : List Nat) (stop : StopPhase)
    (pending : ∀ capture ∈ saver.pending, capture ∈ after.pending) (file : after.file = saver.file)
    (updates : saver.updates.length ≤ after.updates.length) (accounted : Accounted saver acknowledged stop) :
    Accounted after acknowledged stop := by
  cases stop with
  | running => exact fun k member => (accounted k member).trans_le updates
  | stopping => exact fun k member => (accounted k member).trans_le updates
  | saving stamp applied =>
      obtain ⟨⟨capture, waiting, same⟩, acked⟩ := accounted
      exact ⟨⟨capture, pending capture waiting, same⟩, acked⟩
  | saved applied => exact ⟨by rw [file]; exact accounted.1, accounted.2⟩
  | returned applied => exact ⟨by rw [file]; exact accounted.1, accounted.2⟩

theorem accounted_write (m : Master.Settings) (start : Members) (s : MasterSaver) (i : Nat) (capture : Capture Json)
    (kept : MasterOrderly m start s) (there : s.saver.pending[i]? = some capture)
    (newer : ∀ held, s.saver.file = some held → held.stamp < capture.stamp) :
    Accounted (s.saver.store i capture) s.acknowledged (s.stop.afterSave capture) := by
  have known := List.mem_of_getElem? there
  have accounted := kept.accounted
  have later (applied : Nat) (shown : ∃ held, s.saver.file = some held ∧ applied ≤ held.applied) :
      ∃ held, (s.saver.store i capture).file = some held ∧ applied ≤ held.applied := by
    obtain ⟨held, holds, le⟩ := shown
    exact ⟨capture, rfl, le.trans (kept.orderly.monotone held capture (Or.inr holds) (Or.inl known) (newer held holds).le)⟩
  cases phase : s.stop with
  | running =>
      rw [phase] at accounted
      exact accounted
  | stopping =>
      rw [phase] at accounted
      exact accounted
  | saved applied =>
      rw [phase] at accounted
      exact ⟨later applied accounted.1, accounted.2⟩
  | returned applied =>
      rw [phase] at accounted
      exact ⟨later applied accounted.1, accounted.2⟩
  | saving stamp applied =>
      rw [phase] at accounted
      obtain ⟨⟨own, waiting, same, shows⟩, acked⟩ := accounted
      by_cases mine : stamp = capture.stamp
      · -- Equal stamps show equally many updates.
        have le := kept.orderly.monotone own capture (Or.inl waiting) (Or.inl known) (by omega)
        simp only [StopPhase.afterSave, if_pos mine]
        exact ⟨⟨capture, rfl, by omega⟩, acked⟩
      · simp only [StopPhase.afterSave, if_neg mine]
        have different : own.stamp ≠ capture.stamp := by rwa [same]
        exact ⟨⟨own, Checkpoint.pending_left i capture own s.saver.pending there different waiting, same, shows⟩, acked⟩

theorem accounted_acknowledge (s : MasterSaver) (k : Nat) (inside : k < s.saver.updates.length)
    (unreturned : ∀ applied, s.stop = .returned applied → False) (early : ∀ applied, s.stop.shown = some applied → k < applied)
    (accounted : Accounted s.saver s.acknowledged s.stop) : Accounted s.saver (s.acknowledged ++ [k]) s.stop := by
  cases phase : s.stop with
  | returned applied => exact absurd phase (unreturned applied)
  | running | stopping =>
      rw [phase] at accounted
      exact fun other member => (List.mem_append.mp member).elim (accounted other) fun new => List.mem_singleton.mp new ▸ inside
  | saving _ applied | saved applied =>
      rw [phase] at accounted
      have early : k < applied := early applied (by rw [phase]; rfl)
      exact ⟨accounted.1, fun other member =>
        (List.mem_append.mp member).elim (accounted.2 other) fun new => List.mem_singleton.mp new ▸ early⟩

theorem master_step (m : Master.Settings) (start : Members) (s after : MasterSaver) (event : MasterEvent)
    (kept : MasterOrderly m start s) (timely : Timely s event) (taken : masterStep m s event = some after) :
    MasterOrderly m start after := by
  cases event with
  | update event =>
      obtain ⟨saver, stepped, rfl⟩ := Option.map_eq_some_iff.mp taken
      have orderly := Checkpoint.orderly_step (memberStep m) snapshot start s.saver saver (.update event) kept.orderly trivial stepped
      obtain ⟨state, _, rfl⟩ := Option.map_eq_some_iff.mp stepped
      refine ⟨orderly, kept.solo, ?_, accounted_mono s.saver _ s.acknowledged s.stop (fun _ member => member) rfl
        (by simp) kept.accounted⟩
      intro applied shown k other there membership
      rcases Nat.lt_or_ge k s.saver.updates.length with old | new
      · rw [List.getElem?_append_left old] at there
        exact kept.shown applied shown k other there membership
      · rw [List.getElem?_append_right new, List.getElem?_singleton] at there
        split at there
        · cases there
          cases (timely membership).symm.trans shown
        · cases there
  | monitorSave now =>
      cases taken
      exact ⟨Checkpoint.orderly_take (memberStep m) snapshot start now s.saver kept.orderly,
        Checkpoint.solo_take (memberStep m) snapshot start now s.saver kept.orderly timely, kept.shown,
        accounted_mono s.saver _ s.acknowledged s.stop (fun _ => List.mem_append_left _) rfl (le_refl _) kept.accounted⟩
  | acknowledge k =>
      simp only [masterStep] at taken
      split at taken
      · cases taken
      · cases taken
        exact kept
      · rename_i event there unreturned
        split at taken
        · rename_i membership
          cases taken
          refine ⟨kept.orderly, kept.solo, kept.shown, ?_⟩
          exact accounted_acknowledge s k (List.getElem?_eq_some_iff.mp there).1 unreturned
            (fun applied shown => kept.shown applied shown k event there membership) kept.accounted
        · cases taken
  | beginStop =>
      simp only [masterStep] at taken
      split at taken
      · rename_i running
        cases taken
        have accounted := kept.accounted
        rw [running] at accounted
        exact ⟨kept.orderly, kept.solo, fun applied shown => (by cases shown), accounted⟩
      · cases taken
  | stopSave now =>
      simp only [masterStep] at taken
      split at taken
      · rename_i stopping
        cases taken
        have accounted := kept.accounted
        rw [stopping] at accounted
        refine ⟨Checkpoint.orderly_take (memberStep m) snapshot start now s.saver kept.orderly,
          Checkpoint.solo_take (memberStep m) snapshot start now s.saver kept.orderly timely, ?_, ?_, accounted⟩
        · intro applied shown k event there _
          cases shown
          exact (List.getElem?_eq_some_iff.mp there).1
        · exact ⟨_, List.mem_append_right _ (List.mem_singleton_self _), rfl, rfl⟩
      · cases taken
  | write i =>
      simp only [masterStep, finish] at taken
      split at taken
      · cases taken
      · rename_i capture there
        simp only [save, Checkpoint.step, there, Option.map_some, Option.some.injEq] at taken
        subst taken
        have newer := (Checkpoint.solo_write s.saver i kept.solo capture there).2
        refine ⟨Checkpoint.orderly_store (memberStep m) snapshot start i capture s.saver kept.orderly there newer,
          Checkpoint.solo_store s.saver i kept.solo capture there, ?_, accounted_write m start s i capture kept there newer⟩
        intro applied shown
        exact kept.shown applied ((after_save_shown s.stop capture).symm.trans shown)
  | fail i => exact absurd timely id
  | endStop =>
      simp only [masterStep] at taken
      split at taken
      · rename_i applied saved
        cases taken
        have accounted := kept.accounted
        rw [saved] at accounted
        exact ⟨kept.orderly, kept.solo, fun applied shown => (by cases shown), accounted⟩
      · cases taken

theorem master_kept (m : Master.Settings) (start : Members) (s : MasterSaver) (kept : MasterOrderly m start s) :
    MasterKept m start s := by
  refine ⟨Checkpoint.orderly_kept (memberStep m) snapshot start s.saver kept.orderly, fun applied returned k member => ?_⟩
  have accounted := kept.accounted
  rw [returned] at accounted
  obtain ⟨⟨capture, held, le⟩, acked⟩ := accounted
  exact ⟨capture, held, (acked k member).trans_le le⟩

theorem state_files_kept (m : Master.Settings) (start : Members) (events : List MasterEvent) (last : MasterSaver)
    (run : MasterRun m Timely (.fresh start) events last) (cfg : Ring.Config) (cluster : Ring.Cluster)
    (saves : List (Checkpoint.Event Ring.Op Ring.Stamp)) (saver : Saver Ring.Cluster Ring.Op Json)
    (saving : Runs.Run (Checkpoint.step (Ring.next cfg) Ring.SavedState.saveState) Alone (.fresh cluster) saves saver) :
    MasterKept m start last ∧ Kept (Ring.next cfg) Ring.SavedState.saveState cluster saver := by
  constructor
  · apply master_kept
    refine Runs.run_invariant (masterStep m) Timely (MasterOrderly m start) ?_ (.fresh start) last events ?_ run
    · exact fun s event after kept timely taken => master_step m start s after event kept timely taken
    · exact ⟨Checkpoint.orderly_fresh (memberStep m) snapshot start, Or.inl rfl, fun applied shown => (by cases shown),
        fun k member => (by cases member)⟩
  · exact Checkpoint.alone_kept (Ring.next cfg) Ring.SavedState.saveState cluster saves saver saving

instance (s : MasterSaver) (event : MasterEvent) : Decidable (Timely s event) :=
  match event with
  | .monitorSave _ | .stopSave _ => decidable_of_iff (s.saver.pending.isEmpty = true) List.isEmpty_iff
  | .fail _ => isFalse id
  | .update event => inferInstanceAs (Decidable (isMembership event = true → s.stop.shown = none))
  | .acknowledge _ | .beginStop | .write _ | .endStop => isTrue trivial

def nobody : Members := ⟨.empty, []⟩

def join (nodeId : String) : MasterEvent := .update (.receive (.join 0 (Master.sampleJoin nodeId) none))

-- The monitor loop has written its save before stop() makes its own.
def calmStop : List MasterEvent :=
  [join "a", .acknowledge 0, .monitorSave 1, .write 0, join "b", .acknowledge 1, .beginStop, .stopSave 2, .write 0, .endStop]

def twoSaves : List (Checkpoint.Event Ring.Op Ring.Stamp) := [.capture ⟨"4", 0⟩, .write 0, .capture ⟨"4", 1⟩, .write 0]

theorem calm_stop_kept : ∃ last saver, MasterRun {} Timely (.fresh nobody) calmStop last ∧
    MasterKept {} nobody last ∧ last.acknowledged = [0, 1] ∧
      Kept (Ring.next {}) Ring.SavedState.saveState (Ring.savedPair toString (fun _ => 0) []) saver := by
  have reached : ∃ last ∈ Runs.follow (masterStep {}) Timely (.fresh nobody) calmStop, last.acknowledged = [0, 1] := by
    decide +kernel
  obtain ⟨last, followed, acknowledged⟩ := reached
  have run := Runs.follow_run _ _ _ last _ followed
  have written : (Runs.follow (Checkpoint.step (Ring.next {}) Ring.SavedState.saveState) Alone
      (.fresh (Ring.savedPair toString (fun _ => 0) [])) twoSaves).isSome = true := by rfl
  obtain ⟨saver, saved⟩ := Option.isSome_iff_exists.mp written
  have kept := state_files_kept {} nobody calmStop last run {} _ twoSaves saver (Runs.follow_run _ _ _ saver _ saved)
  exact ⟨last, saver, run, kept.1, acknowledged, kept.2⟩

-- The monitor loop writes after stop() what it has captured before.
def lateMonitor : List MasterEvent :=
  [join "a", .acknowledge 0, .monitorSave 1, join "b", .acknowledge 1, .beginStop, .stopSave 2, .write 1, .write 0, .endStop]

-- The server answers a join while stop() writes what it has captured.
def lateJoin : List MasterEvent := [join "a", .acknowledge 0, .beginStop, .stopSave 1, join "b", .acknowledge 1, .write 0, .endStop]

theorem state_file_goes_back : (∃ last, MasterRun {} (fun _ _ => True) (.fresh nobody) lateMonitor last ∧
      last.saver.written = [1, 0] ∧ ¬ MasterKept {} nobody last) ∧
    ∃ last, MasterRun {} (fun _ _ => True) (.fresh nobody) lateJoin last ∧ last.saver.file.map Capture.applied = some 1 ∧
      last.acknowledged = [0, 1] ∧ ¬ MasterKept {} nobody last := by
  constructor
  · have reached : ∃ last ∈ Runs.follow (masterStep {}) (fun _ _ => True) (.fresh nobody) lateMonitor,
        last.saver.written = [1, 0] := by decide +kernel
    obtain ⟨last, followed, written⟩ := reached
    refine ⟨last, Runs.follow_run _ _ _ last _ followed, written, fun kept => ?_⟩
    have forward := kept.file.forward
    rw [written] at forward
    revert forward
    decide
  · have reached : ∃ last ∈ Runs.follow (masterStep {}) (fun _ _ => True) (.fresh nobody) lateJoin,
        last.saver.file.map Capture.applied = some 1 ∧ last.acknowledged = [0, 1] ∧ last.stop = .returned 1 := by decide +kernel
    obtain ⟨last, followed, shown, acknowledged, returned⟩ := reached
    refine ⟨last, Runs.follow_run _ _ _ last _ followed, shown, acknowledged, fun kept => ?_⟩
    obtain ⟨capture, held, missed⟩ := kept.complete 1 returned 1 (by simp [acknowledged])
    rw [held, Option.map_some, Option.some.injEq] at shown
    omega

end HuddleCluster.Persistence
