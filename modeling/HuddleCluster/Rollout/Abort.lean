import HuddleCluster.Rollout.Workers

set_option autoImplicit false

namespace HuddleCluster.Rollout

open Master (NodeRecord)

def Justified (s : Updater) (phase : Phase) : Prop :=
  phase = .aborted ∨ phase = .failed ∧ ∃ nodeId, s.hasFailed nodeId = true

-- An abort that was accepted while the rollout waited or updated a batch.
structure AbortObeyed (s : Updater) : Prop where
  batches : ∀ count, s.stopAt = some count → s.batchesStarted = count
  phase : s.stopAt.isSome = true → s.control = .finished → Justified s s.phase

-- The rollout thread looks at the abort event at the top of the loop and in the
-- bodies of the two waiting loops only. Elsewhere it goes on to a batch if the
-- gate is open, and past a last batch that succeeds to its end.
def Updater.stops (cfg : Settings) (s : Updater) : Bool :=
  match s.control with
  | .before .gateTest _ _ | .before .gateLoop _ _ => !healthGateOk cfg s.registry
  | .verdict batch rest => !rest.isEmpty || batch.any fun node => s.hasFailed node.nodeId
  | _ => true

def Updater.pastGate (s : Updater) : Bool :=
  match s.control with
  | .before .gateLeave _ _ => true
  | _ => false

def Heeded (cfg : Settings) (s : Updater) : RolloutEvent → Prop
  | .advance _ => s.stopAt.isSome = true → s.stops cfg = true
  | .abort => s.pastGate = false
  | _ => True

def Placed (s : Updater) : Prop :=
  match s.control with
  | .idle | .listing | .top [] | .before .gateLeave _ _ => False
  | .ending phase => Justified s phase
  | .finished => Justified s s.phase
  | _ => True

structure Halting (s : Updater) : Prop where
  rested : Rested s
  told : s.stopAt.isSome = true → s.abortEvent = true
  batches : ∀ count, s.stopAt = some count → s.batchesStarted = count
  placed : s.stopAt.isSome = true → Placed s

theorem halting_obeyed (s : Updater) (halting : Halting s) : AbortObeyed s := by
  refine ⟨halting.batches, ?_⟩
  intro stopping ended
  have placed := halting.placed stopping
  rw [Placed, ended] at placed
  exact placed

-- A step that keeps the abort and the batches keeps the invariant if the thread
-- ends up where it may.
theorem halting_of (s after : Updater) (halting : Halting s) (rested : Rested after) (stop : after.stopAt = s.stopAt)
    (told : after.abortEvent = s.abortEvent) (batches : after.batchesStarted = s.batchesStarted)
    (placed : s.stopAt.isSome = true → Placed after) : Halting after := by
  constructor
  · exact rested
  · rw [stop, told]
    exact halting.told
  · rw [stop, batches]
    exact halting.batches
  · rw [stop]
    exact placed

theorem halting_free (s : Updater) (rested : Rested s) (stop : s.stopAt = none) : Halting s := by
  constructor <;> simp [stop, rested]

theorem placed_same (s after : Updater) (control : after.control = s.control)
    (phase : s.control = .finished → after.phase = s.phase) (outcomes : after.outcomes = s.outcomes) (placed : Placed s) :
    Placed after := by
  have failed : ∀ nodeId, after.hasFailed nodeId = s.hasFailed nodeId := by
    intro nodeId
    rw [Updater.hasFailed, outcomes, Updater.hasFailed]
  cases place : s.control with
  | idle | listing => simp [Placed, place] at placed
  | top rest =>
      cases rest with
      | nil => simp [Placed, place] at placed
      | cons batch rest => simp [Placed, control, place]
  | before stage batch rest =>
      cases stage with
      | gateLeave => simp [Placed, place] at placed
      | _ => simp [Placed, control, place]
  | starting | joining | verdict => simp [Placed, control, place]
  | ending final => simpa only [Placed, Justified, control, place, failed] using placed
  | finished => simpa only [Placed, Justified, control, place, phase place, failed] using placed

theorem placed_working (s : Updater) (working : s.control.quiet = false) : Placed s := by
  cases place : s.control with
  | starting | joining => simp [Placed, place]
  | _ => simp [Control.quiet, place] at working

theorem placed_due (cfg : Settings) (s : Updater) (heeded : Heeded cfg s .abort) (due : (s.waiting || s.updating) = true) :
    Placed s := by
  cases place : s.control with
  | before stage batch rest =>
      cases stage with
      | gateLeave => simp [Heeded, Updater.pastGate, place] at heeded
      | _ => simp [Placed, place]
  | starting | joining | verdict => simp [Placed, place]
  | _ => simp [Updater.waiting, Updater.updating, place] at due

theorem halting_advanced (cfg : Settings) (s after : Updater) (now : ℚ) (halting : Halting s)
    (heeded : Heeded cfg s (.advance now)) (rested : Rested after) (moved : Advanced cfg s after) : Halting after := by
  cases moved with
  | nothing was result | listed _ was _ result | emptied was result =>
      refine halting_of s after halting rested (by rw [result]) (by rw [result]) (by rw [result]) ?_
      intro stopping
      have placed := halting.placed stopping
      simp [Placed, was] at placed
  | stopped _ _ _ _ result =>
      refine halting_of s after halting rested (by rw [result]) (by rw [result]) (by rw [result]) ?_
      intro _
      simp [result, Placed, Justified]
  | entered batch rest was clear result =>
      refine halting_of s after halting rested (by simp [result, Updater.goto]) (by simp [result, Updater.goto])
        (by simp [result, Updater.goto]) ?_
      intro stopping
      rw [halting.told stopping] at clear
      cases clear
  | waited stage next phase batch rest was short _ result =>
      refine halting_of s after halting rested (by simp [result, Updater.goto]) (by simp [result, Updater.goto])
        (by simp [result, Updater.goto]) ?_
      intro _
      cases next with
      | gateLeave => exact absurd rfl short
      | _ => simp [result, Updater.goto, Placed]
  | released batch rest was healthy result =>
      refine halting_of s after halting rested (by simp [result, Updater.goto]) (by simp [result, Updater.goto])
        (by simp [result, Updater.goto]) ?_
      intro stopping
      have shut := heeded stopping
      simp [Updater.stops, was, healthy] at shut
  | opened batch rest was healthy result =>
      apply halting_free after rested
      cases stop : s.stopAt with
      | none => simp [result, Updater.startBatch, stop]
      | some count =>
          have shut := heeded (by simp [stop])
          simp [Updater.stops, was, healthy] at shut
  | left batch rest was result =>
      apply halting_free after rested
      cases stop : s.stopAt with
      | none => simp [result, Updater.startBatch, stop]
      | some count =>
          have placed := halting.placed (by simp [stop])
          simp [Placed, was] at placed
  | spawned _ _ _ _ _ result | launched _ _ _ result | joined _ _ _ _ result =>
      refine halting_of s after halting rested (by rw [result]) (by rw [result]) (by rw [result]) ?_
      intro _
      simp [result, Placed]
  | broken node batch rest was member failed result =>
      refine halting_of s after halting rested (by rw [result]) (by rw [result]) (by rw [result]) ?_
      intro _
      simp only [result, Placed]
      exact Or.inr ⟨rfl, node.nodeId, failed⟩
  | passed batch rest was fine result =>
      refine halting_of s after halting rested (by rw [result]) (by rw [result]) (by rw [result]) ?_
      intro stopping
      have more := heeded stopping
      cases rest with
      | nil =>
          obtain ⟨node, member, failed⟩ : ∃ node ∈ batch, s.hasFailed node.nodeId = true := by
            simpa [Updater.stops, was] using more
          rw [fine node member] at failed
          cases failed
      | cons next rest => simp [result, Placed]
  | ended now phase was result =>
      refine halting_of s after halting rested (by rw [result]) (by rw [result]) (by rw [result]) ?_
      intro stopping
      have placed := halting.placed stopping
      rw [Placed, was] at placed
      rw [result, Placed]
      exact placed

theorem halting_aborted (cfg : Settings) (s after : Updater) (halting : Halting s) (heeded : Heeded cfg s .abort)
    (rested : Rested after) (result : after = { s with
      abortEvent := true, pauseEvent := false
      stopAt := if (s.waiting || s.updating) && s.stopAt.isNone then some s.batchesStarted else s.stopAt }) : Halting after := by
  subst result
  by_cases due : ((s.waiting || s.updating) && s.stopAt.isNone) = true
  · refine ⟨rested, fun _ => rfl, ?_, ?_⟩
    · intro count stop
      simpa only [if_pos due, Option.some.injEq] using stop
    · intro _
      exact placed_same s _ rfl (fun _ => rfl) rfl (placed_due cfg s heeded (Bool.and_eq_true _ _ ▸ due).1)
  · refine ⟨rested, fun _ => rfl, ?_, ?_⟩
    · intro count stop
      exact halting.batches count (by simpa only [if_neg due] using stop)
    · intro stopping
      exact placed_same s _ rfl (fun _ => rfl) rfl (halting.placed (by simpa only [if_neg due] using stopping))

theorem halting_step (cfg : Settings) (s after : Updater) (event : RolloutEvent) (halting : Halting s)
    (heeded : Heeded cfg s event) (taken : rolloutStep cfg s event = some after) : Halting after := by
  have rested := rested_step cfg s after event halting.rested taken
  cases rollout_stepped cfg s after event taken with
  | started now result =>
      subst result
      exact halting_free _ rested rfl
  | paused _ result | replaced _ _ result | observed _ _ result =>
      subst result
      exact halting_of s _ halting rested rfl rfl rfl halting.placed
  | resumed was result =>
      subst result
      refine halting_of s _ halting rested rfl rfl rfl ?_
      intro stopping
      have placed := halting.placed stopping
      refine placed_same s _ rfl ?_ rfl placed
      intro ended
      simp [Placed, Justified, ended, was] at placed
  | aborted asked _ result =>
      subst asked
      exact halting_aborted cfg s after halting heeded rested result
  | advanced now asked moved =>
      subst asked
      exact halting_advanced cfg s after now halting heeded rested moved
  | worked i worker here frame moved =>
      refine halting_of s after halting rested frame.stopAt frame.abortEvent frame.batchesStarted ?_
      intro _
      apply placed_working after
      rw [frame.control]
      exact worker_not_quiet s after i worker halting.rested here moved

instance (cfg : Settings) (s : Updater) : (event : RolloutEvent) → Decidable (Heeded cfg s event)
  | .advance _ => inferInstanceAs (Decidable (s.stopAt.isSome = true → s.stops cfg = true))
  | .abort => inferInstanceAs (Decidable (s.pastGate = false))
  | .startRollout _ | .pause | .resume | .begin _ _ | .updateReturned _ _ | .updateRaised _ _ _ | .testDeadline _ _ | .poll _
  | .finish _ _ | .registry _ | .replaced _ => inferInstanceAs (Decidable True)

def abortedAtBatch : List RolloutEvent :=
  [.startRollout 0] ++ List.replicate 6 (.advance 0) ++ [.abort] ++ updated 0 ++ List.replicate 4 (.advance 0)

def abortedWhilePaused : List RolloutEvent :=
  [.startRollout 0, .pause] ++ List.replicate 6 (.advance 0) ++ [.abort] ++ List.replicate 4 (.advance 0) ++ updated 0 ++
    List.replicate 4 (.advance 0)

end HuddleCluster.Rollout
