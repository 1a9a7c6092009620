import HuddleCluster.Scheduler.Deployment
import HuddleCluster.Scheduler.Pools
import HuddleCluster.Scheduler.Preference

set_option autoImplicit false

namespace HuddleCluster.Scheduler

open ClusterScheduler

inductive DeployEvent where
  | scheduling (event : PickEvent)
  | operate (action : CanaryAction)

def canaryStep (cfg : Settings) (weightSteps : List ℚ) (s : ClusterScheduler) : DeployEvent → Option ClusterScheduler
  | .scheduling (.deploy _) => none
  | .scheduling event => pickNext cfg s event
  | .operate action => s.canary.map fun canary => { s with canary := some (canary.operate weightSteps action) }

abbrev CanaryRun (cfg : Settings) (weightSteps : List ℚ) (allowed : ClusterScheduler → DeployEvent → Prop) :=
  Runs.Run (canaryStep cfg weightSteps) allowed

def CanaryAction.starts : CanaryAction → Bool
  | .start _ => true
  | _ => false

def Unstarted (_ : ClusterScheduler) : DeployEvent → Prop
  | .operate action => action.starts = false
  | _ => True

instance (s : ClusterScheduler) (event : DeployEvent) : Decidable (Unstarted s event) := by
  cases event <;> simp only [Unstarted] <;> infer_instance

def ClusterScheduler.undeployed (s : ClusterScheduler) : ClusterScheduler := { s with canary := none }

def DeployEvent.pickEvent? : DeployEvent → Option PickEvent
  | .scheduling event => some event
  | .operate _ => none

def Aborted (s : ClusterScheduler) : Prop := ∃ canary, s.canary = some canary ∧ canary.phase = .aborted

-- Every operation but start asks for an active deployment.
theorem operate_aborted (weightSteps : List ℚ) (canary : Canary) (action : CanaryAction) (aborted : canary.phase = .aborted)
    (unstarted : action.starts = false) : (canary.operate weightSteps action).phase = .aborted := by
  cases action with
  | start weight => cases unstarted
  | announce nodeId =>
      simp only [Canary.operate, Canary.announceCanary]
      split <;> exact aborted
  | advance | setWeight weight | promote | abort =>
      simp [Canary.operate, Canary.advance, Canary.setWeight, Canary.promote, Canary.abort, aborted]
  | remove nodeId => exact aborted

theorem choose_pool_undeployed (cfg : Settings) (s : ClusterScheduler) (i : Nat) (draw : ℚ) (aborted : Aborted s) :
    s.undeployed.choosePool cfg i draw = (s.choosePool cfg i draw).map undeployed := by
  obtain ⟨canary, deployed, phase⟩ := aborted
  have whole (nodes : List NodeDict) : pickPool cfg canary draw nodes = some nodes :=
    pick_pool_idle cfg canary draw nodes (by simp [splits, phase])
  have calls : s.undeployed.calls[i]? = s.calls[i]? := rfl
  unfold choosePool
  rw [calls]
  cases s.calls[i]? with
  | none => rfl
  | some call =>
      obtain ⟨now, affinityKey, preferredRegion, phase⟩ := call
      cases phase with
      | pooling eligible =>
          simp only [deployed, whole]
          rfl
      | _ => rfl

theorem apply_heat_undeployed (cfg : Settings) (s : ClusterScheduler) (nodeId : String) (now : ℚ) :
    s.undeployed.applyHeat cfg nodeId now = (s.applyHeat cfg nodeId now).map undeployed := by
  change (s.currentHeat cfg nodeId now).map _ = ((s.currentHeat cfg nodeId now).map _).map undeployed
  rw [Option.map_map]
  rfl

theorem consume_undeployed (cfg : Settings) (s : ClusterScheduler) (nodeId : String) (now : ℚ) :
    s.undeployed.consume cfg nodeId now = (s.consume cfg nodeId now).undeployed := by
  unfold consume
  split <;> rfl

theorem bind_undeployed (s : ClusterScheduler) (affinityKey : Option String) (nodeId : String) :
    s.undeployed.bind affinityKey nodeId = (s.bind affinityKey nodeId).undeployed := by
  cases affinityKey <;> rfl

theorem choose_undeployed (cfg : Settings) (s : ClusterScheduler) (i : Nat) (now : ℚ) :
    s.undeployed.choose cfg i now = (s.choose cfg i now).map undeployed := by
  have calls : s.undeployed.calls = s.calls := rfl
  have bound (key : Option String) (nodes : List NodeDict) : s.undeployed.boundNode key nodes = s.boundNode key nodes := rfl
  have select (time : ℚ) (nodes : List NodeDict) : s.undeployed.select cfg time nodes = s.select cfg time nodes := rfl
  unfold choose
  rw [calls]
  cases s.calls[i]? with
  | none => rfl
  | some call =>
      obtain ⟨began, affinityKey, preferredRegion, phase⟩ := call
      cases phase with
      | choosing eligible =>
          simp only [bound, select, apply_heat_undeployed]
          cases s.boundNode affinityKey eligible with
          | some node => rfl
          | none =>
              rcases s.select cfg began eligible with _ | _ | node
              · rfl
              · rfl
              · dsimp only
                cases s.applyHeat cfg node.nodeId began with
                | none => rfl
                | some warmed =>
                    simp only [Option.map_some, Option.some.injEq]
                    rw [show warmed.undeployed.countWorkload node.nodeId = (warmed.countWorkload node.nodeId).undeployed from rfl,
                      consume_undeployed, bind_undeployed]
                    rfl
      | _ => rfl

theorem pick_step_undeployed (cfg : Settings) (s : ClusterScheduler) (event : PickEvent) (aborted : Aborted s)
    (kept : ∀ canary, event ≠ .deploy canary) : pickStep cfg s.undeployed event = (pickStep cfg s event).map undeployed := by
  cases event with
  | deploy canary => exact absurd rfl (kept canary)
  | choosePool i draw => exact choose_pool_undeployed cfg s i draw aborted
  | choose i now => exact choose_undeployed cfg s i now
  | pick now nodes affinityKey preferredRegion => rfl
  | breakers openBreakers => rfl
  | reset nodeId now =>
      have same : s.undeployed.reset cfg nodeId now = (s.reset cfg nodeId now).undeployed := by
        unfold ClusterScheduler.reset
        rw [show s.undeployed.buckets = s.buckets from rfl]
        cases cfg.rateLimiter <;> cases s.buckets.get? nodeId <;> rfl
      exact congrArg some same
  | askBreaker i =>
      change s.undeployed.askBreaker cfg i = _
      simp only [askBreaker, pickStep, show s.undeployed.calls = s.calls from rfl]
      cases s.calls[i]? with
      | none => rfl
      | some call =>
          obtain ⟨began, affinityKey, preferredRegion, phase⟩ := call
          cases phase with
          | breaking todo kept => cases todo <;> rfl
          | _ => rfl
  | askLimiter i now =>
      change s.undeployed.askLimiter cfg i now = _
      simp only [askLimiter, pickStep, show s.undeployed.calls = s.calls from rfl]
      cases s.calls[i]? with
      | none => rfl
      | some call =>
          cases cfg.rateLimiter with
          | none => rfl
          | some limits =>
              obtain ⟨began, affinityKey, preferredRegion, phase⟩ := call
              cases phase with
              | limiting todo kept => cases todo <;> rfl
              | _ => rfl

theorem pick_next_undeployed (cfg : Settings) (s after : ClusterScheduler) (event : PickEvent) (aborted : Aborted s)
    (kept : ∀ canary, event ≠ .deploy canary) (taken : pickNext cfg s event = some after) :
    pickNext cfg s.undeployed event = some after.undeployed := by
  unfold pickNext at taken ⊢
  rw [pick_step_undeployed cfg s event aborted kept]
  split at taken
  · rw [taken]
    rfl
  · rename_i now _
    rw [show s.undeployed.clock = s.clock from rfl]
    split at taken
    · rename_i forward
      obtain ⟨middle, made, rfl⟩ := Option.map_eq_some_iff.mp taken
      rw [if_pos forward, made]
      rfl
    · cases taken

theorem canary_step_canary (cfg : Settings) (weightSteps : List ℚ) (s after : ClusterScheduler) (event : PickEvent)
    (taken : canaryStep cfg weightSteps s (.scheduling event) = some after) :
    (∀ canary, event ≠ .deploy canary) ∧ pickNext cfg s event = some after ∧ after.canary = s.canary := by
  have kept : ∀ canary, event ≠ .deploy canary := by
    rintro canary rfl
    cases taken
  have picked : pickNext cfg s event = some after := by
    cases event with
    | deploy canary => exact absurd rfl (kept canary)
    | _ => exact taken
  refine ⟨kept, picked, ?_⟩
  cases pick_next_turn cfg s after event picked with
  | entered _ _ _ _ _ canary _ _ => exact canary
  | advanced _ _ _ _ _ stepped _ _ => exact stepped.canary
  | chosen _ _ _ _ _ _ stepped _ => exact stepped.canary
  | breakers _ _ canary _ _ => exact canary
  | deployed canary => exact absurd rfl (kept canary)
  | reset _ _ _ canary _ _ => exact canary

theorem aborted_step (cfg : Settings) (weightSteps : List ℚ) (s : ClusterScheduler) (event : DeployEvent) (after : ClusterScheduler)
    (aborted : Aborted s) (unstarted : Unstarted s event) (taken : canaryStep cfg weightSteps s event = some after) :
    Aborted after := by
  obtain ⟨canary, deployed, phase⟩ := aborted
  cases event with
  | scheduling event => exact ⟨canary, (canary_step_canary cfg weightSteps s after event taken).2.2.trans deployed, phase⟩
  | operate action =>
      simp only [canaryStep, deployed, Option.map_some, Option.some.injEq] at taken
      subst taken
      exact ⟨_, rfl, operate_aborted weightSteps canary action phase unstarted⟩

-- From an abort to the next start picks go as if there were no deployment: the same
-- events take a scheduler without one through the same calls, with the same answers.
theorem aborted_canary_ignored (cfg : Settings) (weightSteps : List ℚ) (s aborted last : ClusterScheduler) (canary : Canary)
    (deployed : s.canary = some canary) (told : canary.abort.1 = some true)
    (abort : canaryStep cfg weightSteps s (.operate .abort) = some aborted) (events : List DeployEvent)
    (run : CanaryRun cfg weightSteps Unstarted aborted events last) :
    last.canary.map Canary.phase = some .aborted ∧
      PickRun cfg (fun _ _ => True) s.undeployed (events.filterMap DeployEvent.pickEvent?) last.undeployed := by
  simp only [canaryStep, deployed, Option.map_some, Option.some.injEq] at abort
  subst abort
  have phase : (canary.operate weightSteps .abort).phase = .aborted := by
    unfold Canary.abort at told
    split at told
    · rename_i active
      simp [Canary.operate, Canary.abort, active]
    · cases told
  obtain ⟨final, left, ended⟩ := Runs.run_invariant (canaryStep cfg weightSteps) Unstarted Aborted
    (aborted_step cfg weightSteps) _ last events ⟨_, rfl, phase⟩ run
  refine ⟨by rw [left, Option.map_some, ended], ?_⟩
  refine Runs.run_seen (canaryStep cfg weightSteps) Unstarted Aborted (aborted_step cfg weightSteps) (pickNext cfg) undeployed
    DeployEvent.pickEvent? ?_ ?_
    { s with canary := some (canary.operate weightSteps .abort) } last events ⟨_, rfl, phase⟩ run
  · intro state event after held unseen taken
    cases event with
    | scheduling event => cases unseen
    | operate action =>
        obtain ⟨_, _, rfl⟩ := Option.map_eq_some_iff.mp taken
        rfl
  · intro state event after act held seen taken
    cases event with
    | scheduling event =>
        cases seen
        obtain ⟨kept, picked, _⟩ := canary_step_canary cfg weightSteps state after act taken
        exact pick_next_undeployed cfg state after act held kept picked
    | operate action => cases seen

def tagged (nodeId : String) : NodeDict :=
  ⟨nodeId, [("node_id", .str nodeId), ("status", .str "alive"), ("last_seen_ago_sec", .number 0),
    ("metadata", .obj [("canary", .str "true")])]⟩

def stableAndCanary : List NodeDict := [serving "s" "alive", tagged "c"]

def pickTwice (affinityKey : Option String) : List DeployEvent :=
  (wholePick 0 stableAndCanary affinityKey ++ wholePick 1 stableAndCanary affinityKey).map .scheduling

def begunAt (weight : Int) : ClusterScheduler := .start noBreaker (some ((Canary.idle "canary").start [5] (.int weight)).2) 0

def abortedAt (weight : Int) : ClusterScheduler :=
  { begunAt weight with canary := some ((Canary.idle "canary").start [5] (.int weight)).2.abort.2 }

-- The deployment is operated on after the abort, and no pick takes notice of it.
theorem aborted_canary_ignored_advanced : ∃ last : ClusterScheduler, last.picks.map Mark.nodeId = ["s", "s"] ∧
    PickRun plain (fun _ _ => True) (begunAt 50).undeployed
      (wholePick 0 stableAndCanary (some "k") ++ wholePick 1 stableAndCanary (some "k")) last.undeployed := by
  have reached : ∃ last ∈ Runs.follow (canaryStep plain [5]) Unstarted (abortedAt 50) (.operate .advance :: pickTwice (some "k")),
      last.picks.map Mark.nodeId = ["s", "s"] := by decide +kernel
  obtain ⟨last, followed, picked⟩ := reached
  have ignored := aborted_canary_ignored plain [5] (begunAt 50) (abortedAt 50) last _ rfl (by decide +kernel) rfl _
    (Runs.follow_run _ _ _ last _ followed)
  exact ⟨last, picked, ignored.2⟩

-- After the abort the stable node is chosen, and is warmer than the canary then.
theorem canary_after_abort : ∃ (canary : Canary) (last : ClusterScheduler), (begunAt 50).canary = some canary ∧
    canary.abort.1 = some true ∧ canaryStep plain [5] (begunAt 50) (.operate .abort) = some (abortedAt 50) ∧
      isCanary plain canary.abort.2 (serving "s" "alive") = some false ∧ isCanary plain canary.abort.2 (tagged "c") = some true ∧
        CanaryRun plain [5] Unstarted (abortedAt 50) (pickTwice none) last ∧ last.picks.map Mark.nodeId = ["s", "c"] := by
  have reached : ∃ last ∈ Runs.follow (canaryStep plain [5]) Unstarted (abortedAt 50) (pickTwice none),
      last.picks.map Mark.nodeId = ["s", "c"] := by decide +kernel
  obtain ⟨last, followed, picked⟩ := reached
  exact ⟨_, last, rfl, by decide +kernel, rfl, by decide +kernel, by decide +kernel, Runs.follow_run _ _ _ last _ followed, picked⟩

end HuddleCluster.Scheduler
