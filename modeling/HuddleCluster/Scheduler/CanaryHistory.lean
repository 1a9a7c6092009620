import HuddleCluster.Lib.Recent
import HuddleCluster.Lib.Runs
import HuddleCluster.Scheduler.Deployment

set_option autoImplicit false

namespace HuddleCluster.Scheduler

inductive CanaryTransition where
  | start
  | advance
  | setWeight
  | promote
  | abort
deriving DecidableEq

def CanaryTransition.text : CanaryTransition → String
  | .start => "start"
  | .advance => "advance"
  | .setWeight => "set_weight"
  | .promote => "promote"
  | .abort => "abort"

structure CanaryEvent where
  action : CanaryTransition
  weight : ℚ
  note : String
  ts : ℚ
deriving DecidableEq

def percent (weight : ℚ) : String := toString (Statistics.roundHalfEven weight)

def CanaryTransition.note (weight : ℚ) : CanaryTransition → String
  | .start => s!"initial weight {percent weight}%"
  | .advance => s!"stepped to {percent weight}%"
  | .setWeight => s!"manual set to {percent weight}%"
  | .promote => "canary promoted to stable"
  | .abort => "deployment aborted — 100% stable"

def CanaryEvent.toDict (event : CanaryEvent) : Json := .obj [
  ("action", .str event.action.text),
  ("weight", .number event.weight),
  ("note", .str event.note),
  ("ts", .number (Statistics.roundTo 3 event.ts))]

-- A deployment with its history. The log is not part of the program: it has every event
-- ever recorded.
structure CanaryHistory where
  canary : Canary
  history : List CanaryEvent := []
  log : List CanaryEvent := []

namespace CanaryHistory

def record (h : CanaryHistory) (now : ℚ) (action : CanaryTransition) : CanaryHistory :=
  let event : CanaryEvent := ⟨action, h.canary.weight, action.note h.canary.weight, now⟩
  let history := h.history ++ [event]
  { h with history := if 100 < history.length then Recent.last 100 history else history, log := h.log ++ [event] }

-- An operation records what it did only where it answers true.
def after (h : CanaryHistory) (now : ℚ) (action : CanaryTransition) (operated : Option Bool × Canary) : CanaryHistory :=
  if operated.1 = some true then { h with canary := operated.2 }.record now action else { h with canary := operated.2 }

def operate (weightSteps : List ℚ) (h : CanaryHistory) (now : ℚ) : CanaryAction → CanaryHistory
  | .start weight => h.after now .start (h.canary.start weightSteps weight)
  | .advance => h.after now .advance (h.canary.advance weightSteps)
  | .setWeight weight => h.after now .setWeight (h.canary.setWeight weight)
  | .promote => h.after now .promote h.canary.promote
  | .abort => h.after now .abort h.canary.abort
  | .announce nodeId => { h with canary := h.canary.announceCanary nodeId }
  | .remove nodeId => { h with canary := (h.canary.removeCanary nodeId).2 }

-- What status shows of the history.
def recent (h : CanaryHistory) : List Json := (Recent.last 20 h.history).map CanaryEvent.toDict

def next (weightSteps : List ℚ) (h : CanaryHistory) (event : ℚ × CanaryAction) : Option CanaryHistory :=
  some (h.operate weightSteps event.1 event.2)

end CanaryHistory

def CanaryTransition.phase : CanaryTransition → CanaryPhase
  | .promote => .promoted
  | .abort => .aborted
  | _ => .active

-- The phase and the weight that the last event of a log tells.
def told (log : List CanaryEvent) : CanaryPhase × ℚ :=
  match log.getLast? with
  | none => (.idle, 0)
  | some event => (event.action.phase, event.weight)

-- An event that a deployment in a phase with a weight may record.
structure CanaryEvent.Legal (weightSteps : List ℚ) (phase : CanaryPhase) (weight : ℚ) (event : CanaryEvent) : Prop where
  opens : event.action = .start ↔ phase ≠ .active
  rises : event.action = .advance → event.weight ∈ weightSteps ∧ weight < event.weight
  whole : event.action = .promote → event.weight = 100
  gone : event.action = .abort → event.weight = 0
  range : event.action ≠ .advance → 0 ≤ event.weight ∧ event.weight ≤ 100
  note : event.note = event.action.note event.weight

inductive Trail (weightSteps : List ℚ) : List CanaryEvent → Prop where
  | nil : Trail weightSteps []
  | snoc (log : List CanaryEvent) (event : CanaryEvent) (before : Trail weightSteps log)
      (legal : event.Legal weightSteps (told log).1 (told log).2) : Trail weightSteps (log ++ [event])

structure CanaryHistory.Explained (weightSteps : List ℚ) (h : CanaryHistory) : Prop where
  told : (h.canary.phase, h.canary.weight) = Scheduler.told h.log
  trail : Trail weightSteps h.log

-- A start whose weight is no number, though no deployment is active, raises with the phase
-- already set.
def Canary.Raises (weightSteps : List ℚ) (canary : Canary) : CanaryAction → Prop
  | .start weight => (canary.start weightSteps weight).1 = none
  | _ => False

instance (weightSteps : List ℚ) (canary : Canary) (action : CanaryAction) : Decidable (canary.Raises weightSteps action) := by
  unfold Canary.Raises
  split <;> infer_instance

abbrev CanaryHistoryRun (weightSteps : List ℚ) (allowed : CanaryHistory → ℚ × CanaryAction → Prop) :=
  Runs.Run (CanaryHistory.next weightSteps) allowed

namespace CanaryHistory

theorem told_snoc (log : List CanaryEvent) (event : CanaryEvent) :
    Scheduler.told (log ++ [event]) = (event.action.phase, event.weight) := by
  simp [Scheduler.told]

theorem record_kept (h : CanaryHistory) (now : ℚ) (action : CanaryTransition) (kept : h.history = Recent.last 100 h.log) :
    (h.record now action).history = Recent.last 100 (h.record now action).log := by
  have whole := Recent.last_snoc 100 h.log ⟨action, h.canary.weight, action.note h.canary.weight, now⟩
  rw [← kept] at whole
  refine Eq.trans ?_ whole
  unfold record
  dsimp only
  split
  · rfl
  · rename_i few
    exact (Recent.last_whole 100 _ (not_lt.mp few)).symm

theorem after_kept (h : CanaryHistory) (now : ℚ) (action : CanaryTransition) (operated : Option Bool × Canary)
    (kept : h.history = Recent.last 100 h.log) :
    (h.after now action operated).history = Recent.last 100 (h.after now action operated).log := by
  unfold after
  split
  · exact record_kept _ now action kept
  · exact kept

theorem operate_kept (weightSteps : List ℚ) (h : CanaryHistory) (now : ℚ) (action : CanaryAction)
    (kept : h.history = Recent.last 100 h.log) :
    (h.operate weightSteps now action).history = Recent.last 100 (h.operate weightSteps now action).log := by
  cases action with
  | start weight => exact after_kept h now .start _ kept
  | advance => exact after_kept h now .advance _ kept
  | setWeight weight => exact after_kept h now .setWeight _ kept
  | promote => exact after_kept h now .promote _ kept
  | abort => exact after_kept h now .abort _ kept
  | announce nodeId => exact kept
  | remove nodeId => exact kept

structure Operated (weightSteps : List ℚ) (canary : Canary) (action : CanaryTransition) (operated : Option Bool × Canary) : Prop where
  done : operated.1 = some true → operated.2.phase = action.phase ∧
    ∀ now, (⟨action, operated.2.weight, action.note operated.2.weight, now⟩ : CanaryEvent).Legal weightSteps canary.phase
      canary.weight
  refused : operated.1 = some false → operated.2 = canary

theorem clamped_range (weight : ℚ) : 0 ≤ max 0 (min 100 weight) ∧ max 0 (min 100 weight) ≤ 100 :=
  ⟨le_max_left _ _, max_le (by norm_num) (min_le_left _ _)⟩

theorem start_operated (weightSteps : List ℚ) (canary : Canary) (weight : Json) :
    Operated weightSteps canary .start (canary.start weightSteps weight) := by
  unfold Canary.start
  split
  · exact ⟨by simp, by simp⟩
  · rename_i inactive
    dsimp only
    split
    · exact ⟨by simp, by simp⟩
    · refine ⟨fun _ => ⟨rfl, fun now => ?_⟩, by simp⟩
      exact ⟨by simp [inactive], by simp, by simp, by simp, fun _ => clamped_range _, rfl⟩

theorem advance_operated (weightSteps : List ℚ) (canary : Canary) :
    Operated weightSteps canary .advance (canary.advance weightSteps) := by
  unfold Canary.advance
  split
  · rename_i active
    split
    · exact ⟨by simp, by simp⟩
    · rename_i step found
      have higher : canary.weight < step := by simpa using List.find?_some found
      refine ⟨fun _ => ⟨active, fun now => ?_⟩, by simp⟩
      exact ⟨by simp [active], fun _ => ⟨List.mem_of_find?_eq_some found, higher⟩, by simp, by simp, by simp, rfl⟩
  · exact ⟨by simp, by simp⟩

theorem set_weight_operated (weightSteps : List ℚ) (canary : Canary) (weight : Json) :
    Operated weightSteps canary .setWeight (canary.setWeight weight) := by
  unfold Canary.setWeight
  split
  · rename_i active
    split
    · exact ⟨by simp, by simp⟩
    · refine ⟨fun _ => ⟨active, fun now => ?_⟩, by simp⟩
      exact ⟨by simp [active], by simp, by simp, by simp, fun _ => clamped_range _, rfl⟩
  · exact ⟨by simp, by simp⟩

theorem promote_operated (weightSteps : List ℚ) (canary : Canary) : Operated weightSteps canary .promote canary.promote := by
  unfold Canary.promote
  split
  · rename_i active
    refine ⟨fun _ => ⟨rfl, fun now => ?_⟩, by simp⟩
    exact ⟨by simp [active], by simp, by simp, by simp, by norm_num, rfl⟩
  · exact ⟨by simp, by simp⟩

theorem abort_operated (weightSteps : List ℚ) (canary : Canary) : Operated weightSteps canary .abort canary.abort := by
  unfold Canary.abort
  split
  · rename_i active
    refine ⟨fun _ => ⟨rfl, fun now => ?_⟩, by simp⟩
    exact ⟨by simp [active], by simp, by simp, by simp, by norm_num, rfl⟩
  · exact ⟨by simp, by simp⟩

theorem after_explained (weightSteps : List ℚ) (h : CanaryHistory) (now : ℚ) (action : CanaryTransition)
    (operated : Option Bool × Canary) (does : Operated weightSteps h.canary action operated) (answers : operated.1 ≠ none)
    (explained : h.Explained weightSteps) : (h.after now action operated).Explained weightSteps := by
  unfold after
  cases answer : operated.1 with
  | none => exact absurd answer answers
  | some accepted =>
      cases accepted with
      | false =>
          rw [if_neg (by simp), does.refused answer]
          exact explained
      | true =>
          obtain ⟨phase, legal⟩ := does.done answer
          have before := explained.told
          rw [if_pos rfl]
          refine ⟨?_, .snoc h.log _ explained.trail ?_⟩
          · simp only [record, told_snoc, phase]
          · rw [← before]
            exact legal now

theorem announced_explained (weightSteps : List ℚ) (h : CanaryHistory) (canary : Canary) (phase : canary.phase = h.canary.phase)
    (weight : canary.weight = h.canary.weight) (explained : h.Explained weightSteps) :
    ({ h with canary := canary } : CanaryHistory).Explained weightSteps := by
  refine ⟨?_, explained.trail⟩
  rw [← explained.told]
  simp only [phase, weight]

theorem raising_unexplained (weightSteps : List ℚ) (h : CanaryHistory) (now : ℚ) (weight : Json)
    (raises : (h.canary.start weightSteps weight).1 = none) (explained : h.Explained weightSteps) :
    ¬ (h.operate weightSteps now (.start weight)).Explained weightSteps := by
  have inactive : h.canary.phase ≠ .active := by
    intro active
    simp [Canary.start, active] at raises
  have phase : (h.canary.start weightSteps weight).2.phase = .active := by
    unfold Canary.start
    rw [if_neg inactive]
    dsimp only
    split <;> rfl
  intro still
  have now := congrArg Prod.fst still.told
  have before := congrArg Prod.fst explained.told
  simp only [operate, after, raises, reduceCtorEq, if_false, phase] at now
  exact inactive (before.trans now.symm)

theorem operate_explained_iff (weightSteps : List ℚ) (h : CanaryHistory) (now : ℚ) (action : CanaryAction)
    (explained : h.Explained weightSteps) :
    (h.operate weightSteps now action).Explained weightSteps ↔ ¬ h.canary.Raises weightSteps action := by
  cases action with
  | start weight =>
      constructor
      · intro still raises
        exact raising_unexplained weightSteps h now weight raises explained still
      · exact fun answers => after_explained weightSteps h now .start _ (start_operated weightSteps h.canary weight) answers explained
  | advance =>
      refine iff_of_true (after_explained weightSteps h now .advance _ (advance_operated weightSteps h.canary) ?_ explained) id
      unfold Canary.advance
      split
      · split <;> simp
      · simp
  | setWeight weight =>
      refine iff_of_true ?_ id
      cases answer : (h.canary.setWeight weight).1 with
      | none =>
          have same : (h.canary.setWeight weight).2 = h.canary := by
            unfold Canary.setWeight at answer ⊢
            split
            · split <;> simp_all
            · rfl
          simpa [operate, after, answer, same] using explained
      | some accepted =>
          exact after_explained weightSteps h now .setWeight _ (set_weight_operated weightSteps h.canary weight)
            (by simp [answer]) explained
  | promote =>
      refine iff_of_true (after_explained weightSteps h now .promote _ (promote_operated weightSteps h.canary) ?_ explained) id
      unfold Canary.promote
      split <;> simp
  | abort =>
      refine iff_of_true (after_explained weightSteps h now .abort _ (abort_operated weightSteps h.canary) ?_ explained) id
      unfold Canary.abort
      split <;> simp
  | announce nodeId =>
      refine iff_of_true (announced_explained weightSteps h _ ?_ ?_ explained) id
      · unfold Canary.announceCanary
        split <;> rfl
      · unfold Canary.announceCanary
        split <;> rfl
  | remove nodeId => exact iff_of_true (announced_explained weightSteps h _ rfl rfl explained) id

end CanaryHistory

-- What an operator can read: status shows the end of the log, and the log is a trail of
-- legal operations that tells the phase and the weight in force, all along exactly if no
-- start of the run raised.
theorem canary_explained (weightSteps : List ℚ) (canaryTag : String) (h : CanaryHistory) (events : List (ℚ × CanaryAction))
    (run : CanaryHistoryRun weightSteps (fun _ _ => True) ⟨.idle canaryTag, [], []⟩ events h) :
    h.recent = (Recent.last 20 h.log).map CanaryEvent.toDict ∧
      (Runs.Always (CanaryHistory.next weightSteps) ⟨.idle canaryTag, [], []⟩ events (CanaryHistory.Explained weightSteps) ↔
        CanaryHistoryRun weightSteps (fun h event => ¬ h.canary.Raises weightSteps event.2) ⟨.idle canaryTag, [], []⟩ events h) := by
  have kept (state after : CanaryHistory) (event : ℚ × CanaryAction) (held : state.history = Recent.last 100 state.log)
      (taken : CanaryHistory.next weightSteps state event = some after) : after.history = Recent.last 100 after.log := by
    cases taken
    exact CanaryHistory.operate_kept weightSteps state event.1 event.2 held
  constructor
  · have held := Runs.run_invariant _ _ (fun h : CanaryHistory => h.history = Recent.last 100 h.log)
      (fun state event after held _ taken => kept state after event held taken) _ h events (Recent.last_nil 100).symm run
    rw [CanaryHistory.recent, held, Recent.last_last 20 100 (by decide)]
  · refine Runs.run_always _ _ (fun _ => True) _ (fun _ _ _ _ _ => trivial) ?_ _ h events trivial ⟨rfl, .nil⟩ run
    intro state event after _ explained taken
    cases taken
    exact CanaryHistory.operate_explained_iff weightSteps state event.1 event.2 explained

-- A second deployment whose weight is a text raises, and goes on with all traffic on the
-- canary as the first one was promoted.
theorem canary_explained_raised : ∃ h : CanaryHistory, (h.canary.phase, h.canary.weight) = (.active, 100) ∧
    h.log.map CanaryEvent.note = ["initial weight 5%", "stepped to 25%", "canary promoted to stable"] ∧
    h.recent = h.log.map CanaryEvent.toDict ∧ ¬ h.Explained [5, 25, 50, 100] := by
  have followed : ∃ h ∈ Runs.follow (CanaryHistory.next [5, 25, 50, 100]) (fun _ _ => True) ⟨.idle "canary", [], []⟩
      [(1, .start .null), (2, .advance), (3, .promote), (4, .start (.str "10"))], (h.canary.phase, h.canary.weight) = (.active, 100) ∧
        h.log.map CanaryEvent.note = ["initial weight 5%", "stepped to 25%", "canary promoted to stable"] ∧
        (told h.log).1 = .promoted ∧ h.log.length ≤ 20 := by
    decide +kernel
  obtain ⟨h, reached, weight, notes, promoted, few⟩ := followed
  have shown := (canary_explained [5, 25, 50, 100] "canary" h _ (Runs.follow_run _ _ _ h _ reached)).1
  rw [Recent.last_whole 20 h.log few] at shown
  refine ⟨h, weight, notes, shown, fun explained => ?_⟩
  have active := explained.told
  rw [weight] at active
  exact absurd ((congrArg Prod.fst active).trans promoted) (by decide)

end HuddleCluster.Scheduler
