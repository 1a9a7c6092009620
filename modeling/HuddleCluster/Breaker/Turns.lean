import HuddleCluster.Breaker.Evaluate

set_option autoImplicit false

namespace HuddleCluster.Breaker

open Master (NodeRecord Registry)
open Scheduler (dict?)

def rate? (metrics : Json) : Option Double := (dict? metrics).bind fun fields => (Json.get fields "error_rate").toFloat?

def BreakerState.expired (cfg : Settings) (now : ℚ) (breaker : BreakerState) : Bool :=
  breaker.trippedAt.any fun tripped => decide (cfg.resetTimeout ≤ now - tripped)

theorem expire_closed (cfg : Settings) (now : ℚ) (breaker : BreakerState) (closed : breaker.state = .closed) :
    breaker.expire cfg now = breaker := by
  simp [BreakerState.expire, closed]

theorem expire_open (cfg : Settings) (now : ℚ) (breaker : BreakerState) (opened : breaker.state ≠ .closed) :
    (breaker.expire cfg now).state ≠ .closed ∧
      ((breaker.expire cfg now).state = .halfOpen → breaker.state = .halfOpen ∨ breaker.expired cfg now = true) := by
  simp only [BreakerState.expire]
  split
  · rename_i late
    exact ⟨by simp, fun _ => Or.inr late.2⟩
  · exact ⟨opened, Or.inl⟩

theorem exceeds_recovers (cfg : Settings) (rate : Double) (recovers : cfg.recovers rate = true) : cfg.exceeds rate = false :=
  Double.le_not_lt rate _ recovers

theorem judge_above (cfg : Settings) (now : ℚ) (rate : Double) (breaker : BreakerState) (above : cfg.exceeds rate = true) :
    (breaker.judge cfg now rate).state = (if breaker.state = .closed then .opened else breaker.state) ∧
      (breaker.judge cfg now rate).trippedAt = if breaker.state = .closed then some now else breaker.trippedAt := by
  by_cases closed : breaker.state = .closed
  · simp [BreakerState.judge, closed, above]
  · have ill : ¬ cfg.recovers rate = true := fun recovers => by simp [exceeds_recovers cfg rate recovers] at above
    simp [BreakerState.judge, closed, ill]

theorem judge_below (cfg : Settings) (now : ℚ) (rate : Double) (breaker : BreakerState) (below : cfg.recovers rate = true) :
    (breaker.judge cfg now rate).state = .closed := by
  have unmoved := exceeds_recovers cfg rate below
  by_cases closed : breaker.state = .closed
  · simp [BreakerState.judge, closed, unmoved]
  · simp [BreakerState.judge, closed, unmoved, below]

theorem judge_quiet (cfg : Settings) (now : ℚ) (rate : Double) (breaker : BreakerState) (quiet : cfg.exceeds rate = false)
    (closed : breaker.state = .closed) : (breaker.judge cfg now rate).state = .closed := by
  simp [BreakerState.judge, closed, quiet]

theorem judge_ill (cfg : Settings) (now : ℚ) (rate : Double) (breaker : BreakerState) (ill : cfg.recovers rate = false)
    (opened : breaker.state ≠ .closed) : (breaker.judge cfg now rate).state = breaker.state := by
  simp [BreakerState.judge, opened, ill]

inductive Seen (cfg : Settings) (now : ℚ) (id : String) (registry : Registry) (node : NodeRecord)
    (before after : Option BreakerState) : Prop where
  | skipped (same : after = before) (unread : Cut registry id ∨ rate? node.metrics = none)
  | unread (unread : rate? node.metrics = none) (clock : after = some ((before.getD { nodeId := id }).expire cfg now))
  | judged (rate : Double) (reached : ¬ Cut registry id) (read : rate? node.metrics = some rate)
      (verdict : after = some (((before.getD { nodeId := id }).expire cfg now).judge cfg now rate))

theorem evaluate_seen (cfg : Settings) (now : ℚ) (listed : String → ℚ) (registry : Registry) (states : States) (id : String)
    (node : NodeRecord) (found : registry.nodes.get? id = some node) : Seen cfg now id registry node (states.get? id)
      ((evaluate cfg now (Scheduler.nodes listed registry) states).get? id) := by
  obtain ⟨stopped, reached⟩ := evaluate_registered cfg now listed registry states id node found
  by_cases cut : Cut registry id
  · exact .skipped (stopped cut) (Or.inl cut)
  · rw [reached cut, turn]
    cases fields : dict? node.metrics with
    | none => exact .skipped rfl (Or.inr (by rw [rate?, fields, Option.bind_none]))
    | some fields' =>
        have rate : rate? node.metrics = (Json.get fields' "error_rate").toFloat? := by rw [rate?, fields, Option.bind_some]
        simp only [BreakerState.read]
        cases read : (Json.get fields' "error_rate").toFloat? with
        | none => exact .unread (rate.trans read) rfl
        | some value => exact .judged value cut (rate.trans read) rfl

theorem closed_default (id : String) (breaker : Option BreakerState) (closed : ∀ found ∈ breaker, found.state = .closed) :
    (breaker.getD { nodeId := id }).state = .closed := by
  cases breaker with
  | none => rfl
  | some found => exact closed found rfl

-- A breaker that is closed, or that there is not yet, is tripped by a rate above
-- the threshold and by nothing else.
theorem closed_seen (cfg : Settings) (now : ℚ) (id : String) (registry : Registry) (node : NodeRecord)
    (before after : Option BreakerState) (closed : ∀ breaker ∈ before, breaker.state = .closed)
    (seen : Seen cfg now id registry node before after) :
    (∀ breaker ∈ after, breaker.state ≠ .closed → breaker.state = .opened ∧ breaker.trippedAt = some now) ∧
      (¬ Cut registry id → (∃ rate ∈ rate? node.metrics, cfg.exceeds rate = true) →
        ∃ breaker ∈ after, breaker.state = .opened ∧ breaker.trippedAt = some now) := by
  have quiet := closed_default id before closed
  have expired := expire_closed cfg now (before.getD { nodeId := id }) quiet
  cases seen with
  | skipped same unread =>
      subst same
      refine ⟨fun breaker held opened => absurd (closed breaker held) opened, ?_⟩
      rintro reached ⟨rate, read, _⟩
      rcases unread with cut | none
      · exact absurd cut reached
      · simp [none] at read
  | unread unread clock =>
      rw [expired] at clock
      subst clock
      constructor
      · intro breaker held opened
        cases held
        exact absurd quiet opened
      · rintro _ ⟨rate, read, _⟩
        simp [unread] at read
  | judged rate reached read verdict =>
      rw [expired] at verdict
      subst verdict
      by_cases above : cfg.exceeds rate = true
      · obtain ⟨state, trippedAt⟩ := judge_above cfg now rate (before.getD { nodeId := id }) above
        rw [if_pos quiet] at state trippedAt
        constructor
        · intro breaker held _
          cases held
          exact ⟨state, trippedAt⟩
        · exact fun _ _ => ⟨_, rfl, state, trippedAt⟩
      · have state := judge_quiet cfg now rate (before.getD { nodeId := id }) (by simpa using above) quiet
        constructor
        · intro breaker held opened
          cases held
          exact absurd state opened
        · rintro _ ⟨other, same, less⟩
          rw [read] at same
          cases same
          exact absurd less above

-- An open breaker is closed by a rate that is not above the threshold and by
-- nothing else.
theorem open_seen (cfg : Settings) (now : ℚ) (id : String) (registry : Registry) (node : NodeRecord) (breaker : BreakerState)
    (after : Option BreakerState) (opened : breaker.state ≠ .closed)
    (seen : Seen cfg now id registry node (some breaker) after) :
    ∃ final ∈ after, (final.state = .halfOpen → breaker.state = .halfOpen ∨ breaker.expired cfg now = true) ∧
      (final.state = .closed ↔ ¬ Cut registry id ∧ ∃ rate ∈ rate? node.metrics, cfg.recovers rate = true) := by
  have clock := expire_open cfg now breaker opened
  cases seen with
  | skipped same unread =>
      subst same
      refine ⟨breaker, rfl, Or.inl, iff_of_false opened ?_⟩
      rintro ⟨reached, rate, read, _⟩
      rcases unread with cut | none
      · exact reached cut
      · simp [none] at read
  | unread unread result =>
      subst result
      refine ⟨_, rfl, clock.2, iff_of_false clock.1 ?_⟩
      rintro ⟨_, rate, read, _⟩
      simp [unread] at read
  | judged rate reached read verdict =>
      subst verdict
      refine ⟨_, rfl, ?_⟩
      rw [Option.getD_some]
      by_cases below : cfg.recovers rate = true
      · have state := judge_below cfg now rate (breaker.expire cfg now) below
        refine ⟨fun half => by simp [state] at half, iff_of_true state ?_⟩
        exact ⟨reached, rate, read, below⟩
      · have state := judge_ill cfg now rate (breaker.expire cfg now) (by simpa using below) clock.1
        refine ⟨fun half => clock.2 (state ▸ half), iff_of_false (state ▸ clock.1) ?_⟩
        rintro ⟨_, other, same, well⟩
        rw [read] at same
        cases same
        exact absurd well below

theorem unread_seen (cfg : Settings) (now : ℚ) (id : String) (registry : Registry) (node : NodeRecord)
    (before after : Option BreakerState) (unread : rate? node.metrics = none) (closed : ∀ breaker ∈ before, breaker.state = .closed)
    (seen : Seen cfg now id registry node before after) : ∀ breaker ∈ after, breaker.state = .closed := by
  have quiet := closed_default id before closed
  cases seen with
  | skipped same _ => exact same ▸ closed
  | unread _ clock =>
      intro breaker held
      rw [clock, expire_closed cfg now _ quiet] at held
      cases held
      exact quiet
  | judged rate _ read _ =>
      rw [unread] at read
      cases read

theorem reset_spec (nodeId id : String) (states : States) :
    (reset nodeId states).2.get? id = states.get? id ∨
      ∃ breaker ∈ (reset nodeId states).2.get? id, breaker.state = .closed := by
  simp only [reset]
  cases found : states.get? nodeId with
  | none => exact Or.inl rfl
  | some breaker =>
      by_cases closed : breaker.state = .closed
      · simp only [if_pos closed]
        exact Or.inl trivial
      · simp only [if_neg closed, Dict.get_set]
        by_cases same : id = nodeId
        · rw [if_pos same]
          exact Or.inr ⟨_, rfl, rfl⟩
        · rw [if_neg same]
          exact Or.inl rfl

end HuddleCluster.Breaker
