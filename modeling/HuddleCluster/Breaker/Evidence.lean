import HuddleCluster.Breaker.HalfOpen

set_option autoImplicit false

namespace HuddleCluster.Breaker

open Master (NodeRecord Registry)

-- What happens to the breaker of one node: an evaluation that reads its error rate,
-- and whether the breaker was closed at that moment, or a reset by hand.
inductive Sight where
  | rate (errorRate : Double) (closed : Bool)
  | reset

-- The rate that an evaluation sees: it gets to the node, and the node has a rate that
-- float() takes.
def seenRate? (registry : Registry) (id : String) : Option Double :=
  if Cut registry id then none else (registry.nodes.get? id).bind fun node => rate? node.metrics

namespace Sight

def trips (cfg : Settings) : Sight → Prop
  | .rate errorRate closed => cfg.exceeds errorRate = true ∧ closed = true
  | .reset => False

def keeps (cfg : Settings) : Sight → Prop
  | .rate errorRate _ => cfg.recovers errorRate = false
  | .reset => False

end Sight

-- A rate above the threshold was seen while the breaker was closed, and since then
-- neither one that is not above it nor a reset. Of nan neither is said.
def Evidence (cfg : Settings) (history : List Sight) : Prop :=
  ∃ before sight after, history = before ++ sight :: after ∧ sight.trips cfg ∧ ∀ later ∈ after, later.keeps cfg

-- A node has a closed breaker until the first evaluation that gets to it.
def States.breaker (states : States) (id : String) : BreakerState := (states.get? id).getD { nodeId := id }

-- The history and the number of times that the breaker of the node has gone from closed
-- to open are not kept by the program.
structure BreakerLog where
  states : States
  history : List Sight
  trips : Nat

namespace BreakerLog

def fresh : BreakerLog := ⟨.empty, [], 0⟩

def next (cfg : Settings) (id : String) (s : BreakerLog) : BreakerEvent → Option BreakerLog
  | .evaluate now listed registry =>
      let states := evaluate cfg now (Scheduler.nodes listed registry) s.states
      let closed := decide ((s.states.breaker id).state = .closed)
      let opened := decide ((states.breaker id).state = .opened)
      some {
        states := states
        history := s.history ++ ((seenRate? registry id).map fun rate => Sight.rate rate closed).toList
        trips := if closed && opened then s.trips + 1 else s.trips }
  | .reset nodeId => some { s with
      states := (reset nodeId s.states).2
      history := if nodeId = id then s.history ++ [.reset] else s.history }

end BreakerLog

structure Determined (cfg : Settings) (breaker : BreakerState) (history : List Sight) (trips : Nat) : Prop where
  tripped : breaker.state ≠ .closed ↔ Evidence cfg history
  stamped : breaker.trippedAt.isSome = true ↔ breaker.state ≠ .closed
  counted : breaker.tripCount = trips

theorem evidence_nil (cfg : Settings) : ¬ Evidence cfg [] := by
  rintro ⟨before, sight, after, whole, _⟩
  simp at whole

theorem evidence_snoc (cfg : Settings) (history : List Sight) (sight : Sight) :
    Evidence cfg (history ++ [sight]) ↔ (Evidence cfg history ∧ sight.keeps cfg) ∨ sight.trips cfg := by
  constructor
  · rintro ⟨before, tripping, after, whole, trips, keeps⟩
    rcases List.eq_nil_or_concat after with rfl | ⟨earlier, last, rfl⟩
    · obtain rfl : sight = tripping := by simpa using (List.append_inj' whole rfl).2
      exact Or.inr trips
    · rw [List.concat_eq_append] at whole keeps
      obtain ⟨rfl, same⟩ := List.append_inj' (whole.trans (List.append_assoc before (tripping :: earlier) [last]).symm) rfl
      obtain rfl : sight = last := by simpa using same
      exact Or.inl ⟨⟨before, tripping, earlier, rfl, trips, fun later member => keeps later (List.mem_append_left _ member)⟩,
        keeps sight (by simp)⟩
  · rintro (⟨⟨before, tripping, after, rfl, trips, keeps⟩, kept⟩ | trips)
    · refine ⟨before, tripping, after ++ [sight], by simp, trips, ?_⟩
      intro later member
      rcases List.mem_append.mp member with earlier | last
      · exact keeps later earlier
      · exact List.mem_singleton.mp last ▸ kept
    · exact ⟨history, sight, [], rfl, trips, by simp⟩

-- What an evaluation makes of a breaker, by the rate that it sees.
inductive Looked (cfg : Settings) (now : ℚ) (breaker : BreakerState) : Option Double → BreakerState → Prop where
  | skipped : Looked cfg now breaker none breaker
  | unread : Looked cfg now breaker none (breaker.expire cfg now)
  | judged (rate : Double) : Looked cfg now breaker (some rate) ((breaker.expire cfg now).judge cfg now rate)

theorem evaluate_looked (cfg : Settings) (now : ℚ) (listed : String → ℚ) (registry : Registry) (states : States) (id : String) :
    Looked cfg now (states.breaker id) (seenRate? registry id)
      (States.breaker (evaluate cfg now (Scheduler.nodes listed registry) states) id) := by
  cases found : registry.nodes.get? id with
  | none =>
      have same := evaluate_unregistered cfg now listed registry states id found
      have unseen : seenRate? registry id = none := by
        rw [seenRate?, found]
        exact ite_self _
      rw [unseen, States.breaker, States.breaker, same]
      exact .skipped
  | some node =>
      have rate : seenRate? registry id = if Cut registry id then none else rate? node.metrics := by
        rw [seenRate?, found]
        rfl
      rw [rate]
      cases evaluate_seen cfg now listed registry states id node found with
      | skipped same unread =>
          rw [States.breaker, States.breaker, same]
          rcases unread with cut | none
          · rw [if_pos cut]
            exact .skipped
          · rw [none, ite_self]
            exact .skipped
      | unread unread clock =>
          rw [unread, ite_self, States.breaker, States.breaker, clock]
          exact .unread
      | judged value reached read verdict =>
          rw [if_neg reached, read, States.breaker, States.breaker, verdict]
          exact .judged value

theorem expire_fields (cfg : Settings) (now : ℚ) (breaker : BreakerState) :
    (breaker.expire cfg now).trippedAt = breaker.trippedAt ∧ (breaker.expire cfg now).tripCount = breaker.tripCount ∧
      ((breaker.expire cfg now).state = .closed ↔ breaker.state = .closed) := by
  rw [BreakerState.expire]
  split
  · rename_i late
    simp [late.1]
  · simp

-- A timeout alone changes nothing that the evidence speaks of.
theorem determined_expire (cfg : Settings) (now : ℚ) (breaker : BreakerState) (history : List Sight) (trips : Nat)
    (determined : Determined cfg breaker history trips) : Determined cfg (breaker.expire cfg now) history trips := by
  obtain ⟨trippedAt, tripCount, closed⟩ := expire_fields cfg now breaker
  refine ⟨?_, ?_, tripCount.trans determined.counted⟩
  · rw [ne_eq, closed]
    exact determined.tripped
  · rw [trippedAt, ne_eq, closed]
    exact determined.stamped

theorem unopened (breaker after : BreakerState) (trips : Nat) (same : after.state = .closed ↔ breaker.state = .closed) :
    (if decide (breaker.state = .closed) && decide (after.state = .opened) then trips + 1 else trips) = trips := by
  by_cases closed : breaker.state = .closed
  · simp [closed, same.mpr closed]
  · simp [closed]

theorem judge_cleared (cfg : Settings) (now : ℚ) (rate : Double) (breaker : BreakerState) (below : cfg.recovers rate = true)
    (unset : breaker.state = .closed → breaker.trippedAt = none) :
    (breaker.judge cfg now rate).trippedAt = none ∧ (breaker.judge cfg now rate).tripCount = breaker.tripCount := by
  have unmoved := exceeds_recovers cfg rate below
  by_cases closed : breaker.state = .closed
  · simp [BreakerState.judge, closed, unmoved, unset closed]
  · simp [BreakerState.judge, closed, unmoved, below]

theorem determined_judge (cfg : Settings) (now : ℚ) (rate : Double) (breaker : BreakerState) (history : List Sight) (trips : Nat)
    (determined : Determined cfg breaker history trips) :
    Determined cfg (breaker.judge cfg now rate) (history ++ [.rate rate (decide (breaker.state = .closed))])
      (if decide (breaker.state = .closed) && decide ((breaker.judge cfg now rate).state = .opened) then trips + 1 else trips) := by
  have unset : breaker.state = .closed → breaker.trippedAt = none := by
    intro closed
    rw [← Option.not_isSome_iff_eq_none, determined.stamped]
    exact not_not_intro closed
  by_cases below : cfg.recovers rate = true
  · have shut : (breaker.judge cfg now rate).state = .closed := judge_below cfg now rate breaker below
    obtain ⟨empty, counted⟩ := judge_cleared cfg now rate breaker below unset
    have cleared : ¬ Evidence cfg (history ++ [.rate rate (decide (breaker.state = .closed))]) := by
      rw [evidence_snoc]
      rintro (⟨_, ill⟩ | ⟨above, _⟩)
      · rw [Sight.keeps, below] at ill
        cases ill
      · rw [exceeds_recovers cfg rate below] at above
        cases above
    refine ⟨iff_of_false (not_not_intro shut) cleared, iff_of_false (by simp [empty]) (not_not_intro shut), ?_⟩
    rw [counted, shut]
    simpa using determined.counted
  · have ill : cfg.recovers rate = false := by simpa using below
    by_cases closed : breaker.state = .closed
    · by_cases above : cfg.exceeds rate = true
      · have evidence : Evidence cfg (history ++ [.rate rate true]) := (evidence_snoc cfg history _).mpr (Or.inr ⟨above, rfl⟩)
        have opened : breaker.judge cfg now rate =
            { breaker with lastErrorRate := rate, state := .opened, trippedAt := some now, tripCount := breaker.tripCount + 1 } := by
          simp [BreakerState.judge, above, closed]
        rw [opened]
        simp only [closed, decide_true, Bool.and_self, if_true]
        exact ⟨iff_of_true (by simp) evidence, iff_of_true rfl (by simp), congrArg (· + 1) determined.counted⟩
      · have noted : breaker.judge cfg now rate = { breaker with lastErrorRate := rate } := by
          simp [BreakerState.judge, closed, above]
        have nothing : ¬ Evidence cfg (history ++ [.rate rate true]) := by
          rw [evidence_snoc]
          rintro (⟨earlier, _⟩ | ⟨tripping, _⟩)
          · exact determined.tripped.mpr earlier closed
          · exact above tripping
        rw [noted]
        simp only [closed, decide_true, reduceCtorEq, decide_false, Bool.and_false, Bool.false_eq_true, if_false]
        exact ⟨iff_of_false (by simp) nothing, by simpa [closed] using determined.stamped, determined.counted⟩
    · have noted : breaker.judge cfg now rate = { breaker with lastErrorRate := rate } := by
        simp [BreakerState.judge, closed, ill]
      have kept : Evidence cfg (history ++ [.rate rate false]) :=
        (evidence_snoc cfg history _).mpr (Or.inl ⟨determined.tripped.mp closed, ill⟩)
      rw [noted]
      simp only [closed, decide_false, Bool.false_and, Bool.false_eq_true, if_false]
      exact ⟨iff_of_true closed kept, determined.stamped, determined.counted⟩

theorem determined_looked (cfg : Settings) (now : ℚ) (breaker after : BreakerState) (seen : Option Double)
    (history : List Sight) (trips : Nat)
    (determined : Determined cfg breaker history trips) (looked : Looked cfg now breaker seen after) :
    Determined cfg after (history ++ (seen.map fun rate => Sight.rate rate (decide (breaker.state = .closed))).toList)
      (if decide (breaker.state = .closed) && decide (after.state = .opened) then trips + 1 else trips) := by
  have clock := determined_expire cfg now breaker history trips determined
  have same := (expire_fields cfg now breaker).2.2
  cases looked with
  | skipped =>
      rw [unopened breaker breaker trips Iff.rfl]
      simpa using determined
  | unread =>
      rw [unopened breaker _ trips same]
      simpa using clock
  | judged rate =>
      simp only [Option.map_some, Option.toList_some, ← same]
      exact determined_judge cfg now rate (breaker.expire cfg now) history trips clock

theorem breaker_reset (nodeId id : String) (states : States) :
    States.breaker (reset nodeId states).2 id =
      if nodeId = id ∧ (states.breaker id).state ≠ .closed then { states.breaker id with state := .closed, trippedAt := none }
      else states.breaker id := by
  rw [reset]
  cases held : states.get? nodeId with
  | none =>
      rw [if_neg]
      rintro ⟨rfl, opened⟩
      simp [States.breaker, held] at opened
  | some breaker =>
      by_cases closed : breaker.state = .closed
      · rw [if_neg]
        · simp [closed]
        · rintro ⟨rfl, opened⟩
          simp [States.breaker, held, closed] at opened
      · by_cases same : nodeId = id
        · subst same
          simp [States.breaker, held, closed]
        · simp [States.breaker, closed, same, Ne.symm same]

theorem determined_reset (cfg : Settings) (breaker : BreakerState) (history : List Sight) (trips : Nat)
    (determined : Determined cfg breaker history trips) :
    Determined cfg (if breaker.state ≠ .closed then { breaker with state := .closed, trippedAt := none } else breaker)
      (history ++ [.reset]) trips := by
  have cleared : ¬ Evidence cfg (history ++ [.reset]) := by
    rw [evidence_snoc]
    rintro (⟨_, kept⟩ | trips)
    · exact kept
    · exact trips
  by_cases closed : breaker.state = .closed
  · rw [if_neg (not_not_intro closed)]
    exact ⟨iff_of_false (not_not_intro closed) cleared, determined.stamped, determined.counted⟩
  · rw [if_pos closed]
    exact ⟨iff_of_false (by simp) cleared, iff_of_false (by simp) (by simp), determined.counted⟩

theorem determined_step (cfg : Settings) (id : String) (s after : BreakerLog) (event : BreakerEvent)
    (determined : Determined cfg (s.states.breaker id) s.history s.trips) (taken : s.next cfg id event = some after) :
    Determined cfg (after.states.breaker id) after.history after.trips := by
  cases event with
  | evaluate now listed registry =>
      cases taken
      exact determined_looked cfg now _ _ _ _ _ determined (evaluate_looked cfg now listed registry s.states id)
  | reset nodeId =>
      cases taken
      have result := breaker_reset nodeId id s.states
      by_cases same : nodeId = id
      · simp only [same, true_and] at result
        simp only [same, if_true, result]
        exact determined_reset cfg _ _ _ determined
      · simp only [same, false_and, if_false] at result
        simp only [same, if_false, result]
        exact determined

-- Whatever is evaluated and reset, the breaker of a node is what its history makes it.
theorem evidence_determines (cfg : Settings) (id : String) (events : List BreakerEvent) (s : BreakerLog)
    (run : Runs.Run (BreakerLog.next cfg id) (fun _ _ => True) .fresh events s) :
    ((s.states.breaker id).state ≠ .closed ↔ Evidence cfg s.history) ∧
      ((s.states.breaker id).trippedAt.isSome = true ↔ (s.states.breaker id).state ≠ .closed) ∧
        (s.states.breaker id).tripCount = s.trips := by
  have determined : Determined cfg (s.states.breaker id) s.history s.trips := by
    refine Runs.run_invariant (BreakerLog.next cfg id) (fun _ _ => True)
      (fun s => Determined cfg (s.states.breaker id) s.history s.trips) ?_ .fresh s events ?_ run
    · exact fun state event after determined _ taken => determined_step cfg id state after event determined taken
    · exact ⟨iff_of_false (not_not_intro rfl) (evidence_nil cfg), iff_of_false Bool.false_ne_true (not_not_intro rfl), rfl⟩
  exact ⟨determined.tripped, determined.stamped, determined.counted⟩

theorem evidence_determines_again : ∃ s ∈ Runs.follow (BreakerLog.next {} "a") (fun _ _ => True) .fresh
    [evaluation 0 (9 / 10), evaluation 40 (9 / 10), evaluation 50 (1 / 10), .reset "a", evaluation 60 (9 / 10)],
      s.trips = 2 ∧ (s.states.breaker "a").tripCount = 2 ∧ Evidence {} s.history := by
  obtain ⟨s, followed, twice, opened⟩ : ∃ s ∈ Runs.follow (BreakerLog.next {} "a") (fun _ _ => True) .fresh
      [evaluation 0 (9 / 10), evaluation 40 (9 / 10), evaluation 50 (1 / 10), .reset "a", evaluation 60 (9 / 10)],
        s.trips = 2 ∧ (s.states.breaker "a").state ≠ .closed := by decide +kernel
  obtain ⟨tripped, _, counted⟩ := evidence_determines {} "a" _ s (Runs.follow_run _ _ _ s _ followed)
  exact ⟨s, followed, twice, counted.trans twice, tripped.mp opened⟩

end HuddleCluster.Breaker
