import HuddleCluster.Scheduler.RateLimit

set_option autoImplicit false

namespace HuddleCluster.Scheduler

open ClusterScheduler
open Double (nearest)

-- What the critical section of one call leaves in its phase, the heat and the
-- bindings.
inductive Outcome (cfg : Settings) (s : ClusterScheduler) (call : PickCall) (eligible : List NodeDict) (after : ClusterScheduler) :
    PickPhase → Prop where
  | bound (node : NodeDict) (found : s.boundNode call.affinityKey eligible = some node) (heat : after.heat = s.heat)
      (bindings : after.affinityMap = s.affinityMap) : Outcome cfg s call eligible after (.returned (some node))
  | failed (unbound : s.boundNode call.affinityKey eligible = none) (failure : s.select cfg call.now eligible = none)
      (heat : after.heat = s.heat) (bindings : after.affinityMap = s.affinityMap) : Outcome cfg s call eligible after .raised
  | nobody (unbound : s.boundNode call.affinityKey eligible = none) (unselected : s.select cfg call.now eligible = some none)
      (heat : after.heat = s.heat) (bindings : after.affinityMap = s.affinityMap) :
      Outcome cfg s call eligible after (.returned none)
  | selected (node : NodeDict) (warmth : ℚ) (unbound : s.boundNode call.affinityKey eligible = none)
      (chosen : s.select cfg call.now eligible = some (some node))
      (current : s.currentHeat cfg node.nodeId call.now = some warmth)
      (heat : after.heat = s.heat.set node.nodeId (nearest (warmth + 1), call.now))
      (bindings : after.affinityMap = (s.bind call.affinityKey node.nodeId).affinityMap) :
      Outcome cfg s call eligible after (.returned (some node))

structure Stepped (s : ClusterScheduler) (i : Nat) (call : PickCall) (phase : PickPhase) (after : ClusterScheduler) : Prop where
  here : s.calls[i]? = some call
  calls : after.calls = s.calls.set i { call with phase := phase }
  canary : after.canary = s.canary
  openBreakers : after.openBreakers = s.openBreakers

theorem consume_frame (cfg : Settings) (s : ClusterScheduler) (nodeId : String) (now : ℚ) :
    (s.consume cfg nodeId now).heat = s.heat ∧ (s.consume cfg nodeId now).affinityMap = s.affinityMap ∧
      (s.consume cfg nodeId now).calls = s.calls ∧ (s.consume cfg nodeId now).canary = s.canary ∧
      (s.consume cfg nodeId now).openBreakers = s.openBreakers := by
  simp only [consume]
  split <;> exact ⟨rfl, rfl, rfl, rfl, rfl⟩

theorem bind_outside (s : ClusterScheduler) (affinityKey : Option String) (nodeId : String) :
    (s.bind affinityKey nodeId).heat = s.heat ∧ (s.bind affinityKey nodeId).calls = s.calls ∧
      (s.bind affinityKey nodeId).canary = s.canary ∧ (s.bind affinityKey nodeId).openBreakers = s.openBreakers := by
  cases affinityKey <;> exact ⟨rfl, rfl, rfl, rfl⟩

theorem bind_bindings (s t : ClusterScheduler) (affinityKey : Option String) (nodeId : String)
    (same : t.affinityMap = s.affinityMap) : (t.bind affinityKey nodeId).affinityMap = (s.bind affinityKey nodeId).affinityMap := by
  cases affinityKey with
  | none => exact same
  | some key => simp only [ClusterScheduler.bind, same]

theorem get_bind (s : ClusterScheduler) (affinityKey : Option String) (nodeId key : String) :
    (s.bind affinityKey nodeId).affinityMap.get? key = if affinityKey = some key then some nodeId else s.affinityMap.get? key := by
  cases affinityKey with
  | none => simp [ClusterScheduler.bind]
  | some other =>
      rw [ClusterScheduler.bind, Dict.get_set]
      by_cases same : key = other
      · simp [same]
      · simp [same, Ne.symm same]

theorem choose_outcome (cfg : Settings) (s after : ClusterScheduler) (i : Nat) (now : ℚ)
    (taken : s.choose cfg i now = some after) :
    ∃ call eligible phase, call.phase = .choosing eligible ∧ Stepped s i call phase after ∧
      Outcome cfg s call eligible after phase := by
  simp only [choose] at taken
  split at taken
  · cases taken
  · rename_i call here
    split at taken
    · rename_i eligible choosing
      split at taken
      · rename_i node found
        cases taken
        exact ⟨call, eligible, _, choosing, ⟨here, rfl, rfl, rfl⟩, .bound node found rfl rfl⟩
      · rename_i unbound
        split at taken
        · rename_i failure
          cases taken
          exact ⟨call, eligible, _, choosing, ⟨here, rfl, rfl, rfl⟩, .failed unbound failure rfl rfl⟩
        · rename_i unselected
          cases taken
          exact ⟨call, eligible, _, choosing, ⟨here, rfl, rfl, rfl⟩, .nobody unbound unselected rfl rfl⟩
        · rename_i node chosen
          obtain ⟨warmed, raised⟩ := select_heat cfg s call.now eligible node chosen
          simp only [raised, Option.some.injEq] at taken
          subst taken
          obtain ⟨warmth, current, rfl⟩ := Option.map_eq_some_iff.mp raised
          obtain ⟨heat, bindings, calls, canary, openBreakers⟩ := consume_frame cfg
            (countWorkload { s with heat := s.heat.set node.nodeId (nearest (warmth + 1), call.now) } node.nodeId) node.nodeId now
          obtain ⟨boundHeat, boundCalls, boundCanary, boundBreakers⟩ := bind_outside
            ((countWorkload { s with heat := s.heat.set node.nodeId (nearest (warmth + 1),
              call.now) } node.nodeId).consume cfg node.nodeId now)
            call.affinityKey node.nodeId
          refine ⟨call, eligible, _, choosing, ⟨here, ?_, boundCanary.trans canary, boundBreakers.trans openBreakers⟩,
            .selected node warmth unbound chosen current (boundHeat.trans heat) (bind_bindings s _ call.affinityKey node.nodeId bindings)⟩
          exact congrArg (fun calls => calls.set i { call with phase := .returned (some node) }) (boundCalls.trans calls)
    · cases taken

def poolFor (cfg : Settings) (canary : Option Canary) (draw : ℚ) (eligible : List NodeDict) : Option (List NodeDict) :=
  match canary with
  | none => some eligible
  | some canary => pickPool cfg canary draw eligible

def pooled (cfg : Settings) (canary : Option Canary) (preferredRegion : Option String) (draw : ℚ) (eligible : List NodeDict) :
    PickPhase :=
  match poolFor cfg canary draw eligible with
  | none => .raised
  | some [] => .returned none
  | some pool =>
      match narrowRegion cfg preferredRegion pool with
      | none => .raised
      | some pool => .choosing pool

inductive Advance (cfg : Settings) (s : ClusterScheduler) (i : Nat) (call : PickCall) : PickEvent → PickPhase → Prop where
  | breakerDone (kept : List NodeDict) (phase : call.phase = .breaking [] kept) :
      Advance cfg s i call (.askBreaker i) (afterBreaker cfg kept)
  | breakerNext (node : NodeDict) (todo kept : List NodeDict) (phase : call.phase = .breaking (node :: todo) kept) :
      Advance cfg s i call (.askBreaker i) (.breaking todo (if s.openBreakers node.nodeId then kept else kept ++ [node]))
  | limiterDone (now : ℚ) (kept : List NodeDict) (phase : call.phase = .limiting [] kept) :
      Advance cfg s i call (.askLimiter i now) (afterLimiter kept)
  | limiterNext (now : ℚ) (limits : TokenBucket.Limits ℚ) (node : NodeDict) (todo kept : List NodeDict)
      (enabled : cfg.rateLimiter = some limits) (phase : call.phase = .limiting (node :: todo) kept) :
      Advance cfg s i call (.askLimiter i now) (.limiting todo
        (if ((getOrCreate limits s node.nodeId now).refill limits now).tokens < 1 then kept else kept ++ [node]))
  | poolChosen (draw : ℚ) (eligible : List NodeDict) (phase : call.phase = .pooling eligible) :
      Advance cfg s i call (.choosePool i draw) (pooled cfg s.canary call.preferredRegion draw eligible)

inductive Turn (cfg : Settings) (s after : ClusterScheduler) : PickEvent → Prop where
  | entered (now : ℚ) (nodes : List NodeDict) (affinityKey preferredRegion : Option String)
      (calls : after.calls = s.calls ++ [⟨now, affinityKey, preferredRegion, afterStatus cfg (nodes.filter NodeDict.eligible)⟩])
      (canary : after.canary = s.canary) (heat : after.heat = s.heat) (bindings : after.affinityMap = s.affinityMap) :
      Turn cfg s after (.pick now nodes affinityKey preferredRegion)
  | advanced (event : PickEvent) (i : Nat) (call : PickCall) (phase : PickPhase) (advance : Advance cfg s i call event phase)
      (stepped : Stepped s i call phase after) (heat : after.heat = s.heat) (bindings : after.affinityMap = s.affinityMap) :
      Turn cfg s after event
  | chosen (i : Nat) (now : ℚ) (call : PickCall) (eligible : List NodeDict) (phase : PickPhase)
      (choosing : call.phase = .choosing eligible) (stepped : Stepped s i call phase after)
      (outcome : Outcome cfg s call eligible after phase) : Turn cfg s after (.choose i now)
  | breakers (openBreakers : String → Bool) (calls : after.calls = s.calls) (canary : after.canary = s.canary)
      (heat : after.heat = s.heat) (bindings : after.affinityMap = s.affinityMap) : Turn cfg s after (.breakers openBreakers)
  | deployed (canary : Option Canary) (calls : after.calls = s.calls) (deployed : after.canary = canary)
      (heat : after.heat = s.heat) (bindings : after.affinityMap = s.affinityMap) : Turn cfg s after (.deploy canary)
  | reset (nodeId : String) (now : ℚ) (calls : after.calls = s.calls) (canary : after.canary = s.canary)
      (heat : after.heat = s.heat) (bindings : after.affinityMap = s.affinityMap) : Turn cfg s after (.reset nodeId now)

-- Whatever the clock reads, the step is one of the machine without a clock.
theorem pick_next_step (cfg : Settings) (s after : ClusterScheduler) (event : PickEvent)
    (taken : pickNext cfg s event = some after) :
    ∃ middle, pickStep cfg s event = some middle ∧ after = { middle with clock := after.clock } := by
  simp only [pickNext] at taken
  split at taken
  · exact ⟨after, taken, rfl⟩
  · split at taken
    · obtain ⟨middle, stepped, rfl⟩ := Option.map_eq_some_iff.mp taken
      exact ⟨middle, stepped, rfl⟩
    · cases taken

theorem pick_step_turn (cfg : Settings) (s after : ClusterScheduler) (event : PickEvent)
    (taken : pickStep cfg s event = some after) : Turn cfg s after event := by
  cases event with
  | pick now nodes affinityKey preferredRegion =>
      cases taken
      exact .entered now nodes affinityKey preferredRegion rfl rfl rfl rfl
  | askBreaker i =>
      simp only [pickStep, askBreaker] at taken
      split at taken
      · cases taken
      · rename_i call here
        split at taken
        · rename_i kept phase
          cases taken
          exact .advanced _ i call _ (.breakerDone kept phase) ⟨here, rfl, rfl, rfl⟩ rfl rfl
        · rename_i node todo kept phase
          cases taken
          exact .advanced _ i call _ (.breakerNext node todo kept phase) ⟨here, rfl, rfl, rfl⟩ rfl rfl
        · cases taken
  | askLimiter i now =>
      simp only [pickStep, askLimiter] at taken
      split at taken
      · rename_i call limits here enabled
        split at taken
        · rename_i kept phase
          cases taken
          exact .advanced _ i call _ (.limiterDone now kept phase) ⟨here, rfl, rfl, rfl⟩ rfl rfl
        · rename_i node todo kept phase
          cases taken
          exact .advanced _ i call _ (.limiterNext now limits node todo kept enabled phase) ⟨here, rfl, rfl, rfl⟩ rfl rfl
        · cases taken
      · cases taken
  | choosePool i draw =>
      simp only [pickStep, choosePool] at taken
      split at taken
      · cases taken
      · rename_i call here
        split at taken
        · rename_i eligible phase
          cases taken
          exact .advanced _ i call _ (.poolChosen draw eligible phase) ⟨here, rfl, rfl, rfl⟩ rfl rfl
        · cases taken
  | choose i now =>
      obtain ⟨call, eligible, phase, choosing, stepped, outcome⟩ := choose_outcome cfg s after i now taken
      exact .chosen i now call eligible phase choosing stepped outcome
  | breakers openBreakers =>
      cases taken
      exact .breakers openBreakers rfl rfl rfl rfl
  | deploy canary =>
      cases taken
      exact .deployed canary rfl rfl rfl rfl
  | reset nodeId now =>
      cases taken
      have frame : ∀ t, t = s.reset cfg nodeId now → t.calls = s.calls ∧ t.canary = s.canary ∧ t.heat = s.heat ∧
          t.affinityMap = s.affinityMap := by
        rintro t rfl
        simp only [ClusterScheduler.reset]
        split <;> exact ⟨rfl, rfl, rfl, rfl⟩
      obtain ⟨calls, canary, heat, bindings⟩ := frame _ rfl
      exact .reset nodeId now calls canary heat bindings

theorem pick_next_turn (cfg : Settings) (s after : ClusterScheduler) (event : PickEvent)
    (taken : pickNext cfg s event = some after) : Turn cfg s after event := by
  obtain ⟨middle, made, clock⟩ := pick_next_step cfg s after event taken
  have turn := pick_step_turn cfg s middle event made
  rw [clock]
  cases turn with
  | entered now nodes affinityKey preferredRegion calls canary heat bindings =>
      exact .entered now nodes affinityKey preferredRegion calls canary heat bindings
  | advanced _ i call phase advance stepped heat bindings =>
      exact .advanced event i call phase advance ⟨stepped.here, stepped.calls, stepped.canary, stepped.openBreakers⟩ heat bindings
  | chosen i now call eligible phase choosing stepped outcome =>
      refine .chosen i now call eligible phase choosing ⟨stepped.here, stepped.calls, stepped.canary, stepped.openBreakers⟩ ?_
      cases outcome with
      | bound node found heat bindings => exact .bound node found heat bindings
      | failed unbound failure heat bindings => exact .failed unbound failure heat bindings
      | nobody unbound unselected heat bindings => exact .nobody unbound unselected heat bindings
      | selected node warmth unbound chosen current heat bindings =>
          exact .selected node warmth unbound chosen current heat bindings
  | breakers openBreakers calls canary heat bindings => exact .breakers openBreakers calls canary heat bindings
  | deployed canary calls deployed heat bindings => exact .deployed canary calls deployed heat bindings
  | reset nodeId now calls canary heat bindings => exact .reset nodeId now calls canary heat bindings

-- No node is cooler than an unused one.
def Warm (s : ClusterScheduler) : Prop := ∀ nodeId heat lastTime, s.heat.get? nodeId = some (heat, lastTime) → 0 ≤ heat

theorem current_heat_nonneg (cfg : Settings) (halving : ∀ age, 0 ≤ cfg.halve age) (s : ClusterScheduler) (warm : Warm s)
    (nodeId : String) (now heat : ℚ) (current : s.currentHeat cfg nodeId now = some heat) : 0 ≤ heat := by
  simp only [currentHeat] at current
  split at current
  · cases current
    exact le_refl 0
  · rename_i old lastTime stored
    obtain ⟨share, shared, rfl⟩ := Option.map_eq_some_iff.mp current
    obtain ⟨age, _, halved⟩ := Option.bind_eq_some_iff.mp shared
    have nonneg : 0 ≤ share := by
      rw [share?] at halved
      split at halved
      · cases halved
      · cases halved
        exact halving age
    exact Double.nearest_nonneg _ (mul_nonneg (warm nodeId old lastTime stored) nonneg)

theorem one_le_divisor (heat : ℚ) (warm : 0 ≤ heat) : 1 ≤ nearest (1 + heat) := by
  exact Double.nearest_one.ge.trans (Double.nearest_mono (le_add_of_nonneg_right warm))

theorem score_nonneg (cfg : Settings) (halving : ∀ age, 0 ≤ cfg.halve age) (s : ClusterScheduler) (warm : Warm s) (now : ℚ)
    (node : NodeDict) (status : String) (has : node.hasStatus status = true) (serving : status ≠ "dead" ∧ status ≠ "leaving")
    (score : ℚ) (scoring : s.score cfg now node = some score) : 0 ≤ score := by
  simp only [ClusterScheduler.score] at scoring
  split at scoring
  · cases scoring
  · rename_i fit computed
    have fits := fitness_nonneg node fit status has serving computed
    rw [if_neg (not_lt.mpr fits)] at scoring
    split at scoring
    · cases scoring
    · rename_i heat current
      have heated := current_heat_nonneg cfg halving s warm node.nodeId now heat current
      have divisor := one_le_divisor heat heated
      rw [divide?, if_neg (by linarith), Option.map_some] at scoring
      cases scoring
      exact Double.nearest_nonneg _ (div_nonneg fits (by linarith))

theorem best_nobody (cfg : Settings) (s : ClusterScheduler) (now : ℚ) (nodes : List NodeDict)
    (nobody : s.best cfg now nodes = some none) (node : NodeDict) (member : node ∈ nodes) :
    ∃ score, s.score cfg now node = some score ∧ score < 0 := by
  obtain ⟨ranked, computed, nobody⟩ := Option.map_eq_some_iff.mp nobody
  split at nobody
  · rename_i empty
    obtain ⟨_, _, inside⟩ := Leader.scored_member _ nodes ranked computed node member
    rw [List.argmax_eq_none.mp empty] at inside
    cases inside
  · rename_i top highest found
    split at nobody
    · cases nobody
    · rename_i negative
      have leads := Leader.argmax_leads _ nodes ranked computed top highest found
      obtain ⟨score, scoring, below⟩ := Leader.leads_bound _ nodes top highest leads node member
      exact ⟨score, scoring, below.trans_lt (not_le.mp negative)⟩

def competitors (cfg : Settings) (eligible : List NodeDict) : List NodeDict :=
  if cfg.preferAlive then
    let alive := eligible.filter fun node => node.hasStatus "alive"
    if alive.isEmpty then eligible.filter fun node => node.hasStatus "quarantined" else alive
  else eligible

theorem select_competitors (cfg : Settings) (halving : ∀ age, 0 ≤ cfg.halve age) (s : ClusterScheduler) (warm : Warm s) (now : ℚ)
    (eligible : List NodeDict) : s.select cfg now eligible = s.best cfg now (competitors cfg eligible) := by
  simp only [select, competitors]
  by_cases prefers : cfg.preferAlive = true
  · rw [if_pos prefers, if_pos prefers]
    cases some : eligible.filter fun node => node.hasStatus "alive" with
    | nil => rfl
    | cons alive others =>
        have inside : alive ∈ eligible.filter fun node => node.hasStatus "alive" := by
          rw [some]
          exact List.mem_cons_self
        have has : alive.hasStatus "alive" = true := (List.mem_filter.mp inside).2
        rw [List.isEmpty_cons, if_neg Bool.false_ne_true]
        split
        · rename_i failure
          exact failure.symm
        · rename_i node chosen
          exact chosen.symm
        · rename_i nobody
          obtain ⟨score, scoring, negative⟩ := best_nobody cfg s now _ nobody alive List.mem_cons_self
          exact absurd (score_nonneg cfg halving s warm now alive "alive" has (by decide) score scoring) (not_le.mpr negative)
  · rw [if_neg prefers, if_neg prefers]

theorem select_alive (cfg : Settings) (prefers : cfg.preferAlive = true) (halving : ∀ age, 0 ≤ cfg.halve age)
    (s : ClusterScheduler) (warm : Warm s) (now : ℚ) (eligible : List NodeDict) (alive : NodeDict) (member : alive ∈ eligible)
    (has : alive.hasStatus "alive" = true) (found : Option NodeDict) (selected : s.select cfg now eligible = some found) :
    ∃ node, found = some node ∧ node.hasStatus "alive" = true := by
  have inside : alive ∈ eligible.filter fun node => node.hasStatus "alive" := List.mem_filter.mpr ⟨member, has⟩
  have nonempty : ¬ (eligible.filter fun node => node.hasStatus "alive").isEmpty = true := by
    rw [List.isEmpty_iff]
    exact List.ne_nil_of_mem inside
  have alone : competitors cfg eligible = eligible.filter fun node => node.hasStatus "alive" := by
    rw [competitors, if_pos prefers]
    exact if_neg nonempty
  rw [select_competitors cfg halving s warm now eligible, alone] at selected
  cases found with
  | none =>
      obtain ⟨score, scoring, negative⟩ := best_nobody cfg s now _ selected alive inside
      exact absurd (score_nonneg cfg halving s warm now alive "alive" has (by decide) score scoring) (not_le.mpr negative)
  | some node =>
      obtain ⟨score, leads, _⟩ := best_leads cfg s now _ node selected
      exact ⟨node, rfl, (List.mem_filter.mp (Leader.leads_member _ _ node score leads)).2⟩

theorem warm_step (cfg : Settings) (halving : ∀ age, 0 ≤ cfg.halve age) (s after : ClusterScheduler) (event : PickEvent)
    (warm : Warm s) (taken : pickNext cfg s event = some after) : Warm after := by
  have unchanged : after.heat = s.heat → Warm after := by
    intro same nodeId heat lastTime stored
    rw [same] at stored
    exact warm nodeId heat lastTime stored
  cases pick_next_turn cfg s after event taken with
  | entered now nodes affinityKey preferredRegion calls canary heat bindings => exact unchanged heat
  | advanced _ i call phase advance stepped heat bindings => exact unchanged heat
  | breakers openBreakers calls canary heat bindings => exact unchanged heat
  | deployed canary calls deployed heat bindings => exact unchanged heat
  | reset nodeId now calls canary heat bindings => exact unchanged heat
  | chosen i now call eligible phase choosing stepped outcome =>
      cases outcome with
      | bound node found heat bindings => exact unchanged heat
      | failed unbound failure heat bindings => exact unchanged heat
      | nobody unbound unselected heat bindings => exact unchanged heat
      | selected node warmth unbound chosen current heat bindings =>
          intro nodeId value lastTime stored
          rw [heat, Dict.get_set] at stored
          by_cases same : nodeId = node.nodeId
          · rw [if_pos same] at stored
            cases stored
            have warmer := current_heat_nonneg cfg halving s warm node.nodeId call.now warmth current
            exact Double.nearest_nonneg _ (add_nonneg warmer zero_le_one)
          · rw [if_neg same] at stored
            exact warm nodeId value lastTime stored

end HuddleCluster.Scheduler
