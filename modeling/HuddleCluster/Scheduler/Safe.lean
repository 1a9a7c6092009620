import HuddleCluster.Scheduler.Pools

set_option autoImplicit false

namespace HuddleCluster.Scheduler

open ClusterScheduler

-- A node that can be scored, and whose metadata can be looked into.
structure Placeable (node : NodeDict) : Prop where
  rated : nodeFitness node ≠ none
  described : node.section? "metadata" ≠ none

def Safe : PickPhase → Prop
  | .breaking todo kept | .limiting todo kept => ∀ node, node ∈ kept ∨ node ∈ todo → Placeable node
  | .pooling eligible | .choosing eligible => ∀ node ∈ eligible, Placeable node
  | .returned _ => True
  | .raised => False

theorem safe_settle (next : List NodeDict → PickPhase) (kept : List NodeDict) (safe : Safe (next kept)) : Safe (settle next kept) := by
  rw [settle]
  split
  · trivial
  · exact safe

theorem safe_after_breaker (cfg : Settings) (kept : List NodeDict) (placeable : ∀ node ∈ kept, Placeable node) :
    Safe (afterBreaker cfg kept) := by
  apply safe_settle
  by_cases limited : cfg.rateLimiter.isSome = true
  · rw [if_pos limited]
    exact fun node member => placeable node (by simpa using member)
  · rw [if_neg limited]
    exact placeable

theorem safe_after_status (cfg : Settings) (kept : List NodeDict) (placeable : ∀ node ∈ kept, Placeable node) :
    Safe (afterStatus cfg kept) := by
  apply safe_settle
  by_cases broken : cfg.circuitBreaker = true
  · rw [if_pos broken]
    exact fun node member => placeable node (by simpa using member)
  · rw [if_neg broken]
    by_cases limited : cfg.rateLimiter.isSome = true
    · rw [if_pos limited]
      exact fun node member => placeable node (by simpa using member)
    · rw [if_neg limited]
      exact placeable

theorem safe_next (node : NodeDict) (todo kept : List NodeDict) (dropped : Prop) [Decidable dropped]
    (placeable : ∀ other, other ∈ kept ∨ other ∈ node :: todo → Placeable other) (other : NodeDict)
    (member : other ∈ (if dropped then kept else kept ++ [node]) ∨ other ∈ todo) : Placeable other := by
  apply placeable other
  rcases member with inside | later
  · split at inside
    · exact Or.inl inside
    · rcases List.mem_append.mp inside with earlier | here
      · exact Or.inl earlier
      · exact Or.inr (List.mem_cons.mpr (Or.inl (List.mem_singleton.mp here)))
  · exact Or.inr (List.mem_cons_of_mem node later)

theorem tag_read (cfg : Settings) (canary : Canary) (node : NodeDict) (placeable : Placeable node) :
    isCanary cfg canary node ≠ none := by
  rw [isCanary]
  split
  · simp
  · simpa using placeable.described

theorem region_read (cfg : Settings) (node : NodeDict) (placeable : Placeable node) : regionOf cfg node ≠ none := by
  simpa [regionOf] using placeable.described

theorem pool_placeable (cfg : Settings) (canary : Option Canary) (draw : ℚ) (nodes : List NodeDict)
    (placeable : ∀ node ∈ nodes, Placeable node) :
    ∃ pool, poolFor cfg canary draw nodes = some pool ∧ ∀ node ∈ pool, Placeable node := by
  cases canary with
  | none => exact ⟨nodes, rfl, placeable⟩
  | some canary =>
      by_cases split : splits canary = true
      · refine ⟨nodes.filter (onSide cfg canary draw nodes), ?_, fun node member => placeable node (List.mem_filter.mp member).1⟩
        exact pick_pool_split cfg canary draw nodes split fun node member => tag_read cfg canary node (placeable node member)
      · exact ⟨nodes, pick_pool_idle cfg canary draw nodes (by simpa using split), placeable⟩

theorem region_placeable (cfg : Settings) (preferredRegion : Option String) (nodes : List NodeDict)
    (placeable : ∀ node ∈ nodes, Placeable node) :
    ∃ pool, narrowRegion cfg preferredRegion nodes = some pool ∧ ∀ node ∈ pool, Placeable node := by
  by_cases blank : preferredRegion = none ∨ preferredRegion = some ""
  · exact ⟨nodes, narrow_region_blank cfg nodes preferredRegion blank, placeable⟩
  · push Not at blank
    obtain ⟨region, rfl⟩ := Option.ne_none_iff_exists'.mp blank.1
    have named : region ≠ "" := fun empty => blank.2 (congrArg some empty)
    refine ⟨_, narrow_region_named cfg region named nodes fun node member => region_read cfg node (placeable node member), ?_⟩
    split
    · exact placeable
    · exact fun node member => placeable node (List.mem_filter.mp member).1

theorem safe_pooled (cfg : Settings) (canary : Option Canary) (preferredRegion : Option String) (draw : ℚ) (nodes : List NodeDict)
    (placeable : ∀ node ∈ nodes, Placeable node) : Safe (pooled cfg canary preferredRegion draw nodes) := by
  obtain ⟨pool, chosen, fine⟩ := pool_placeable cfg canary draw nodes placeable
  obtain ⟨narrowed, region, kept⟩ := region_placeable cfg preferredRegion pool fine
  simp only [pooled, chosen]
  cases pool with
  | nil => trivial
  | cons head tail =>
      simp only [region]
      exact kept

theorem advance_safe (cfg : Settings) (s : ClusterScheduler) (i : Nat) (call : PickCall) (event : PickEvent) (phase : PickPhase)
    (advance : Advance cfg s i call event phase) (safe : Safe call.phase) : Safe phase := by
  cases advance with
  | breakerDone kept at' =>
      rw [at'] at safe
      exact safe_after_breaker cfg kept fun node member => safe node (Or.inl member)
  | breakerNext node todo kept at' =>
      rw [at'] at safe
      exact safe_next node todo kept _ safe
  | limiterDone now kept at' =>
      rw [at'] at safe
      exact safe_settle _ kept fun node member => safe node (Or.inl member)
  | limiterNext now limits node todo kept enabled at' =>
      rw [at'] at safe
      exact safe_next node todo kept _ safe
  | poolChosen draw eligible at' =>
      rw [at'] at safe
      exact safe_pooled cfg s.canary call.preferredRegion draw eligible safe

-- A scheduler with a half-life. The power 0.5 ** age is never negative.
structure Halving (cfg : Settings) : Prop where
  cooldown : cfg.cooldown ≠ 0
  nonneg : ∀ age, 0 ≤ cfg.halve age

-- The clock has not been set back so far that the power of a heat's age has no double.
def Mild (cfg : Settings) (s : ClusterScheduler) (now : ℚ) : Prop :=
  ∀ entry ∈ s.heat.entries, ∀ age ∈ age? cfg (now - entry.2.2), -1024 < age

instance (cfg : Settings) (s : ClusterScheduler) (now : ℚ) : Decidable (Mild cfg s now) := by
  unfold Mild
  infer_instance

-- Each call chooses in such a time.
def Timely (cfg : Settings) (s : ClusterScheduler) : PickEvent → Prop
  | .choose i _ => ∀ call ∈ s.calls[i]?, Mild cfg s call.now
  | _ => True

theorem heat_defined (cfg : Settings) (cooling : cfg.cooldown ≠ 0) (s : ClusterScheduler) (nodeId : String) (now : ℚ)
    (mild : Mild cfg s now) :
    ∃ heat, s.currentHeat cfg nodeId now = some heat := by
  rw [currentHeat]
  cases stored : s.heat.get? nodeId with
  | none => exact ⟨0, rfl⟩
  | some entry =>
      have aged : age? cfg (now - entry.2) = some (Double.nearest (Double.nearest (now - entry.2) / cfg.cooldown)) := by
        rw [age?, divide?, if_neg cooling, Option.map_some]
      have recent := mild (nodeId, entry) ((Dict.get_mem _ _ _).mp stored) _ aged
      simp only [aged, Option.bind_some, share?, if_neg (not_le.mpr recent), Option.map_some]
      exact ⟨_, rfl⟩

theorem score_defined (cfg : Settings) (halving : Halving cfg) (s : ClusterScheduler) (warm : Warm s) (now : ℚ) (mild : Mild cfg s now)
    (node : NodeDict) (placeable : Placeable node) : ∃ score, s.score cfg now node = some score := by
  obtain ⟨fit, rated⟩ := Option.ne_none_iff_exists'.mp placeable.rated
  simp only [ClusterScheduler.score, rated]
  by_cases negative : fit < 0
  · exact ⟨-1, if_pos negative⟩
  · rw [if_neg negative]
    obtain ⟨heat, current⟩ := heat_defined cfg halving.cooldown s node.nodeId now mild
    have heated := current_heat_nonneg cfg halving.nonneg s warm node.nodeId now heat current
    have divisor : Double.nearest (1 + heat) ≠ 0 := (one_pos.trans_le (one_le_divisor heat heated)).ne'
    exact ⟨Double.nearest (fit / Double.nearest (1 + heat)), by simp only [current, divide?, if_neg divisor, Option.map_some]⟩

theorem select_defined (cfg : Settings) (halving : Halving cfg) (s : ClusterScheduler) (warm : Warm s) (now : ℚ)
    (mild : Mild cfg s now) (eligible : List NodeDict) (placeable : ∀ node ∈ eligible, Placeable node) :
    s.select cfg now eligible ≠ none := by
  rw [select_competitors cfg halving.nonneg s warm]
  have inside : ∀ node ∈ competitors cfg eligible, node ∈ eligible := by
    intro node member
    simp only [competitors] at member
    split at member
    · split at member <;> exact (List.mem_filter.mp member).1
    · exact member
  obtain ⟨ranked, computed⟩ := Leader.scored_defined (s.score cfg now) (competitors cfg eligible) fun node member =>
    score_defined cfg halving s warm now mild node (placeable node (inside node member))
  intro failure
  cases computed.symm.trans (Option.map_eq_none_iff.mp failure)

structure SafeCall (i : Nat) (s : ClusterScheduler) : Prop where
  warm : Warm s
  safe : ∃ call, s.calls[i]? = some call ∧ Safe call.phase

theorem safe_step (cfg : Settings) (halving : Halving cfg) (i : Nat) (s after : ClusterScheduler) (event : PickEvent)
    (call : SafeCall i s) (timely : Timely cfg s event) (taken : pickNext cfg s event = some after) : SafeCall i after := by
  refine ⟨warm_step cfg halving.nonneg s after event call.warm taken, ?_⟩
  obtain ⟨mine, here, safe⟩ := call.safe
  have moved (j : Nat) (old : PickCall) (phase : PickPhase) (stepped : Stepped s j old phase after)
      (fine : Safe old.phase → Safe phase) : ∃ call, after.calls[i]? = some call ∧ Safe call.phase := by
    rw [stepped.calls]
    by_cases same : j = i
    · subst same
      rw [List.getElem?_set_self (List.getElem?_eq_some_iff.mp stepped.here).1]
      cases here.symm.trans stepped.here
      exact ⟨_, rfl, fine safe⟩
    · rw [List.getElem?_set_ne same]
      exact ⟨mine, here, safe⟩
  have quiet : after.calls = s.calls → ∃ call, after.calls[i]? = some call ∧ Safe call.phase := by
    intro calls
    rw [calls]
    exact ⟨mine, here, safe⟩
  cases pick_next_turn cfg s after event taken with
  | entered now nodes affinityKey preferredRegion calls canary heat bindings =>
      rw [calls, List.getElem?_append_left (List.getElem?_eq_some_iff.mp here).1]
      exact ⟨mine, here, safe⟩
  | advanced _ j old phase advance stepped heat bindings =>
      exact moved j old phase stepped (advance_safe cfg s j old event phase advance)
  | breakers openBreakers calls canary heat bindings => exact quiet calls
  | deployed canary calls deployed heat bindings => exact quiet calls
  | reset nodeId now calls canary heat bindings => exact quiet calls
  | chosen j now old pool phase choosing stepped outcome =>
      refine moved j old phase stepped fun held => ?_
      cases outcome with
      | bound node found heat bindings => trivial
      | nobody unbound unselected heat bindings => trivial
      | selected node warmth unbound chosen current heat bindings => trivial
      | failed unbound failure heat bindings =>
          rw [choosing] at held
          have mild := timely old stepped.here
          exact absurd failure (select_defined cfg halving s call.warm old.now mild pool held)

theorem safe_run (cfg : Settings) (halving : Halving cfg) (i : Nat) (s last : ClusterScheduler) (events : List PickEvent)
    (call : SafeCall i s) (run : PickRun cfg (Timely cfg) s events last) : SafeCall i last :=
  Runs.run_invariant (pickNext cfg) (Timely cfg) (SafeCall i)
    (fun state event after held timely taken => safe_step cfg halving i state after event held timely taken) s last events call run

end HuddleCluster.Scheduler
