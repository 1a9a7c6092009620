import HuddleCluster.Scheduler.Pools
import HuddleCluster.Scheduler.Preference

set_option autoImplicit false

namespace HuddleCluster.Scheduler

open ClusterScheduler

def Asks (key : String) (s : ClusterScheduler) (i : Nat) : Prop := ∃ call, s.calls[i]? = some call ∧ call.affinityKey = some key

-- The node stands alive in every list of the key, its breaker is closed and it
-- has a token whenever they are looked at.
def Available (cfg : Settings) (key nodeId : String) (s : ClusterScheduler) : PickEvent → Prop
  | .pick _ nodes affinityKey _ => affinityKey = some key → ∃ node ∈ nodes, node.nodeId = nodeId ∧ node.hasStatus "alive" = true
  | .askBreaker i => Asks key s i → s.openBreakers nodeId = false
  | .askLimiter i now => Asks key s i → ∀ limits, cfg.rateLimiter = some limits →
      1 ≤ ((getOrCreate limits s nodeId now).refill limits now).tokens
  | _ => True

def poolOf (cfg : Settings) (canary : Option Canary) (draw : ℚ) (nodes : List NodeDict) : List NodeDict :=
  match canary with
  | none => nodes
  | some canary => if splits canary then nodes.filter (onSide cfg canary draw nodes) else nodes

def Tagged (cfg : Settings) (canary : Option Canary) (nodes : List NodeDict) : Prop :=
  ∀ deployment ∈ canary, splits deployment = true → ∀ node ∈ nodes, isCanary cfg deployment node ≠ none

-- The coin falls on the side of the node, and no other node of that side is in
-- the preferred region without it.
structure Left (cfg : Settings) (canary : Option Canary) (preferredRegion : Option String) (draw : ℚ) (nodes : List NodeDict)
    (nodeId : String) : Prop where
  tagged : Tagged cfg canary nodes
  side : ∃ node ∈ poolOf cfg canary draw nodes, node.nodeId = nodeId
  region : ∀ region ∈ preferredRegion, region ≠ "" →
    (∀ node ∈ poolOf cfg canary draw nodes, regionOf cfg node ≠ none) ∧
      ((∃ node ∈ poolOf cfg canary draw nodes, node.nodeId = nodeId ∧ inRegion cfg region node = true) ∨
        ∀ node ∈ poolOf cfg canary draw nodes, inRegion cfg region node = false)

def Undropped (cfg : Settings) (key nodeId : String) (s : ClusterScheduler) : PickEvent → Prop
  | .choosePool i draw =>
      match s.calls[i]? with
      | none => True
      | some call =>
          match call.phase with
          | .pooling eligible => call.affinityKey = some key → Left cfg s.canary call.preferredRegion draw eligible nodeId
          | _ => True
  | _ => True

theorem undropped_choose (cfg : Settings) (key nodeId : String) (s : ClusterScheduler) (i : Nat) (draw : ℚ) (call : PickCall)
    (eligible : List NodeDict) (here : s.calls[i]? = some call) (pooling : call.phase = .pooling eligible) :
    Undropped cfg key nodeId s (.choosePool i draw) ↔
      (call.affinityKey = some key → Left cfg s.canary call.preferredRegion draw eligible nodeId) := by
  simp only [Undropped, here, pooling]

-- A call that still has the node, or has returned it.
def Carries (nodeId : String) : PickPhase → Prop
  | .breaking todo kept | .limiting todo kept => ∃ node, (node ∈ kept ∨ node ∈ todo) ∧ node.nodeId = nodeId
  | .pooling eligible | .choosing eligible => ∃ node ∈ eligible, node.nodeId = nodeId
  | .returned answer => ∃ node, answer = some node ∧ node.nodeId = nodeId
  | .raised => False

def Done : PickPhase → Prop
  | .returned _ | .raised => True
  | _ => False

theorem pool_for_tagged (cfg : Settings) (canary : Option Canary) (draw : ℚ) (nodes : List NodeDict) (tagged : Tagged cfg canary nodes) :
    poolFor cfg canary draw nodes = some (poolOf cfg canary draw nodes) := by
  cases canary with
  | none => rfl
  | some canary =>
      by_cases split : splits canary = true
      · simp only [poolFor, poolOf, if_pos split]
        exact pick_pool_split cfg canary draw nodes split (tagged canary rfl split)
      · simp only [poolFor, poolOf, if_neg split]
        exact pick_pool_idle cfg canary draw nodes (by simpa using split)

theorem pooled_narrowed (cfg : Settings) (canary : Option Canary) (preferredRegion : Option String) (draw : ℚ)
    (nodes pool : List NodeDict) (left : poolFor cfg canary draw nodes = some pool) (nonempty : pool ≠ []) :
    pooled cfg canary preferredRegion draw nodes = match narrowRegion cfg preferredRegion pool with
      | none => .raised
      | some pool => .choosing pool := by
  obtain ⟨head, tail, rfl⟩ := List.exists_cons_of_ne_nil nonempty
  cases narrowed : narrowRegion cfg preferredRegion (head :: tail) with
  | none => simp only [pooled, left, narrowed]
  | some pool => simp only [pooled, left, narrowed]

theorem left_carries (cfg : Settings) (canary : Option Canary) (preferredRegion : Option String) (draw : ℚ)
    (nodes : List NodeDict) (nodeId : String) (left : Left cfg canary preferredRegion draw nodes nodeId) :
    Carries nodeId (pooled cfg canary preferredRegion draw nodes) := by
  obtain ⟨node, member, same⟩ := left.side
  rw [pooled_narrowed cfg canary preferredRegion draw nodes _ (pool_for_tagged cfg canary draw nodes left.tagged)
    (List.ne_nil_of_mem member)]
  by_cases blank : preferredRegion = none ∨ preferredRegion = some ""
  · rw [narrow_region_blank cfg _ preferredRegion blank]
    exact ⟨node, member, same⟩
  · push Not at blank
    obtain ⟨region, rfl⟩ := Option.ne_none_iff_exists'.mp blank.1
    have named : region ≠ "" := fun empty => blank.2 (congrArg some empty)
    obtain ⟨readable, there⟩ := left.region region rfl named
    rw [narrow_region_named cfg region named _ readable]
    by_cases deserted : ((poolOf cfg canary draw nodes).filter (inRegion cfg region)).isEmpty = true
    · rw [if_pos deserted]
      exact ⟨node, member, same⟩
    · rw [if_neg deserted]
      rcases there with ⟨other, inside, id, placed⟩ | nobody
      · exact ⟨other, List.mem_filter.mpr ⟨inside, placed⟩, id⟩
      · refine absurd ?_ deserted
        rw [List.isEmpty_iff, List.filter_eq_nil_iff]
        exact fun other inside => by simp [nobody other inside]

theorem carries_tagged (cfg : Settings) (canary : Option Canary) (preferredRegion : Option String) (draw : ℚ)
    (nodes : List NodeDict) (nodeId : String) (carries : Carries nodeId (pooled cfg canary preferredRegion draw nodes)) :
    Tagged cfg canary nodes := by
  rintro deployment ⟨⟩ split node member unreadable
  simp only [pooled, poolFor, pick_pool_unreadable cfg deployment draw nodes split node member unreadable] at carries
  exact carries

theorem carries_pooled_iff (cfg : Settings) (canary : Option Canary) (preferredRegion : Option String) (draw : ℚ)
    (nodes : List NodeDict) (nodeId : String) :
    Carries nodeId (pooled cfg canary preferredRegion draw nodes) ↔ Left cfg canary preferredRegion draw nodes nodeId := by
  refine ⟨fun carries => ?_, left_carries cfg canary preferredRegion draw nodes nodeId⟩
  have tagged := carries_tagged cfg canary preferredRegion draw nodes nodeId carries
  have pool := pool_for_tagged cfg canary draw nodes tagged
  have nonempty : poolOf cfg canary draw nodes ≠ [] := by
    intro empty
    rw [empty] at pool
    simp only [pooled, pool] at carries
    obtain ⟨node, found, _⟩ := carries
    cases found
  rw [pooled_narrowed cfg canary preferredRegion draw nodes _ pool nonempty] at carries
  by_cases blank : preferredRegion = none ∨ preferredRegion = some ""
  · rw [narrow_region_blank cfg _ preferredRegion blank] at carries
    refine ⟨tagged, carries, fun region same named => ?_⟩
    subst same
    simp [named] at blank
  · push Not at blank
    obtain ⟨region, rfl⟩ := Option.ne_none_iff_exists'.mp blank.1
    have named : region ≠ "" := fun empty => blank.2 (congrArg some empty)
    have readable : ∀ node ∈ poolOf cfg canary draw nodes, regionOf cfg node ≠ none := by
      intro node member unreadable
      rw [narrow_region_unreadable cfg region named _ node member unreadable] at carries
      exact carries
    rw [narrow_region_named cfg region named _ readable] at carries
    by_cases deserted : ((poolOf cfg canary draw nodes).filter (inRegion cfg region)).isEmpty = true
    · rw [if_pos deserted] at carries
      rw [List.isEmpty_iff, List.filter_eq_nil_iff] at deserted
      refine ⟨tagged, carries, fun other same _ => ?_⟩
      cases same
      exact ⟨readable, Or.inr fun node member => by simpa using deserted node member⟩
    · rw [if_neg deserted] at carries
      obtain ⟨node, inside, same⟩ := carries
      obtain ⟨member, placed⟩ := List.mem_filter.mp inside
      refine ⟨tagged, ⟨node, member, same⟩, fun other chosen _ => ?_⟩
      cases chosen
      exact ⟨readable, Or.inl ⟨node, member, same, placed⟩⟩

theorem settle_carries (nodeId : String) (next : List NodeDict → PickPhase) (kept : List NodeDict)
    (inside : ∃ node ∈ kept, node.nodeId = nodeId) (nexts : Carries nodeId (next kept)) : Carries nodeId (settle next kept) := by
  obtain ⟨node, member, _⟩ := inside
  have nonempty : ¬ kept.isEmpty = true := by
    rw [List.isEmpty_iff]
    exact List.ne_nil_of_mem member
  rw [settle, if_neg nonempty]
  exact nexts

theorem kept_carries (nodeId : String) (node other : NodeDict) (todo kept : List NodeDict) {drop : Prop} [Decidable drop]
    (member : other ∈ kept ∨ other ∈ node :: todo) (same : other.nodeId = nodeId) (keeps : node.nodeId = nodeId → ¬ drop) :
    ∃ left, (left ∈ (if drop then kept else kept ++ [node]) ∨ left ∈ todo) ∧ left.nodeId = nodeId := by
  rcases member with earlier | later
  · refine ⟨other, Or.inl ?_, same⟩
    split
    · exact earlier
    · exact List.mem_append_left _ earlier
  · rcases List.mem_cons.mp later with rfl | behind
    · rw [if_neg (keeps same)]
      exact ⟨other, Or.inl (by simp), same⟩
    · exact ⟨other, Or.inr behind, same⟩

theorem advance_carries (cfg : Settings) (key nodeId : String) (s : ClusterScheduler) (event : PickEvent) (i : Nat)
    (call : PickCall) (phase : PickPhase) (here : s.calls[i]? = some call) (keyed : call.affinityKey = some key)
    (advance : Advance cfg s i call event phase) (available : Available cfg key nodeId s event)
    (undropped : Undropped cfg key nodeId s event) (carries : Carries nodeId call.phase) : Carries nodeId phase := by
  cases advance with
  | breakerDone kept at' =>
      rw [at'] at carries
      obtain ⟨node, member, same⟩ := carries
      have inside : ∃ node ∈ kept, node.nodeId = nodeId := ⟨node, by simpa using member, same⟩
      apply settle_carries nodeId _ kept inside
      by_cases limited : cfg.rateLimiter.isSome = true
      · rw [if_pos limited]
        exact ⟨node, Or.inr (by simpa using member), same⟩
      · rw [if_neg limited]
        exact inside
  | breakerNext node todo kept at' =>
      rw [at'] at carries
      obtain ⟨other, member, same⟩ := carries
      have shut : s.openBreakers nodeId = false := available ⟨call, here, keyed⟩
      exact kept_carries nodeId node other todo kept member same fun own => by rw [own, shut]; exact Bool.false_ne_true
  | limiterDone now kept at' =>
      rw [at'] at carries
      obtain ⟨node, member, same⟩ := carries
      have inside : ∃ node ∈ kept, node.nodeId = nodeId := ⟨node, by simpa using member, same⟩
      exact settle_carries nodeId _ kept inside inside
  | limiterNext now limits node todo kept enabled at' =>
      rw [at'] at carries
      obtain ⟨other, member, same⟩ := carries
      have token := available ⟨call, here, keyed⟩ limits enabled
      exact kept_carries nodeId node other todo kept member same fun own => by rw [own]; exact not_lt.mpr token
  | poolChosen draw eligible at' =>
      have left := (undropped_choose cfg key nodeId s i draw call eligible here at').mp undropped keyed
      exact left_carries cfg s.canary call.preferredRegion draw eligible nodeId left

theorem entered_carries (cfg : Settings) (nodeId : String) (nodes : List NodeDict)
    (alive : ∃ node ∈ nodes, node.nodeId = nodeId ∧ node.hasStatus "alive" = true) :
    Carries nodeId (afterStatus cfg (nodes.filter NodeDict.eligible)) := by
  obtain ⟨node, member, same, alive⟩ := alive
  have status := (has_status_iff node "alive").mp alive
  have eligible : node.eligible = true := by simp [NodeDict.eligible, NodeDict.hasStatus, NodeDict.isText, status]
  have inside : node ∈ nodes.filter NodeDict.eligible := List.mem_filter.mpr ⟨member, eligible⟩
  apply settle_carries nodeId _ _ ⟨node, inside, same⟩
  by_cases broken : cfg.circuitBreaker = true
  · rw [if_pos broken]
    exact ⟨node, Or.inr inside, same⟩
  · rw [if_neg broken]
    by_cases limited : cfg.rateLimiter.isSome = true
    · rw [if_pos limited]
      exact ⟨node, Or.inr inside, same⟩
    · rw [if_neg limited]
      exact ⟨node, inside, same⟩

theorem bound_found (s : ClusterScheduler) (key nodeId : String) (pool : List NodeDict)
    (bound : s.affinityMap.get? key = some nodeId) (inside : ∃ node ∈ pool, node.nodeId = nodeId) :
    ∃ node, s.boundNode (some key) pool = some node ∧ node.nodeId = nodeId := by
  obtain ⟨node, member, same⟩ := inside
  have found : (pool.find? fun node => decide (node.nodeId = nodeId)).isSome = true :=
    List.find?_isSome.mpr ⟨node, member, by simpa using same⟩
  obtain ⟨first, reached⟩ := Option.isSome_iff_exists.mp found
  refine ⟨first, ?_, by simpa using List.find?_some reached⟩
  simp only [boundNode, Option.bind_some, bound]
  exact reached

-- The key is bound to the node. Every call with the key has it, except for those
-- of the first calls that had ended before.
structure Stuck (key nodeId : String) (first : Nat) (s : ClusterScheduler) : Prop where
  bound : s.affinityMap.get? key = some nodeId
  calls : ∀ i call, s.calls[i]? = some call → call.affinityKey = some key → i < first ∧ Done call.phase ∨
    Carries nodeId call.phase

theorem stuck_set (key nodeId : String) (first : Nat) (s after : ClusterScheduler) (i : Nat) (call : PickCall) (phase : PickPhase)
    (stuck : Stuck key nodeId first s) (stepped : Stepped s i call phase after) (bound : after.affinityMap.get? key = some nodeId)
    (moved : call.affinityKey = some key → i < first ∧ Done phase ∨ Carries nodeId phase) : Stuck key nodeId first after := by
  refine ⟨bound, fun j other here keyed => ?_⟩
  rw [stepped.calls] at here
  by_cases same : i = j
  · subst same
    rw [List.getElem?_set_self (List.getElem?_eq_some_iff.mp stepped.here).1] at here
    cases here
    exact moved keyed
  · rw [List.getElem?_set_ne same] at here
    exact stuck.calls j other here keyed

theorem advance_unfinished (cfg : Settings) (s : ClusterScheduler) (event : PickEvent) (i : Nat) (call : PickCall) (phase : PickPhase)
    (advance : Advance cfg s i call event phase) : ¬ Done call.phase := by
  cases advance <;> simp_all [Done]

-- A critical section returns the node to a call with the key, and binds no other
-- node to it.
theorem stuck_chosen (cfg : Settings) (key nodeId : String) (first : Nat) (s after : ClusterScheduler) (i : Nat) (call : PickCall)
    (pool : List NodeDict) (phase : PickPhase) (stuck : Stuck key nodeId first s) (choosing : call.phase = .choosing pool)
    (stepped : Stepped s i call phase after) (outcome : Outcome cfg s call pool after phase) : Stuck key nodeId first after := by
  by_cases keyed : call.affinityKey = some key
  · have carries : ∃ node ∈ pool, node.nodeId = nodeId := by
      have held := (stuck.calls i call stepped.here keyed).resolve_left (by simp [choosing, Done])
      rwa [choosing] at held
    obtain ⟨node, found, same⟩ := bound_found s key nodeId pool stuck.bound carries
    rw [← keyed] at found
    cases outcome with
    | bound other again heat bindings =>
        cases found.symm.trans again
        exact stuck_set key nodeId first s after i call _ stuck stepped (by rw [bindings, stuck.bound]) fun _ =>
          Or.inr ⟨node, rfl, same⟩
    | failed unbound failure heat bindings => cases found.symm.trans unbound
    | nobody unbound unselected heat bindings => cases found.symm.trans unbound
    | selected other warmth unbound chosen current heat bindings => cases found.symm.trans unbound
  · refine stuck_set key nodeId first s after i call phase stuck stepped ?_ fun same => absurd same keyed
    cases outcome with
    | bound node found heat bindings => rw [bindings, stuck.bound]
    | failed unbound failure heat bindings => rw [bindings, stuck.bound]
    | nobody unbound unselected heat bindings => rw [bindings, stuck.bound]
    | selected node warmth unbound chosen current heat bindings => rw [bindings, get_bind, if_neg keyed, stuck.bound]

theorem stuck_step (cfg : Settings) (key nodeId : String) (first : Nat) (s after : ClusterScheduler) (event : PickEvent)
    (stuck : Stuck key nodeId first s) (available : Available cfg key nodeId s event) (undropped : Undropped cfg key nodeId s event)
    (taken : pickNext cfg s event = some after) : Stuck key nodeId first after := by
  have quiet : after.calls = s.calls → after.affinityMap = s.affinityMap → Stuck key nodeId first after := by
    intro calls bindings
    refine ⟨by rw [bindings, stuck.bound], fun i call here keyed => ?_⟩
    rw [calls] at here
    exact stuck.calls i call here keyed
  cases pick_next_turn cfg s after event taken with
  | breakers openBreakers calls canary heat bindings => exact quiet calls bindings
  | deployed canary calls deployed heat bindings => exact quiet calls bindings
  | reset nodeId now calls canary heat bindings => exact quiet calls bindings
  | entered now nodes affinityKey preferredRegion calls canary heat bindings =>
      refine ⟨by rw [bindings, stuck.bound], fun i call here keyed => ?_⟩
      rw [calls] at here
      by_cases early : i < s.calls.length
      · rw [List.getElem?_append_left early] at here
        exact stuck.calls i call here keyed
      · right
        rw [List.getElem?_append_right (not_lt.mp early)] at here
        have last : call = ⟨now, affinityKey, preferredRegion, afterStatus cfg (nodes.filter NodeDict.eligible)⟩ := by
          simpa using List.mem_of_getElem? here
        subst last
        exact entered_carries cfg nodeId nodes (available keyed)
  | advanced _ i call phase advance stepped heat bindings =>
      refine stuck_set key nodeId first s after i call phase stuck stepped (by rw [bindings, stuck.bound]) fun keyed => ?_
      right
      have carries := (stuck.calls i call stepped.here keyed).resolve_left
        fun ended => advance_unfinished cfg s event i call phase advance ended.2
      exact advance_carries cfg key nodeId s event i call phase stepped.here keyed advance available undropped carries
  | chosen i now call pool phase choosing stepped outcome =>
      exact stuck_chosen cfg key nodeId first s after i call pool phase stuck choosing stepped outcome

def Sticks (nodeId : String) (phase : PickPhase) : Prop :=
  phase ≠ .raised ∧ ∀ answer, phase = .returned answer → ∃ node, answer = some node ∧ node.nodeId = nodeId

theorem carries_sticks (nodeId : String) (phase : PickPhase) (carries : Carries nodeId phase) : Sticks nodeId phase := by
  constructor
  · rintro rfl
    exact carries
  · rintro answer rfl
    exact carries

theorem answered_bound (cfg : Settings) (key : String) (before s : ClusterScheduler) (i : Nat) (now : ℚ) (call : PickCall)
    (node : NodeDict) (taken : pickNext cfg before (.choose i now) = some s) (here : s.calls[i]? = some call)
    (keyed : call.affinityKey = some key) (returned : call.phase = .returned (some node)) :
    s.affinityMap.get? key = some node.nodeId := by
  cases pick_next_turn cfg before s (.choose i now) taken with
  | advanced _ j old phase advance stepped heat bindings => cases advance
  | chosen _ _ old pool phase choosing stepped outcome =>
      rw [stepped.calls, List.getElem?_set_self (List.getElem?_eq_some_iff.mp stepped.here).1] at here
      cases here
      cases outcome with
      | failed unbound failure heat bindings => cases returned
      | nobody unbound unselected heat bindings => cases returned
      | bound other found heat bindings =>
          cases returned
          have key' : old.affinityKey = some key := keyed
          rw [bindings]
          simp only [boundNode, key', Option.bind_some] at found
          split at found
          · cases found
          · rename_i boundId bound
            have same : node.nodeId = boundId := by simpa using List.find?_some found
            rw [bound, same]
      | selected other warmth unbound chosen current heat bindings =>
          cases returned
          rw [bindings, get_bind, if_pos keyed]

theorem affinity_sticky (cfg : Settings) (key : String) (before s last : ClusterScheduler) (i : Nat) (now : ℚ) (call : PickCall)
    (node : NodeDict) (events : List PickEvent) (taken : pickNext cfg before (.choose i now) = some s)
    (here : s.calls[i]? = some call) (keyed : call.affinityKey = some key) (returned : call.phase = .returned (some node))
    (pending : ∀ other ∈ s.calls, other.affinityKey = some key → Done other.phase ∨ Carries node.nodeId other.phase)
    (run : PickRun cfg (fun s event => Available cfg key node.nodeId s event ∧ Undropped cfg key node.nodeId s event) s events last)
    (later : Nat) (other : PickCall) (begun : s.calls.length ≤ later) (there : last.calls[later]? = some other)
    (again : other.affinityKey = some key) : Sticks node.nodeId other.phase := by
  have stuck : Stuck key node.nodeId s.calls.length last := by
    refine Runs.run_invariant (pickNext cfg) _ (Stuck key node.nodeId s.calls.length) ?_ s last events ?_ run
    · exact fun state event after stuck allowed made => stuck_step cfg key node.nodeId _ state after event stuck allowed.1 allowed.2 made
    · refine ⟨answered_bound cfg key before s i now call node taken here keyed returned, fun j old found same => ?_⟩
      rcases pending old (List.mem_of_getElem? found) same with ended | carries
      · exact Or.inl ⟨(List.getElem?_eq_some_iff.mp found).1, ended⟩
      · exact Or.inr carries
  have carries := (stuck.calls later other there again).resolve_left fun early => absurd early.1 (not_lt.mpr begun)
  exact carries_sticks node.nodeId other.phase carries

instance (key : String) (s : ClusterScheduler) (i : Nat) : Decidable (Asks key s i) :=
  decidable_of_iff (s.calls[i]?.bind PickCall.affinityKey = some key) (by simp [Asks, Option.bind_eq_some_iff])

instance (cfg : Settings) (key nodeId : String) (s : ClusterScheduler) (event : PickEvent) :
    Decidable (Available cfg key nodeId s event) :=
  match event with
  | .pick _ nodes affinityKey _ => inferInstanceAs (Decidable (affinityKey = some key →
      ∃ node ∈ nodes, node.nodeId = nodeId ∧ node.hasStatus "alive" = true))
  | .askBreaker i => inferInstanceAs (Decidable (Asks key s i → s.openBreakers nodeId = false))
  | .askLimiter i now => inferInstanceAs (Decidable (Asks key s i → ∀ limits ∈ cfg.rateLimiter,
      1 ≤ ((getOrCreate limits s nodeId now).refill limits now).tokens))
  | .choosePool .. | .choose .. | .breakers _ | .deploy _ | .reset .. => isTrue trivial

instance (cfg : Settings) (canary : Option Canary) (preferredRegion : Option String) (draw : ℚ) (nodes : List NodeDict)
    (nodeId : String) : Decidable (Left cfg canary preferredRegion draw nodes nodeId) :=
  decidable_of_iff ((∀ deployment ∈ canary, splits deployment = true → ∀ node ∈ nodes, isCanary cfg deployment node ≠ none) ∧
      (∃ node ∈ poolOf cfg canary draw nodes, node.nodeId = nodeId) ∧
      ∀ region ∈ preferredRegion, region ≠ "" →
        (∀ node ∈ poolOf cfg canary draw nodes, regionOf cfg node ≠ none) ∧
          ((∃ node ∈ poolOf cfg canary draw nodes, node.nodeId = nodeId ∧ inRegion cfg region node = true) ∨
            ∀ node ∈ poolOf cfg canary draw nodes, inRegion cfg region node = false))
    ⟨fun held => ⟨held.1, held.2.1, held.2.2⟩, fun left => ⟨left.tagged, left.side, left.region⟩⟩

theorem undropped_iff (cfg : Settings) (key nodeId : String) (s : ClusterScheduler) (i : Nat) (draw : ℚ) :
    (∀ call ∈ s.calls[i]?, ∀ eligible ∈ call.phase.pooling?, call.affinityKey = some key →
      Left cfg s.canary call.preferredRegion draw eligible nodeId) ↔ Undropped cfg key nodeId s (.choosePool i draw) := by
  cases here : s.calls[i]? with
  | none => simp [Undropped, here]
  | some call => cases pooling : call.phase <;> simp [Undropped, here, pooling, PickPhase.pooling?]

instance (cfg : Settings) (key nodeId : String) (s : ClusterScheduler) (event : PickEvent) :
    Decidable (Undropped cfg key nodeId s event) :=
  match event with
  | .choosePool i draw => decidable_of_iff _ (undropped_iff cfg key nodeId s i draw)
  | .pick .. | .askBreaker _ | .askLimiter .. | .choose .. | .breakers _ | .deploy _ | .reset .. => isTrue trivial

def placed (nodeId region : String) : NodeDict :=
  ⟨nodeId, [("node_id", .str nodeId), ("status", .str "alive"), ("last_seen_ago_sec", .number 0),
    ("metadata", .obj [("region", .str region)])]⟩

def regionalPick (i : Nat) (nodes : List NodeDict) (preferredRegion : Option String) : List PickEvent :=
  [.pick 0 nodes (some "k") preferredRegion, .choosePool i 0, .choose i 0]

def pickBegun : ClusterScheduler :=
  (Runs.follow (pickNext plain) (fun _ _ => True) (.start noBreaker none 0)
    [.pick 0 [placed "a" "eu", placed "b" "us"] (some "k") none, .choosePool 0 0]).getD (.start noBreaker none 0)

def pickDone : ClusterScheduler := (pickNext plain pickBegun (.choose 0 0)).getD pickBegun

def answerOf : PickPhase → Option NodeDict
  | .returned answer => answer
  | _ => none

theorem answer_of_returned (phase : PickPhase) (node : NodeDict) (answer : answerOf phase = some node) :
    phase = .returned (some node) := by
  cases phase <;> simp_all [answerOf]

instance (phase : PickPhase) : Decidable (Done phase) := by
  cases phase <;> simp only [Done] <;> infer_instance

theorem pick_done : pickNext plain pickBegun (.choose 0 0) = some pickDone ∧ (∀ call ∈ pickDone.calls, Done call.phase) ∧
    ∃ call node, pickDone.calls[0]? = some call ∧ call.affinityKey = some "k" ∧ call.phase = .returned (some node) ∧
      node.nodeId = "a" := by
  have taken : (pickNext plain pickBegun (.choose 0 0)).isSome = true := by decide +kernel
  have ended : ∀ call ∈ pickDone.calls, Done call.phase := by decide +kernel
  have answered : ∃ call ∈ pickDone.calls[0]?, call.affinityKey = some "k" ∧
      (answerOf call.phase).map NodeDict.nodeId = some "a" := by decide +kernel
  obtain ⟨call, here, keyed, answer⟩ := answered
  obtain ⟨node, answer, same⟩ := Option.map_eq_some_iff.mp answer
  refine ⟨?_, ended, call, node, here, keyed, answer_of_returned call.phase node answer, same⟩
  obtain ⟨s, made⟩ := Option.isSome_iff_exists.mp taken
  rw [pickDone, made, Option.getD_some]

-- The node is in the preferred region and warmer than the other one.
theorem warm_node_sticks : ∃ last other, PickRun plain (fun _ _ => True) pickDone
      (regionalPick 1 [placed "b" "us", placed "a" "eu"] (some "eu")) last ∧
    last.calls[1]? = some other ∧ Sticks "a" other.phase := by
  obtain ⟨taken, ended, call, node, here, keyed, returned, same⟩ := pick_done
  have begun : pickDone.calls.length ≤ 1 := by decide +kernel
  have reached : ∃ last ∈ Runs.follow (pickNext plain)
      (fun s event => Available plain "k" "a" s event ∧ Undropped plain "k" "a" s event) pickDone
      (regionalPick 1 [placed "b" "us", placed "a" "eu"] (some "eu")), ∃ other ∈ last.calls[1]?, other.affinityKey = some "k" := by
    decide +kernel
  obtain ⟨last, followed, other, there, again⟩ := reached
  have run := Runs.follow_run _ _ _ last _ followed
  rw [← same] at run ⊢
  exact ⟨last, other, Runs.run_free _ _ _ last _ run, there,
    affinity_sticky plain "k" pickBegun pickDone last 0 0 call node _ taken here keyed returned
      (fun call member _ => Or.inl (ended call member)) run 1 other begun there again⟩

-- A node in the preferred region takes the key from one that is elsewhere.
theorem region_rebinds : ((pickDone.calls[0]?.bind fun call => answerOf call.phase).map NodeDict.nodeId = some "a") ∧
    ∃ last other, PickRun plain (Available plain "k" "a") pickDone
      (regionalPick 1 [placed "a" "eu", placed "b" "us"] (some "us")) last ∧
    last.calls[1]? = some other ∧ (answerOf other.phase).map NodeDict.nodeId = some "b" ∧ ¬ Sticks "a" other.phase := by
  have reached : ∃ last ∈ Runs.follow (pickNext plain) (Available plain "k" "a") pickDone
      (regionalPick 1 [placed "a" "eu", placed "b" "us"] (some "us")), ∃ other ∈ last.calls[1]?,
      (answerOf other.phase).map NodeDict.nodeId = some "b" := by decide +kernel
  obtain ⟨last, followed, other, there, answer⟩ := reached
  refine ⟨by decide +kernel, last, other, Runs.follow_run _ _ _ last _ followed, there, answer, fun sticks => ?_⟩
  obtain ⟨node, found, same⟩ := Option.map_eq_some_iff.mp answer
  obtain ⟨again, held, different⟩ := sticks.2 _ (answer_of_returned other.phase node found)
  cases held
  rw [same] at different
  revert different
  decide

end HuddleCluster.Scheduler
