import HuddleCluster.Scheduler.InTurn
import HuddleCluster.Scheduler.Placement
import HuddleCluster.Scheduler.Sticky

set_option autoImplicit false

namespace HuddleCluster.Scheduler

open ClusterScheduler
open Master (NodeRecord)

inductive Filter where
  | breaker
  | limiter
deriving DecidableEq

-- What a filter answered about a node, in the call that asked.
structure Check where
  call : Nat
  filter : Filter
  node : NodeDict
  passed : Bool

-- The checks are not in the program.
structure CheckWatch where
  scheduler : ClusterScheduler
  checks : List Check

-- The answer an event gets: a breaker that is not open, a bucket with at least one token.
def checked (cfg : Settings) (s : ClusterScheduler) : PickEvent → Option Check
  | .askBreaker i =>
      match s.calls[i]?.map PickCall.phase with
      | some (.breaking (node :: _) _) => some ⟨i, .breaker, node, !s.openBreakers node.nodeId⟩
      | _ => none
  | .askLimiter i now =>
      match s.calls[i]?.map PickCall.phase, cfg.rateLimiter with
      | some (.limiting (node :: _) _), some limits =>
          some ⟨i, .limiter, node, decide (1 ≤ ((getOrCreate limits s node.nodeId now).refill limits now).tokens)⟩
      | _, _ => none
  | _ => none

def checkNext (cfg : Settings) (w : CheckWatch) (event : PickEvent) : Option CheckWatch :=
  (pickNext cfg w.scheduler event).map fun after => ⟨after, w.checks ++ (checked cfg w.scheduler event).toList⟩

abbrev CheckRun (cfg : Settings) := Runs.Run (checkNext cfg) fun _ _ => True

-- The answers one filter gave to one call, in order.
def verdicts (checks : List Check) (i : Nat) (filter : Filter) : List (NodeDict × Bool) :=
  checks.filterMap fun check => if check.call = i ∧ check.filter = filter then some (check.node, check.passed) else none

-- A node that both filters let through, and one that a filter turned away.
def Passes (cfg : Settings) (checks : List Check) (i : Nat) (node : NodeDict) : Prop :=
  (cfg.circuitBreaker = true → (node, true) ∈ verdicts checks i .breaker) ∧
    (cfg.rateLimiter.isSome = true → (node, true) ∈ verdicts checks i .limiter)

def Refused (checks : List Check) (i : Nat) (node : NodeDict) : Prop :=
  (node, false) ∈ verdicts checks i .breaker ∨ (node, false) ∈ verdicts checks i .limiter

def PickPhase.ended : PickPhase → Bool
  | .returned _ | .raised => true
  | _ => false

def accepted (answers : List (NodeDict × Bool)) : List NodeDict := (answers.filter fun entry => entry.2).map Prod.fst

-- The nodes that are left after the breaker, and after the limiter.
def closed (cfg : Settings) (listed : List NodeDict) (b : List (NodeDict × Bool)) : List NodeDict :=
  if cfg.circuitBreaker then accepted b else listed

def survivors (cfg : Settings) (listed : List NodeDict) (b l : List (NodeDict × Bool)) : List NodeDict :=
  if cfg.rateLimiter.isSome then accepted l else closed cfg listed b

-- Both filters have answered about every node they were asked about.
structure Filtered (cfg : Settings) (listed : List NodeDict) (b l : List (NodeDict × Bool)) : Prop where
  breaker : cfg.circuitBreaker = true → b.map Prod.fst = listed
  limiter : cfg.rateLimiter.isSome = true → l.map Prod.fst = closed cfg listed b

-- The answers so far, next to where the call stands.
def Progress (cfg : Settings) (listed : List NodeDict) (b l : List (NodeDict × Bool)) : PickPhase → Prop
  | .breaking todo kept => cfg.circuitBreaker = true ∧ b.map Prod.fst ++ todo = listed ∧ kept = accepted b ∧ l = []
  | .limiting todo kept => cfg.rateLimiter.isSome = true ∧ (cfg.circuitBreaker = true → b.map Prod.fst = listed) ∧
      l.map Prod.fst ++ todo = closed cfg listed b ∧ kept = accepted l
  | .pooling eligible => Filtered cfg listed b l ∧ eligible = survivors cfg listed b l ∧ eligible ≠ []
  | .choosing eligible => Filtered cfg listed b l ∧ eligible ⊆ survivors cfg listed b l ∧ eligible ≠ []
  | .returned (some node) => Filtered cfg listed b l ∧ node ∈ survivors cfg listed b l
  | .returned none => Filtered cfg listed b l ∧ survivors cfg listed b l = []
  | .raised => Filtered cfg listed b l ∧ survivors cfg listed b l ≠ []

theorem mem_accepted (answers : List (NodeDict × Bool)) (node : NodeDict) : node ∈ accepted answers ↔ (node, true) ∈ answers := by
  simp [accepted]

theorem verdicts_append (checks more : List Check) (i : Nat) (filter : Filter) :
    verdicts (checks ++ more) i filter = verdicts checks i filter ++ verdicts more i filter := List.filterMap_append

theorem verdicts_foreign (checks : List Check) (i : Nat) (filter : Filter) (foreign : ∀ check ∈ checks, check.call ≠ i) :
    verdicts checks i filter = [] := by
  rw [verdicts, List.filterMap_eq_nil_iff]
  intro check member
  exact if_neg fun own => foreign check member own.1

theorem progress_after_limiter (cfg : Settings) (listed : List NodeDict) (b l : List (NodeDict × Bool))
    (filtered : Filtered cfg listed b l)
    (kept : List NodeDict) (survived : kept = survivors cfg listed b l) : Progress cfg listed b l (afterLimiter kept) := by
  rw [afterLimiter, settle]
  split
  · rename_i empty
    exact ⟨filtered, survived ▸ List.isEmpty_iff.mp empty⟩
  · rename_i nonempty
    exact ⟨filtered, survived, fun empty => nonempty (List.isEmpty_iff.mpr empty)⟩

theorem progress_after_breaker (cfg : Settings) (listed : List NodeDict) (b : List (NodeDict × Bool))
    (breaker : cfg.circuitBreaker = true → b.map Prod.fst = listed) (kept : List NodeDict) (survived : kept = closed cfg listed b) :
    Progress cfg listed b [] (afterBreaker cfg kept) := by
  by_cases limited : cfg.rateLimiter.isSome = true
  · rw [afterBreaker, settle]
    split
    · rename_i empty
      have nobody : closed cfg listed b = [] := survived ▸ List.isEmpty_iff.mp empty
      exact ⟨⟨breaker, fun _ => nobody.symm⟩, by rw [survivors, if_pos limited]; rfl⟩
    · exact ⟨limited, breaker, survived, rfl⟩
  · have same : afterBreaker cfg kept = afterLimiter kept := by
      rw [afterBreaker, afterLimiter, settle, settle, if_neg limited]
    rw [same]
    refine progress_after_limiter cfg listed b [] ⟨breaker, fun unlimited => absurd unlimited limited⟩ kept ?_
    rw [survivors, if_neg limited]
    exact survived

theorem progress_after_status (cfg : Settings) (listed : List NodeDict) : Progress cfg listed [] [] (afterStatus cfg listed) := by
  by_cases broken : cfg.circuitBreaker = true
  · rw [afterStatus, settle]
    split
    · rename_i empty
      have nobody : listed = [] := List.isEmpty_iff.mp empty
      have empty : closed cfg listed [] = [] := by rw [closed, if_pos broken]; rfl
      refine ⟨⟨fun _ => nobody.symm, fun _ => empty.symm⟩, ?_⟩
      rw [survivors, empty]
      split <;> rfl
    · exact ⟨broken, rfl, rfl, rfl⟩
  · have same : afterStatus cfg listed = afterBreaker cfg listed := by
      rw [afterStatus, afterBreaker, settle, settle, if_neg broken]
    rw [same]
    refine progress_after_breaker cfg listed [] (fun on => absurd on broken) listed ?_
    rw [closed, if_neg broken]

theorem pick_pool_within (cfg : Settings) (canary : Canary) (draw : ℚ) (nodes pool : List NodeDict)
    (chosen : pickPool cfg canary draw nodes = some pool) : pool ⊆ nodes ∧ (nodes ≠ [] → pool ≠ []) := by
  by_cases split : splits canary = true
  · constructor
    · have readable : ∀ node ∈ nodes, isCanary cfg canary node ≠ none := by
        intro node member unreadable
        rw [pick_pool_unreadable cfg canary draw nodes split node member unreadable] at chosen
        cases chosen
      rw [pick_pool_split cfg canary draw nodes split readable] at chosen
      cases chosen
      exact List.filter_subset_self _
    · -- Each branch is taken with somebody in its pool.
      intro nonempty
      rw [pick_pool_tagged cfg canary draw nodes split] at chosen
      obtain ⟨tagged, _, rfl⟩ := Option.map_eq_some_iff.mp chosen
      grind
  · rw [pick_pool_idle cfg canary draw nodes (by simpa using split)] at chosen
    cases chosen
    exact ⟨List.Subset.refl nodes, id⟩

theorem narrow_region_within (cfg : Settings) (preferredRegion : Option String) (nodes pool : List NodeDict)
    (chosen : narrowRegion cfg preferredRegion nodes = some pool) : pool ⊆ nodes ∧ (nodes ≠ [] → pool ≠ []) := by
  by_cases blank : preferredRegion = none ∨ preferredRegion = some ""
  · rw [narrow_region_blank cfg nodes preferredRegion blank] at chosen
    cases chosen
    exact ⟨List.Subset.refl nodes, id⟩
  · push Not at blank
    obtain ⟨region, rfl⟩ := Option.ne_none_iff_exists'.mp blank.1
    have named : region ≠ "" := fun empty => blank.2 (congrArg some empty)
    have readable : ∀ node ∈ nodes, regionOf cfg node ≠ none := by
      intro node member unreadable
      rw [narrow_region_unreadable cfg region named nodes node member unreadable] at chosen
      cases chosen
    rw [narrow_region_named cfg region named nodes readable] at chosen
    cases chosen
    split
    · exact ⟨List.Subset.refl nodes, id⟩
    · rename_i regional
      exact ⟨List.filter_subset_self _, fun _ empty => regional (List.isEmpty_iff.mpr empty)⟩

theorem pooled_within (cfg : Settings) (canary : Option Canary) (preferredRegion : Option String) (draw : ℚ) (nodes : List NodeDict)
    (populated : nodes ≠ []) : pooled cfg canary preferredRegion draw nodes = .raised ∨
      ∃ pool, pooled cfg canary preferredRegion draw nodes = .choosing pool ∧ pool ⊆ nodes ∧ pool ≠ [] := by
  simp only [pooled]
  cases chosen : poolFor cfg canary draw nodes with
  | none => exact Or.inl rfl
  | some pool =>
      have within : pool ⊆ nodes ∧ (nodes ≠ [] → pool ≠ []) := by
        cases canary with
        | none =>
            cases chosen
            exact ⟨List.Subset.refl nodes, id⟩
        | some canary => exact pick_pool_within cfg canary draw nodes pool chosen
      cases pool with
      | nil => exact absurd rfl (within.2 populated)
      | cons head tail =>
          cases narrowed : narrowRegion cfg preferredRegion (head :: tail) with
          | none => exact Or.inl (by simp only [narrowed])
          | some regional =>
              obtain ⟨inside, left⟩ := narrow_region_within cfg preferredRegion (head :: tail) regional narrowed
              exact Or.inr ⟨regional, by simp only [narrowed], List.Subset.trans inside within.1, left (within.2 populated)⟩

theorem competitors_within (cfg : Settings) (pool : List NodeDict) : competitors cfg pool ⊆ pool := by
  simp only [competitors]
  split
  · split <;> exact List.filter_subset_self _
  · exact List.Subset.refl pool

theorem competitors_populated (cfg : Settings) (pool : List NodeDict) (populated : pool ≠ [])
    (serving : ∀ node ∈ pool, node.hasStatus "alive" = true ∨ node.hasStatus "quarantined" = true) : competitors cfg pool ≠ [] := by
  simp only [competitors]
  split
  · split
    · rename_i noneAlive
      rw [List.isEmpty_iff, List.filter_eq_nil_iff] at noneAlive
      obtain ⟨node, member⟩ := List.exists_mem_of_ne_nil pool populated
      have quarantined := (serving node member).resolve_left (noneAlive node member)
      exact List.ne_nil_of_mem (List.mem_filter.mpr ⟨member, quarantined⟩)
    · rename_i alive
      exact fun empty => alive (List.isEmpty_iff.mpr empty)
  · exact populated

theorem select_somebody (cfg : Settings) (halving : ∀ age, 0 ≤ cfg.halve age) (s : ClusterScheduler) (warm : Warm s) (now : ℚ)
    (pool : List NodeDict) (populated : pool ≠ [])
    (serving : ∀ node ∈ pool, node.hasStatus "alive" = true ∨ node.hasStatus "quarantined" = true) :
    s.select cfg now pool ≠ some none := by
  rw [select_competitors cfg halving s warm]
  intro nobody
  obtain ⟨node, competing⟩ := List.exists_mem_of_ne_nil _ (competitors_populated cfg pool populated serving)
  obtain ⟨score, scoring, negative⟩ := best_nobody cfg s now _ nobody node competing
  refine absurd (?_ : 0 ≤ score) (not_le.mpr negative)
  rcases serving node (competitors_within cfg _ competing) with alive | quarantined
  · exact score_nonneg cfg halving s warm now node "alive" alive (by decide) score scoring
  · exact score_nonneg cfg halving s warm now node "quarantined" quarantined (by decide) score scoring

theorem select_member (cfg : Settings) (halving : ∀ age, 0 ≤ cfg.halve age) (s : ClusterScheduler) (warm : Warm s) (now : ℚ)
    (pool : List NodeDict) (node : NodeDict) (chosen : s.select cfg now pool = some (some node)) : node ∈ pool := by
  rw [select_competitors cfg halving s warm] at chosen
  obtain ⟨score, leads, _⟩ := best_leads cfg s now _ node chosen
  exact competitors_within cfg pool (Leader.leads_member _ _ node score leads)

theorem closed_listed (cfg : Settings) (listed : List NodeDict) (b : List (NodeDict × Bool))
    (breaker : cfg.circuitBreaker = true → b.map Prod.fst = listed) : closed cfg listed b ⊆ listed := by
  intro node kept
  rw [closed] at kept
  split at kept
  · rename_i broken
    rw [← breaker broken]
    exact List.mem_map_of_mem ((mem_accepted b node).mp kept)
  · exact kept

theorem survivors_closed (cfg : Settings) (listed : List NodeDict) (b l : List (NodeDict × Bool)) (filtered : Filtered cfg listed b l) :
    survivors cfg listed b l ⊆ closed cfg listed b := by
  intro node kept
  rw [survivors] at kept
  split at kept
  · rename_i limited
    rw [← filtered.limiter limited]
    exact List.mem_map_of_mem ((mem_accepted l node).mp kept)
  · exact kept

theorem mem_survivors (cfg : Settings) (listed : List NodeDict) (b l : List (NodeDict × Bool)) (filtered : Filtered cfg listed b l)
    (node : NodeDict) : node ∈ survivors cfg listed b l ↔
      node ∈ listed ∧ (cfg.circuitBreaker = true → (node, true) ∈ b) ∧
      (cfg.rateLimiter.isSome = true → (node, true) ∈ l) := by
  constructor
  · intro kept
    have open' := survivors_closed cfg listed b l filtered kept
    refine ⟨closed_listed cfg listed b filtered.breaker open', fun broken => ?_, fun limited => ?_⟩
    · rw [closed, if_pos broken] at open'
      exact (mem_accepted b node).mp open'
    · rw [survivors, if_pos limited] at kept
      exact (mem_accepted l node).mp kept
  · intro passes
    obtain ⟨member, breaker, limiter⟩ := passes
    rw [survivors]
    split
    · rename_i limited
      exact (mem_accepted l node).mpr (limiter limited)
    · rw [closed]
      split
      · rename_i broken
        exact (mem_accepted b node).mpr (breaker broken)
      · exact member

-- A node that has not been turned away was let through.
theorem answered_all (cfg : Settings) (listed : List NodeDict) (b l : List (NodeDict × Bool)) (filtered : Filtered cfg listed b l)
    (node : NodeDict) (member : node ∈ listed) (unrefused : ¬ ((node, false) ∈ b ∨ (node, false) ∈ l)) :
    node ∈ survivors cfg listed b l := by
  have answer (answers : List (NodeDict × Bool)) (asked : node ∈ answers.map Prod.fst) (welcome : (node, false) ∉ answers) :
      node ∈ accepted answers := by
    obtain ⟨⟨other, passed⟩, given, rfl⟩ := List.mem_map.mp asked
    cases passed with
    | true => exact (mem_accepted answers other).mpr given
    | false => exact absurd given welcome
  push Not at unrefused
  have open' : node ∈ closed cfg listed b := by
    rw [closed]
    split
    · rename_i broken
      exact answer b (by rwa [filtered.breaker broken]) unrefused.1
    · exact member
  rw [survivors]
  split
  · rename_i limited
    exact answer l (by rwa [filtered.limiter limited]) unrefused.2
  · exact open'

theorem advance_progress (cfg : Settings) (s : ClusterScheduler) (i : Nat) (call : PickCall) (event : PickEvent) (phase : PickPhase)
    (here : s.calls[i]? = some call) (advance : Advance cfg s i call event phase) (listed : List NodeDict) (b l : List (NodeDict × Bool))
    (progress : Progress cfg listed b l call.phase) :
    Progress cfg listed (b ++ verdicts (checked cfg s event).toList i .breaker)
      (l ++ verdicts (checked cfg s event).toList i .limiter) phase := by
  cases advance with
  | breakerDone kept stands =>
      rw [stands] at progress
      obtain ⟨broken, asked, rfl, rfl⟩ := progress
      have quiet : checked cfg s (.askBreaker i) = none := by simp only [checked, here, Option.map_some, stands]
      rw [quiet]
      simp only [Option.toList_none, verdicts, List.filterMap_nil, List.append_nil] at asked ⊢
      refine progress_after_breaker cfg listed b (fun _ => asked) _ ?_
      rw [closed, if_pos broken]
  | breakerNext node todo kept stands =>
      rw [stands] at progress
      obtain ⟨broken, asked, rfl, rfl⟩ := progress
      have answer : checked cfg s (.askBreaker i) = some ⟨i, .breaker, node, !s.openBreakers node.nodeId⟩ := by
        simp only [checked, here, Option.map_some, stands]
      rw [answer]
      refine ⟨broken, by simpa [verdicts] using asked, ?_, by simp [verdicts]⟩
      cases tripped : s.openBreakers node.nodeId <;> simp [verdicts, accepted]
  | limiterDone now kept stands =>
      rw [stands] at progress
      obtain ⟨limited, breaker, asked, rfl⟩ := progress
      have quiet : checked cfg s (.askLimiter i now) = none := by simp only [checked, here, Option.map_some, stands]
      rw [quiet]
      simp only [Option.toList_none, verdicts, List.filterMap_nil, List.append_nil] at asked ⊢
      refine progress_after_limiter cfg listed b l ⟨breaker, fun _ => asked⟩ _ ?_
      rw [survivors, if_pos limited]
  | limiterNext now limits node todo kept enabled stands =>
      rw [stands] at progress
      obtain ⟨limited, breaker, asked, rfl⟩ := progress
      have answer : checked cfg s (.askLimiter i now) =
          some ⟨i, .limiter, node, decide (1 ≤ ((getOrCreate limits s node.nodeId now).refill limits now).tokens)⟩ := by
        simp only [checked, here, Option.map_some, stands, enabled]
      rw [answer]
      refine ⟨limited, by simpa [verdicts] using breaker, by simpa [verdicts] using asked, ?_⟩
      by_cases empty : ((getOrCreate limits s node.nodeId now).refill limits now).tokens < 1
      · simp [verdicts, accepted, empty]
      · simp [verdicts, accepted, empty, not_lt.mp empty]
  | poolChosen draw eligible stands =>
      rw [stands] at progress
      obtain ⟨filtered, rfl, populated⟩ := progress
      have quiet : checked cfg s (.choosePool i draw) = none := rfl
      rw [quiet]
      simp only [Option.toList_none, verdicts, List.filterMap_nil, List.append_nil]
      rcases pooled_within cfg s.canary call.preferredRegion draw _ populated with raised | ⟨pool, choosing, inside, left⟩
      · rw [raised]
        exact ⟨filtered, populated⟩
      · rw [choosing]
        exact ⟨filtered, inside, left⟩

theorem outcome_progress (cfg : Settings) (halving : ∀ age, 0 ≤ cfg.halve age) (s after : ClusterScheduler) (warm : Warm s)
    (call : PickCall) (pool : List NodeDict) (phase : PickPhase) (outcome : Outcome cfg s call pool after phase)
    (listed : List NodeDict) (serving : ∀ node ∈ listed, node.hasStatus "alive" = true ∨ node.hasStatus "quarantined" = true)
    (b l : List (NodeDict × Bool)) (progress : Progress cfg listed b l (.choosing pool)) : Progress cfg listed b l phase := by
  obtain ⟨filtered, inside, populated⟩ := progress
  cases outcome with
  | bound node found heat bindings =>
      simp only [boundNode] at found
      split at found
      · cases found
      · exact ⟨filtered, inside (List.mem_of_find?_eq_some found)⟩
  | failed unbound failure heat bindings => exact ⟨filtered, fun empty => populated (List.subset_nil.mp (empty ▸ inside))⟩
  | nobody unbound unselected heat bindings =>
      refine absurd unselected (select_somebody cfg halving s warm call.now pool populated fun node member => serving node ?_)
      exact closed_listed cfg listed b filtered.breaker (survivors_closed cfg listed b l filtered (inside member))
  | selected node warmth unbound chosen current heat bindings =>
      exact ⟨filtered, inside (select_member cfg halving s warm call.now pool node chosen)⟩

theorem checked_call (cfg : Settings) (s : ClusterScheduler) (i : Nat) (call : PickCall) (event : PickEvent) (phase : PickPhase)
    (advance : Advance cfg s i call event phase) (check : Check) (asked : checked cfg s event = some check) : check.call = i := by
  cases advance <;> simp only [checked] at asked <;> grind

theorem calls_grow (cfg : Settings) (s after : ClusterScheduler) (event : PickEvent) (turn : Turn cfg s after event) :
    s.calls.length ≤ after.calls.length := by
  cases turn with
  | entered now nodes affinityKey preferredRegion calls canary heat bindings => simp [calls]
  | advanced _ i call phase advance stepped heat bindings => simp [stepped.calls]
  | chosen i now call eligible phase choosing stepped outcome => simp [stepped.calls]
  | breakers openBreakers calls canary heat bindings => simp [calls]
  | deployed canary calls deployed heat bindings => simp [calls]
  | reset nodeId now calls canary heat bindings => simp [calls]

structure Watching (cfg : Settings) (w : CheckWatch) : Prop where
  warm : Warm w.scheduler
  known : ∀ check ∈ w.checks, check.call < w.scheduler.calls.length

theorem watching_step (cfg : Settings) (halving : ∀ age, 0 ≤ cfg.halve age) (w after : CheckWatch) (event : PickEvent)
    (watching : Watching cfg w) (taken : checkNext cfg w event = some after) : Watching cfg after := by
  obtain ⟨next, stepped, rfl⟩ := Option.map_eq_some_iff.mp taken
  have turn := pick_next_turn cfg w.scheduler next event stepped
  refine ⟨warm_step cfg halving w.scheduler next event watching.warm stepped, fun check member => ?_⟩
  refine lt_of_lt_of_le ?_ (calls_grow cfg w.scheduler next event turn)
  rcases List.mem_append.mp member with earlier | fresh
  · exact watching.known check earlier
  · have asked := Option.mem_toList.mp fresh
    cases turn with
    | advanced _ i call phase advance stood heat bindings =>
        rw [checked_call cfg w.scheduler i call event phase advance check asked]
        exact (List.getElem?_eq_some_iff.mp stood.here).1
    | entered now nodes affinityKey preferredRegion calls canary heat bindings => cases asked
    | chosen i now call eligible phase choosing stood outcome => cases asked
    | breakers openBreakers calls canary heat bindings => cases asked
    | deployed canary calls deployed heat bindings => cases asked
    | reset nodeId now calls canary heat bindings => cases asked

def Picking (cfg : Settings) (i : Nat) (listed : List NodeDict) (w : CheckWatch) : Prop :=
  ∃ call, w.scheduler.calls[i]? = some call ∧
    Progress cfg listed (verdicts w.checks i .breaker) (verdicts w.checks i .limiter) call.phase

theorem picking_step (cfg : Settings) (halving : ∀ age, 0 ≤ cfg.halve age) (i : Nat) (listed : List NodeDict)
    (serving : ∀ node ∈ listed, node.hasStatus "alive" = true ∨ node.hasStatus "quarantined" = true)
    (w after : CheckWatch) (event : PickEvent) (watching : Watching cfg w) (picking : Picking cfg i listed w)
    (taken : checkNext cfg w event = some after) : Picking cfg i listed after := by
  obtain ⟨next, stepped, rfl⟩ := Option.map_eq_some_iff.mp taken
  obtain ⟨mine, here, progress⟩ := picking
  simp only [Picking, verdicts_append]
  -- The call stands where it stood and has asked nothing.
  have still (phase : PickPhase) (quiet : ∀ filter, verdicts (checked cfg w.scheduler event).toList i filter = [])
      (same : next.calls[i]? = some { mine with phase := phase })
      (kept : Progress cfg listed (verdicts w.checks i .breaker) (verdicts w.checks i .limiter) phase) :
      ∃ call, next.calls[i]? = some call ∧ Progress cfg listed
        (verdicts w.checks i .breaker ++ verdicts (checked cfg w.scheduler event).toList i .breaker)
        (verdicts w.checks i .limiter ++ verdicts (checked cfg w.scheduler event).toList i .limiter) call.phase := by
    refine ⟨_, same, ?_⟩
    rw [quiet, quiet, List.append_nil, List.append_nil]
    exact kept
  have inside := (List.getElem?_eq_some_iff.mp here).1
  cases pick_next_turn cfg w.scheduler next event stepped with
  | entered now nodes affinityKey preferredRegion calls canary heat bindings =>
      exact still mine.phase (fun _ => rfl) (by rw [calls, List.getElem?_append_left inside, here]) progress
  | breakers openBreakers calls canary heat bindings => exact still mine.phase (fun _ => rfl) (by rw [calls, here]) progress
  | deployed canary calls deployed heat bindings => exact still mine.phase (fun _ => rfl) (by rw [calls, here]) progress
  | reset nodeId now calls canary heat bindings => exact still mine.phase (fun _ => rfl) (by rw [calls, here]) progress
  | advanced _ j call phase advance stood heat bindings =>
      by_cases own : j = i
      · subst own
        cases here.symm.trans stood.here
        refine ⟨_, by rw [stood.calls, List.getElem?_set_self inside], ?_⟩
        exact advance_progress cfg w.scheduler j mine event phase here advance listed _ _ progress
      · refine still mine.phase (fun filter => verdicts_foreign _ i filter fun check member => ?_)
          (by rw [stood.calls, List.getElem?_set_ne own, here]) progress
        rw [checked_call cfg w.scheduler j call event phase advance check (Option.mem_toList.mp member)]
        exact own
  | chosen j now call pool phase choosing stood outcome =>
      by_cases own : j = i
      · subst own
        cases here.symm.trans stood.here
        rw [choosing] at progress
        exact still phase (fun _ => rfl) (by rw [stood.calls, List.getElem?_set_self inside])
          (outcome_progress cfg halving w.scheduler next watching.warm mine pool phase outcome listed serving _ _ progress)
      · exact still mine.phase (fun _ => rfl) (by rw [stood.calls, List.getElem?_set_ne own, here]) progress

def PickPhase.steps : PickPhase → Nat
  | .breaking todo kept => 2 * todo.length + kept.length + 4
  | .limiting todo _ => todo.length + 3
  | .pooling _ => 2
  | .choosing _ => 1
  | .returned _ | .raised => 0

theorem steps_settle (next : List NodeDict → PickPhase) (kept : List NodeDict) (bound : Nat) (positive : 0 < bound)
    (less : (next kept).steps < bound) : (settle next kept).steps < bound := by
  rw [settle]
  split
  · exact positive
  · exact less

theorem steps_pooled (cfg : Settings) (canary : Option Canary) (preferredRegion : Option String) (draw : ℚ) (nodes : List NodeDict) :
    (pooled cfg canary preferredRegion draw nodes).steps < 2 := by
  rw [pooled]
  split
  · decide
  · decide
  · split <;> simp [PickPhase.steps]

theorem steps_advance (cfg : Settings) (s : ClusterScheduler) (i : Nat) (call : PickCall) (event : PickEvent) (phase : PickPhase)
    (advance : Advance cfg s i call event phase) : phase.steps < call.phase.steps := by
  cases advance with
  | breakerDone kept stands =>
      rw [stands]
      refine steps_settle _ kept _ (by simp [PickPhase.steps]) ?_
      split <;> simp [PickPhase.steps]
  | breakerNext node todo kept stands =>
      rw [stands]
      split <;> simp only [PickPhase.steps, List.length_cons, List.length_append, List.length_nil] <;> omega
  | limiterDone now kept stands =>
      rw [stands]
      exact steps_settle _ kept _ (by simp [PickPhase.steps]) (by simp [PickPhase.steps])
  | limiterNext now limits node todo kept enabled stands =>
      rw [stands]
      simp [PickPhase.steps]
  | poolChosen draw eligible stands =>
      rw [stands]
      exact steps_pooled cfg s.canary call.preferredRegion draw eligible

def PickEvent.of? : PickEvent → Option Nat
  | .askBreaker i | .askLimiter i _ | .choosePool i _ | .choose i _ => some i
  | _ => none

theorem steps_turn (cfg : Settings) (s after : ClusterScheduler) (event : PickEvent) (i : Nat) (own : event.of? = some i)
    (turn : Turn cfg s after event) : ∃ call phase, s.calls[i]? = some call ∧
      after.calls[i]? = some { call with phase := phase } ∧ phase.steps < call.phase.steps := by
  have moved (call : PickCall) (phase : PickPhase) (stepped : Stepped s i call phase after) :
      after.calls[i]? = some { call with phase := phase } := by
    rw [stepped.calls, List.getElem?_set_self (List.getElem?_eq_some_iff.mp stepped.here).1]
  cases turn with
  | advanced _ j call phase advance stepped heat bindings =>
      have same : j = i := by cases advance <;> exact Option.some.inj own
      subst same
      exact ⟨call, phase, stepped.here, moved call phase stepped, steps_advance cfg s j call event phase advance⟩
  | chosen j now call eligible phase choosing stepped outcome =>
      cases own
      refine ⟨call, phase, stepped.here, moved call phase stepped, ?_⟩
      rw [choosing]
      cases outcome <;> simp [PickPhase.steps]
  | entered now nodes affinityKey preferredRegion calls canary heat bindings => cases own
  | breakers openBreakers calls canary heat bindings => cases own
  | deployed canary calls deployed heat bindings => cases own
  | reset nodeId now calls canary heat bindings => cases own

-- A call that has not ended can take a step.
theorem unended_moves (cfg : Settings) (s : ClusterScheduler) (i : Nat) (call : PickCall) (here : s.calls[i]? = some call)
    (limited : ∀ todo kept, call.phase = .limiting todo kept → cfg.rateLimiter.isSome = true) (unended : call.phase.ended = false) :
    ∃ event after, event.of? = some i ∧ pickNext cfg s event = some after := by
  cases stands : call.phase with
  | breaking todo kept =>
      cases todo <;> exact ⟨.askBreaker i, by simp [pickNext, PickEvent.reading, pickStep, askBreaker, here, stands, PickEvent.of?]⟩
  | limiting todo kept =>
      obtain ⟨limits, enabled⟩ := Option.isSome_iff_exists.mp (limited todo kept stands)
      cases todo <;> exact ⟨.askLimiter i s.clock, by
        simp [pickNext, PickEvent.reading, pickStep, askLimiter, here, stands, enabled, PickEvent.of?]⟩
  | pooling eligible =>
      exact ⟨.choosePool i 0, by simp [pickNext, PickEvent.reading, pickStep, choosePool, here, stands, PickEvent.of?]⟩
  | choosing eligible =>
      have chooses : ∃ after, s.choose cfg i s.clock = some after := by
        simp only [choose, here, stands]
        split
        · exact ⟨_, rfl⟩
        · split
          · exact ⟨_, rfl⟩
          · exact ⟨_, rfl⟩
          · split <;> exact ⟨_, rfl⟩
      obtain ⟨after, chosen⟩ := chooses
      exact ⟨.choose i s.clock, { after with clock := s.clock }, rfl, by simp [pickNext, PickEvent.reading, pickStep, chosen]⟩
  | returned node => simp [stands, PickPhase.ended] at unended
  | raised => simp [stands, PickPhase.ended] at unended

theorem progress_limited (cfg : Settings) (listed : List NodeDict) (b l : List (NodeDict × Bool)) (phase : PickPhase)
    (progress : Progress cfg listed b l phase) (todo kept : List NodeDict) (stands : phase = .limiting todo kept) :
    cfg.rateLimiter.isSome = true := by
  rw [stands] at progress
  exact progress.1

theorem picking_ends (cfg : Settings) (halving : ∀ age, 0 ≤ cfg.halve age) (i : Nat) (listed : List NodeDict)
    (serving : ∀ node ∈ listed, node.hasStatus "alive" = true ∨ node.hasStatus "quarantined" = true) (fuel : Nat) (w : CheckWatch)
    (watching : Watching cfg w) (picking : Picking cfg i listed w)
    (enough : ∀ call, w.scheduler.calls[i]? = some call → call.phase.steps ≤ fuel) :
    ∃ events last, CheckRun cfg w events last ∧ ∃ call, last.scheduler.calls[i]? = some call ∧ call.phase.ended = true := by
  induction fuel generalizing w with
  | zero =>
      obtain ⟨call, here, _⟩ := picking
      refine ⟨[], w, .nil, call, here, ?_⟩
      have spent := enough call here
      cases stands : call.phase <;> simp [stands, PickPhase.steps] at spent <;> rfl
  | succ fuel ih =>
      obtain ⟨call, here, progress⟩ := picking
      by_cases ended : call.phase.ended = true
      · exact ⟨[], w, .nil, call, here, ended⟩
      · obtain ⟨event, next, own, stepped⟩ := unended_moves cfg w.scheduler i call here
          (progress_limited cfg listed _ _ call.phase progress) (by simpa using ended)
        have taken : checkNext cfg w event = some ⟨next, w.checks ++ (checked cfg w.scheduler event).toList⟩ := by
          rw [checkNext, stepped, Option.map_some]
        obtain ⟨old, phase, stood, moved, less⟩ := steps_turn cfg w.scheduler next event i own
          (pick_next_turn cfg w.scheduler next event stepped)
        cases here.symm.trans stood
        have enoughNow : ∀ now, next.calls[i]? = some now → now.phase.steps ≤ fuel := by
          intro now there
          cases moved.symm.trans there
          have before := enough call here
          change phase.steps ≤ fuel
          omega
        obtain ⟨events, last, run, done⟩ := ih _ (watching_step cfg halving w _ event watching taken)
          (picking_step cfg halving i listed serving w _ event watching ⟨call, here, progress⟩ taken) enoughNow
        exact ⟨[event] ++ events, last,
          Runs.run_append _ _ w _ last [event] events (Runs.run_one _ _ w _ event trivial taken) run, done⟩

def CheckWatch.fresh (openBreakers : String → Bool) (canary : Option Canary) (clock : ℚ) : CheckWatch :=
  ⟨.start openBreakers canary clock, []⟩

-- Where a call stands, next to what it was asked to choose from.
structure PickedEligible (cfg : Settings) (listed : List NodeDict) (checks : List Check) (i : Nat) (phase : PickPhase) : Prop where
  picked : ∀ node, phase = .returned (some node) → node ∈ listed ∧ node.eligible = true ∧ Passes cfg checks i node
  nobody : phase.ended = true →
    (phase = .returned none ↔ ∀ node ∈ listed, node.eligible = true → ¬ Passes cfg checks i node)
  answered : phase.ended = true → ∀ node ∈ listed, node.eligible = true → Passes cfg checks i node ∨ Refused checks i node

-- Metrics and metadata are objects, and the load is absent or not negative.
structure Described (node : NodeRecord) : Prop where
  metrics : ∃ fields, dict? node.metrics = some fields ∧ (Json.get fields "requests_per_sec" = .null ∨
    ∃ rps, (Json.get fields "requests_per_sec").toFloat? = some rps ∧ (Double.finite 0).le rps = true)
  metadata : dict? node.metadata ≠ none

theorem serving_of (now : ℚ) (node : NodeRecord) (eligible : (NodeDict.of now node).eligible = true) :
    (NodeDict.of now node).hasStatus "alive" = true ∨ (NodeDict.of now node).hasStatus "quarantined" = true := by
  rw [of_eligible] at eligible
  rw [of_status, of_status]
  cases stands : node.status <;> simp [NodeRecord.live, stands] at eligible <;> simp [Master.Status.text]

theorem load_defined (value : Json) (rps : Double) (read : value.toFloat? = some rps) (nonneg : (Double.finite 0).le rps = true) :
    ∃ factor, loadFactor? value = some factor := by
  cases rps with
  | finite rps =>
      have positive : 0 ≤ Double.nearest (rps / 100) := Double.nearest_nonneg _ (div_nonneg (of_decide_eq_true nonneg) (by norm_num))
      have apart : divisor rps ≠ 0 := (one_pos.trans_le (one_le_divisor _ positive)).ne'
      exact ⟨_, by rw [load_finite value rps read, divide?, if_neg apart, Option.map_some]⟩
  | infinite negative => exact ⟨tenth, load_other value _ read (by simp)⟩
  | nan => exact ⟨tenth, load_other value _ read (by simp)⟩

theorem described_placeable (now : ℚ) (node : NodeRecord) (described : Described node) (live : node.live = true) :
    Placeable (.of now node) := by
  obtain ⟨fields, readable, load⟩ := described.metrics
  have loaded : ∃ factor, loadFactor? (Json.get fields "requests_per_sec") = some factor := by
    rcases load with absent | ⟨rps, read, nonneg⟩
    · exact ⟨1, by rw [absent]; rfl⟩
    · exact load_defined _ rps read nonneg
  obtain ⟨factor, loaded⟩ := loaded
  refine ⟨?_, by rw [section_dict, of_metadata]; exact described.metadata⟩
  rw [fitness_of now node live, readable, Option.bind_some, loaded, Option.map_some]
  exact Option.some_ne_none _

theorem picking_picked (cfg : Settings) (i : Nat) (nodes : List NodeDict) (checks : List Check) (phase : PickPhase)
    (progress : Progress cfg (nodes.filter NodeDict.eligible) (verdicts checks i .breaker) (verdicts checks i .limiter) phase) :
    PickedEligible cfg nodes checks i phase := by
  have survivor (filtered : Filtered cfg (nodes.filter NodeDict.eligible) (verdicts checks i .breaker) (verdicts checks i .limiter))
      (node : NodeDict) : node ∈ survivors cfg (nodes.filter NodeDict.eligible) (verdicts checks i .breaker)
        (verdicts checks i .limiter) ↔
        (node ∈ nodes ∧ node.eligible = true) ∧ Passes cfg checks i node := by
    rw [mem_survivors cfg _ _ _ filtered, List.mem_filter]
    rfl
  have filtered (ended : phase.ended = true) :
      Filtered cfg (nodes.filter NodeDict.eligible) (verdicts checks i .breaker) (verdicts checks i .limiter) := by
    cases phase with
    | returned node => cases node <;> exact progress.1
    | raised => exact progress.1
    | breaking todo kept => cases ended
    | limiting todo kept => cases ended
    | pooling eligible => cases ended
    | choosing eligible => cases ended
  have nobody (ended : phase.ended = true) : phase = .returned none ↔
      survivors cfg (nodes.filter NodeDict.eligible) (verdicts checks i .breaker) (verdicts checks i .limiter) = [] := by
    cases phase with
    | returned node =>
        cases node with
        | none => exact iff_of_true rfl progress.2
        | some node => exact iff_of_false (by simp) (List.ne_nil_of_mem progress.2)
    | raised => exact iff_of_false (by simp) progress.2
    | breaking todo kept => cases ended
    | limiting todo kept => cases ended
    | pooling eligible => cases ended
    | choosing eligible => cases ended
  constructor
  · intro node returned
    subst returned
    obtain ⟨⟨member, eligible⟩, passes⟩ := (survivor (filtered rfl) node).mp progress.2
    exact ⟨member, eligible, passes⟩
  · intro ended
    rw [nobody ended, List.eq_nil_iff_forall_not_mem]
    refine forall_congr' fun node => ?_
    rw [survivor (filtered ended) node]
    tauto
  · intro ended node member eligible
    by_contra neither
    push Not at neither
    have kept := answered_all cfg _ _ _ (filtered ended) node (List.mem_filter.mpr ⟨member, eligible⟩) neither.2
    exact neither.1 ((survivor (filtered ended) node).mp kept).2

-- However the breaker, the deployment, the operator and the other picks go on
-- while a call runs.
theorem picks_eligible (cfg : Settings) (halving : ∀ age, 0 ≤ cfg.halve age) (openBreakers : String → Bool)
    (canary : Option Canary) (clock : ℚ) (before : List PickEvent) (w : CheckWatch)
    (reached : CheckRun cfg (.fresh openBreakers canary clock) before w) (time : ℚ) (listed : List NodeDict)
    (records : ∀ dict ∈ listed, ∃ now node, dict = NodeDict.of now node) (affinityKey preferredRegion : Option String)
    (begun : CheckWatch) (entered : checkNext cfg w (.pick time listed affinityKey preferredRegion) = some begun)
    (after : List PickEvent) (last : CheckWatch) (run : CheckRun cfg begun after last) :
    ∃ call, last.scheduler.calls[w.scheduler.calls.length]? = some call ∧
      PickedEligible cfg listed last.checks w.scheduler.calls.length call.phase ∧
      (cfg.cooldown ≠ 0 → Runs.Run (checkNext cfg) (fun state event => Timely cfg state.scheduler event) begun after last →
        (∀ dict ∈ listed, ∃ now node, Described node ∧ dict = NodeDict.of now node) → call.phase ≠ .raised) ∧
      ∃ more done, CheckRun cfg last more done ∧
        ∃ call, done.scheduler.calls[w.scheduler.calls.length]? = some call ∧ call.phase.ended = true := by
  have serving : ∀ node ∈ listed.filter NodeDict.eligible, node.hasStatus "alive" = true ∨ node.hasStatus "quarantined" = true := by
    intro node kept
    obtain ⟨member, eligible⟩ := List.mem_filter.mp kept
    obtain ⟨now, record, rfl⟩ := records node member
    exact serving_of now record eligible
  have watched : Watching cfg w := Runs.run_invariant (checkNext cfg) (fun _ _ => True) (Watching cfg)
    (fun state event next watching _ taken => watching_step cfg halving state next event watching taken) _ w before
    ⟨warm_start openBreakers canary clock, fun check member => by cases member⟩ reached
  have start : Watching cfg begun ∧ Picking cfg w.scheduler.calls.length (listed.filter NodeDict.eligible) begun := by
    refine ⟨watching_step cfg halving w begun _ watched entered, ?_⟩
    have unasked (filter : Filter) : verdicts w.checks w.scheduler.calls.length filter = [] :=
      verdicts_foreign w.checks _ filter fun check member => (watched.known check member).ne
    cases entered
    refine ⟨_, List.getElem?_concat_length, ?_⟩
    rw [show w.checks ++ (checked cfg w.scheduler (.pick time listed affinityKey preferredRegion)).toList = w.checks from
      List.append_nil _, unasked, unasked]
    exact progress_after_status cfg _
  have final : Watching cfg last ∧ Picking cfg w.scheduler.calls.length (listed.filter NodeDict.eligible) last :=
    Runs.run_invariant (checkNext cfg) (fun _ _ => True)
      (fun state => Watching cfg state ∧ Picking cfg w.scheduler.calls.length (listed.filter NodeDict.eligible) state)
      (fun state event next held _ taken => ⟨watching_step cfg halving state next event held.1 taken,
        picking_step cfg halving _ _ serving state next event held.1 held.2 taken⟩) begun last after start run
  obtain ⟨watching, picking⟩ := final
  obtain ⟨call, here, progress⟩ := picking
  have ends := picking_ends cfg halving _ _ serving call.phase.steps last watching ⟨call, here, progress⟩ fun other same => by
    cases here.symm.trans same
    exact le_refl _
  refine ⟨call, here, picking_picked cfg _ listed last.checks call.phase progress, fun cooling timely described raised => ?_, ends⟩
  have safe : SafeCall w.scheduler.calls.length begun.scheduler := by
    refine ⟨start.1.warm, ?_⟩
    cases entered
    refine ⟨_, List.getElem?_concat_length, safe_after_status cfg _ fun dict kept => ?_⟩
    obtain ⟨member, eligible⟩ := List.mem_filter.mp kept
    obtain ⟨now, node, known, rfl⟩ := described dict member
    exact described_placeable now node known (by rwa [of_eligible] at eligible)
  have unraised : SafeCall w.scheduler.calls.length last.scheduler :=
    Runs.run_invariant (checkNext cfg) (fun state event => Timely cfg state.scheduler event)
      (fun state => SafeCall w.scheduler.calls.length state.scheduler)
      (fun state event next held early taken => by
        obtain ⟨moved, stepped, rfl⟩ := Option.map_eq_some_iff.mp taken
        exact safe_step cfg ⟨cooling, halving⟩ _ state.scheduler moved event held early stepped) begun last after safe timely
  obtain ⟨mine, there, fine⟩ := unraised.safe
  cases here.symm.trans there
  rw [raised] at fine
  exact fine

def guarded : Settings := { plain with circuitBreaker := true, rateLimiter := some pairLimits }

def twoNodes : List NodeDict :=
  nodes (fun _ => 1) (Master.Registry.empty.run {} [.join 0 (Master.sampleJoin "a") none, .join 0 (Master.sampleJoin "b") none])

def trippedFirst (nodeId : String) : Bool := decide (nodeId = "a")

def guardedSteps : List PickEvent :=
  [.askBreaker 0, .askBreaker 0, .askBreaker 0, .askLimiter 0 0, .askLimiter 0 0, .choosePool 0 0, .choose 0 0]

-- The breaker of one of two nodes is open, and the key is bound to nobody.
theorem picks_eligible_tripped : ∃ begun last call,
    checkNext guarded (.fresh trippedFirst none 0) (.pick 0 twoNodes (some "k") (some "eu")) = some begun ∧
      CheckRun guarded begun guardedSteps last ∧ last.scheduler.calls[0]? = some call ∧ call.phase.ended = true ∧
        PickedEligible guarded twoNodes last.checks 0 call.phase ∧ call.phase ≠ .returned none := by
  have reached : ∃ begun ∈ checkNext guarded (.fresh trippedFirst none 0) (.pick 0 twoNodes (some "k") (some "eu")),
      ∃ last ∈ Runs.follow (checkNext guarded) (fun _ _ => True) begun guardedSteps, ∃ call ∈ last.scheduler.calls[0]?,
        call.phase.ended = true ∧ (answerOf call.phase).map NodeDict.nodeId = some "b" := by decide +kernel
  obtain ⟨begun, entered, last, followed, call, here, ended, chosen⟩ := reached
  have run := Runs.follow_run _ _ _ last _ followed
  have records : ∀ dict ∈ twoNodes, ∃ now node, dict = NodeDict.of now node := by
    intro dict member
    obtain ⟨node, _, same⟩ := (mem_nodes _ _ dict).mp member
    exact ⟨_, node, same⟩
  obtain ⟨other, there, picked, _⟩ := picks_eligible guarded plain_halving trippedFirst none 0 [] _ .nil 0 twoNodes records
    (some "k") (some "eu") begun entered guardedSteps last run
  cases here.symm.trans there
  refine ⟨begun, last, call, entered, run, here, ended, picked, fun nobody => ?_⟩
  rw [nobody] at chosen
  cases chosen

end HuddleCluster.Scheduler
