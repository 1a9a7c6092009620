import HuddleCluster.Scheduler.Steps

set_option autoImplicit false

namespace HuddleCluster.Scheduler

open ClusterScheduler

-- What a call has answered, next to the nodes that had passed its filters.
structure Answer where
  pool : List NodeDict
  node : Option NodeDict

-- The answers are not in the program.
structure PickWatch where
  scheduler : ClusterScheduler
  answers : List Answer

namespace PickWatch

def fresh (openBreakers : String → Bool) (canary : Option Canary) (clock : ℚ) : PickWatch := ⟨.start openBreakers canary clock, []⟩

end PickWatch

def answered (s after : ClusterScheduler) : PickEvent → Option Answer
  | .choose i _ =>
      match s.calls[i]?.map PickCall.phase, after.calls[i]?.map PickCall.phase with
      | some (.choosing pool), some (.returned node) => some ⟨pool, node⟩
      | _, _ => none
  | _ => none

def watchStep (cfg : Settings) (s : PickWatch) (event : PickEvent) : Option PickWatch :=
  (pickNext cfg s.scheduler event).map fun after => ⟨after, s.answers ++ (answered s.scheduler after event).toList⟩

abbrev WatchRun (cfg : Settings) (allowed : PickWatch → PickEvent → Prop) := Runs.Run (watchStep cfg) allowed

def AliveFirst (answer : Answer) : Prop :=
  (∃ node ∈ answer.pool, node.hasStatus "alive" = true) → ∃ node, answer.node = some node ∧ node.hasStatus "alive" = true

-- A key is not bound to a node of the pool that is less than alive, while
-- another one is alive.
def BoundAlive (s : PickWatch) : PickEvent → Prop
  | .choose i _ =>
      match s.scheduler.calls[i]? with
      | none => True
      | some call =>
          match call.phase with
          | .choosing pool => ∀ node, s.scheduler.boundNode call.affinityKey pool = some node →
              AliveFirst ⟨pool, some node⟩
          | _ => True
  | _ => True

theorem answered_chosen (s after : ClusterScheduler) (i : Nat) (now : ℚ) (call : PickCall) (pool : List NodeDict)
    (phase : PickPhase) (choosing : call.phase = .choosing pool) (stepped : Stepped s i call phase after) :
    answered s after (.choose i now) = match phase with
      | .returned node => some ⟨pool, node⟩
      | _ => none := by
  have inside := (List.getElem?_eq_some_iff.mp stepped.here).1
  have now : after.calls[i]? = some { call with phase := phase } := by
    rw [stepped.calls, List.getElem?_set_self inside]
  simp only [answered, stepped.here, now, Option.map_some, choosing]
  cases phase <;> rfl

theorem answered_otherwise (cfg : Settings) (s after : ClusterScheduler) (event : PickEvent) (i : Nat) (call : PickCall)
    (phase : PickPhase) (advance : Advance cfg s i call event phase) : answered s after event = none := by
  cases advance <;> rfl

theorem bound_choose (s : PickWatch) (i : Nat) (now : ℚ) (call : PickCall) (pool : List NodeDict)
    (here : s.scheduler.calls[i]? = some call) (choosing : call.phase = .choosing pool) :
    BoundAlive s (.choose i now) ↔ ∀ node, s.scheduler.boundNode call.affinityKey pool = some node →
      AliveFirst ⟨pool, some node⟩ := by
  simp only [BoundAlive, here, choosing]

-- An answer that was selected and not bound is alive if it can be.
theorem alive_first_step (cfg : Settings) (prefers : cfg.preferAlive = true) (halving : ∀ age, 0 ≤ cfg.halve age)
    (s : PickWatch) (warm : Warm s.scheduler) (event : PickEvent) (after : ClusterScheduler)
    (taken : pickNext cfg s.scheduler event = some after) :
    (∀ answer ∈ answered s.scheduler after event, AliveFirst answer) ↔ BoundAlive s event := by
  cases pick_next_turn cfg s.scheduler after event taken with
  | entered now nodes affinityKey preferredRegion calls canary heat bindings => simp [answered, BoundAlive]
  | advanced _ i call phase advance stepped heat bindings =>
      rw [answered_otherwise cfg s.scheduler after event i call phase advance]
      cases advance <;> simp [BoundAlive]
  | breakers openBreakers calls canary heat bindings => simp [answered, BoundAlive]
  | deployed canary calls deployed heat bindings => simp [answered, BoundAlive]
  | reset nodeId now calls canary heat bindings => simp [answered, BoundAlive]
  | chosen i now call pool phase choosing stepped outcome =>
      rw [answered_chosen s.scheduler after i now call pool phase choosing stepped,
        bound_choose s i now call pool stepped.here choosing]
      cases outcome with
      | bound node found heat bindings => simp [found]
      | failed unbound failure heat bindings => simp [unbound]
      | nobody unbound unselected heat bindings =>
          simp only [unbound, Option.mem_def, Option.some.injEq, forall_eq', reduceCtorEq, false_implies, implies_true, iff_true]
          rintro ⟨alive, member, has⟩
          obtain ⟨_, same, _⟩ := select_alive cfg prefers halving s.scheduler warm call.now pool alive member has none unselected
          cases same
      | selected node warmth unbound chosen current heat bindings =>
          simp only [unbound, Option.mem_def, Option.some.injEq, forall_eq', reduceCtorEq, false_implies, implies_true, iff_true]
          rintro ⟨alive, member, has⟩
          obtain ⟨other, same, well⟩ := select_alive cfg prefers halving s.scheduler warm call.now pool alive member has _ chosen
          exact ⟨other, same, well⟩

theorem alive_first_iff (cfg : Settings) (prefers : cfg.preferAlive = true) (halving : ∀ age, 0 ≤ cfg.halve age)
    (openBreakers : String → Bool) (canary : Option Canary) (clock : ℚ) (events : List PickEvent) (last : PickWatch)
    (run : WatchRun cfg (fun _ _ => True) (.fresh openBreakers canary clock) events last) :
    (∀ answer ∈ last.answers, AliveFirst answer) ↔ WatchRun cfg BoundAlive (.fresh openBreakers canary clock) events last := by
  apply Runs.run_characterised (watchStep cfg) BoundAlive (fun s => Warm s.scheduler)
    (fun s => ∀ answer ∈ s.answers, AliveFirst answer)
  · intro s after event warm taken
    obtain ⟨next, stepped, rfl⟩ := Option.map_eq_some_iff.mp taken
    refine ⟨warm_step cfg halving s.scheduler next event warm stepped, ?_⟩
    rw [← alive_first_step cfg prefers halving s warm event next stepped]
    simp only [List.mem_append, Option.mem_toList, Option.mem_def, or_imp, forall_and]
  · intro nodeId heat lastTime stored
    cases stored
  · exact fun answer member => by cases member
  · exact run

instance (answer : Answer) : Decidable (AliveFirst answer) :=
  match found : answer.node with
  | none =>
      if alive : ∃ node ∈ answer.pool, node.hasStatus "alive" = true then
        isFalse fun first => by
          obtain ⟨_, same, _⟩ := first alive
          simp [found] at same
      else isTrue fun other => absurd other alive
  | some node =>
      if well : node.hasStatus "alive" = true then isTrue fun _ => ⟨node, found, well⟩
      else if alive : ∃ node ∈ answer.pool, node.hasStatus "alive" = true then
        isFalse fun first => by
          obtain ⟨other, same, has⟩ := first alive
          cases found.symm.trans same
          exact well has
      else isTrue fun other => absurd other alive

theorem bound_iff (s : PickWatch) (i : Nat) (now : ℚ) :
    (∀ call ∈ s.scheduler.calls[i]?, ∀ pool ∈ call.phase.choosing?,
      ∀ node ∈ s.scheduler.boundNode call.affinityKey pool, AliveFirst ⟨pool, some node⟩) ↔ BoundAlive s (.choose i now) := by
  cases here : s.scheduler.calls[i]? with
  | none => simp [BoundAlive, here]
  | some call => cases choosing : call.phase <;> simp [BoundAlive, here, choosing, PickPhase.choosing?]

instance (s : PickWatch) (event : PickEvent) : Decidable (BoundAlive s event) :=
  match event with
  | .choose i now => decidable_of_iff _ (bound_iff s i now)
  | .pick .. | .askBreaker _ | .askLimiter .. | .choosePool .. | .breakers _ | .deploy _ | .reset .. => isTrue trivial

def serving (nodeId status : String) : NodeDict :=
  ⟨nodeId, [("node_id", .str nodeId), ("status", .str status), ("last_seen_ago_sec", .number 0)]⟩

def plain : Settings where
  halve := fun age => if age = 0 then 1 else 1 / 2
  normal := fun value => match value with
    | .str text => Text.strip text
    | _ => ""

-- The i-th pick from start to end, with nobody else at work.
def wholePick (i : Nat) (nodes : List NodeDict) (affinityKey : Option String) : List PickEvent :=
  [.pick 0 nodes affinityKey none, .choosePool i 0, .choose i 0]

theorem plain_halving (age : ℚ) : 0 ≤ plain.halve age := by
  simp only [plain]
  split <;> norm_num

def keptApart : List PickEvent :=
  wholePick 0 [serving "a" "alive", serving "b" "alive"] (some "k") ++
    wholePick 1 [serving "a" "alive", serving "b" "quarantined"] (some "k") ++
      wholePick 2 [serving "b" "quarantined", serving "c" "alive"] (some "k")

theorem rebinding_alive_first : ∃ last, WatchRun plain (fun _ _ => True) (.fresh noBreaker none 0) keptApart last ∧
    ∀ answer ∈ last.answers, AliveFirst answer := by
  have taken : (Runs.follow (watchStep plain) BoundAlive (.fresh noBreaker none 0) keptApart).isSome = true := by decide +kernel
  obtain ⟨last, followed⟩ := Option.isSome_iff_exists.mp taken
  have permitted := Runs.follow_run _ _ _ last _ followed
  have run := Runs.run_free _ _ _ last _ permitted
  exact ⟨last, run, (alive_first_iff plain rfl plain_halving noBreaker none 0 _ last run).mpr permitted⟩

-- The key stays bound to a node that has been quarantined in the meantime.
def fallsIll : List PickEvent :=
  wholePick 0 [serving "a" "alive", serving "b" "alive"] (some "k") ++
    wholePick 1 [serving "a" "quarantined", serving "b" "alive"] (some "k")

theorem quarantined_returned : ∃ last, WatchRun plain (fun _ _ => True) (.fresh noBreaker none 0) fallsIll last ∧
    ∃ answer ∈ last.answers, answer.node.map NodeDict.nodeId = some "a" ∧ ¬ AliveFirst answer := by
  have reached : ∃ last ∈ Runs.follow (watchStep plain) (fun _ _ => True) (.fresh noBreaker none 0) fallsIll,
      ∃ answer ∈ last.answers, answer.node.map NodeDict.nodeId = some "a" ∧ ¬ AliveFirst answer := by decide +kernel
  obtain ⟨last, followed, answer⟩ := reached
  exact ⟨last, Runs.follow_run _ _ _ last _ followed, answer⟩

end HuddleCluster.Scheduler
