import HuddleCluster.Breaker.Evaluate
import HuddleCluster.Master.NodeMachine

set_option autoImplicit false

namespace HuddleCluster.Breaker

open Master (NodeRecord Registry)
open Scheduler (dict?)

def withMetrics (registry : Registry) (id : String) (metrics : Json) : Registry :=
  registry.mark (fun node => if node.nodeId = id then { node with metrics := metrics } else node) fun node => by
    split <;> rfl

-- One evaluation, at any settings, time and breakers, leaves the others the same.
def Isolated (registry : Registry) (id : String) (first second : Json) : Prop :=
  ∀ (cfg : Settings) (now : ℚ) (listed : String → ℚ) (states : States) (query : String), query ≠ id →
    (evaluate cfg now (Scheduler.nodes listed (withMetrics registry id first)) states).get? query =
      (evaluate cfg now (Scheduler.nodes listed (withMetrics registry id second)) states).get? query

-- Of all nodes but one, one that comes before the given node ends the loop.
def CutWithout (registry : Registry) (id query : String) : Prop :=
  ∃ other node, other < query ∧ other ≠ id ∧ registry.nodes.get? other = some node ∧ fatal node.metrics = true

-- Both values end the loop or neither does, or no node that comes later would be
-- written to in either case.
def Harmless (registry : Registry) (id : String) (first second : Json) : Prop :=
  fatal first = fatal second ∨ ∀ query node, id < query → registry.nodes.get? query = some node →
    dict? node.metrics = none ∨ CutWithout registry id query

theorem with_metrics_node (registry : Registry) (id query : String) (metrics : Json) :
    (withMetrics registry id metrics).nodes.get? query =
      (registry.nodes.get? query).map fun node => if query = id then { node with metrics := metrics } else node := by
  rw [withMetrics, Registry.mark, Dict.get_map]
  cases found : registry.nodes.get? query with
  | none => rfl
  | some node => simp only [Option.map_some, registry.keyed query node found]

theorem with_metrics_other (registry : Registry) (id query : String) (metrics : Json) (other : query ≠ id) :
    (withMetrics registry id metrics).nodes.get? query = registry.nodes.get? query := by
  rw [with_metrics_node]
  simp [other]

theorem cut_with_metrics (registry : Registry) (id query : String) (metrics : Json) (node : NodeRecord)
    (found : registry.nodes.get? id = some node) :
    Cut (withMetrics registry id metrics) query ↔ id < query ∧ fatal metrics = true ∨ CutWithout registry id query := by
  constructor
  · rintro ⟨other, before, less, held, ends⟩
    by_cases same : other = id
    · subst same
      rw [with_metrics_node, found, Option.map_some, if_pos rfl] at held
      cases held
      exact Or.inl ⟨less, ends⟩
    · rw [with_metrics_other registry id other metrics same] at held
      exact Or.inr ⟨other, before, less, same, held, ends⟩
  · rintro (⟨less, ends⟩ | ⟨other, before, less, different, held, ends⟩)
    · refine ⟨id, { node with metrics := metrics }, less, ?_, ends⟩
      rw [with_metrics_node, found, Option.map_some, if_pos rfl]
    · refine ⟨other, before, less, ?_, ends⟩
      rw [with_metrics_other registry id other metrics different, held]

theorem turn_none (cfg : Settings) (now : ℚ) (id : String) (metrics : Json) (breaker : Option BreakerState)
    (unreadable : dict? metrics = none) : turn cfg now id metrics breaker = breaker := by
  rw [turn, unreadable]

theorem turn_written (cfg : Settings) (now : ℚ) (id : String) (metrics : Json) (fields : List (String × Json))
    (readable : dict? metrics = some fields) : turn cfg now id metrics none ≠ none := by
  simp [turn, readable]

-- From no breakers at all, a later node with readable metrics gets one exactly if
-- the loop does not end at the changed node.
theorem unwritten_iff_fatal (registry : Registry) (id query : String) (node later : NodeRecord)
    (found : registry.nodes.get? id = some node) (held : registry.nodes.get? query = some later) (less : id < query)
    (uncut : ¬ CutWithout registry id query) (fields : List (String × Json)) (readable : dict? later.metrics = some fields)
    (metrics : Json) :
    (evaluate {} 0 (Scheduler.nodes (fun _ => 0) (withMetrics registry id metrics)) .empty).get? query = none ↔
      fatal metrics = true := by
  obtain ⟨stopped, reached⟩ := evaluate_registered {} 0 (fun _ => 0) (withMetrics registry id metrics) .empty query later
    (by rw [with_metrics_other registry id query metrics less.ne', held])
  have ends := cut_with_metrics registry id query metrics node found
  constructor
  · intro unwritten
    by_contra alive
    have clear : ¬ Cut (withMetrics registry id metrics) query := by
      rw [ends]
      rintro (⟨_, dead⟩ | without)
      · exact alive dead
      · exact uncut without
    rw [reached clear] at unwritten
    exact turn_written {} 0 query later.metrics fields readable unwritten
  · intro dead
    exact stopped (ends.mpr (Or.inl ⟨less, dead⟩))

theorem isolated_harmless (registry : Registry) (id : String) (node : NodeRecord) (found : registry.nodes.get? id = some node)
    (first second : Json) (isolated : Isolated registry id first second) : Harmless registry id first second := by
  by_cases both : fatal first = fatal second
  · exact Or.inl both
  · refine Or.inr fun query later less held => ?_
    by_cases cut : CutWithout registry id query
    · exact Or.inr cut
    · left
      by_contra readable
      obtain ⟨fields, readable⟩ := Option.ne_none_iff_exists'.mp readable
      have same := isolated {} 0 (fun _ => 0) .empty query less.ne'
      have outcome := unwritten_iff_fatal registry id query node later found held less cut fields readable
      apply both
      rw [Bool.eq_iff_iff, ← outcome first, ← outcome second, same]

theorem same_cut_same (cfg : Settings) (now : ℚ) (listed : String → ℚ) (first second : Registry) (states : States) (query : String)
    (node : NodeRecord) (before : first.nodes.get? query = some node) (after : second.nodes.get? query = some node)
    (cut : Cut first query ↔ Cut second query) :
    (evaluate cfg now (Scheduler.nodes listed first) states).get? query =
      (evaluate cfg now (Scheduler.nodes listed second) states).get? query := by
  obtain ⟨stoppedFirst, reachedFirst⟩ := evaluate_registered cfg now listed first states query node before
  obtain ⟨stoppedSecond, reachedSecond⟩ := evaluate_registered cfg now listed second states query node after
  by_cases ends : Cut first query
  · rw [stoppedFirst ends, stoppedSecond (cut.mp ends)]
  · rw [reachedFirst ends, reachedSecond (mt cut.mpr ends)]

theorem unreadable_unchanged (cfg : Settings) (now : ℚ) (listed : String → ℚ) (registry : Registry) (states : States) (query : String)
    (node : NodeRecord) (held : registry.nodes.get? query = some node) (unreadable : dict? node.metrics = none) :
    (evaluate cfg now (Scheduler.nodes listed registry) states).get? query = states.get? query := by
  obtain ⟨stopped, reached⟩ := evaluate_registered cfg now listed registry states query node held
  by_cases ends : Cut registry query
  · exact stopped ends
  · rw [reached ends, turn_none cfg now query node.metrics _ unreadable]

theorem breakers_isolated_iff (registry : Registry) (id : String) (node : NodeRecord)
    (found : registry.nodes.get? id = some node) (first second : Json) :
    Isolated registry id first second ↔ Harmless registry id first second := by
  refine ⟨isolated_harmless registry id node found first second, ?_⟩
  intro harmless cfg now listed states query other
  have others (metrics : Json) := with_metrics_other registry id query metrics other
  cases held : registry.nodes.get? query with
  | none =>
      rw [evaluate_unregistered cfg now listed _ states query ((others first).trans held),
        evaluate_unregistered cfg now listed _ states query ((others second).trans held)]
  | some later =>
      have present (metrics : Json) := (others metrics).trans held
      have endsFirst := cut_with_metrics registry id query first node found
      have endsSecond := cut_with_metrics registry id query second node found
      by_cases cut : Cut (withMetrics registry id first) query ↔ Cut (withMetrics registry id second) query
      · exact same_cut_same cfg now listed _ _ states query later (present first) (present second) cut
      · -- Only one of the two values ends the loop before the node.
        have split : fatal first ≠ fatal second ∧ id < query ∧ ¬ CutWithout registry id query := by
          rw [endsFirst, endsSecond] at cut
          refine ⟨fun both => cut (by rw [both]), ?_, fun without => cut (iff_of_true (Or.inr without) (Or.inr without))⟩
          by_contra early
          exact cut (by simp [early])
        have unreadable : dict? later.metrics = none := by
          rcases harmless with both | quiet
          · exact absurd both split.1
          · exact (quiet query later split.2.1 held).resolve_right split.2.2
        rw [unreadable_unchanged cfg now listed _ states query later (present first) unreadable,
          unreadable_unchanged cfg now listed _ states query later (present second) unreadable]

def twoNodes : Registry := Registry.empty.run {} [.join 0 (Master.sampleJoin "a") none, .join 0 (Master.sampleJoin "b") none]

theorem breakers_isolated_numbers : ∃ node, twoNodes.nodes.get? "a" = some node ∧
    Isolated twoNodes "a" (.obj [("error_rate", .number (9 / 10))]) (.obj []) := by
  have joined : (twoNodes.nodes.get? "a").isSome = true := by decide +kernel
  obtain ⟨node, found⟩ := Option.isSome_iff_exists.mp joined
  exact ⟨node, found, (breakers_isolated_iff twoNodes "a" node found _ _).mpr (Or.inl (by decide +kernel))⟩

-- A text as metrics keeps the loop from the breaker of the next node.
theorem text_metrics_not_isolated : ¬ Isolated twoNodes "a" (.str "down") (.obj []) := by
  intro isolated
  have same := isolated {} 0 (fun _ => 0) .empty "b" (by decide)
  have different : (evaluate {} 0 (Scheduler.nodes (fun _ => 0) (withMetrics twoNodes "a" (.str "down"))) .empty).get? "b" = none ∧
      (evaluate {} 0 (Scheduler.nodes (fun _ => 0) (withMetrics twoNodes "a" (.obj []))) .empty).get? "b" ≠ none := by
    decide +kernel
  rw [different.1] at same
  exact different.2 same.symm

end HuddleCluster.Breaker
