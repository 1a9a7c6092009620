import HuddleCluster.Scheduler.Listing

set_option autoImplicit false

namespace HuddleCluster.Breaker

open Scheduler (NodeDict dict?)

inductive Phase where
  | closed
  | opened
  | halfOpen
deriving DecidableEq, Repr

-- The defaults of the constructor pass its checks.
theorem default_trip_pos : (0 : ℚ) < 1 / 2 := by norm_num

theorem default_trip_le : (1 / 2 : ℚ) ≤ 1 := by norm_num

-- The constructor raises unless the proof fields hold.
structure Settings where
  tripThreshold : ℚ := 1 / 2
  resetTimeout : ℚ := 30
  tripPos : 0 < tripThreshold := by first | exact HuddleCluster.Breaker.default_trip_pos | norm_num
  tripLe : tripThreshold ≤ 1 := by first | exact HuddleCluster.Breaker.default_trip_le | norm_num

-- The rate that float() has made may be infinite or nan, which is neither.
def Settings.exceeds (cfg : Settings) (errorRate : Double) : Bool := (Double.finite cfg.tripThreshold).lt errorRate

def Settings.recovers (cfg : Settings) (errorRate : Double) : Bool := errorRate.le (.finite cfg.tripThreshold)

structure BreakerState where
  nodeId : String
  state : Phase := .closed
  trippedAt : Option ℚ := none
  lastErrorRate : Double := .finite 0
  tripCount : Nat := 0
deriving DecidableEq, Repr

namespace BreakerState

def expire (cfg : Settings) (now : ℚ) (breaker : BreakerState) : BreakerState :=
  if breaker.state = .opened ∧ breaker.trippedAt.any fun tripped => decide (cfg.resetTimeout ≤ now - tripped) then
    { breaker with state := .halfOpen }
  else breaker

def judge (cfg : Settings) (now : ℚ) (errorRate : Double) (breaker : BreakerState) : BreakerState :=
  let breaker := { breaker with lastErrorRate := errorRate }
  if cfg.exceeds errorRate = true ∧ breaker.state = .closed then
    { breaker with state := .opened, trippedAt := some now, tripCount := breaker.tripCount + 1 }
  else if cfg.recovers errorRate = true ∧ breaker.state ≠ .closed then
    { breaker with state := .closed, trippedAt := none }
  else breaker

-- A value that float() refuses counts as none.
def read (cfg : Settings) (now : ℚ) (errorRate : Json) (breaker : BreakerState) : BreakerState :=
  match errorRate.toFloat? with
  | none => breaker.expire cfg now
  | some rate => (breaker.expire cfg now).judge cfg now rate

def isOpen (breaker : BreakerState) : Bool := decide (breaker.state ≠ .closed)

end BreakerState

abbrev States := Dict String BreakerState

def States.isOpen (states : States) (nodeId : String) : Bool := (states.get? nodeId).any BreakerState.isOpen

-- One turn of the loop, and whether it raises: on metrics without a get before
-- anything is written, on an error rate that overflows after the timeout is.
def evaluateNode (cfg : Settings) (now : ℚ) (node : NodeDict) (states : States) : States × Bool :=
  match node.section? "metrics" with
  | none => (states, true)
  | some metrics =>
      let errorRate := Json.get metrics "error_rate"
      let breaker := states.getD node.nodeId { nodeId := node.nodeId }
      (states.set node.nodeId (breaker.read cfg now errorRate), errorRate.overflows)

-- _loop catches what a turn raises, and the nodes that come later are not
-- looked at.
def evaluate (cfg : Settings) (now : ℚ) : List NodeDict → States → States
  | [], states => states
  | node :: rest, states =>
      match evaluateNode cfg now node states with
      | (after, true) => after
      | (after, false) => evaluate cfg now rest after

def reset (nodeId : String) (states : States) : Bool × States :=
  match states.get? nodeId with
  | none => (false, states)
  | some breaker =>
      if breaker.state = .closed then (true, states)
      else (true, states.set nodeId { breaker with state := .closed, trippedAt := none })

-- Metrics at which the loop ends.
def fatal (metrics : Json) : Bool :=
  match dict? metrics with
  | none => true
  | some fields => (Json.get fields "error_rate").overflows

def turn (cfg : Settings) (now : ℚ) (nodeId : String) (metrics : Json) (breaker : Option BreakerState) : Option BreakerState :=
  match dict? metrics with
  | none => breaker
  | some fields => some ((breaker.getD { nodeId := nodeId }).read cfg now (Json.get fields "error_rate"))

theorem evaluate_node_spec (cfg : Settings) (now : ℚ) (node : NodeDict) (states : States) (id : String) :
    (evaluateNode cfg now node states).2 = fatal (node.get "metrics") ∧
      (evaluateNode cfg now node states).1.get? id =
        if id = node.nodeId then turn cfg now node.nodeId (node.get "metrics") (states.get? id) else states.get? id := by
  simp only [evaluateNode, fatal, turn, Scheduler.section_dict]
  cases dict? (node.get "metrics") with
  | none => simp
  | some metrics =>
      refine ⟨rfl, ?_⟩
      rw [Dict.get_set]
      by_cases same : id = node.nodeId
      · rw [if_pos same, if_pos same, same, Dict.getD]
      · rw [if_neg same, if_neg same]

-- Over nodes in the order of their ids, the loop gets to a node unless a node
-- before it ends the loop.
theorem evaluate_spec (cfg : Settings) (now : ℚ) (listing : List NodeDict) (states : States) (id : String)
    (ordered : listing.Pairwise fun first second => first.nodeId < second.nodeId) :
    (evaluate cfg now listing states).get? id =
      if ∃ node ∈ listing, node.nodeId < id ∧ fatal (node.get "metrics") = true then states.get? id
      else match listing.find? fun node => decide (node.nodeId = id) with
        | none => states.get? id
        | some node => turn cfg now id (node.get "metrics") (states.get? id) := by
  induction listing generalizing states with
  | nil => simp [evaluate]
  | cons node rest ih =>
      obtain ⟨later, ordered⟩ := List.pairwise_cons.mp ordered
      obtain ⟨raised, written⟩ := evaluate_node_spec cfg now node states id
      have next := ih (evaluateNode cfg now node states).1 ordered
      by_cases same : id = node.nodeId
      · subst same
        have least : ¬ ∃ other ∈ node :: rest, other.nodeId < node.nodeId ∧ fatal (other.get "metrics") = true := by
          rintro ⟨other, member, less, _⟩
          rcases List.mem_cons.mp member with rfl | member
          · exact lt_irrefl _ less
          · exact lt_asymm less (later other member)
        have leastRest : ¬ ∃ other ∈ rest, other.nodeId < node.nodeId ∧ fatal (other.get "metrics") = true :=
          fun ⟨other, member, before⟩ => least ⟨other, List.mem_cons_of_mem node member, before⟩
        have absent : rest.find? (fun other => decide (other.nodeId = node.nodeId)) = none := by
          rw [List.find?_eq_none]
          intro other member equal
          exact (later other member).ne (of_decide_eq_true equal).symm
        rw [if_pos rfl] at written
        rw [if_neg leastRest, absent] at next
        rw [if_neg least, List.find?_cons_of_pos (by simp), evaluate]
        rcases ends : evaluateNode cfg now node states with ⟨after, ended⟩
        rw [ends] at written next
        cases ended with
        | true => exact written
        | false => exact next.trans written
      · rw [if_neg same] at written
        rw [evaluate, List.find?_cons_of_neg (by simpa using Ne.symm same)]
        rcases ends : evaluateNode cfg now node states with ⟨after, ended⟩
        rw [ends] at raised written next
        simp only at raised written next
        cases ended with
        | true =>
            by_cases before : node.nodeId < id
            · rw [if_pos ⟨node, List.mem_cons_self, before, raised.symm⟩]
              exact written
            · have absent : rest.find? (fun other => decide (other.nodeId = id)) = none := by
                rw [List.find?_eq_none]
                intro other member equal
                exact before (of_decide_eq_true equal ▸ later other member)
              rw [absent]
              simpa using written
        | false =>
            have reached : (∃ other ∈ node :: rest, other.nodeId < id ∧ fatal (other.get "metrics") = true) ↔
                ∃ other ∈ rest, other.nodeId < id ∧ fatal (other.get "metrics") = true := by
              simp [← raised]
            simp only [next, reached, written]

-- A node that comes before the given one ends the loop.
def Cut (registry : Master.Registry) (id : String) : Prop :=
  ∃ other node, other < id ∧ registry.nodes.get? other = some node ∧ fatal node.metrics = true

theorem cut_iff (listed : String → ℚ) (registry : Master.Registry) (id : String) :
    (∃ dict ∈ Scheduler.nodes listed registry, dict.nodeId < id ∧ fatal (dict.get "metrics") = true) ↔ Cut registry id := by
  constructor
  · rintro ⟨dict, member, less, ends⟩
    obtain ⟨node, found, same⟩ := (Scheduler.mem_nodes listed registry dict).mp member
    refine ⟨dict.nodeId, node, less, found, ?_⟩
    rw [← ends, same, Scheduler.of_metrics]
  · rintro ⟨other, node, less, found, ends⟩
    have name := registry.keyed other node found
    refine ⟨.of (listed node.nodeId) node, ?_, by rwa [Scheduler.of_id, name], ends⟩
    rw [Scheduler.mem_nodes]
    exact ⟨node, by rw [Scheduler.of_id, name, found], rfl⟩

theorem find_listed (listed : String → ℚ) (registry : Master.Registry) (id : String) :
    (Scheduler.nodes listed registry).find? (fun node => decide (node.nodeId = id)) =
      (registry.nodes.get? id).map (.of (listed id)) := by
  cases search : (Scheduler.nodes listed registry).find? (fun node => decide (node.nodeId = id)) with
  | none =>
      cases found : registry.nodes.get? id with
      | none => rfl
      | some node =>
          have name := registry.keyed id node found
          have here : NodeDict.of (listed id) node ∈ Scheduler.nodes listed registry := by
            rw [Scheduler.mem_nodes]
            exact ⟨node, by rw [Scheduler.of_id, name, found], by rw [name]⟩
          exact absurd (decide_eq_true name) (List.find?_eq_none.mp search _ here)
  | some dict =>
      have name : dict.nodeId = id := by simpa using List.find?_some search
      obtain ⟨node, found, same⟩ := (Scheduler.mem_nodes listed registry dict).mp (List.mem_of_find?_eq_some search)
      rw [name] at found
      rw [found, Option.map_some, same, registry.keyed id node found]

theorem evaluate_registered (cfg : Settings) (now : ℚ) (listed : String → ℚ) (registry : Master.Registry) (states : States)
    (id : String) (node : Master.NodeRecord) (found : registry.nodes.get? id = some node) :
    (Cut registry id → (evaluate cfg now (Scheduler.nodes listed registry) states).get? id = states.get? id) ∧
      (¬ Cut registry id → (evaluate cfg now (Scheduler.nodes listed registry) states).get? id =
        turn cfg now id node.metrics (states.get? id)) := by
  rw [evaluate_spec cfg now _ states id (Scheduler.nodes_ordered listed registry), find_listed, found, Option.map_some]
  exact ⟨fun cut => if_pos ((cut_iff listed registry id).mpr cut), fun clear => if_neg (mt (cut_iff listed registry id).mp clear)⟩

theorem evaluate_unregistered (cfg : Settings) (now : ℚ) (listed : String → ℚ) (registry : Master.Registry) (states : States)
    (id : String) (absent : registry.nodes.get? id = none) :
    (evaluate cfg now (Scheduler.nodes listed registry) states).get? id = states.get? id := by
  rw [evaluate_spec cfg now _ states id (Scheduler.nodes_ordered listed registry), find_listed, absent, Option.map_none, ite_self]

end HuddleCluster.Breaker
