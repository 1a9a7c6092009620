import HuddleCluster.Master.Listing
import HuddleCluster.Scheduler.Fitness

set_option autoImplicit false

namespace HuddleCluster.Scheduler

open Master (NodeRecord Registry listNodes)

def NodeDict.of (now : ℚ) (node : NodeRecord) : NodeDict where
  nodeId := node.nodeId
  fields := match node.toDict now with
    | .obj fields => fields
    | _ => []

-- MasterNode.nodes(). Each record reads the clock on its own.
def nodes (now : String → ℚ) (registry : Registry) : List NodeDict :=
  (listNodes registry).map fun node => .of (now node.nodeId) node

@[simp] theorem of_id (now : ℚ) (node : NodeRecord) : (NodeDict.of now node).nodeId = node.nodeId := rfl

@[simp] theorem of_metrics (now : ℚ) (node : NodeRecord) : (NodeDict.of now node).get "metrics" = node.metrics := rfl

@[simp] theorem of_metadata (now : ℚ) (node : NodeRecord) : (NodeDict.of now node).get "metadata" = node.metadata := rfl

theorem nodes_ordered (now : String → ℚ) (registry : Registry) :
    (nodes now registry).Pairwise fun first second => first.nodeId < second.nodeId := by
  rw [nodes, List.pairwise_map]
  exact Master.list_nodes_ordered registry

theorem mem_nodes (now : String → ℚ) (registry : Registry) (dict : NodeDict) :
    dict ∈ nodes now registry ↔ ∃ node, registry.nodes.get? dict.nodeId = some node ∧ dict = .of (now node.nodeId) node := by
  simp only [nodes, List.mem_map, Master.mem_list_nodes]
  constructor
  · rintro ⟨node, found, rfl⟩
    exact ⟨node, found, rfl⟩
  · rintro ⟨node, found, rfl⟩
    exact ⟨node, found, rfl⟩

end HuddleCluster.Scheduler
