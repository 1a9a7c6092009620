import HuddleCluster.Master.Registry

set_option autoImplicit false

namespace HuddleCluster.Master

-- The records that MasterNode.nodes() lists, in the order of their ids.
def listNodes (registry : Registry) : List NodeRecord :=
  registry.nodes.values.insertionSort fun first second => first.nodeId ≤ second.nodeId

theorem registered_distinct (registry : Registry) : (registry.nodes.values.map NodeRecord.nodeId).Nodup := by
  have names : registry.nodes.values.map NodeRecord.nodeId = registry.nodes.entries.map Prod.fst := by
    rw [Dict.values, List.map_map]
    apply List.map_congr_left
    intro entry member
    exact registry.keyed entry.1 entry.2 ((Dict.get_mem _ _ _).mpr member)
  rw [names]
  exact registry.nodes.nodup

theorem list_nodes_distinct (registry : Registry) : ((listNodes registry).map NodeRecord.nodeId).Nodup := by
  have listing := (List.perm_insertionSort (fun first second : NodeRecord => first.nodeId ≤ second.nodeId) registry.nodes.values)
  rw [listNodes, (listing.map NodeRecord.nodeId).nodup_iff]
  exact registered_distinct registry

theorem list_nodes_ordered (registry : Registry) :
    (listNodes registry).Pairwise fun first second => first.nodeId < second.nodeId := by
  have sorted : (listNodes registry).Pairwise fun first second => first.nodeId ≤ second.nodeId :=
    List.pairwise_insertionSort _ _
  have distinct : (listNodes registry).Pairwise fun first second => first.nodeId ≠ second.nodeId :=
    List.pairwise_map.mp (list_nodes_distinct registry)
  exact sorted.imp₂ (fun _ _ le different => lt_of_le_of_ne le different) distinct

theorem mem_list_nodes (registry : Registry) (node : NodeRecord) :
    node ∈ listNodes registry ↔ registry.nodes.get? node.nodeId = some node := by
  rw [listNodes, List.mem_insertionSort, Dict.mem_values]
  constructor
  · rintro ⟨id, found⟩
    rw [registry.keyed id node found]
    exact found
  · exact fun found => ⟨node.nodeId, found⟩

end HuddleCluster.Master
