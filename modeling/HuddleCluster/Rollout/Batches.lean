import HuddleCluster.Rollout.Updater

set_option autoImplicit false

namespace HuddleCluster.Rollout

open Master (NodeRecord Registry listNodes registered_distinct)

theorem slices_flatten {α : Type} (size fuel : Nat) (nodes : List α) (positive : 1 ≤ size) (enough : nodes.length ≤ fuel) :
    (slices size fuel nodes).flatten = nodes := by
  induction fuel generalizing nodes with
  | zero => simp [slices, List.length_eq_zero_iff.mp (Nat.le_zero.mp enough)]
  | succ fuel ih =>
      cases nodes with
      | nil => rfl
      | cons node tail =>
          have shorter : ((node :: tail).drop size).length ≤ fuel := by
            rw [List.length_drop]
            rw [List.length_cons] at enough ⊢
            omega
          rw [slices, List.isEmpty_cons, if_neg Bool.false_ne_true, List.flatten_cons, ih _ shorter, List.take_append_drop]

theorem slice_length {α : Type} (size fuel : Nat) (nodes : List α) : ∀ slice ∈ slices size fuel nodes, slice.length ≤ size := by
  induction fuel generalizing nodes with
  | zero => simp [slices]
  | succ fuel ih =>
      intro slice member
      rw [slices] at member
      split at member
      · cases member
      · rcases List.mem_cons.mp member with rfl | later
        · exact List.length_take_le size nodes
        · exact ih _ slice later

theorem batches_flatten (cfg : Settings) (nodes : List NodeRecord) : (batches cfg nodes).flatten = nodes :=
  slices_flatten cfg.batchSize nodes.length nodes cfg.batchPos (Nat.le_refl _)

theorem batch_length (cfg : Settings) (nodes : List NodeRecord) : ∀ batch ∈ batches cfg nodes, batch.length ≤ cfg.batchSize :=
  slice_length cfg.batchSize nodes.length nodes

theorem sorted_nodes_perm (cfg : Settings) (registry : Registry) :
    (sortedNodes cfg registry).Perm (registry.nodes.values.filter eligible) := by
  have listing : ((listNodes registry).filter eligible).Perm (registry.nodes.values.filter eligible) :=
    (List.perm_insertionSort _ _).filter eligible
  simp only [sortedNodes]
  split
  · exact (List.perm_insertionSort _ _).trans listing
  · exact (List.perm_insertionSort _ _).trans listing

theorem sorted_nodes_distinct (cfg : Settings) (registry : Registry) :
    ((sortedNodes cfg registry).map NodeRecord.nodeId).Nodup := by
  rw [((sorted_nodes_perm cfg registry).map NodeRecord.nodeId).nodup_iff]
  exact (registered_distinct registry).sublist (List.filter_sublist.map NodeRecord.nodeId)

end HuddleCluster.Rollout
