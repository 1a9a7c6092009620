import HuddleCluster.Lib.Dict

set_option autoImplicit false

-- A mapping from labels to sets of members, as setdefault(label, set()).add(member)
-- builds it.
abbrev Labels (κ α : Type*) := Dict κ (Finset α)

namespace Labels

variable {κ α : Type*} [DecidableEq κ]

def members (labels : Labels κ α) (label : κ) : Finset α := labels.getD label ∅

@[simp] theorem members_empty (label : κ) : members (Dict.empty : Labels κ α) label = ∅ := rfl

@[simp] theorem members_set (labels : Labels κ α) (label query : κ) (held : Finset α) :
    members (labels.set label held) query = if query = label then held else members labels query := by
  by_cases here : query = label <;> simp [members, Dict.getD, here]

theorem member_label (labels : Labels κ α) (label : κ) (member : α) (held : member ∈ members labels label) :
    label ∈ labels.entries.map Prod.fst := by
  by_contra unknown
  rw [members, Dict.getD, (Dict.get_none labels label).mpr unknown] at held
  exact absurd held (Finset.notMem_empty member)

variable [DecidableEq α]

def add (labels : Labels κ α) (label : κ) (member : α) : Labels κ α := labels.set label (insert member (members labels label))

def discard (labels : Labels κ α) (label : κ) (member : α) : Labels κ α :=
  if member ∈ members labels label then labels.set label ((members labels label).erase member) else labels

def addAll (labels : Labels κ α) (names : List κ) (member : α) : Labels κ α :=
  names.foldl (fun state label => add state label member) labels

@[simp] theorem mem_add (labels : Labels κ α) (label query : κ) (member x : α) :
    x ∈ members (add labels label member) query ↔ (query = label ∧ x = member) ∨ x ∈ members labels query := by
  by_cases here : query = label <;> simp [add, here]

@[simp] theorem mem_discard (labels : Labels κ α) (label query : κ) (member x : α) :
    x ∈ members (discard labels label member) query ↔ x ∈ members labels query ∧ ¬ (query = label ∧ x = member) := by
  rw [discard]
  split
  · by_cases here : query = label <;> simp [here, and_comm]
  · rename_i absent
    refine ⟨fun held => ⟨held, ?_⟩, And.left⟩
    rintro ⟨rfl, rfl⟩
    exact absent held

@[simp] theorem mem_add_all (labels : Labels κ α) (names : List κ) (member x : α) (query : κ) :
    x ∈ members (addAll labels names member) query ↔ (query ∈ names ∧ x = member) ∨ x ∈ members labels query := by
  induction names generalizing labels with
  | nil => simp [addAll]
  | cons label rest ih =>
      change x ∈ members (addAll (add labels label member) rest member) query ↔ _
      rw [ih, mem_add, List.mem_cons]
      tauto

end Labels
