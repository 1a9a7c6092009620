import Mathlib

set_option autoImplicit false

namespace Tally

variable {α κ ν : Type*} [DecidableEq κ] [AddCommMonoid ν] (name : α → κ) (amount : α → ν)

-- What the items of one name amount to together.
def tally (items : List α) (key : κ) : ν := ((items.filter fun item => name item = key).map amount).sum

@[simp] theorem tally_nil (key : κ) : tally name amount [] key = 0 := rfl

@[simp] theorem tally_cons (item : α) (items : List α) (key : κ) :
    tally name amount (item :: items) key = (if name item = key then amount item else 0) + tally name amount items key := by
  by_cases named : name item = key
  · simp [tally, named]
  · simp [tally, named]

theorem tally_none (items : List α) (key : κ) (zero : ∀ item ∈ items, name item = key → amount item = 0) :
    tally name amount items key = 0 := by
  refine List.sum_eq_zero fun value present => ?_
  obtain ⟨item, kept, rfl⟩ := List.mem_map.mp present
  obtain ⟨there, named⟩ := List.mem_filter.mp kept
  exact zero item there (by simpa using named)

theorem tally_count (items : List α) (key : κ) :
    tally name (fun _ => (1 : ℤ)) items key = items.countP fun item => name item = key := by
  rw [tally, List.map_const', List.sum_replicate, ← List.countP_eq_length_filter, nsmul_one]

theorem tally_modify (raise : α → α) (more : ν) (items : List α) (index : Nat) (found : α) (key : κ)
    (here : items[index]? = some found) (named : name (raise found) = name found)
    (raised : amount (raise found) = amount found + more) :
    tally name amount (items.modify index raise) key = (if name found = key then more else 0) + tally name amount items key := by
  induction items generalizing index with
  | nil => simp at here
  | cons item items ih =>
      cases index with
      | zero =>
          obtain rfl : item = found := by simpa using here
          rw [List.modify_zero_cons, tally_cons, tally_cons, named, raised]
          by_cases same : name item = key
          · simp only [if_pos same]
            rw [add_comm (amount item), add_assoc]
          · simp only [if_neg same, zero_add]
      | succ index =>
          rw [List.modify_succ_cons, tally_cons, tally_cons, ih index (by simpa using here), add_left_comm]

theorem tally_all (items : List α) : tally (fun _ => ()) amount items () = (items.map amount).sum := by
  simp [tally]

theorem sum_modify (raise : α → α) (more : ν) (items : List α) (index : Nat) (found : α)
    (here : items[index]? = some found) (raised : amount (raise found) = amount found + more) :
    ((items.modify index raise).map amount).sum = more + (items.map amount).sum := by
  rw [← tally_all, ← tally_all, tally_modify (fun _ => ()) amount raise more items index found () here rfl raised, if_pos rfl]

end Tally
