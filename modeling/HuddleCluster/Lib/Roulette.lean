import Mathlib

set_option autoImplicit false

-- A range cut into one sector for each weight of a list, and a walk over weighted
-- entries that stops in the sector of a draw.
namespace Roulette

variable {α β : Type*} [AddCommGroup α]

def before (weights : List α) (i : Nat) : α := (weights.take i).sum

theorem before_cons (weight : α) (rest : List α) (i : Nat) : before (weight :: rest) (i + 1) = weight + before rest i := by
  rw [before, before, List.take_succ_cons, List.sum_cons]

theorem before_succ (weights : List α) (weight : α) (i : Nat) (here : weights[i]? = some weight) :
    before weights (i + 1) = before weights i + weight := by
  obtain ⟨inside, rfl⟩ := List.getElem?_eq_some_iff.mp here
  exact List.sum_take_succ weights i inside

theorem before_all (weights : List α) (i : Nat) (past : weights.length ≤ i) : before weights i = weights.sum := by
  rw [before, List.take_of_length_le past]

theorem sector_width (weights : List α) (weight : α) (i : Nat) (here : weights[i]? = some weight) :
    before weights (i + 1) - before weights i = weight := by
  rw [before_succ weights weight i here, add_sub_cancel_left]

variable [LinearOrder α]

-- A sector is open below; the draw 0 belongs to the first one.
def Owns (weights : List α) (draw : α) (i : Nat) : Prop :=
  (before weights i < draw ∨ (i = 0 ∧ draw = 0)) ∧ draw ≤ before weights (i + 1)

def walk (draw : α) : α → List (β × α) → Option β
  | _, [] => none
  | cumulative, (entry, weight) :: rest =>
      if draw ≤ cumulative + weight then some entry else walk draw (cumulative + weight) rest

-- A draw past the last sum falls back on the last entry.
def select (draw : α) (entries : List (β × α)) : Option β := (walk draw 0 entries).or (entries.getLast?.map Prod.fst)

-- The walk stops at the first sum that reaches the draw.
theorem walk_stops (draw cumulative : α) (entries : List (β × α)) (entry : β × α) (i : Nat) (here : entries[i]? = some entry)
    (reached : draw ≤ cumulative + before (entries.map Prod.snd) (i + 1))
    (short : ∀ j < i, cumulative + before (entries.map Prod.snd) (j + 1) < draw) :
    walk draw cumulative entries = some entry.1 := by
  induction entries generalizing cumulative i with
  | nil => simp at here
  | cons first rest ih =>
      rw [walk]
      cases i with
      | zero =>
          obtain rfl : first = entry := by simpa using here
          rw [if_pos]
          simpa [before] using reached
      | succ i =>
          have passed := short 0 (by omega)
          have below : ¬ draw ≤ cumulative + first.2 := by simpa [before] using passed
          rw [if_neg below]
          apply ih (cumulative + first.2) i (by simpa using here)
          · rwa [List.map_cons, before_cons, ← add_assoc] at reached
          · intro j less
            have next := short (j + 1) (by omega)
            rwa [List.map_cons, before_cons, ← add_assoc] at next

theorem owner_exists (weights : List α) (draw : α) (low : 0 ≤ draw) (high : draw ≤ weights.sum) : ∃ i, Owns weights draw i := by
  have reached : ∃ i, draw ≤ before weights (i + 1) :=
    ⟨weights.length, by rwa [before_all weights _ (Nat.le_succ _)]⟩
  classical
  refine ⟨Nat.find reached, ?_, Nat.find_spec reached⟩
  cases first : Nat.find reached with
  | zero =>
      rcases low.eq_or_lt with zero | positive
      · exact Or.inr ⟨rfl, zero.symm⟩
      · exact Or.inl positive
  | succ i => exact Or.inl (lt_of_not_ge (Nat.find_min reached (by omega)))

theorem owner_inside (weights : List α) (draw : α) (i : Nat) (occupied : weights ≠ []) (owned : Owns weights draw i) :
    i < weights.length := by
  by_contra past
  rcases owned.1 with above | ⟨rfl, _⟩
  · rw [before_all weights i (by omega)] at above
    have reached := owned.2
    rw [before_all weights (i + 1) (by omega)] at reached
    exact absurd reached (not_le_of_gt above)
  · exact past (List.length_pos_of_ne_nil occupied)

section Ordered

variable [IsOrderedAddMonoid α] (weights : List α) (nonneg : ∀ weight ∈ weights, 0 ≤ weight)
include nonneg

theorem before_step (i : Nat) : before weights i ≤ before weights (i + 1) := by
  cases here : weights[i]? with
  | none =>
      have past : weights.length ≤ i := List.getElem?_eq_none_iff.mp here
      rw [before_all weights i past, before_all weights (i + 1) (by omega)]
  | some weight =>
      rw [before_succ weights weight i here]
      exact le_add_of_nonneg_right (nonneg weight (List.mem_of_getElem? here))

theorem before_mono : Monotone (before weights) := monotone_nat_of_le_succ (before_step weights nonneg)

theorem owner_below (draw : α) (i j : Nat) (owned : Owns weights draw j) (less : i < j) : before weights (i + 1) < draw := by
  rcases owned.1 with above | ⟨zero, _⟩
  · exact (before_mono weights nonneg less).trans_lt above
  · omega

theorem owner_unique (draw : α) (i j : Nat) (left : Owns weights draw i) (right : Owns weights draw j) : i = j := by
  rcases lt_trichotomy i j with less | same | more
  · exact absurd left.2 (not_le_of_gt (owner_below weights nonneg draw i j right less))
  · exact same
  · exact absurd right.2 (not_le_of_gt (owner_below weights nonneg draw j i left more))

end Ordered

theorem walk_owner [IsOrderedAddMonoid α] (draw : α) (entries : List (β × α))
    (nonneg : ∀ weight ∈ entries.map Prod.snd, 0 ≤ weight)
    (entry : β × α) (i : Nat) (here : entries[i]? = some entry) (owned : Owns (entries.map Prod.snd) draw i) :
    walk draw 0 entries = some entry.1 := by
  refine walk_stops draw 0 entries entry i here ?_ ?_
  · rw [zero_add]
    exact owned.2
  · intro j less
    rw [zero_add]
    exact owner_below _ nonneg draw j i owned less

theorem select_owner [IsOrderedAddMonoid α] (draw : α) (entries : List (β × α))
    (nonneg : ∀ weight ∈ entries.map Prod.snd, 0 ≤ weight) (entry : β × α) (i : Nat) (here : entries[i]? = some entry)
    (owned : Owns (entries.map Prod.snd) draw i) : select draw entries = some entry.1 := by
  rw [select, walk_owner draw entries nonneg entry i here owned, Option.some_or]

end Roulette
