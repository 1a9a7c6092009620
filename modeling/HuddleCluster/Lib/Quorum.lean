import Mathlib

set_option autoImplicit false

namespace Quorum

variable {ι α : Type*} [Fintype ι] [DecidableEq ι]

def Majority (members : Finset ι) : Prop := Fintype.card ι < 2 * members.card

theorem majorities_meet (left right : Finset ι) (leftMajority : Majority left) (rightMajority : Majority right) :
    ∃ member, member ∈ left ∧ member ∈ right := by
  by_contra apart
  have disjoint : Disjoint left right := by
    rw [Finset.disjoint_left]
    exact fun member inLeft inRight => apart ⟨member, inLeft, inRight⟩
  have total : (left ∪ right).card ≤ Fintype.card ι := Finset.card_le_univ _
  rw [Finset.card_union_of_disjoint disjoint] at total
  unfold Majority at *
  omega

theorem backed_value_unique (backs : ι → α → Prop) (single : ∀ member x y, backs member x → backs member y → x = y) (x y : α)
    (left right : Finset ι) (leftMajority : Majority left) (rightMajority : Majority right)
    (leftBacks : ∀ member ∈ left, backs member x) (rightBacks : ∀ member ∈ right, backs member y) : x = y := by
  obtain ⟨member, inLeft, inRight⟩ := majorities_meet left right leftMajority rightMajority
  exact single member x y (leftBacks member inLeft) (rightBacks member inRight)

end Quorum
