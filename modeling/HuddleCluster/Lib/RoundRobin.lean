import Mathlib

set_option autoImplicit false

-- Whoever is coolest is served next, the first of them where several are. Being served
-- heats by one, and between two services everyone cools down by the same factor.
namespace RoundRobin

variable {κ : Type*} [Ring κ] [LinearOrder κ] [IsStrictOrderedRing κ]

-- The n of them in their order, where those before the position have been served once
-- more than the others.
structure Turns (n position : Nat) (heat : Nat → κ) : Prop where
  ordered : ∀ i k, i ≤ k → k < n → k < position ∨ position ≤ i → heat i ≤ heat k
  ahead : ∀ i k, i < position → position ≤ k → k < n → heat k < heat i
  near : ∀ i k, i < n → k < n → heat i ≤ heat k + 1
  level : position = 0 → ∀ i k, i < n → k < n → heat i < heat k + 1

theorem turns_start (n : Nat) (heat : Nat → κ) (cold : ∀ i, i < n → heat i = 0) : Turns n 0 heat where
  ordered i k before inside _ := by rw [cold i (by omega), cold k inside]
  ahead i k before := by omega
  near i k one other := by
    rw [cold i one, cold k other, zero_add]
    exact zero_le_one
  level _ i k one other := by
    rw [cold i one, cold k other, zero_add]
    exact zero_lt_one

omit [IsStrictOrderedRing κ] in
theorem turns_none (position : Nat) (heat : Nat → κ) : Turns 0 position heat where
  ordered i k _ inside := by omega
  ahead i k _ _ inside := by omega
  near i k inside := by omega
  level _ i k inside := by omega

theorem turns_cool (n position : Nat) (heat after : Nat → κ) (factor : κ) (positive : 0 < factor) (shrinks : factor ≤ 1)
    (turns : Turns n position heat) (cooled : ∀ i, i < n → after i = heat i * factor) : Turns n position after where
  ordered i k before inside side := by
    rw [cooled i (by omega), cooled k inside]
    exact mul_le_mul_of_nonneg_right (turns.ordered i k before inside side) positive.le
  ahead i k served waiting inside := by
    rw [cooled i (by omega), cooled k inside]
    exact mul_lt_mul_of_pos_right (turns.ahead i k served waiting inside) positive
  near i k one other := by
    rw [cooled i one, cooled k other]
    calc heat i * factor ≤ (heat k + 1) * factor := mul_le_mul_of_nonneg_right (turns.near i k one other) positive.le
      _ = heat k * factor + factor := by rw [add_mul, one_mul]
      _ ≤ heat k * factor + 1 := add_le_add_right shrinks _
  level none i k one other := by
    rw [cooled i one, cooled k other]
    calc heat i * factor < (heat k + 1) * factor := mul_lt_mul_of_pos_right (turns.level none i k one other) positive
      _ = heat k * factor + factor := by rw [add_mul, one_mul]
      _ ≤ heat k * factor + 1 := add_le_add_right shrinks _

section Serving

variable (n position : Nat) (heat after : Nat → κ) (turns : Turns n position heat) (inside : position < n)
  (served : after position = heat position + 1) (others : ∀ i, i < n → i ≠ position → after i = heat i)
include turns inside

omit [IsStrictOrderedRing κ] in
-- Nobody is a whole service hotter than the one whose turn it is, except those that
-- have had theirs.
theorem waiting_near (k : Nat) (waiting : position ≤ k) (bound : k < n) : heat k < heat position + 1 := by
  rcases Nat.eq_zero_or_pos position with zero | positive
  · exact turns.level zero k position bound inside
  · exact (turns.ahead 0 k positive waiting bound).trans_le (turns.near 0 position (by omega) inside)

include served others

theorem served_near (i k : Nat) (one : i < n) (other : k < n) : after i ≤ after k + 1 := by
  have least : heat position ≤ heat k := by
    rcases Nat.lt_or_ge k position with before | behind
    · exact (turns.ahead k position before (le_refl _) inside).le
    · exact turns.ordered position k behind other (Or.inr (le_refl _))
  by_cases here : i = position
  · rw [here, served]
    by_cases there : k = position
    · rw [there, served]
      exact le_add_of_nonneg_right zero_le_one
    · rw [others k other there]
      exact add_le_add_left least 1
  · rw [others i one here]
    have near := turns.near i k one other
    by_cases there : k = position
    · rw [there, served]
      rw [there] at near
      exact near.trans (le_add_of_nonneg_right zero_le_one)
    · rw [others k other there]
      exact near

theorem turns_next (more : position + 1 < n) : Turns n (position + 1) after where
  ordered i k before bound side := by
    by_cases last : k = position
    · rw [last, served]
      by_cases here : i = position
      · rw [here, served]
      · rw [others i (by omega) here]
        exact turns.near i position (by omega) inside
    · rw [others i (by omega) (by omega), others k bound last]
      exact turns.ordered i k before bound (by omega)
  ahead i k done waiting bound := by
    rw [others k bound (by omega)]
    by_cases here : i = position
    · rw [here, served]
      exact waiting_near n position heat turns inside k (by omega) bound
    · rw [others i (by omega) here]
      exact turns.ahead i k (by omega) (by omega) bound
  near := served_near n position heat after turns inside served others
  level none := by omega

theorem turns_again (last : position + 1 = n) : Turns n 0 after where
  ordered i k before bound _ := by
    by_cases final : k = position
    · rw [final, served]
      by_cases here : i = position
      · rw [here, served]
      · rw [others i (by omega) here]
        exact turns.near i position (by omega) inside
    · rw [others i (by omega) (by omega), others k bound final]
      exact turns.ordered i k before bound (by omega)
  ahead i k done := by omega
  near := served_near n position heat after turns inside served others
  level _ i k one other := by
    by_cases same : i = k
    · rw [same]
      exact lt_add_one _
    · by_cases there : k = position
      · rw [there, served, others i one (by omega)]
        exact (turns.near i position one inside).trans_lt (lt_add_one _)
      · have cooler := turns.ahead k position (by omega) (le_refl _) inside
        rw [others k other there]
        by_cases here : i = position
        · rw [here, served]
          exact add_lt_add_left cooler 1
        · rw [others i one here]
          exact (turns.near i position one inside).trans_lt (add_lt_add_left cooler 1)

theorem turns_serve : Turns n ((position + 1) % n) after := by
  rcases Nat.lt_or_ge (position + 1) n with more | last
  · rw [Nat.mod_eq_of_lt more]
    exact turns_next n position heat after turns inside served others more
  · obtain whole : position + 1 = n := by omega
    rw [whole, Nat.mod_self]
    exact turns_again n position heat after turns inside served others whole

end Serving

def share (n services i : Nat) : Nat := services / n + if i < services % n then 1 else 0

theorem share_succ (n services i : Nat) (inside : i < n) :
    share n (services + 1) i = share n services i + if i = services % n then 1 else 0 := by
  have positive : 0 < n := by omega
  have bound := Nat.mod_lt services positive
  have whole := Nat.div_add_mod services n
  rw [share, share]
  generalize services / n = rounds at whole ⊢
  generalize services % n = position at whole bound ⊢
  rw [← whole, Nat.add_assoc, Nat.mul_add_div positive, Nat.mul_add_mod]
  rcases Nat.lt_or_ge (position + 1) n with more | last
  · rw [Nat.div_eq_of_lt more, Nat.mod_eq_of_lt more]
    split <;> split <;> split <;> omega
  · obtain rfl : n = position + 1 := by omega
    rw [Nat.div_self positive, Nat.mod_self]
    split <;> split <;> split <;> omega

theorem share_near (n services i k : Nat) : share n services i ≤ share n services k + 1 := by
  rw [share, share]
  split <;> split <;> omega

end RoundRobin
