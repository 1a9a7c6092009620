import Mathlib

set_option autoImplicit false

namespace OnesComplement

variable (b : Nat)

-- The carry out of the high end is added at the low end. A word is below b.
def fold (n : Nat) : Nat := n % b + n / b

def total (words : List Nat) : Nat := words.foldl (fun sum word => fold b (sum + word)) 0

-- A list of words that contains its own checksum.
def Valid (words : List Nat) : Prop := total b words = b - 1

instance (words : List Nat) : Decidable (Valid b words) := inferInstanceAs (Decidable (total b words = b - 1))

theorem fold_zero (n : Nat) : fold b n = 0 ↔ n = 0 := by
  constructor
  · intro zero
    have division := Nat.mod_add_div n b
    have parts : n % b = 0 ∧ n / b = 0 := Nat.add_eq_zero_iff.mp zero
    rw [parts.1, parts.2, Nat.mul_zero] at division
    exact division.symm
  · rintro rfl
    simp [fold]

section Base

variable (base : 2 ≤ b)

include base

theorem fold_mod (n : Nat) : fold b n ≡ n [MOD b - 1] := by
  have split : n = fold b n + (b - 1) * (n / b) := by
    have division := Nat.mod_add_div n b
    have wrapped : b * (n / b) = (b - 1) * (n / b) + n / b := by
      rw [← Nat.succ_mul]
      congr 1
      omega
    unfold fold
    omega
  conv_rhs => rw [split]
  exact (Nat.add_mul_mod_self_left _ _ _).symm

theorem fold_word (n : Nat) (bound : n ≤ (b - 1) + (b - 1)) : fold b n < b := by
  unfold fold
  by_cases small : n < b
  · rw [Nat.mod_eq_of_lt small, Nat.div_eq_of_lt small]
    exact small
  · have once : n / b = 1 := by
      rw [Nat.div_eq_iff (by omega)]
      omega
    have division := Nat.mod_add_div n b
    rw [once] at division ⊢
    omega

theorem fold_twice_word (n : Nat) (bound : n < b * b) : fold b (fold b n) < b := by
  apply fold_word b base
  have low := Nat.mod_lt n (by omega : 0 < b)
  have high : n / b < b := Nat.div_lt_of_lt_mul bound
  unfold fold
  omega

theorem total_spec (words : List Nat) (small : ∀ word ∈ words, word < b) :
    total b words < b ∧ total b words ≡ words.sum [MOD b - 1] ∧ (total b words = 0 ↔ words.sum = 0) := by
  suffices general : ∀ start < b, words.foldl (fun sum word => fold b (sum + word)) start < b ∧
      words.foldl (fun sum word => fold b (sum + word)) start ≡ start + words.sum [MOD b - 1] ∧
      (words.foldl (fun sum word => fold b (sum + word)) start = 0 ↔ start + words.sum = 0) by
    simpa [total] using general 0 (by omega)
  induction words with
  | nil => exact fun start bound => ⟨bound, Nat.ModEq.refl _, Iff.rfl⟩
  | cons word rest ih =>
      intro start bound
      have first := small word List.mem_cons_self
      obtain ⟨below, same, zero⟩ := ih (fun other member => small other (List.mem_cons_of_mem word member))
        (fold b (start + word)) (fold_word b base _ (by omega))
      have folded := fold_zero b (start + word)
      rw [List.foldl_cons, List.sum_cons]
      refine ⟨below, ?_, ?_⟩
      · calc _ ≡ fold b (start + word) + rest.sum [MOD b - 1] := same
          _ ≡ start + word + rest.sum [MOD b - 1] := (fold_mod b base _).add_right _
          _ = start + (word + rest.sum) := by ring
      · rw [zero]
        omega

-- The sum need not be folded to see whether a list is valid.
theorem valid_iff (words : List Nat) (small : ∀ word ∈ words, word < b) :
    Valid b words ↔ words.sum % (b - 1) = 0 ∧ 0 < words.sum := by
  obtain ⟨below, same, zero⟩ := total_spec b base words small
  unfold Valid
  rw [← same]
  constructor
  · intro full
    rw [full]
    exact ⟨Nat.mod_self _, by omega⟩
  · rintro ⟨divides, positive⟩
    have large := Nat.le_of_dvd (by omega) (Nat.dvd_of_mod_eq_zero divides)
    omega

-- The complement of the folded sum of the other words makes the list valid.
theorem complement_sum (n : Nat) (bound : n < b * b) :
    (n + (b - 1 - fold b (fold b n))) % (b - 1) = 0 ∧ 0 < n + (b - 1 - fold b (fold b n)) := by
  have word := fold_twice_word b base n bound
  have same := ((fold_mod b base (fold b n)).trans (fold_mod b base n)).symm
  have zero := (fold_zero b (fold b n)).trans (fold_zero b n)
  constructor
  · calc (n + (b - 1 - fold b (fold b n))) % (b - 1)
        = (fold b (fold b n) + (b - 1 - fold b (fold b n))) % (b - 1) := same.add_right _
      _ = (b - 1) % (b - 1) := by congr 1; omega
      _ = 0 := Nat.mod_self _
  · omega

end Base

theorem swap_mod (r low high : Nat) (digits : 1 ≤ r) : low * r + high ≡ r * (high * r + low) [MOD r * r - 1] := by
  have squared : r * r = (r * r - 1) + 1 := (Nat.sub_add_cancel (Nat.mul_pos digits digits)).symm
  have wrapped : r * (high * r + low) = (low * r + high) + (r * r - 1) * high := by
    calc r * (high * r + low) = low * r + r * r * high := by ring
      _ = low * r + ((r * r - 1) + 1) * high := by rw [← squared]
      _ = (low * r + high) + (r * r - 1) * high := by ring
  rw [wrapped]
  exact (Nat.add_mul_mod_self_left _ _ _).symm

theorem swap_cancel (r m n : Nat) (digits : 1 ≤ r) : r * m ≡ r * n [MOD r * r - 1] ↔ m ≡ n [MOD r * r - 1] := by
  have coprime : Nat.Coprime (r * r - 1) r := by
    have next : Nat.Coprime (r * r - 1) (r * r) := by
      have succ := (Nat.coprime_self_add_right (m := r * r - 1) (n := 1)).mpr (Nat.coprime_one_right _)
      rwa [Nat.sub_add_cancel (Nat.mul_pos digits digits)] at succ
    exact next.coprime_mul_right_right
  exact ⟨fun same => Nat.ModEq.cancel_left_of_coprime coprime same, fun same => same.mul_left r⟩

end OnesComplement
