import HuddleCluster.Lib.Statistics

set_option autoImplicit false

namespace Statistics

theorem push_window_all {α : Type*} (size : Nat) (window samples : List α) (short : window.length ≤ size) :
    samples.foldl (pushWindow size) window = (window ++ samples).drop ((window ++ samples).length - size) := by
  induction samples generalizing window with
  | nil => simp [short]
  | cons sample samples ih =>
      have pushed : (pushWindow size window sample).length ≤ size := by
        simp only [pushWindow, List.length_drop, List.length_append, List.length_singleton]
        omega
      rw [List.foldl_cons, ih _ pushed]
      by_cases full : window.length < size
      · have spare : window.length + 1 - size = 0 := by omega
        simp only [pushWindow, spare, List.drop_zero, List.append_assoc, List.singleton_append]
      · have same : window.length = size := by omega
        have cut : pushWindow size window sample ++ samples = (window ++ sample :: samples).drop 1 := by
          have one : window.length + 1 - size = 1 := by omega
          have reached : 1 ≤ (window ++ [sample]).length := by simp
          rw [pushWindow, one, List.append_cons window sample samples, ← List.drop_append_of_le_length reached]
        rw [cut, List.drop_drop]
        congr 1
        simp only [List.length_drop, List.length_append, List.length_cons]
        omega

theorem sorted_length (samples : List ℚ) : (sorted samples).length = samples.length := (sorted_perm samples).length_eq

theorem sorted_same (samples others : List ℚ) (same : samples.Perm others) : sorted samples = sorted others :=
  ((sorted_perm samples).trans (same.trans (sorted_perm others).symm)).eq_of_pairwise (fun _ _ _ _ le ge => le_antisymm le ge)
    (List.pairwise_insertionSort _ samples) (List.pairwise_insertionSort _ others)

theorem sorted_mono (samples : List ℚ) (i j : Nat) (le : i ≤ j) (inside : j < samples.length) :
    (sorted samples).getD i 0 ≤ (sorted samples).getD j 0 := by
  have length := sorted_length samples
  have ordered : (sorted samples).Pairwise (· ≤ ·) := List.pairwise_insertionSort _ samples
  rw [List.getD_eq_getElem _ _ (by omega), List.getD_eq_getElem _ _ (by omega)]
  rcases Nat.eq_or_lt_of_le le with rfl | less
  · exact le_refl _
  · exact List.pairwise_iff_getElem.mp ordered i j (by omega) (by omega) less

theorem insert_pointwise (v w : ℚ) (samples others : List ℚ) (le : v ≤ w) (pointwise : List.Forall₂ (· ≤ ·) samples others)
    (ordered : samples.Pairwise (· ≤ ·)) (otherOrdered : others.Pairwise (· ≤ ·)) :
    List.Forall₂ (· ≤ ·) (samples.orderedInsert (· ≤ ·) v) (others.orderedInsert (· ≤ ·) w) := by
  induction pointwise generalizing v w with
  | nil => exact .cons le .nil
  | @cons x y xs ys below rest ih =>
      obtain ⟨least, orderedRest⟩ := List.pairwise_cons.mp ordered
      obtain ⟨otherLeast, otherOrderedRest⟩ := List.pairwise_cons.mp otherOrdered
      have placed : ∀ (z : ℚ) (zs : List ℚ), (∀ a ∈ zs, z ≤ a) → zs.orderedInsert (· ≤ ·) z = z :: zs := by
        intro z zs first
        cases zs with
        | nil => rfl
        | cons a zs => rw [List.orderedInsert_cons, if_pos (first a List.mem_cons_self)]
      rw [List.orderedInsert_cons, List.orderedInsert_cons]
      by_cases before : v ≤ x <;> by_cases otherBefore : w ≤ y
      · rw [if_pos before, if_pos otherBefore]
        exact .cons le (.cons below rest)
      · rw [if_pos before, if_neg otherBefore, ← placed x xs least]
        exact .cons (before.trans below) (ih x w (below.trans (not_le.mp otherBefore).le) orderedRest otherOrderedRest)
      · rw [if_neg before, if_pos otherBefore, ← placed y ys otherLeast]
        exact .cons ((not_le.mp before).le.trans le) (ih v y (le.trans otherBefore) orderedRest otherOrderedRest)
      · rw [if_neg before, if_neg otherBefore]
        exact .cons below (ih v w le orderedRest otherOrderedRest)

theorem sorted_pointwise (samples others : List ℚ) (pointwise : List.Forall₂ (· ≤ ·) samples others) :
    List.Forall₂ (· ≤ ·) (sorted samples) (sorted others) := by
  induction pointwise with
  | nil => exact .nil
  | cons below _ ih =>
      exact insert_pointwise _ _ _ _ below ih (List.pairwise_insertionSort _ _) (List.pairwise_insertionSort _ _)

-- The polygon through the points of a sequence.
def interpolate (points : Nat → ℚ) (x : ℚ) : ℚ :=
  points x.floor.toNat + (x - x.floor.toNat) * (points (x.floor.toNat + 1) - points x.floor.toNat)

theorem floor_to_nat (x : ℚ) (nonneg : 0 ≤ x) : (x.floor.toNat : ℚ) ≤ x ∧ x < x.floor.toNat + 1 := by
  have floorNonneg : 0 ≤ x.floor := Int.floor_nonneg.mpr nonneg
  have cast : (x.floor.toNat : ℚ) = x.floor := by exact_mod_cast Int.toNat_of_nonneg floorNonneg
  rw [cast]
  exact ⟨Int.floor_le x, Int.lt_floor_add_one x⟩

theorem interpolate_between (points : Nat → ℚ) (mono : Monotone points) (x : ℚ) (nonneg : 0 ≤ x) :
    points x.floor.toNat ≤ interpolate points x ∧ interpolate points x ≤ points (x.floor.toNat + 1) := by
  obtain ⟨low, high⟩ := floor_to_nat x nonneg
  have step := mono (Nat.le_succ x.floor.toNat)
  constructor
  · have part := mul_nonneg (sub_nonneg.mpr low) (sub_nonneg.mpr step)
    rw [interpolate]
    linarith
  · have part := mul_nonneg (sub_nonneg.mpr high.le) (sub_nonneg.mpr step)
    rw [interpolate]
    linarith

theorem interpolate_mono (points : Nat → ℚ) (mono : Monotone points) (x y : ℚ) (nonneg : 0 ≤ x) (le : x ≤ y) :
    interpolate points x ≤ interpolate points y := by
  have floors : x.floor ≤ y.floor := Int.floor_le_floor le
  have indices : x.floor.toNat ≤ y.floor.toNat := Int.toNat_le_toNat floors
  rcases Nat.eq_or_lt_of_le indices with same | less
  · have step := mul_le_mul_of_nonneg_right (sub_le_sub_right le (x.floor.toNat : ℚ))
      (sub_nonneg.mpr (mono (Nat.le_succ x.floor.toNat)))
    rw [interpolate, interpolate, ← same]
    linarith
  · calc interpolate points x ≤ points (x.floor.toNat + 1) := (interpolate_between points mono x nonneg).2
      _ ≤ points y.floor.toNat := mono less
      _ ≤ interpolate points y := (interpolate_between points mono y (nonneg.trans le)).1

theorem interpolate_pointwise (points others : Nat → ℚ) (below : ∀ i, points i ≤ others i) (x : ℚ) (nonneg : 0 ≤ x) :
    interpolate points x ≤ interpolate others x := by
  obtain ⟨low, high⟩ := floor_to_nat x nonneg
  have first := mul_le_mul_of_nonneg_left (below x.floor.toNat) (sub_nonneg.mpr high.le)
  have second := mul_le_mul_of_nonneg_left (below (x.floor.toNat + 1)) (sub_nonneg.mpr low)
  rw [interpolate, interpolate]
  linarith

end Statistics
