import HuddleCluster.Lib.Statistics

set_option autoImplicit false

namespace Statistics

def meanDeviation (values : List ℚ) : ℚ := (values.map fun v => |v - mean values|).sum

def pairwiseDeviation (values : List ℚ) : ℚ := (values.map fun v => (values.map fun w => |v - w|).sum).sum

-- The Gini coefficient, by its definition over all pairs.
def gini (values : List ℚ) : ℚ := pairwiseDeviation values / (2 * values.length * values.sum)

-- At most two different values occur.
def TwoValued (values : List ℚ) : Prop := ∃ low high, ∀ v ∈ values, v = low ∨ v = high

theorem sum_zero_all (values : List ℚ) (nonneg : ∀ v ∈ values, 0 ≤ v) (zero : values.sum = 0) : ∀ v ∈ values, v = 0 := by
  intro v member
  have part := List.single_le_sum nonneg v member
  rw [zero] at part
  exact le_antisymm part (nonneg v member)

theorem sum_difference {α : Type*} (items : List α) (f g : α → ℚ) :
    (items.map fun a => g a - f a).sum = (items.map g).sum - (items.map f).sum := by
  have whole := Multiset.sum_map_sub (m := (items : Multiset α)) (f := g) (g := f)
  simpa only [Multiset.map_coe, Multiset.sum_coe] using whole

theorem sum_tight {α : Type*} (items : List α) (f g : α → ℚ) (le : ∀ a ∈ items, f a ≤ g a) :
    (items.map f).sum ≤ (items.map g).sum ∧ ((items.map f).sum = (items.map g).sum ↔ ∀ a ∈ items, f a = g a) := by
  have difference := sum_difference items f g
  refine ⟨List.sum_le_sum le, ?_, ?_⟩
  · intro same a member
    have zero : (items.map fun a => g a - f a).sum = 0 := by rw [difference, same, sub_self]
    have nonneg : ∀ v ∈ items.map fun a => g a - f a, 0 ≤ v := by
      intro v mapped
      obtain ⟨b, inside, rfl⟩ := List.mem_map.mp mapped
      exact sub_nonneg.mpr (le b inside)
    exact (sub_eq_zero.mp (sum_zero_all _ nonneg zero _ (List.mem_map_of_mem member))).symm
  · intro same
    rw [List.map_congr_left same]

theorem abs_sum_tight (values : List ℚ) :
    |values.sum| ≤ (values.map abs).sum ∧
      (|values.sum| = (values.map abs).sum ↔ (∀ v ∈ values, 0 ≤ v) ∨ (∀ v ∈ values, v ≤ 0)) := by
  obtain ⟨upper, upperTight⟩ := sum_tight values id abs fun v _ => le_abs_self v
  obtain ⟨lower, lowerTight⟩ := sum_tight values (fun v => -v) abs fun v _ => neg_le_abs v
  rw [List.map_id] at upper upperTight
  rw [← List.sum_neg values] at lower lowerTight
  refine ⟨abs_le'.mpr ⟨upper, lower⟩, ?_, ?_⟩
  · intro same
    rcases abs_cases values.sum with ⟨positive, -⟩ | ⟨negative, -⟩
    · left
      intro v member
      have own := upperTight.mp (positive.symm.trans same) v member
      exact abs_eq_self.mp own.symm
    · right
      intro v member
      have own := lowerTight.mp (negative.symm.trans same) v member
      exact abs_eq_neg_self.mp own.symm
  · rintro (nonneg | nonpos)
    · rw [abs_of_nonneg (List.sum_nonneg nonneg)]
      exact upperTight.mpr fun v member => (abs_of_nonneg (nonneg v member)).symm
    · have total := lowerTight.mpr fun v member => (abs_of_nonpos (nonpos v member)).symm
      have sign : values.sum ≤ 0 := by
        have whole : 0 ≤ (values.map abs).sum := (abs_nonneg _).trans (abs_le'.mpr ⟨upper, lower⟩)
        linarith
      rw [abs_of_nonpos sign, total]

theorem sum_differences (values : List ℚ) (v : ℚ) (nonempty : values ≠ []) :
    (values.map fun w => v - w).sum = values.length * (v - mean values) := by
  have positive : (values.length : ℚ) ≠ 0 := by exact_mod_cast (List.length_pos_iff.mpr nonempty).ne'
  have split := sum_difference values id fun _ => v
  rw [List.map_id, List.map_const', List.sum_replicate, nsmul_eq_mul] at split
  rw [mean]
  refine split.trans ?_
  field_simp

theorem deviation_tight (values : List ℚ) (v : ℚ) (nonempty : values ≠ []) :
    values.length * |v - mean values| ≤ (values.map fun w => |v - w|).sum ∧
      (values.length * |v - mean values| = (values.map fun w => |v - w|).sum ↔ (∀ w ∈ values, w ≤ v) ∨
      (∀ w ∈ values, v ≤ w)) := by
  obtain ⟨le, tight⟩ := abs_sum_tight (values.map fun w => v - w)
  have scaled : |(values.map fun w => v - w).sum| = values.length * |v - mean values| := by
    rw [sum_differences values v nonempty, abs_mul, Nat.abs_cast]
  have mapped : (values.map fun w => v - w).map abs = values.map fun w => |v - w| := by
    rw [List.map_map]
    rfl
  rw [scaled, mapped] at le tight
  refine ⟨le, tight.trans ?_⟩
  simp only [List.mem_map, forall_exists_index, and_imp, forall_apply_eq_imp_iff₂, sub_nonneg, sub_nonpos]

theorem two_valued_iff (values : List ℚ) :
    TwoValued values ↔ ∀ v ∈ values, (∀ w ∈ values, w ≤ v) ∨ (∀ w ∈ values, v ≤ w) := by
  constructor
  · intro two v member
    obtain ⟨low, high, all⟩ := two
    wlog le : low ≤ high generalizing low high
    · exact this high low (fun w inside => (all w inside).symm) (le_of_not_ge le)
    rcases all v member with rfl | rfl
    · right
      intro w inside
      rcases all w inside with rfl | rfl
      · exact le_refl _
      · exact le
    · left
      intro w inside
      rcases all w inside with rfl | rfl
      · exact le
      · exact le_refl _
  · intro extreme
    by_cases apart : ∃ a ∈ values, ∃ b ∈ values, a < b
    · obtain ⟨a, aInside, b, bInside, less⟩ := apart
      have least : ∀ w ∈ values, a ≤ w := (extreme a aInside).resolve_left fun most => not_lt.mpr (most b bInside) less
      have most : ∀ w ∈ values, w ≤ b := (extreme b bInside).resolve_right fun low => not_lt.mpr (low a aInside) less
      refine ⟨a, b, ?_⟩
      intro v member
      rcases extreme v member with highest | lowest
      · exact .inr (le_antisymm (most v member) (highest b bInside))
      · exact .inl (le_antisymm (lowest a aInside) (least v member))
    · cases values with
      | nil => exact ⟨0, 0, fun v member => absurd member List.not_mem_nil⟩
      | cons first rest =>
          refine ⟨first, first, ?_⟩
          intro v member
          have notBelow : ¬v < first := fun less => apart ⟨v, member, first, List.mem_cons_self, less⟩
          have notAbove : ¬first < v := fun less => apart ⟨first, List.mem_cons_self, v, member, less⟩
          exact .inl (le_antisymm (not_lt.mp notAbove) (not_lt.mp notBelow))

theorem pairwise_tight (values : List ℚ) :
    values.length * meanDeviation values ≤ pairwiseDeviation values ∧
      (values.length * meanDeviation values = pairwiseDeviation values ↔ TwoValued values) := by
  by_cases empty : values = []
  · subst empty
    simp [meanDeviation, pairwiseDeviation, TwoValued]
  · have tight := sum_tight values (fun v => values.length * |v - mean values|) (fun v => (values.map fun w => |v - w|).sum)
      fun v _ => (deviation_tight values v empty).1
    rw [List.sum_map_mul_left] at tight
    refine ⟨tight.1, tight.2.trans ?_⟩
    rw [two_valued_iff]
    exact forall₂_congr fun v _ => (deviation_tight values v empty).2

end Statistics
