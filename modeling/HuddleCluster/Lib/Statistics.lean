import Mathlib

set_option autoImplicit false

namespace Statistics

def pushWindow {α : Type*} (size : Nat) (window : List α) (sample : α) : List α :=
  (window ++ [sample]).drop (window.length + 1 - size)

def mean (samples : List ℚ) : ℚ := samples.sum / samples.length

def sorted (samples : List ℚ) : List ℚ := samples.insertionSort (· ≤ ·)

def median (samples : List ℚ) : ℚ :=
  let ordered := sorted samples
  let half := ordered.length / 2
  if ordered.length % 2 = 1 then ordered.getD half 0
  else (ordered.getD (half - 1) 0 + ordered.getD half 0) / 2

def roundHalfEven (q : ℚ) : Int :=
  let low := q.floor
  if q - low < 1 / 2 then low
  else if 1 / 2 < q - low then low + 1
  else if low % 2 = 0 then low else low + 1

def roundTo (digits : Nat) (q : ℚ) : ℚ := roundHalfEven (q * 10 ^ digits) / 10 ^ digits

theorem round_half_even_near (q : ℚ) : |(roundHalfEven q : ℚ) - q| ≤ 1 / 2 := by
  have low : (q.floor : ℚ) ≤ q := Int.floor_le q
  have high : q < q.floor + 1 := Int.lt_floor_add_one q
  rw [abs_le, roundHalfEven]
  split
  · constructor <;> linarith
  · split
    · push_cast
      constructor <;> linarith
    · split
      · constructor <;> linarith
      · push_cast
        constructor <;> linarith

theorem round_half_even_mono (p q : ℚ) (le : p ≤ q) : roundHalfEven p ≤ roundHalfEven q := by
  by_contra more
  have nearP := abs_le.mp (round_half_even_near p)
  have nearQ := abs_le.mp (round_half_even_near q)
  have apart : roundHalfEven q + 1 ≤ roundHalfEven p := by omega
  have apartCast : (roundHalfEven q : ℚ) + 1 ≤ roundHalfEven p := by exact_mod_cast apart
  have same : p = q := by linarith
  rw [same] at more
  exact more (le_refl _)

theorem round_half_even_int (n : Int) : roundHalfEven n = n := by
  have near := abs_le.mp (round_half_even_near n)
  have below : (roundHalfEven n : ℚ) < n + 1 := by linarith
  have above : (n : ℚ) - 1 < roundHalfEven n := by linarith
  have belowInt : roundHalfEven n < n + 1 := by exact_mod_cast below
  have aboveInt : n - 1 < roundHalfEven n := by exact_mod_cast above
  omega

theorem round_half_even_neg (q : ℚ) : roundHalfEven (-q) = -roundHalfEven q := by
  have low : (q.floor : ℚ) ≤ q := Int.floor_le q
  have high : q < q.floor + 1 := Int.lt_floor_add_one q
  rcases low.eq_or_lt with whole | part
  · rw [← whole, ← Int.cast_neg, round_half_even_int, round_half_even_int]
  · have floor : (-q).floor = -q.floor - 1 := by
      refine (Int.floor_eq_iff (a := -q)).mpr ⟨?_, ?_⟩ <;> push_cast <;> linarith
    rw [roundHalfEven, roundHalfEven, floor]
    push_cast
    split_ifs <;> first | omega | (exfalso; linarith)

theorem round_to_mono (digits : Nat) (p q : ℚ) (le : p ≤ q) : roundTo digits p ≤ roundTo digits q := by
  have scaled : p * 10 ^ digits ≤ q * 10 ^ digits := by gcongr
  have rounded := round_half_even_mono _ _ scaled
  rw [roundTo, roundTo]
  gcongr

theorem round_to_decimal (digits : Nat) (n : Int) : roundTo digits (n / 10 ^ digits) = n / 10 ^ digits := by
  have scale : (10 : ℚ) ^ digits ≠ 0 := by positivity
  rw [roundTo, div_mul_cancel₀ _ scale, round_half_even_int]

theorem round_to_one (digits : Nat) : roundTo digits 1 = 1 := by
  have decimal := round_to_decimal digits (10 ^ digits)
  rwa [Int.cast_pow, Int.cast_ofNat, div_self (by positivity)] at decimal

theorem round_to_zero (digits : Nat) : roundTo digits 0 = 0 := by
  have decimal := round_to_decimal digits 0
  rwa [Int.cast_zero, zero_div] at decimal

theorem round_to_nonneg (digits : Nat) (q : ℚ) (nonneg : 0 ≤ q) : 0 ≤ roundTo digits q := by
  rw [← round_to_zero digits]
  exact round_to_mono digits 0 q nonneg

theorem round_to_unit (digits : Nat) (q : ℚ) (low : 0 ≤ q) (high : q ≤ 1) : 0 ≤ roundTo digits q ∧ roundTo digits q ≤ 1 :=
  ⟨round_to_nonneg digits q low, (round_to_mono digits q 1 high).trans (round_to_one digits).le⟩

theorem sorted_perm (samples : List ℚ) : (sorted samples).Perm samples := List.perm_insertionSort (· ≤ ·) samples

theorem sorted_top (samples others : List ℚ) (top : ℚ) (whole : samples.Perm (top :: others)) (highest : ∀ v ∈ others, v ≤ top) :
    sorted samples = sorted others ++ [top] := by
  have ordered : (sorted others ++ [top]).Pairwise (· ≤ ·) := by
    refine List.pairwise_append.mpr ⟨List.pairwise_insertionSort _ others, List.pairwise_singleton _ top, ?_⟩
    intro v member w single
    rw [List.mem_singleton.mp single]
    exact highest v ((sorted_perm others).mem_iff.mp member)
  have same : (sorted samples).Perm (sorted others ++ [top]) :=
    (sorted_perm samples).trans (whole.trans ((sorted_perm others).symm.cons top |>.trans (List.perm_append_singleton top _).symm))
  exact same.eq_of_pairwise (fun _ _ _ _ le ge => le_antisymm le ge) (List.pairwise_insertionSort _ samples) ordered

theorem sorted_mem (samples : List ℚ) (i : Nat) (inside : i < samples.length) : (sorted samples).getD i 0 ∈ samples := by
  have bound : i < (sorted samples).length := by rwa [(sorted_perm samples).length_eq]
  rw [List.getD_eq_getElem _ _ bound]
  exact (sorted_perm samples).mem_iff.mp (List.getElem_mem bound)

theorem median_above (samples : List ℚ) (low : ℚ) (nonempty : samples ≠ []) (above : ∀ v ∈ samples, low < v) :
    low < median samples := by
  have positive := List.length_pos_iff.mpr nonempty
  have length := (sorted_perm samples).length_eq
  rw [median]
  split
  · exact above _ (sorted_mem samples _ (by omega))
  · have first := above _ (sorted_mem samples ((sorted samples).length / 2 - 1) (by omega))
    have second := above _ (sorted_mem samples ((sorted samples).length / 2) (by omega))
    linarith

theorem median_spares (samples others : List ℚ) (top bound : ℚ) (whole : samples.Perm (top :: others)) (many : 2 ≤ others.length)
    (below : ∀ v ∈ others, v ≤ bound) (higher : bound ≤ top) : median samples ≤ bound := by
  have ordered := sorted_top samples others top whole fun v member => (below v member).trans higher
  have length : (sorted samples).length = others.length + 1 := by
    rw [(sorted_perm samples).length_eq, whole.length_eq, List.length_cons]
  have seen : ∀ i < others.length, (sorted samples).getD i 0 ≤ bound := by
    intro i inside
    rw [ordered, List.getD_append _ _ _ _ (by rwa [(sorted_perm others).length_eq])]
    exact below _ (sorted_mem others i inside)
  rw [median, length]
  split
  · exact seen _ (by omega)
  · have first := seen ((others.length + 1) / 2 - 1) (by omega)
    have second := seen ((others.length + 1) / 2) (by omega)
    linarith

theorem median_pair (samples : List ℚ) (low top : ℚ) (whole : samples.Perm [top, low]) (le : low ≤ top) :
    median samples = (low + top) / 2 := by
  have ordered : sorted samples = [low, top] := sorted_top samples [low] top whole (by simpa using le)
  simp [median, ordered]

theorem mean_same (samples others : List ℚ) (nonempty : samples ≠ []) (otherSome : others ≠ []) :
    mean samples = mean others ↔ others.length * samples.sum = samples.length * others.sum := by
  have positive : (samples.length : ℚ) ≠ 0 := by exact_mod_cast (List.length_pos_iff.mpr nonempty).ne'
  have otherPositive : (others.length : ℚ) ≠ 0 := by exact_mod_cast (List.length_pos_iff.mpr otherSome).ne'
  rw [mean, mean, div_eq_div_iff positive otherPositive, mul_comm samples.sum, mul_comm others.sum]

theorem sum_parted {α : Type*} [DecidableEq α] (value : α → ℚ) (items others : List α) :
    (items.map value).sum =
      ((items.filter fun item => item ∈ others).map value).sum + ((items.filter fun item => item ∉ others).map value).sum := by
  have parts := ((List.filter_append_perm (fun item => decide (item ∈ others)) items).map value).sum_eq
  rw [List.map_append, List.sum_append] at parts
  rw [← parts]
  simp only [decide_not]

theorem sum_spared {α : Type*} [DecidableEq α] (value : α → ℚ) (items others : List α) (distinct : items.Nodup)
    (otherDistinct : others.Nodup) (nothing : ∀ item ∉ others, value item = 0) :
    (items.map value).sum = ((others.filter fun item => item ∈ items).map value).sum := by
  have shared : (items.filter fun item => item ∈ others).Perm (others.filter fun item => item ∈ items) := by
    rw [List.perm_ext_iff_of_nodup (distinct.filter _) (otherDistinct.filter _)]
    intro item
    simp only [List.mem_filter, decide_eq_true_eq]
    exact and_comm
  have rest : ((items.filter fun item => item ∉ others).map value).sum = 0 := by
    apply List.sum_eq_zero
    intro worth member
    obtain ⟨item, kept, rfl⟩ := List.mem_map.mp member
    exact nothing item (of_decide_eq_true (List.mem_filter.mp kept).2)
  rw [sum_parted value items others, rest, add_zero, (shared.map value).sum_eq]

end Statistics
