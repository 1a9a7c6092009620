import HuddleCluster.Lib.Dispersion
import HuddleCluster.Ring.HealthReport

set_option autoImplicit false

namespace HuddleCluster.Ring

open Statistics

namespace Cluster

def innerTimes (c : Cluster) : List ℚ := c.innerRing.map fun r => (c.objects r).totalInnerTime

end Cluster

theorem times_positive (times : List ℚ) (nonneg : ∀ t ∈ times, 0 ≤ t) (active : ∃ t ∈ times, t ≠ 0) : 0 < times.sum := by
  obtain ⟨t, member, nonzero⟩ := active
  have part := List.single_le_sum nonneg t member
  exact (lt_of_le_of_ne (nonneg t member) (Ne.symm nonzero)).trans_le part

-- The score divides the mean deviation by twice the total time.
theorem fairness_score_deviation (c : Cluster) (many : 2 ≤ c.innerRing.length) (positive : 0 < c.innerTimes.sum) :
    c.fairnessScore = meanDeviation c.innerTimes / (2 * c.innerTimes.sum) := by
  have length : c.innerTimes.length = c.innerRing.length := List.length_map _
  have count : (c.innerTimes.length : ℚ) ≠ 0 := by
    rw [length]
    exact_mod_cast (by omega : c.innerRing.length ≠ 0)
  have average : mean c.innerTimes ≠ 0 := div_ne_zero positive.ne' count
  have guard : ¬(c.innerTimes.length < 2 ∨ c.innerTimes.sum = 0 ∨ mean c.innerTimes = 0) := by
    rintro (few | zero | zero)
    · omega
    · exact positive.ne' zero
    · exact average zero
  have total : 2 * (c.innerTimes.length : ℚ) * mean c.innerTimes = 2 * c.innerTimes.sum := by
    rw [mean]
    field_simp
  calc c.fairnessScore = meanDeviation c.innerTimes / (2 * c.innerTimes.length * mean c.innerTimes) := if_neg guard
    _ = meanDeviation c.innerTimes / (2 * c.innerTimes.sum) := by rw [total]

theorem fairness_gini_iff (c : Cluster) (many : 2 ≤ c.innerRing.length) (nonneg : ∀ t ∈ c.innerTimes, 0 ≤ t)
    (active : ∃ t ∈ c.innerTimes, t ≠ 0) : c.fairnessScore = gini c.innerTimes ↔ TwoValued c.innerTimes := by
  have positive := times_positive _ nonneg active
  have count : (c.innerTimes.length : ℚ) ≠ 0 := by
    rw [Cluster.innerTimes, List.length_map]
    exact_mod_cast (by omega : c.innerRing.length ≠ 0)
  have scaled : meanDeviation c.innerTimes / (2 * c.innerTimes.sum) =
      c.innerTimes.length * meanDeviation c.innerTimes / (2 * c.innerTimes.length * c.innerTimes.sum) := by
    field_simp
  have scale : 2 * (c.innerTimes.length : ℚ) * c.innerTimes.sum ≠ 0 := mul_ne_zero (mul_ne_zero two_ne_zero count) positive.ne'
  rw [fairness_score_deviation c many positive, scaled, gini, div_left_inj' scale]
  exact (pairwise_tight c.innerTimes).2

-- Servers 0 to n - 1 in the inner ring, where server r has served for r seconds.
def seasoned (n : Nat) : Cluster :=
  { Cluster.empty {} (fun r => { id := toString r, totalInnerTime := r }) none none none ⟨fun ticks => ticks, 0⟩ with
    innerRing := List.range n }

theorem fairness_not_gini : ¬ ∀ c : Cluster, 2 ≤ c.innerRing.length → (∀ t ∈ c.innerTimes, 0 ≤ t) →
    (∃ t ∈ c.innerTimes, t ≠ 0) →
    c.fairnessScore = gini c.innerTimes := by
  intro claim
  have equal := claim (seasoned 3) (by decide) (by decide +kernel) (by decide +kernel)
  have score : (seasoned 3).fairnessScore = 1 / 3 := by decide +kernel
  have coefficient : gini (seasoned 3).innerTimes = 4 / 9 := by decide +kernel
  rw [score, coefficient] at equal
  norm_num at equal

theorem fairness_gini_of_two : (seasoned 2).fairnessScore = gini (seasoned 2).innerTimes :=
  (fairness_gini_iff (seasoned 2) (by decide) (by decide +kernel) (by decide +kernel)).mpr ⟨0, 1, by decide +kernel⟩

end HuddleCluster.Ring
