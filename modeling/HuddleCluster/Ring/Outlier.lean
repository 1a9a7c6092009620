import HuddleCluster.Ring.Moves
import HuddleCluster.Ring.Temperature

set_option autoImplicit false

namespace HuddleCluster.Ring

open Statistics

namespace Cluster

def averageOf (c : Cluster) (r : Ref) : ℚ := (c.objects r).metrics.avgResponseMs

-- The averages that record_latency computes its baseline from.
def sampled (c : Cluster) (r : Ref) (latencyMs : ℚ) : Cluster := c.modifyMetrics r fun m => m.recordLatency latencyMs

structure Outlier (c : Cluster) (r : Ref) : Prop where
  once : c.innerRing.count r = 1
  positive : ∀ x ∈ c.innerRing, 0 < c.averageOf x
  slowest : ∀ x ∈ c.innerRing, x ≠ r → 3 * c.averageOf x ≤ c.averageOf r

end Cluster

theorem outlier_averages (c : Cluster) (r : Ref) (outlier : c.Outlier r) : c.innerAverages = c.innerRing.map c.averageOf := by
  refine List.filter_eq_self.mpr ?_
  intro avg member
  obtain ⟨x, inside, rfl⟩ := List.mem_map.mp member
  exact decide_eq_true (outlier.positive x inside)

theorem outlier_others (c : Cluster) (r : Ref) (outlier : c.Outlier r) :
    c.innerRing.Perm (r :: c.innerRing.erase r) ∧ ∀ x ∈ c.innerRing.erase r, x ∈ c.innerRing ∧ x ≠ r := by
  have member : r ∈ c.innerRing := List.count_pos_iff.mp (by rw [outlier.once]; exact Nat.one_pos)
  refine ⟨List.perm_cons_erase member, ?_⟩
  intro x inside
  refine ⟨List.mem_of_mem_erase inside, ?_⟩
  rintro rfl
  have counted := List.count_pos_iff.mpr inside
  rw [List.count_erase_self, outlier.once] at counted
  exact absurd counted (lt_irrefl 0)

theorem median_positive (c : Cluster) (r : Ref) (outlier : c.Outlier r) : 0 < median c.innerAverages := by
  have whole := (outlier_others c r outlier).1
  rw [outlier_averages c r outlier]
  apply median_above
  · intro empty
    rw [List.map_eq_nil_iff.mp empty] at whole
    exact absurd whole.length_eq (by simp)
  · intro avg member
    obtain ⟨x, inside, rfl⟩ := List.mem_map.mp member
    exact outlier.positive x inside

-- With two servers or more beside it the outlier is not in the middle; with one
-- it is half of the median.
theorem median_outlier_iff (c : Cluster) (r : Ref) (ring : 2 ≤ c.innerRing.length) (outlier : c.Outlier r) :
    3 * median c.innerAverages ≤ c.averageOf r ↔ 3 ≤ c.innerRing.length := by
  obtain ⟨whole, others⟩ := outlier_others c r outlier
  have averages := outlier_averages c r outlier
  have length := whole.length_eq
  rw [List.length_cons] at length
  have mapped : c.innerAverages.Perm (c.averageOf r :: (c.innerRing.erase r).map c.averageOf) := by
    rw [averages]
    exact whole.map c.averageOf
  have positive := outlier.positive r (whole.mem_iff.mpr (by simp))
  constructor
  · intro masked
    by_contra pair
    obtain ⟨x, single⟩ := List.length_eq_one_iff.mp (show (c.innerRing.erase r).length = 1 by omega)
    have here := others x (by rw [single]; exact List.mem_singleton_self x)
    have slower := outlier.slowest x here.1 here.2
    have above := outlier.positive x here.1
    rw [single] at mapped
    have middle := median_pair _ (c.averageOf x) (c.averageOf r) mapped (by linarith)
    linarith
  · intro many
    have spared := median_spares _ _ (c.averageOf r) (c.averageOf r / 3) mapped (by rw [List.length_map]; omega) (by
      intro avg member
      obtain ⟨x, inside, rfl⟩ := List.mem_map.mp member
      have here := others x inside
      have slower := outlier.slowest x here.1 here.2
      linarith) (by linarith)
    linarith

theorem anomaly_full_iff (baseline avg : ℚ) (positive : 0 < baseline) (timed : 0 < avg) :
    ServerMetrics.anomaly baseline avg = 1 ↔ 3 * baseline ≤ avg := by
  have on : ¬ (baseline ≤ 0 ∨ avg ≤ 0) := not_or.mpr ⟨not_le.mpr positive, not_le.mpr timed⟩
  have ratio : 1 ≤ (avg / baseline - 1) / 2 ↔ 3 * baseline ≤ avg := by
    rw [le_div_iff₀ (by norm_num : (0 : ℚ) < 2), le_sub_iff_add_le, le_div_iff₀ positive]
    norm_num
  rw [ServerMetrics.anomaly, if_neg on, ← ratio]
  constructor
  · intro full
    by_contra short
    have below : min 1 ((avg / baseline - 1) / 2) < 1 := min_lt_of_right_lt (not_le.mp short)
    exact absurd full (max_lt zero_lt_one below).ne
  · intro full
    rw [min_eq_left full]
    exact max_eq_right zero_le_one

theorem recorded_anomaly (c : Cluster) (r : Ref) (latencyMs : ℚ) (nonempty : (c.sampled r latencyMs).innerAverages ≠ []) :
    ((c.recordLatency r latencyMs).objects r).metrics.latencyAnomalyScore =
      ServerMetrics.anomaly (median (c.sampled r latencyMs).innerAverages) ((c.sampled r latencyMs).averageOf r) := by
  have filled : ¬ (c.sampled r latencyMs).innerAverages.isEmpty = true := by rwa [List.isEmpty_iff]
  simp only [Cluster.recordLatency]
  rw [feed_p95_spec, ← Cluster.sampled, if_neg filled]
  simp [Cluster.modifyMetrics, Cluster.updateTemperature, Server.updateTemperature, ServerMetrics.updateLatencyAnomaly,
    Cluster.averageOf]

-- The score of a server that is three times as slow as the others, once its
-- sample is recorded, is the highest one exactly in rings of three or more.
theorem outlier_scored_iff (c : Cluster) (r : Ref) (latencyMs : ℚ) (ring : 2 ≤ c.innerRing.length)
    (outlier : (c.sampled r latencyMs).Outlier r) :
    ((c.recordLatency r latencyMs).objects r).metrics.latencyAnomalyScore = 1 ↔ 3 ≤ c.innerRing.length := by
  have positive := median_positive _ r outlier
  have nonempty : (c.sampled r latencyMs).innerAverages ≠ [] := by
    intro empty
    rw [empty] at positive
    exact absurd positive (by norm_num [median, sorted])
  have member : r ∈ (c.sampled r latencyMs).innerRing :=
    List.count_pos_iff.mp (by rw [outlier.once]; exact Nat.one_pos)
  rw [recorded_anomaly c r latencyMs nonempty, anomaly_full_iff _ _ positive (outlier.positive r member)]
  exact median_outlier_iff (c.sampled r latencyMs) r ring outlier

-- Every other server answered its last request in 10 ms.
def answering (ring : List Ref) : Cluster :=
  { Cluster.empty {} (fun r => { id := toString r, metrics := { avgResponseMs := 10, latencyWindow := [10] } }) none none none
      ⟨fun ticks => ticks, 0⟩ with innerRing := ring }

theorem outlier_masks_itself : ¬ ∀ (c : Cluster) (r : Ref) (latencyMs : ℚ), 2 ≤ c.innerRing.length →
    (c.sampled r latencyMs).Outlier r → ((c.recordLatency r latencyMs).objects r).metrics.latencyAnomalyScore = 1 := by
  intro claim
  have slow : ((answering [0, 1]).sampled 0 50).Outlier 0 := ⟨by decide, by decide +kernel, by decide +kernel⟩
  exact absurd (claim (answering [0, 1]) 0 50 (by decide) slow) (by decide +kernel)

theorem outlier_scored_of_three :
    (((answering [0, 1, 2]).recordLatency 0 50).objects 0).metrics.latencyAnomalyScore = 1 ↔
    3 ≤ (answering [0, 1, 2]).innerRing.length :=
  outlier_scored_iff (answering [0, 1, 2]) 0 50 (by decide) ⟨by decide, by decide +kernel, by decide +kernel⟩

end HuddleCluster.Ring
