import HuddleCluster.Ring.Server

set_option autoImplicit false

namespace HuddleCluster.Ring

open ServerMetrics Server

def temperatureAt (s : Server) (baseline avgResponseMs : ℚ) : ℚ :=
  ({ s with metrics := { s.metrics with avgResponseMs := avgResponseMs }.updateLatencyAnomaly baseline }).updateTemperature.temperature

def absoluteScore (avgResponseMs : ℚ) : ℚ := min (avgResponseMs / 2000) 1

def relativeScore (baseline avgResponseMs : ℚ) : ℚ := min ((avgResponseMs / baseline - 1) / 2) 1

-- The two averages lie on different sides of the baseline, so that the lower
-- one is scored absolutely and the higher one relatively. Then the scores are
-- in order, or the clamp hides the difference.
def SwitchSafe (s : Server) (baseline low high : ℚ) : Prop :=
  0 < baseline → low ≤ baseline → baseline < high →
    absoluteScore low ≤ relativeScore baseline high ∨
      1 ≤ otherScore s.metrics + relativeScore baseline high * (7 / 10) ∨
      otherScore s.metrics + absoluteScore low * (7 / 10) ≤ 0

theorem anomaly_pos_iff (baseline avg : ℚ) : 0 < anomaly baseline avg ↔ 0 < baseline ∧ baseline < avg := by
  unfold anomaly
  split
  · rename_i off
    constructor
    · intro impossible
      exact absurd impossible (lt_irrefl 0)
    · rintro ⟨positive, above⟩
      rcases off with low | low <;> linarith
  · rename_i on
    obtain ⟨baselinePos, avgPos⟩ := not_or.mp on
    rw [not_le] at baselinePos avgPos
    simp only [lt_max_iff, lt_irrefl, false_or, lt_min_iff, zero_lt_one, true_and]
    have ratio : 0 < (avg / baseline - 1) / 2 ↔ baseline < avg := by
      rw [div_pos_iff_of_pos_right (by norm_num), sub_pos, one_lt_div baselinePos]
    rw [ratio]
    exact ⟨fun above => ⟨baselinePos, above⟩, fun both => both.2⟩

theorem anomaly_above (baseline avg : ℚ) (positive : 0 < baseline) (above : baseline < avg) :
    anomaly baseline avg = relativeScore baseline avg := by
  have score := (anomaly_pos_iff baseline avg).mpr ⟨positive, above⟩
  have on : ¬ (baseline ≤ 0 ∨ avg ≤ 0) := by
    rintro (low | low) <;> linarith
  rw [anomaly, if_neg on] at score ⊢
  rw [relativeScore, min_comm ((avg / baseline - 1) / 2)]
  rcases lt_max_iff.mp score with impossible | inside
  · exact absurd impossible (lt_irrefl 0)
  · exact max_eq_right inside.le

theorem relative_score_mono (baseline low high : ℚ) (positive : 0 < baseline) (le : low ≤ high) :
    relativeScore baseline low ≤ relativeScore baseline high := by
  unfold relativeScore
  gcongr

theorem absolute_score_mono (low high : ℚ) (le : low ≤ high) : absoluteScore low ≤ absoluteScore high := by
  unfold absoluteScore
  gcongr

theorem clamp_le_iff (x y : ℚ) : max 0 (min 1 x) ≤ max 0 (min 1 y) ↔ x ≤ y ∨ 1 ≤ y ∨ x ≤ 0 := by
  constructor
  · intro ordered
    by_contra separate
    obtain ⟨above, short, positive⟩ : y < x ∧ y < 1 ∧ 0 < x := by simpa only [not_or, not_le] using separate
    have left : max 0 (min 1 x) = min 1 x := max_eq_right (le_min zero_le_one positive.le)
    have right : max 0 (min 1 y) < min 1 x := by
      rw [min_eq_right short.le]
      exact max_lt (lt_min zero_lt_one positive) (lt_min short above)
    linarith
  · rintro (le | one | low)
    · gcongr
    · rw [min_eq_left one, max_eq_right zero_le_one]
      exact max_le zero_le_one (min_le_left 1 x)
    · rw [max_eq_left ((min_le_right 1 x).trans low)]
      exact le_max_left _ _

theorem temperature_le_iff (s : Server) (baseline low high : ℚ) :
    temperatureAt s baseline low ≤ temperatureAt s baseline high ↔
      rawScore ({ s.metrics with avgResponseMs := low }.updateLatencyAnomaly baseline) ≤
        rawScore ({ s.metrics with avgResponseMs := high }.updateLatencyAnomaly baseline) :=
  MovingAverage.smooth_le_iff s.emaAlpha _ _ s.temperature s.emaPos

theorem raw_score_le_iff (m n : ServerMetrics) (same : otherScore m = otherScore n) :
    rawScore m ≤ rawScore n ↔ latencyScore m ≤ latencyScore n ∨
      1 ≤ otherScore m + latencyScore n * (7 / 10) ∨ otherScore m + latencyScore m * (7 / 10) ≤ 0 := by
  unfold rawScore
  rw [clamp_le_iff, ← same, add_le_add_iff_left, mul_le_mul_iff_left₀ (by norm_num : (0 : ℚ) < 7 / 10)]

theorem latency_score_absolute (m : ServerMetrics) (baseline avg : ℚ) (below : ¬ (0 < baseline ∧ baseline < avg)) :
    latencyScore ({ m with avgResponseMs := avg }.updateLatencyAnomaly baseline) = absoluteScore avg :=
  if_neg fun score => below ((anomaly_pos_iff baseline avg).mp score)

theorem latency_score_relative (m : ServerMetrics) (baseline avg : ℚ) (positive : 0 < baseline) (above : baseline < avg) :
    latencyScore ({ m with avgResponseMs := avg }.updateLatencyAnomaly baseline) = relativeScore baseline avg := by
  have score := (anomaly_pos_iff baseline avg).mpr ⟨positive, above⟩
  exact (if_pos score).trans (anomaly_above baseline avg positive above)

-- The one way to fail is to cross the baseline: on either side of it the
-- score in use is monotone.
theorem temperature_monotone_iff (s : Server) (baseline low high : ℚ) (le : low ≤ high) :
    temperatureAt s baseline low ≤ temperatureAt s baseline high ↔ SwitchSafe s baseline low high := by
  rw [temperature_le_iff, raw_score_le_iff _ _ (by rfl)]
  by_cases highAbove : 0 < baseline ∧ baseline < high
  · rw [latency_score_relative s.metrics baseline high highAbove.1 highAbove.2]
    by_cases lowAbove : baseline < low
    · rw [latency_score_relative s.metrics baseline low highAbove.1 lowAbove]
      have ordered := relative_score_mono baseline low high highAbove.1 le
      exact ⟨fun _ _ below => absurd below (not_le.mpr lowAbove), fun _ => Or.inl ordered⟩
    · rw [latency_score_absolute s.metrics baseline low (fun both => lowAbove both.2)]
      exact ⟨fun ordered _ _ _ => ordered, fun safe => safe highAbove.1 (not_lt.mp lowAbove) highAbove.2⟩
  · have lowBelow : ¬ (0 < baseline ∧ baseline < low) := fun both => highAbove ⟨both.1, lt_of_lt_of_le both.2 le⟩
    rw [latency_score_absolute s.metrics baseline high highAbove, latency_score_absolute s.metrics baseline low lowBelow]
    exact ⟨fun _ positive _ above => absurd ⟨positive, above⟩ highAbove, fun _ => Or.inl (absolute_score_mono low high le)⟩

def idleServer : Server := { id := "s1" }

-- Against a baseline of one second the server is at temperature 0.0875 when it
-- answers in 1000 ms and colder when it answers in 1001 ms.
theorem temperature_not_monotone : ∃ (s : Server) (baseline low high : ℚ), low ≤ high ∧
    ¬ temperatureAt s baseline low ≤ temperatureAt s baseline high := by
  refine ⟨idleServer, 1000, 1000, 1001, by norm_num, ?_⟩
  decide +kernel

theorem temperature_monotone_at : temperatureAt idleServer 12 24 ≤ temperatureAt idleServer 12 36 ↔
    SwitchSafe idleServer 12 24 36 :=
  temperature_monotone_iff idleServer 12 24 36 (by norm_num)

end HuddleCluster.Ring
