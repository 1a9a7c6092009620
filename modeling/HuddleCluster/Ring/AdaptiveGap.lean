import HuddleCluster.Ring.Adaptive

set_option autoImplicit false

namespace HuddleCluster.Ring

open Statistics

-- How a call of maybe_adapt ends: at once, with new thresholds, or with the error
-- that statistics.median raises on no data.
inductive Adaptation where
  | kept
  | adapted
  | raised
deriving DecidableEq

namespace AdaptiveThresholdController

def baselineMedian (a : AdaptiveThresholdController) : ℚ := median (a.p95Window.take (max 1 (a.p95Window.length / 2)))

def recentMedian (a : AdaptiveThresholdController) : ℚ :=
  median (a.p95Window.drop (a.p95Window.length - max 3 (max 1 (a.p95Window.length / 2) / 2)))

def attempt (a : AdaptiveThresholdController) (now : ℚ) : Adaptation :=
  if now - a.lastAdapted < a.adaptationInterval then .kept
  else if a.p95Window.length < a.windowSize then .kept
  else if a.p95Window.length = 0 then .raised
  else .adapted

-- The piecewise-linear part of maybe_adapt, as a function of the ratio.
def adjustmentAt (maxDelta ratio : ℚ) : ℚ :=
  if 3 / 2 < ratio then maxDelta
  else if ratio < 7 / 10 then -maxDelta
  else ((ratio - 7 / 10) / (8 / 10) * 2 - 1) * maxDelta

theorem adjustment_at (a : AdaptiveThresholdController) :
    a.adjustment = adjustmentAt a.maxDelta (a.recentMedian / max a.baselineMedian 1) := rfl

theorem adjustment_at_mono (maxDelta ratio other : ℚ) (nonneg : 0 ≤ maxDelta) (le : ratio ≤ other) :
    adjustmentAt maxDelta ratio ≤ adjustmentAt maxDelta other := by
  have linear : ((ratio - 7 / 10) / (8 / 10) * 2 - 1) * maxDelta ≤ ((other - 7 / 10) / (8 / 10) * 2 - 1) * maxDelta :=
    mul_le_mul_of_nonneg_right (by linarith) nonneg
  have lowest (r : ℚ) (above : 7 / 10 ≤ r) : -maxDelta ≤ ((r - 7 / 10) / (8 / 10) * 2 - 1) * maxDelta := by
    have scaled := mul_le_mul_of_nonneg_right (by linarith : -1 ≤ (r - 7 / 10) / (8 / 10) * 2 - 1) nonneg
    linarith
  have highest (r : ℚ) (below : r ≤ 3 / 2) : ((r - 7 / 10) / (8 / 10) * 2 - 1) * maxDelta ≤ maxDelta := by
    have scaled := mul_le_mul_of_nonneg_right (by linarith : (r - 7 / 10) / (8 / 10) * 2 - 1 ≤ 1) nonneg
    linarith
  unfold adjustmentAt
  by_cases stressed : 3 / 2 < ratio
  · rw [if_pos stressed, if_pos (stressed.trans_le le)]
  · rw [if_neg stressed]
    by_cases healthy : ratio < 7 / 10
    · rw [if_pos healthy]
      split
      · linarith
      · split
        · exact le_refl _
        · exact lowest other (by linarith)
    · rw [if_neg healthy]
      split
      · exact highest ratio (by linarith)
      · rw [if_neg (by linarith)]
        exact linear

theorem adapted_thresholds (a : AdaptiveThresholdController) (now : ℚ) (adapted : a.attempt now = .adapted) :
    (a.maybeAdapt now).currentHeat = max (35 / 100) (min (85 / 100) (a.baseHeat + a.adjustment)) ∧
      (a.maybeAdapt now).currentCool =
        max (10 / 100) (min ((a.maybeAdapt now).currentHeat - 15 / 100) (a.baseCool + a.adjustment * (1 / 2))) := by
  unfold attempt at adapted
  split at adapted
  · cases adapted
  · next due =>
      split at adapted
      · cases adapted
      · next filled => simp only [maybeAdapt, if_neg due, if_neg filled, and_self]

-- The clamp of the cool threshold reads the clamped heat threshold, so the gap
-- is the one between the two clamps.
theorem adapted_bounds (a : AdaptiveThresholdController) (now : ℚ) (adapted : a.attempt now = .adapted) :
    (35 / 100 ≤ (a.maybeAdapt now).currentHeat ∧ (a.maybeAdapt now).currentHeat ≤ 85 / 100) ∧
      10 / 100 ≤ (a.maybeAdapt now).currentCool ∧ (a.maybeAdapt now).currentCool ≤ (a.maybeAdapt now).currentHeat - 15 / 100 := by
  obtain ⟨heat, cool⟩ := adapted_thresholds a now adapted
  have low : 35 / 100 ≤ (a.maybeAdapt now).currentHeat := by
    rw [heat]
    exact le_max_left _ _
  have high : (a.maybeAdapt now).currentHeat ≤ 85 / 100 := by
    rw [heat]
    exact max_le (by norm_num) (min_le_left _ _)
  refine ⟨⟨low, high⟩, ?_, ?_⟩
  · rw [cool]
    exact le_max_left _ _
  · rw [cool]
    exact max_le (by linarith) (min_le_left _ _)

theorem adapted_heat_mono (a b : AdaptiveThresholdController) (now later : ℚ) (adapted : a.attempt now = .adapted)
    (otherAdapted : b.attempt later = .adapted) (base : a.baseHeat = b.baseHeat) (delta : a.maxDelta = b.maxDelta)
    (nonneg : 0 ≤ a.maxDelta) (baseline : a.baselineMedian = b.baselineMedian) (recent : a.recentMedian ≤ b.recentMedian) :
    (a.maybeAdapt now).currentHeat ≤ (b.maybeAdapt later).currentHeat := by
  have positive : 0 < max b.baselineMedian 1 := lt_max_of_lt_right one_pos
  have ratio : a.recentMedian / max b.baselineMedian 1 ≤ b.recentMedian / max b.baselineMedian 1 := by gcongr
  have adjusted : a.adjustment ≤ b.adjustment := by
    rw [adjustment_at, adjustment_at, baseline, ← delta]
    exact adjustment_at_mono a.maxDelta _ _ nonneg ratio
  rw [(adapted_thresholds a now adapted).1, (adapted_thresholds b later otherAdapted).1, base]
  gcongr

theorem maybe_adapt_settings (a : AdaptiveThresholdController) (now : ℚ) :
    (a.maybeAdapt now).baseHeat = a.baseHeat ∧ (a.maybeAdapt now).maxDelta = a.maxDelta := by
  unfold maybeAdapt
  split
  · exact ⟨rfl, rfl⟩
  · split <;> exact ⟨rfl, rfl⟩

end AdaptiveThresholdController

inductive ThresholdCall where
  | recordP95 (p95Ms : ℚ)
  | maybeAdapt (now : ℚ)

-- A pair that maybe_adapt returned, and whether this call or an earlier one adapted.
structure ReturnedPair where
  heat : ℚ
  cool : ℚ
  adapted : Bool

structure ThresholdSession where
  controller : AdaptiveThresholdController
  adapted : Bool
  returned : List ReturnedPair

namespace ThresholdSession

def call (s : ThresholdSession) : ThresholdCall → ThresholdSession
  | .recordP95 p95Ms => { s with controller := s.controller.recordP95 p95Ms }
  | .maybeAdapt now =>
      match s.controller.attempt now with
      | .kept => { s with returned := ⟨s.controller.currentHeat, s.controller.currentCool, s.adapted⟩ :: s.returned }
      | .adapted =>
          let after := s.controller.maybeAdapt now
          ⟨after, true, ⟨after.currentHeat, after.currentCool, true⟩ :: s.returned⟩
      | .raised => s

def opened (a : AdaptiveThresholdController) : ThresholdSession := ⟨a, false, []⟩

def run (a : AdaptiveThresholdController) (calls : List ThresholdCall) : ThresholdSession := calls.foldl call (opened a)

end ThresholdSession

def ReturnedPair.Gapped (pair : ReturnedPair) : Prop :=
  pair.cool < pair.heat ∧ (pair.adapted = true → (35 / 100 ≤ pair.heat ∧ pair.heat ≤ 85 / 100) ∧
    10 / 100 ≤ pair.cool ∧ pair.cool ≤ pair.heat - 15 / 100)

-- The current pair is one that may be returned, and the settings are those of the start.
structure ThresholdSession.Gapped (a : AdaptiveThresholdController) (s : ThresholdSession) : Prop where
  current : ReturnedPair.Gapped ⟨s.controller.currentHeat, s.controller.currentCool, s.adapted⟩
  returned : ∀ pair ∈ s.returned, pair.Gapped
  heat : s.controller.baseHeat = a.baseHeat
  delta : s.controller.maxDelta = a.maxDelta

theorem call_gapped (a : AdaptiveThresholdController) (s : ThresholdSession) (item : ThresholdCall) (gapped : s.Gapped a) :
    (s.call item).Gapped a := by
  obtain ⟨current, returned, heat, delta⟩ := gapped
  cases item with
  | recordP95 p95Ms => exact ⟨current, returned, heat, delta⟩
  | maybeAdapt now =>
      cases ended : s.controller.attempt now with
      | kept =>
          simp only [ThresholdSession.call, ended]
          exact ⟨current, List.forall_mem_cons.mpr ⟨current, returned⟩, heat, delta⟩
      | raised =>
          simp only [ThresholdSession.call, ended]
          exact ⟨current, returned, heat, delta⟩
      | adapted =>
          simp only [ThresholdSession.call, ended]
          have bounds := s.controller.adapted_bounds now ended
          have fresh : ReturnedPair.Gapped ⟨(s.controller.maybeAdapt now).currentHeat,
            (s.controller.maybeAdapt now).currentCool, true⟩ :=
            ⟨by linarith [bounds.2.2], fun _ => bounds⟩
          obtain ⟨keptHeat, keptDelta⟩ := s.controller.maybe_adapt_settings now
          exact ⟨fresh, List.forall_mem_cons.mpr ⟨fresh, returned⟩, keptHeat.trans heat, keptDelta.trans delta⟩

theorem run_gapped (a : AdaptiveThresholdController) (calls : List ThresholdCall) (opened : (ThresholdSession.opened a).Gapped a) :
    (ThresholdSession.run a calls).Gapped a :=
  List.foldlRecOn calls ThresholdSession.call opened fun s gapped item _ => call_gapped a s item gapped

theorem adaptive_gap_kept (baseHeat baseCool maxDelta adaptationInterval created : ℚ) (windowSize : Nat)
    (calls others : List ThresholdCall) (base : baseCool < baseHeat) (nonneg : 0 ≤ maxDelta) :
    let fresh : AdaptiveThresholdController := { baseHeat, baseCool, maxDelta, windowSize, adaptationInterval, lastAdapted := created }
    let a := (ThresholdSession.run fresh calls).controller
    let b := (ThresholdSession.run fresh others).controller
    (∀ pair ∈ (ThresholdSession.run fresh calls).returned, pair.cool < pair.heat ∧
      (pair.adapted = true → (35 / 100 ≤ pair.heat ∧ pair.heat ≤ 85 / 100) ∧ 10 / 100 ≤ pair.cool ∧
      pair.cool ≤ pair.heat - 15 / 100)) ∧
    (∀ now later, a.attempt now = .adapted → b.attempt later = .adapted → a.baselineMedian = b.baselineMedian →
      a.recentMedian ≤ b.recentMedian → (a.maybeAdapt now).currentHeat ≤ (b.maybeAdapt later).currentHeat) := by
  intro fresh a b
  have opened : (ThresholdSession.opened fresh).Gapped fresh := by
    refine ⟨⟨base, ?_⟩, ?_, rfl, rfl⟩
    · intro adapted
      cases adapted
    · intro pair member
      cases member
  obtain ⟨-, returned, heat, delta⟩ := run_gapped fresh calls opened
  obtain ⟨-, -, otherHeat, otherDelta⟩ := run_gapped fresh others opened
  refine ⟨returned, ?_⟩
  intro now later adapted otherAdapted baseline recent
  refine a.adapted_heat_mono b now later adapted otherAdapted (heat.trans otherHeat.symm) (delta.trans otherDelta.symm) ?_ baseline recent
  rw [delta]
  exact nonneg

-- Two samples of 100 ms, two more of another latency, and a call after the interval.
def surge (recentMs : ℚ) : List ThresholdCall :=
  [.recordP95 100, .recordP95 100, .recordP95 recentMs, .recordP95 recentMs, .maybeAdapt 10]

def surgingController : AdaptiveThresholdController :=
  { baseHeat := 55 / 100, baseCool := 30 / 100, windowSize := 4, lastAdapted := 0 }

theorem adaptive_gap_surge :
    (∀ pair ∈ (ThresholdSession.run surgingController (surge 120)).returned, pair.cool < pair.heat) ∧
      ((ThresholdSession.run surgingController (surge 120)).controller.maybeAdapt 20).currentHeat ≤
        ((ThresholdSession.run surgingController (surge 200)).controller.maybeAdapt 20).currentHeat := by
  have laws := adaptive_gap_kept (55 / 100) (30 / 100) (1 / 10) 5 0 4 (surge 120) (surge 200) (by norm_num) (by norm_num)
  refine ⟨fun pair member => (laws.1 pair member).1, laws.2 20 20 ?_ ?_ ?_ ?_⟩ <;> decide +kernel

end HuddleCluster.Ring
