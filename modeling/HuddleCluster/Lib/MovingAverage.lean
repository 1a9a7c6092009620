import Mathlib

set_option autoImplicit false

namespace MovingAverage

variable {K : Type*} [Field K] [LinearOrder K] [IsStrictOrderedRing K]

-- One step of exponential smoothing: the sample counts with the given factor.
def smooth (factor sample previous : K) : K := factor * sample + (1 - factor) * previous

def average (factor : K) (start : K) (samples : List K) : K :=
  samples.foldl (fun previous sample => smooth factor sample previous) start

theorem smooth_le_iff (factor a b previous : K) (positive : 0 < factor) :
    smooth factor a previous ≤ smooth factor b previous ↔ a ≤ b := by
  simp only [smooth]
  rw [add_le_add_iff_right]
  exact mul_le_mul_iff_right₀ positive

theorem smooth_between (factor low high sample previous : K) (factorLow : 0 ≤ factor) (factorHigh : factor ≤ 1)
    (sampled : low ≤ sample ∧ sample ≤ high) (started : low ≤ previous ∧ previous ≤ high) :
    low ≤ smooth factor sample previous ∧ smooth factor sample previous ≤ high := by
  have rest : 0 ≤ 1 - factor := sub_nonneg.mpr factorHigh
  have whole := fun bound : K => (by ring : factor * bound + (1 - factor) * bound = bound)
  constructor
  · calc low = factor * low + (1 - factor) * low := (whole low).symm
      _ ≤ smooth factor sample previous :=
        add_le_add (mul_le_mul_of_nonneg_left sampled.1 factorLow) (mul_le_mul_of_nonneg_left started.1 rest)
  · calc smooth factor sample previous ≤ factor * high + (1 - factor) * high :=
        add_le_add (mul_le_mul_of_nonneg_left sampled.2 factorLow) (mul_le_mul_of_nonneg_left started.2 rest)
      _ = high := whole high

end MovingAverage
