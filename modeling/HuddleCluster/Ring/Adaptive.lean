import HuddleCluster.Lib.Statistics

set_option autoImplicit false

namespace HuddleCluster.Ring

open Statistics

-- The readings a clock will return, in the order the program takes them.
structure Clock where
  reading : Nat → ℚ
  ticks : Nat := 0

namespace Clock

def now (clock : Clock) : ℚ := clock.reading clock.ticks

def tick (clock : Clock) : Clock := { clock with ticks := clock.ticks + 1 }

end Clock

structure AdaptiveThresholdController where
  baseHeat : ℚ
  baseCool : ℚ
  maxDelta : ℚ := 1 / 10
  windowSize : Nat := 20
  adaptationInterval : ℚ := 5
  p95Window : List ℚ := []
  currentHeat : ℚ := baseHeat
  currentCool : ℚ := baseCool
  lastAdapted : ℚ

namespace AdaptiveThresholdController

def recordP95 (a : AdaptiveThresholdController) (p95Ms : ℚ) : AdaptiveThresholdController :=
  { a with p95Window := pushWindow a.windowSize a.p95Window p95Ms }

def adjustment (a : AdaptiveThresholdController) : ℚ :=
  let window := a.p95Window
  let half := max 1 (window.length / 2)
  let baseline := median (window.take half)
  let recent := median (window.drop (window.length - max 3 (half / 2)))
  let ratio := recent / max baseline 1
  if 3 / 2 < ratio then a.maxDelta
  else if ratio < 7 / 10 then -a.maxDelta
  else ((ratio - 7 / 10) / (8 / 10) * 2 - 1) * a.maxDelta

def maybeAdapt (a : AdaptiveThresholdController) (now : ℚ) : AdaptiveThresholdController :=
  if now - a.lastAdapted < a.adaptationInterval then a
  else if a.p95Window.length < a.windowSize then a
  else
    let newHeat := max (35 / 100) (min (85 / 100) (a.baseHeat + a.adjustment))
    let newCool := max (10 / 100) (min (newHeat - 15 / 100) (a.baseCool + a.adjustment * (1 / 2)))
    { a with currentHeat := newHeat, currentCool := newCool, lastAdapted := now }

end AdaptiveThresholdController

end HuddleCluster.Ring
