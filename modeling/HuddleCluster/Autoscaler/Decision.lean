import Mathlib

set_option autoImplicit false

namespace HuddleCluster.Autoscaler

inductive Decision where
  | scaleUp
  | scaleDown
  | none
deriving DecidableEq, Repr

-- The constructor raises unless the proof fields hold. It looks at neither the steps nor
-- the cooldowns. fixed is what .2f makes of a float, and text is its str().
structure ScalerSettings where
  minNodes : Int := 1
  maxNodes : Int := 10
  scaleUpHeatThreshold : ℚ := 7 / 10
  scaleDownHeatThreshold : ℚ := 1 / 5
  scaleUpCooldown : ℚ := 120
  scaleDownCooldown : ℚ := 300
  scaleUpStep : Int := 1
  scaleDownStep : Int := 1
  fixed : ℚ → String
  text : ℚ → String
  minPos : 1 ≤ minNodes
  ordered : minNodes ≤ maxNodes
  upPos : 0 < scaleUpHeatThreshold
  upLe : scaleUpHeatThreshold ≤ 1
  downNonneg : 0 ≤ scaleDownHeatThreshold
  apart : scaleDownHeatThreshold < scaleUpHeatThreshold

structure ScaleEvent where
  direction : Decision
  reason : String
  aliveNodes : Int
  recommendedDelta : Int
  ts : ℚ
deriving DecidableEq

structure ClusterAutoScaler where
  lastScaleUpTs : ℚ := 0
  lastScaleDownTs : ℚ := 0
  lastDecision : Decision := .none
  lastReason : String := ""
  history : List ScaleEvent := []
deriving DecidableEq

namespace ClusterAutoScaler

-- The conditions are looked at in this order.
def conditions (cfg : ScalerSettings) (aliveNodes : Int) (avgHeat : Option ℚ) : Decision × String :=
  let minNodes := cfg.minNodes
  let maxNodes := cfg.maxNodes
  if aliveNodes < minNodes then (.scaleUp, s!"alive_nodes ({aliveNodes}) < min_nodes ({minNodes})")
  else if (avgHeat.any fun heat => decide (cfg.scaleUpHeatThreshold < heat)) && decide (aliveNodes < maxNodes) then
    let heat := cfg.fixed (avgHeat.getD 0)
    let threshold := cfg.text cfg.scaleUpHeatThreshold
    (.scaleUp, s!"avg_heat ({heat}) > threshold ({threshold})")
  else if maxNodes < aliveNodes then (.scaleDown, s!"alive_nodes ({aliveNodes}) > max_nodes ({maxNodes})")
  else if (avgHeat.any fun heat => decide (heat < cfg.scaleDownHeatThreshold)) && decide (minNodes < aliveNodes) then
    let heat := cfg.fixed (avgHeat.getD 0)
    let threshold := cfg.text cfg.scaleDownHeatThreshold
    (.scaleDown, s!"avg_heat ({heat}) < threshold ({threshold})")
  else (.none, "")

def cooling (cfg : ScalerSettings) (s : ClusterAutoScaler) (now : ℚ) : Decision → Bool
  | .scaleUp => decide (now - s.lastScaleUpTs < cfg.scaleUpCooldown)
  | .scaleDown => decide (now - s.lastScaleDownTs < cfg.scaleDownCooldown)
  | .none => false

def record (s : ClusterAutoScaler) (event : ScaleEvent) : ClusterAutoScaler :=
  let history := s.history ++ [event]
  let s := { s with history := history.drop (history.length - 200) }
  match event.direction with
  | .scaleUp => { s with lastScaleUpTs := event.ts }
  | _ => { s with lastScaleDownTs := event.ts }

def delta (cfg : ScalerSettings) : Decision → Int
  | .scaleUp => cfg.scaleUpStep
  | .scaleDown => -cfg.scaleDownStep
  | .none => 0

-- The decision that is reported is the one before the cooldown.
def evaluate (cfg : ScalerSettings) (s : ClusterAutoScaler) (now : ℚ) (aliveNodes : Int) (avgHeat : Option ℚ) :
    Decision × ClusterAutoScaler :=
  let (rawDecision, rawReason) := conditions cfg aliveNodes avgHeat
  let decision := if s.cooling cfg now rawDecision then .none else rawDecision
  let fired :=
    match decision with
    | .none => s
    | direction => s.record ⟨direction, rawReason, aliveNodes, delta cfg direction, now⟩
  (decision, { fired with lastDecision := rawDecision, lastReason := rawReason })

end ClusterAutoScaler

open ClusterAutoScaler

-- What the delta makes of the number of nodes.
structure Respects (cfg : ScalerSettings) (aliveNodes delta : Int) : Prop where
  inside : cfg.minNodes ≤ aliveNodes → aliveNodes ≤ cfg.maxNodes →
    cfg.minNodes ≤ aliveNodes + delta ∧ aliveNodes + delta ≤ cfg.maxNodes
  below : aliveNodes < cfg.minNodes → aliveNodes + delta ≤ cfg.maxNodes
  above : cfg.maxNodes < aliveNodes → cfg.minNodes ≤ aliveNodes + delta

def UpWanted (cfg : ScalerSettings) (aliveNodes : Int) (avgHeat : Option ℚ) : Prop :=
  aliveNodes < cfg.minNodes ∨ (∃ heat ∈ avgHeat, cfg.scaleUpHeatThreshold < heat) ∧ aliveNodes < cfg.maxNodes

def DownWanted (cfg : ScalerSettings) (aliveNodes : Int) (avgHeat : Option ℚ) : Prop :=
  cfg.maxNodes < aliveNodes ∨ (∃ heat ∈ avgHeat, heat < cfg.scaleDownHeatThreshold) ∧ cfg.minNodes < aliveNodes

-- There is room for the whole step in a direction that is wanted and has cooled down.
structure StepFits (cfg : ScalerSettings) (s : ClusterAutoScaler) (now : ℚ) (aliveNodes : Int) (avgHeat : Option ℚ) : Prop where
  up : UpWanted cfg aliveNodes avgHeat → cfg.scaleUpCooldown ≤ now - s.lastScaleUpTs → aliveNodes + cfg.scaleUpStep ≤ cfg.maxNodes
  down : DownWanted cfg aliveNodes avgHeat → cfg.scaleDownCooldown ≤ now - s.lastScaleDownTs →
    cfg.minNodes ≤ aliveNodes - cfg.scaleDownStep

section Evaluation

variable (cfg : ScalerSettings) (s : ClusterAutoScaler) (now : ℚ) (aliveNodes : Int) (avgHeat : Option ℚ)

theorem any_some (test : ℚ → Prop) [DecidablePred test] :
    (avgHeat.any fun heat => decide (test heat)) = true ↔ ∃ heat ∈ avgHeat, test heat := by
  cases avgHeat <;> simp

theorem wanted_apart (up : UpWanted cfg aliveNodes avgHeat) : ¬ DownWanted cfg aliveNodes avgHeat := by
  have ordered := cfg.ordered
  rintro (many | ⟨⟨heat, here, cold⟩, more⟩)
  · rcases up with few | ⟨_, fewer⟩ <;> omega
  · rcases up with few | ⟨⟨other, there, hot⟩, _⟩
    · omega
    · cases here.symm.trans there
      exact absurd (hot.trans cold) (not_lt.mpr cfg.apart.le)

theorem conditions_cases :
    UpWanted cfg aliveNodes avgHeat ∧ (conditions cfg aliveNodes avgHeat).1 = .scaleUp ∨
    DownWanted cfg aliveNodes avgHeat ∧ (conditions cfg aliveNodes avgHeat).1 = .scaleDown ∨
    (¬ UpWanted cfg aliveNodes avgHeat ∧ ¬ DownWanted cfg aliveNodes avgHeat) ∧ (conditions cfg aliveNodes avgHeat).1 = .none := by
  have hot := any_some avgHeat fun heat => cfg.scaleUpHeatThreshold < heat
  have cold := any_some avgHeat fun heat => heat < cfg.scaleDownHeatThreshold
  simp only [conditions, UpWanted, DownWanted, ← hot, ← cold]
  split
  · rename_i few
    exact Or.inl ⟨Or.inl few, rfl⟩
  · rename_i enough
    split
    · rename_i busy
      rw [Bool.and_eq_true, decide_eq_true_eq] at busy
      exact Or.inl ⟨Or.inr busy, rfl⟩
    · rename_i calm
      rw [Bool.and_eq_true, decide_eq_true_eq] at calm
      split
      · rename_i many
        exact Or.inr (Or.inl ⟨Or.inl many, rfl⟩)
      · rename_i within
        split
        · rename_i idle
          rw [Bool.and_eq_true, decide_eq_true_eq] at idle
          exact Or.inr (Or.inl ⟨Or.inr idle, rfl⟩)
        · rename_i used
          rw [Bool.and_eq_true, decide_eq_true_eq] at used
          exact Or.inr (Or.inr ⟨⟨fun up => up.elim enough calm, fun down => down.elim within used⟩, rfl⟩)

theorem evaluate_decision : (s.evaluate cfg now aliveNodes avgHeat).1 =
    if s.cooling cfg now (conditions cfg aliveNodes avgHeat).1 then .none else (conditions cfg aliveNodes avgHeat).1 := rfl

theorem up_room (wanted : UpWanted cfg aliveNodes avgHeat) : aliveNodes < cfg.maxNodes ∨ aliveNodes < cfg.minNodes :=
  wanted.symm.imp_left And.right

theorem down_room (wanted : DownWanted cfg aliveNodes avgHeat) : cfg.minNodes < aliveNodes ∨ cfg.maxNodes < aliveNodes :=
  wanted.symm.imp_left And.right

theorem respects_still : Respects cfg aliveNodes 0 := by
  have ordered := cfg.ordered
  exact ⟨by omega, by omega, by omega⟩

theorem respects_up (step : Int) (positive : 0 < step) (room : aliveNodes < cfg.maxNodes ∨ aliveNodes < cfg.minNodes) :
    Respects cfg aliveNodes step ↔ aliveNodes + step ≤ cfg.maxNodes := by
  have ordered := cfg.ordered
  constructor
  · rintro ⟨inside, below, -⟩
    by_cases few : aliveNodes < cfg.minNodes
    · exact below few
    · exact (inside (by omega) (by omega)).2
  · intro fits
    exact ⟨by omega, by omega, by omega⟩

theorem respects_down (step : Int) (positive : 0 < step) (room : cfg.minNodes < aliveNodes ∨ cfg.maxNodes < aliveNodes) :
    Respects cfg aliveNodes (-step) ↔ cfg.minNodes ≤ aliveNodes - step := by
  have ordered := cfg.ordered
  rw [sub_eq_add_neg]
  constructor
  · rintro ⟨inside, -, above⟩
    by_cases many : cfg.maxNodes < aliveNodes
    · exact above many
    · exact (inside (by omega) (by omega)).1
  · intro fits
    exact ⟨by omega, by omega, by omega⟩

-- The delta respects the bounds exactly if the whole step does.
theorem bounds_respected_iff (upPositive : 0 < cfg.scaleUpStep) (downPositive : 0 < cfg.scaleDownStep) :
    Respects cfg aliveNodes (delta cfg (s.evaluate cfg now aliveNodes avgHeat).1) ↔ StepFits cfg s now aliveNodes avgHeat := by
  have still := respects_still cfg aliveNodes
  rw [evaluate_decision]
  rcases conditions_cases cfg aliveNodes avgHeat with ⟨wanted, decided⟩ | ⟨wanted, decided⟩ | ⟨⟨noUp, noDown⟩, decided⟩
  · have noDown := wanted_apart cfg aliveNodes avgHeat wanted
    have room := up_room cfg aliveNodes avgHeat wanted
    rw [decided]
    by_cases hot : now - s.lastScaleUpTs < cfg.scaleUpCooldown
    · rw [if_pos (by simpa [cooling] using hot)]
      exact iff_of_true still ⟨fun _ cooled => absurd hot (not_lt.mpr cooled), fun down => absurd down noDown⟩
    · rw [if_neg (by simpa [cooling] using hot), delta, respects_up cfg aliveNodes _ upPositive room]
      exact ⟨fun fits => ⟨fun _ _ => fits, fun down => absurd down noDown⟩, fun fits => fits.up wanted (not_lt.mp hot)⟩
  · have noUp : ¬ UpWanted cfg aliveNodes avgHeat := fun up => wanted_apart cfg aliveNodes avgHeat up wanted
    have room := down_room cfg aliveNodes avgHeat wanted
    rw [decided]
    by_cases hot : now - s.lastScaleDownTs < cfg.scaleDownCooldown
    · rw [if_pos (by simpa [cooling] using hot)]
      exact iff_of_true still ⟨fun up => absurd up noUp, fun _ cooled => absurd hot (not_lt.mpr cooled)⟩
    · rw [if_neg (by simpa [cooling] using hot), delta, respects_down cfg aliveNodes _ downPositive room]
      exact ⟨fun fits => ⟨fun up => absurd up noUp, fun _ _ => fits⟩, fun fits => fits.down wanted (not_lt.mp hot)⟩
  · rw [decided, if_neg (by simp [cooling])]
    exact iff_of_true still ⟨fun up => absurd up noUp, fun down => absurd down noDown⟩

theorem one_step_fits (upOne : cfg.scaleUpStep = 1) (downOne : cfg.scaleDownStep = 1) :
    StepFits cfg s now aliveNodes avgHeat := by
  have ordered := cfg.ordered
  constructor
  · rintro wanted -
    have room := up_room cfg aliveNodes avgHeat wanted
    omega
  · rintro wanted -
    have room := down_room cfg aliveNodes avgHeat wanted
    omega

end Evaluation

def steppedSettings (upStep downStep : Int) : ScalerSettings where
  scaleUpStep := upStep
  scaleDownStep := downStep
  fixed _ := ""
  text _ := ""
  minPos := by decide
  ordered := by decide
  upPos := by decide +kernel
  upLe := by decide +kernel
  downNonneg := by decide +kernel
  apart := by decide +kernel

theorem bounds_respected_default : Respects (steppedSettings 1 1) 9
    (delta (steppedSettings 1 1) ((⟨0, 0, .none, "", []⟩ : ClusterAutoScaler).evaluate (steppedSettings 1 1) 1000 9
    (some (9 / 10))).1) := by
  exact (bounds_respected_iff (steppedSettings 1 1) ⟨0, 0, .none, "", []⟩ 1000 9 (some (9 / 10)) (by decide) (by decide)).mpr
    (one_step_fits (steppedSettings 1 1) _ _ _ _ rfl rfl)

-- Five nodes for a hot cluster of nine make fourteen of at most ten.
theorem step_past_bound :
    ¬ ∀ (cfg : ScalerSettings) (s : ClusterAutoScaler) (now : ℚ) (aliveNodes : Int) (avgHeat : Option ℚ),
      0 < cfg.scaleUpStep → 0 < cfg.scaleDownStep → Respects cfg aliveNodes (delta cfg (s.evaluate cfg now aliveNodes avgHeat).1) := by
  intro always
  have respected := always (steppedSettings 5 1) ⟨0, 0, .none, "", []⟩ 1000 9 (some (9 / 10)) (by decide) (by decide)
  exact absurd (respected.inside (by decide) (by decide)).2 (by decide +kernel)

end HuddleCluster.Autoscaler
