import HuddleCluster.Ring.Hardware

set_option autoImplicit false

namespace HuddleCluster.Hardware

open Statistics Ring.HardwareTelemetryManager

-- The arguments of an ingestion. Those that take part in the stress come first.
structure Reading extends Ring.HardwareReading where
  gpuUtilPct : Option ℚ := none
  powerDrawW : Option ℚ := none
  gpuCount : Int := 0
  gpuEvictionScore : ℚ := 0

structure HardwareTelemetry where
  serverId : String
  timestamp : ℚ
  cpuTempC : ℚ := 45
  cpuUtilPct : ℚ := 0
  gpuTempC : Option ℚ := none
  gpuUtilPct : Option ℚ := none
  vramUsedMb : Option ℚ := none
  vramTotalMb : Option ℚ := none
  vramUsageRatio : ℚ := 0
  powerDrawW : Option ℚ := none
  thermalStress : ℚ := 0
  gpuCount : Int := 0
  gpuEvictionScore : ℚ := 0
deriving DecidableEq

-- The reader has its default floor.
structure HardwareTelemetryManager where
  enabled : Bool := true
  sensorWeight : ℚ
  weightLow : 0 ≤ sensorWeight
  weightHigh : sensorWeight ≤ 1
  cpuThrottleC : ℚ := 85
  gpuThrottleC : ℚ := 82
  telemetryMap : Dict String HardwareTelemetry := .empty
  totalUpdates : Nat := 0

namespace HardwareTelemetryManager

-- What a cluster knows of its manager.
def known (m : HardwareTelemetryManager) : Ring.HardwareTelemetryManager where
  sensorWeight := m.sensorWeight
  weightLow := m.weightLow
  weightHigh := m.weightHigh
  cpuThrottleC := m.cpuThrottleC
  gpuThrottleC := m.gpuThrottleC
  thermalStress := m.telemetryMap.map fun _ telemetry => telemetry.thermalStress

def stress (m : HardwareTelemetryManager) (r : Reading) : ℚ :=
  m.known.calculateHardwareStress r.cpuTempC r.cpuUtilPct r.gpuTempC (usedRatio r.toHardwareReading)

-- calcVram is assigned only where the stress is calculated, and read wherever the
-- telemetry is built. Reading it unassigned raises.
def recordTelemetry (m : HardwareTelemetryManager) (now : ℚ) (serverId : String) (r : Reading) :
    Option (HardwareTelemetry × HardwareTelemetryManager) :=
  let stress := if m.enabled then m.stress r else 0
  let calcVram := if m.enabled then some (usedRatio r.toHardwareReading) else none
  match calcVram with
  | none => none
  | some vramUsageRatio =>
      let data : HardwareTelemetry :=
        { serverId := serverId
          timestamp := now
          cpuTempC := r.cpuTempC
          cpuUtilPct := r.cpuUtilPct
          gpuTempC := r.gpuTempC
          gpuUtilPct := r.gpuUtilPct
          vramUsedMb := r.vramUsedMb
          vramTotalMb := r.vramTotalMb
          vramUsageRatio := vramUsageRatio
          powerDrawW := r.powerDrawW
          thermalStress := stress
          gpuCount := r.gpuCount
          gpuEvictionScore := r.gpuEvictionScore }
      some (data, { m with telemetryMap := m.telemetryMap.set serverId data, totalUpdates := m.totalUpdates + 1 })

def getTelemetry (m : HardwareTelemetryManager) (serverId : String) : Option HardwareTelemetry := m.telemetryMap.get? serverId

end HardwareTelemetryManager

-- A reading at least as severe in every respect, with the same devices.
structure AsSevere (r other : Reading) : Prop where
  cpuTemp : r.cpuTempC ≤ other.cpuTempC
  cpuUtil : r.cpuUtilPct ≤ other.cpuUtilPct
  gpuTemp : Option.Rel (· ≤ ·) r.gpuTempC other.gpuTempC
  vram : usedRatio r.toHardwareReading ≤ usedRatio other.toHardwareReading

-- The telemetry is the reading with its time, a ratio and a stress.
structure Keeps (now : ℚ) (serverId : String) (r : Reading) (data : HardwareTelemetry) : Prop where
  server : data.serverId = serverId ∧ data.timestamp = now
  cpu : data.cpuTempC = r.cpuTempC ∧ data.cpuUtilPct = r.cpuUtilPct
  gpu : data.gpuTempC = r.gpuTempC ∧ data.gpuUtilPct = r.gpuUtilPct
  vram : data.vramUsedMb = r.vramUsedMb ∧ data.vramTotalMb = r.vramTotalMb
  ratio : data.vramUsageRatio = usedRatio r.toHardwareReading
  rest : data.powerDrawW = r.powerDrawW ∧ data.gpuCount = r.gpuCount ∧ data.gpuEvictionScore = r.gpuEvictionScore

structure Ingested (m : HardwareTelemetryManager) (now : ℚ) (serverId : String) (r : Reading) (data : HardwareTelemetry)
    (after : HardwareTelemetryManager) : Prop where
  returned : m.recordTelemetry now serverId r = some (data, after)
  latest : after.getTelemetry serverId = some data
  keeps : Keeps now serverId r data
  low : 0 ≤ data.thermalStress
  high : data.thermalStress ≤ 1

structure Ingests (m : HardwareTelemetryManager) (now : ℚ) (serverId : String) (r : Reading) : Prop where
  ingested : ∃ data after, Ingested m now serverId r data after
  monotone : m.enabled = true → ∀ (later : ℚ) (otherId : String) (other : Reading) (data otherData : HardwareTelemetry)
    (after otherAfter : HardwareTelemetryManager), AsSevere r other → m.recordTelemetry now serverId r = some (data, after) →
    m.recordTelemetry later otherId other = some (otherData, otherAfter) → data.thermalStress ≤ otherData.thermalStress

def weighed (first second p q : ℚ) : ℚ := first * unit p + second * unit q

theorem weighed_mono (first second p q p' q' : ℚ) (firstNonneg : 0 ≤ first) (secondNonneg : 0 ≤ second) (le : p ≤ p')
    (le' : q ≤ q') :
    weighed first second p q ≤ weighed first second p' q' :=
  add_le_add (mul_le_mul_of_nonneg_left (unit_mono p p' le) firstNonneg) (mul_le_mul_of_nonneg_left (unit_mono q q' le') secondNonneg)

theorem weighed_range (first second p q : ℚ) (firstNonneg : 0 ≤ first) (secondNonneg : 0 ≤ second) (whole : first + second = 1) :
    0 ≤ weighed first second p q ∧ weighed first second p q ≤ 1 := by
  obtain ⟨low, high⟩ := unit_range p
  obtain ⟨low', high'⟩ := unit_range q
  constructor
  · exact add_nonneg (mul_nonneg firstNonneg low) (mul_nonneg secondNonneg low')
  · calc weighed first second p q ≤ first * 1 + second * 1 :=
          add_le_add (mul_le_mul_of_nonneg_left high firstNonneg) (mul_le_mul_of_nonneg_left high' secondNonneg)
      _ = 1 := by rw [mul_one, mul_one, whole]

section Stress

variable (h : Ring.HardwareTelemetryManager)

def heat (throttle temp : ℚ) : ℚ := (temp - h.tempFloorC) / max 1 (throttle - h.tempFloorC)

theorem heat_mono (throttle temp temp' : ℚ) (le : temp ≤ temp') : heat h throttle temp ≤ heat h throttle temp' := by
  have span : (0 : ℚ) ≤ max 1 (throttle - h.tempFloorC) := zero_le_one.trans (le_max_left _ _)
  exact div_le_div_of_nonneg_right (sub_le_sub_right le _) span

def cpuScore (cpuTempC cpuUtilPct : ℚ) : ℚ := weighed (7 / 10) (3 / 10) (heat h h.cpuThrottleC cpuTempC) (cpuUtilPct / 100)

def gpuScore (gpuTempC vramUsageRatio : ℚ) : ℚ := weighed (6 / 10) (4 / 10) (heat h h.gpuThrottleC gpuTempC) vramUsageRatio

def worst (cpuTempC cpuUtilPct : ℚ) (gpuTempC : Option ℚ) (vramUsageRatio : ℚ) : ℚ :=
  gpuTempC.elim (cpuScore h cpuTempC cpuUtilPct) fun gpuTemp => max (cpuScore h cpuTempC cpuUtilPct) (gpuScore h gpuTemp vramUsageRatio)

theorem stress_worst (cpuTempC cpuUtilPct : ℚ) (gpuTempC : Option ℚ) (vramUsageRatio : ℚ) :
    h.calculateHardwareStress cpuTempC cpuUtilPct gpuTempC vramUsageRatio =
    roundTo 4 (worst h cpuTempC cpuUtilPct gpuTempC vramUsageRatio) := by
  cases gpuTempC <;> rfl

theorem cpu_range (cpuTempC cpuUtilPct : ℚ) : 0 ≤ cpuScore h cpuTempC cpuUtilPct ∧ cpuScore h cpuTempC cpuUtilPct ≤ 1 :=
  weighed_range _ _ _ _ (by norm_num) (by norm_num) (by norm_num)

theorem gpu_range (gpuTempC vramUsageRatio : ℚ) : 0 ≤ gpuScore h gpuTempC vramUsageRatio ∧ gpuScore h gpuTempC vramUsageRatio ≤ 1 :=
  weighed_range _ _ _ _ (by norm_num) (by norm_num) (by norm_num)

theorem worst_range (cpuTempC cpuUtilPct : ℚ) (gpuTempC : Option ℚ) (vramUsageRatio : ℚ) :
    0 ≤ worst h cpuTempC cpuUtilPct gpuTempC vramUsageRatio ∧ worst h cpuTempC cpuUtilPct gpuTempC vramUsageRatio ≤ 1 := by
  have cpu := cpu_range h cpuTempC cpuUtilPct
  cases gpuTempC with
  | none => exact cpu
  | some gpuTemp => exact ⟨cpu.1.trans (le_max_left _ _), max_le cpu.2 (gpu_range h gpuTemp vramUsageRatio).2⟩

theorem stress_range (cpuTempC cpuUtilPct : ℚ) (gpuTempC : Option ℚ) (vramUsageRatio : ℚ) :
    0 ≤ h.calculateHardwareStress cpuTempC cpuUtilPct gpuTempC vramUsageRatio ∧
      h.calculateHardwareStress cpuTempC cpuUtilPct gpuTempC vramUsageRatio ≤ 1 := by
  obtain ⟨low, high⟩ := worst_range h cpuTempC cpuUtilPct gpuTempC vramUsageRatio
  rw [stress_worst]
  exact round_to_unit 4 _ low high

theorem cpu_mono (cpuTempC cpuUtilPct cpuTempC' cpuUtilPct' : ℚ) (temp : cpuTempC ≤ cpuTempC') (util : cpuUtilPct ≤ cpuUtilPct') :
    cpuScore h cpuTempC cpuUtilPct ≤ cpuScore h cpuTempC' cpuUtilPct' :=
  weighed_mono _ _ _ _ _ _ (by norm_num) (by norm_num) (heat_mono h _ _ _ temp) (div_le_div_of_nonneg_right util (by norm_num))

theorem gpu_mono (gpuTempC vramUsageRatio gpuTempC' vramUsageRatio' : ℚ) (temp : gpuTempC ≤ gpuTempC')
    (ratio : vramUsageRatio ≤ vramUsageRatio') : gpuScore h gpuTempC vramUsageRatio ≤ gpuScore h gpuTempC' vramUsageRatio' :=
  weighed_mono _ _ _ _ _ _ (by norm_num) (by norm_num) (heat_mono h _ _ _ temp) ratio

end Stress

-- Through the clamps, the worse of the scores and the rounding.
theorem stress_mono (m : HardwareTelemetryManager) (r other : Reading) (severe : AsSevere r other) : m.stress r ≤ m.stress other := by
  obtain ⟨cpuTemp, cpuUtil, gpuTemp, vram⟩ := severe
  have cpu := cpu_mono m.known _ _ _ _ cpuTemp cpuUtil
  rw [HardwareTelemetryManager.stress, HardwareTelemetryManager.stress, stress_worst, stress_worst]
  apply round_to_mono
  generalize r.gpuTempC = before, other.gpuTempC = after at gpuTemp
  cases gpuTemp with
  | none => exact cpu
  | some le => exact max_le_max cpu (gpu_mono m.known _ _ _ _ le vram)

section Ingestion

variable (m : HardwareTelemetryManager) (now : ℚ) (serverId : String) (r : Reading)

theorem record_disabled (disabled : m.enabled = false) : m.recordTelemetry now serverId r = none := by
  simp [HardwareTelemetryManager.recordTelemetry, disabled]

theorem record_enabled (enabled : m.enabled = true) : ∃ data, data.thermalStress = m.stress r ∧ Keeps now serverId r data ∧
    m.recordTelemetry now serverId r =
      some (data, { m with telemetryMap := m.telemetryMap.set serverId data, totalUpdates := m.totalUpdates + 1 }) := by
  simp only [HardwareTelemetryManager.recordTelemetry, enabled, if_true]
  exact ⟨_, rfl, ⟨⟨rfl, rfl⟩, ⟨rfl, rfl⟩, ⟨rfl, rfl⟩, ⟨rfl, rfl⟩, rfl, rfl, rfl, rfl⟩, rfl⟩

theorem ingests_iff : Ingests m now serverId r ↔ m.enabled = true := by
  constructor
  · rintro ⟨⟨data, after, ingested⟩, -⟩
    by_contra disabled
    have failed := record_disabled m now serverId r (Bool.eq_false_iff.mpr disabled)
    exact Option.some_ne_none _ (ingested.returned.symm.trans failed)
  · intro enabled
    obtain ⟨data, stress, keeps, returned⟩ := record_enabled m now serverId r enabled
    have range := stress_range m.known r.cpuTempC r.cpuUtilPct r.gpuTempC (usedRatio r.toHardwareReading)
    refine ⟨⟨data, _, returned, ?_, keeps, ?_, ?_⟩, ?_⟩
    · simp [HardwareTelemetryManager.getTelemetry]
    · exact range.1.trans stress.ge
    · exact stress.le.trans range.2
    · intro _ later otherId other data' otherData after otherAfter severe recorded otherRecorded
      obtain ⟨stored, otherStress, _, otherReturned⟩ := record_enabled m later otherId other enabled
      cases returned.symm.trans recorded
      cases otherReturned.symm.trans otherRecorded
      rw [stress, otherStress]
      exact stress_mono m r other severe

end Ingestion

def disabledManager : HardwareTelemetryManager :=
  { enabled := false, sensorWeight := 35 / 100, weightLow := by decide +kernel, weightHigh := by decide +kernel }

-- A plain CPU temperature already raises.
theorem disabled_raises : disabledManager.recordTelemetry 0 "a" { cpuTempC := 45 } = none ∧
    ¬ ∀ (m : HardwareTelemetryManager) (now : ℚ) (serverId : String) (r : Reading), Ingests m now serverId r := by
  have raised : disabledManager.recordTelemetry 0 "a" { cpuTempC := 45 } = none := rfl
  refine ⟨raised, fun always => ?_⟩
  obtain ⟨data, after, ingested⟩ := (always disabledManager 0 "a" { cpuTempC := 45 }).ingested
  cases raised.symm.trans ingested.returned

end HuddleCluster.Hardware
