import HuddleCluster.Lib.Dict
import HuddleCluster.Lib.Statistics

set_option autoImplicit false

namespace HuddleCluster.Ring

open Statistics

structure HardwareReading where
  cpuTempC : ℚ
  cpuUtilPct : ℚ := 0
  gpuTempC : Option ℚ := none
  vramUsedMb : Option ℚ := none
  vramTotalMb : Option ℚ := none
  vramUsageRatio : Option ℚ := none

-- The constructor clamps the weight into the unit interval.
structure HardwareTelemetryManager where
  sensorWeight : ℚ
  weightLow : 0 ≤ sensorWeight
  weightHigh : sensorWeight ≤ 1
  cpuThrottleC : ℚ := 85
  gpuThrottleC : ℚ := 82
  tempFloorC : ℚ := 35
  thermalStress : Dict String ℚ := .empty

namespace HardwareTelemetryManager

def unit (q : ℚ) : ℚ := max 0 (min 1 q)

theorem unit_mono (p q : ℚ) (le : p ≤ q) : unit p ≤ unit q := max_le_max le_rfl (min_le_min le_rfl le)

theorem unit_range (q : ℚ) : 0 ≤ unit q ∧ unit q ≤ 1 := ⟨le_max_left _ _, max_le zero_le_one (min_le_left _ _)⟩

def calculateHardwareStress (h : HardwareTelemetryManager) (cpuTempC cpuUtilPct : ℚ) (gpuTempC : Option ℚ)
    (vramUsageRatio : ℚ) : ℚ :=
  let cpuSpan := max 1 (h.cpuThrottleC - h.tempFloorC)
  let cpuNorm := unit ((cpuTempC - h.tempFloorC) / cpuSpan)
  let loadNorm := unit (cpuUtilPct / 100)
  let cpuScore := 7 / 10 * cpuNorm + 3 / 10 * loadNorm
  match gpuTempC with
  | none => roundTo 4 cpuScore
  | some gpuTemp =>
      let gpuSpan := max 1 (h.gpuThrottleC - h.tempFloorC)
      let gpuNorm := unit ((gpuTemp - h.tempFloorC) / gpuSpan)
      let gpuScore := 6 / 10 * gpuNorm + 4 / 10 * unit vramUsageRatio
      roundTo 4 (max cpuScore gpuScore)

def usedRatio (r : HardwareReading) : ℚ :=
  match r.vramUsageRatio, r.vramUsedMb, r.vramTotalMb with
  | some ratio, _, _ => ratio
  | none, some used, some total => if 0 < total then used / total else 0
  | none, _, _ => 0

-- A cluster only ever builds an enabled manager.
def recordTelemetry (h : HardwareTelemetryManager) (serverId : String) (r : HardwareReading) : HardwareTelemetryManager :=
  { h with thermalStress :=
      h.thermalStress.set serverId (h.calculateHardwareStress r.cpuTempC r.cpuUtilPct r.gpuTempC (usedRatio r)) }

def fuseTemperature (h : HardwareTelemetryManager) (serverId : String) (latencyTemp : ℚ) : ℚ :=
  match h.thermalStress.get? serverId with
  | none => latencyTemp
  | some stress => roundTo 4 (unit ((1 - h.sensorWeight) * latencyTemp + h.sensorWeight * stress))

end HardwareTelemetryManager

end HuddleCluster.Ring
