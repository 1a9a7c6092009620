import HuddleCluster.Lib.Statistics
import HuddleCluster.Lib.MovingAverage

set_option autoImplicit false

namespace HuddleCluster.Ring

open Statistics

inductive Position where
  | inner
  | outer
  | draining
deriving DecidableEq, Repr

inductive EvictionReason where
  | overheated
  | manual
  | healthFail
  | absoluteLatency
deriving DecidableEq, Repr

-- Floats are exact rationals throughout. The windows are bounded deques with
-- the newest sample last.
structure ServerMetrics where
  cpuUsage : ℚ := 0
  memoryUsage : ℚ := 0
  activeConnections : Int := 0
  avgResponseMs : ℚ := 0
  errorRate : ℚ := 0
  isHealthy : Bool := true
  latencyAnomalyScore : ℚ := 0
  latencyWindow : List ℚ := []
  histogramWindow : List ℚ := []
  totalTokensProcessed : Int := 0
  promptTokens : Int := 0
  completionTokens : Int := 0
  avgTtftMs : ℚ := 0
  avgItlMs : ℚ := 0
  ttftWindow : List ℚ := []
  itlWindow : List ℚ := []
deriving DecidableEq, Repr

namespace ServerMetrics

def recordLatency (m : ServerMetrics) (ms : ℚ) : ServerMetrics :=
  let window := pushWindow 10 m.latencyWindow ms
  { m with
    latencyWindow := window
    histogramWindow := pushWindow 1000 m.histogramWindow ms
    avgResponseMs := mean window }

def recordTokens (m : ServerMetrics) (promptTokens completionTokens : Int) : ServerMetrics :=
  { m with
    promptTokens := m.promptTokens + max 0 promptTokens
    completionTokens := m.completionTokens + max 0 completionTokens
    totalTokensProcessed := m.totalTokensProcessed + max 0 (promptTokens + completionTokens) }

def recordStreamingLatency (m : ServerMetrics) (ttftMs : ℚ) (itlMs : Option ℚ) : ServerMetrics :=
  let m :=
    if 0 < ttftMs then
      let window := pushWindow 100 m.ttftWindow ttftMs
      { m with ttftWindow := window, avgTtftMs := mean window }
    else m
  match itlMs with
  | none => m
  | some itl =>
      if 0 < itl then
        let window := pushWindow 100 m.itlWindow itl
        { m with itlWindow := window, avgItlMs := mean window }
      else m

def anomaly (clusterAvgMs avgResponseMs : ℚ) : ℚ :=
  if clusterAvgMs ≤ 0 ∨ avgResponseMs ≤ 0 then 0
  else max 0 (min 1 ((avgResponseMs / clusterAvgMs - 1) / 2))

def updateLatencyAnomaly (m : ServerMetrics) (clusterAvgMs : ℚ) : ServerMetrics :=
  { m with latencyAnomalyScore := anomaly clusterAvgMs m.avgResponseMs }

def percentile (m : ServerMetrics) (p : ℚ) : ℚ :=
  let w := sorted m.histogramWindow
  let n := w.length
  if n = 0 then 0
  else if n = 1 then w.getD 0 0
  else
    let idx := p / 100 * (n - 1)
    let lo := idx.floor.toNat
    let hi := min (lo + 1) (n - 1)
    w.getD lo 0 + (idx - lo) * (w.getD hi 0 - w.getD lo 0)

def p95Latency (m : ServerMetrics) : ℚ := m.percentile 95

def recordError (m : ServerMetrics) : ServerMetrics :=
  { m with errorRate := min 1 (m.errorRate * (9 / 10) + 1 / 10) }

end ServerMetrics

theorem default_weight_pos : (0 : ℚ) < 1 := by norm_num

theorem default_alpha_pos : (0 : ℚ) < 1 / 4 := by norm_num

theorem default_alpha_le : (1 / 4 : ℚ) ≤ 1 := by norm_num

-- The constructor refuses a weight that is not positive, and a traffic ramp
-- only ever assigns a positive target weight. The smoothing factor is the class
-- default or the one of the cluster, which its constructor keeps in (0, 1].
structure Server where
  id : String
  weight : ℚ := 1
  weightPos : 0 < weight := by first | exact HuddleCluster.Ring.default_weight_pos | norm_num
  emaAlpha : ℚ := 1 / 4
  emaPos : 0 < emaAlpha := by first | exact HuddleCluster.Ring.default_alpha_pos | norm_num
  emaLe : emaAlpha ≤ 1 := by first | exact HuddleCluster.Ring.default_alpha_le | norm_num
  metrics : ServerMetrics := {}
  position : Position := .outer
  temperature : ℚ := 0
  lastRotated : ℚ := 0
  totalInnerTime : ℚ := 0
  totalOuterTime : ℚ := 0
  rotationCount : Int := 0
  consecutiveEvictions : Nat := 0
  coldUntil : ℚ := 0

namespace Server

def isColdStart (s : Server) (now : ℚ) : Bool := decide (now < s.coldUntil)

def effectiveHeatThreshold (s : Server) (baseThreshold : ℚ) : ℚ := min 1 (baseThreshold * s.weight)

def isOverheated (s : Server) (threshold : ℚ) : Bool := decide (s.effectiveHeatThreshold threshold ≤ s.temperature)

def isCooled (s : Server) (cooldownThreshold : ℚ) : Bool := decide (s.temperature ≤ cooldownThreshold)

-- The absolute score stands in for the anomaly whenever the anomaly is zero,
-- also when it is zero because the server is no slower than the baseline.
def latencyScore (m : ServerMetrics) : ℚ :=
  if 0 < m.latencyAnomalyScore then m.latencyAnomalyScore else min (m.avgResponseMs / 2000) 1

def otherScore (m : ServerMetrics) : ℚ :=
  m.cpuUsage * (1 / 10) + m.memoryUsage * (5 / 100) + min ((m.activeConnections : ℚ) / 1000) 1 * (1 / 10) +
    m.errorRate * (5 / 100)

def rawScore (m : ServerMetrics) : ℚ := max 0 (min 1 (otherScore m + latencyScore m * (7 / 10)))

def updateTemperature (s : Server) : Server :=
  { s with temperature := MovingAverage.smooth s.emaAlpha (rawScore s.metrics) s.temperature }

end Server

end HuddleCluster.Ring
