import HuddleCluster.Lib.Json
import HuddleCluster.Ring.Cluster

set_option autoImplicit false

namespace HuddleCluster.Ring

open Statistics

def EvictionReason.text : EvictionReason → String
  | .overheated => "overheated"
  | .manual => "manual"
  | .healthFail => "health_fail"
  | .absoluteLatency => "absolute_latency"

-- What the report reads beside the rings: the tags of the servers, the window of
-- request rates, and the values of the entries that other parts make.
structure ReportSources where
  tags : Ref → List (String × Json)
  rpsWindow : List ℚ
  sections : String → Json

def rounded (digits : Nat) (value : ℚ) : Json := .number (roundTo digits value)

def ServerMetrics.latencyHistogram (m : ServerMetrics) : Json := .obj [
  ("sample_count", .int m.histogramWindow.length),
  ("p50_ms", rounded 3 (m.percentile 50)),
  ("p75_ms", rounded 3 (m.percentile 75)),
  ("p90_ms", rounded 3 (m.percentile 90)),
  ("p95_ms", rounded 3 (m.percentile 95)),
  ("p99_ms", rounded 3 (m.percentile 99)),
  ("p999_ms", rounded 3 (m.percentile (999 / 10)))]

namespace Cluster

def fairnessScore (c : Cluster) : ℚ :=
  let times := c.innerRing.map fun r => (c.objects r).totalInnerTime
  if times.length < 2 ∨ times.sum = 0 ∨ mean times = 0 then 0
  else (times.map fun time => |time - mean times|).sum / (2 * times.length * mean times)

def innerEntry (sources : ReportSources) (c : Cluster) (r : Ref) : Json :=
  let s := c.objects r
  .obj [
    ("id", .str s.id),
    ("weight", .number s.weight),
    ("tags", .obj (sources.tags r)),
    ("temp", rounded 4 s.temperature),
    ("rotations", .int s.rotationCount),
    ("inner_time_sec", rounded 2 s.totalInnerTime),
    ("avg_latency_ms", rounded 2 s.metrics.avgResponseMs),
    ("p95_latency_ms", rounded 2 s.metrics.p95Latency),
    ("anomaly_score", rounded 4 s.metrics.latencyAnomalyScore),
    ("latency_histogram", s.metrics.latencyHistogram)]

def outerEntry (sources : ReportSources) (c : Cluster) (r : Ref) : Json :=
  let s := c.objects r
  .obj [
    ("id", .str s.id),
    ("weight", .number s.weight),
    ("tags", .obj (sources.tags r)),
    ("temp", rounded 4 s.temperature),
    ("outer_time_sec", rounded 2 s.totalOuterTime),
    ("avg_latency_ms", rounded 2 s.metrics.avgResponseMs),
    ("cold_start", .bool (s.isColdStart c.now))]

def drainingEntry (cfg : Config) (c : Cluster) (drain : Drain) : Json :=
  let s := c.objects drain.server
  .obj [
    ("id", .str s.id),
    ("active_connections", .int s.metrics.activeConnections),
    ("drain_elapsed_sec", rounded 2 (c.now - drain.start)),
    ("drain_timeout_sec", .number cfg.wsDrainTimeout),
    ("reason", .str drain.reason.text)]

def sectionKeys : List String := ["retry_stats", "state_file", "checkpoint_interval_sec", "canary_ramps", "health_checker",
  "canary_prober", "hedging", "llm", "ebpf", "remediation", "hardware_sensors", "alerts", "recent_rotations"]

def healthReport (cfg : Config) (sources : ReportSources) (c : Cluster) : List (String × Json) :=
  let temperatures := c.innerRing.map c.temperatureOf
  [ ("status", .str (if c.innerRing.length < cfg.minInnerSize then "degraded" else "healthy")),
    ("inner_ring", .arr (c.innerRing.map (c.innerEntry sources))),
    ("outer_ring", .arr (c.outerRing.map (c.outerEntry sources))),
    ("draining_ring", .arr (c.drainingServers.values.map (c.drainingEntry cfg))),
    ("inner_count", .int c.innerRing.length),
    ("outer_count", .int c.outerRing.length),
    ("total_servers", .int (c.innerRing.length + c.outerRing.length)),
    ("avg_inner_temp", if temperatures.isEmpty then .int 0 else rounded 4 (mean temperatures)),
    ("max_inner_temp", if temperatures.isEmpty then .int 0 else rounded 4 (temperatures.foldl max (temperatures.headD 0))),
    ("fairness_score", rounded 4 c.fairnessScore),
    ("total_rotations", .int ((c.innerRing ++ c.outerRing).map fun r => (c.objects r).rotationCount).sum),
    ("requests_per_sec", if sources.rpsWindow.isEmpty then .number 0 else rounded 2 (mean sources.rpsWindow)),
    ("requests_total", if sources.rpsWindow.isEmpty then .int 0 else .number sources.rpsWindow.sum),
    ("affinity_bindings", .int c.affinityMap.entries.length)] ++ sectionKeys.map fun key => (key, sources.sections key)

-- What the breaker of a node is meant to see of its cluster.
def errorRates (c : Cluster) : List ℚ := c.innerRing.map fun r => (c.objects r).metrics.errorRate

end Cluster

end HuddleCluster.Ring
