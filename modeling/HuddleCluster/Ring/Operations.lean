import HuddleCluster.Lib.Runs
import HuddleCluster.Ring.Rotate
import HuddleCluster.Ring.Requests

set_option autoImplicit false

namespace HuddleCluster.Ring

structure SavedServer where
  temperature : ℚ := 0
  avgResponseMs : ℚ := 0
  errorRate : ℚ := 0
  latencyAnomalyScore : ℚ := 0
  rotationCount : Int := 0
  totalInnerTime : ℚ := 0
  totalOuterTime : ℚ := 0
  histogramSamples : List ℚ := []

namespace Cluster

-- The entries are those of the dict when the check starts; nothing between
-- changes the open connections of a server.
def drainDone (cfg : Config) (c : Cluster) (now : ℚ) (drain : Drain) : Bool :=
  decide ((c.objects drain.server).metrics.activeConnections ≤ 0) || decide (cfg.wsDrainTimeout ≤ now - drain.start)

def finishDrain (c : Cluster) (serverId : String) (drain : Drain) : Cluster :=
  { c with drainingServers := c.drainingServers.erase serverId }.completeEviction drain.server

def checkDrainingServers (cfg : Config) (c : Cluster) : Cluster :=
  if c.drainingServers.entries.isEmpty then c
  else
    let completed := c.drainingServers.entries.filter fun entry => c.drainDone cfg c.now entry.2
    completed.foldl (fun state entry => state.finishDrain entry.1 entry.2) c.tick

-- In a dict built from all servers a later server with the same id wins.
def findServer (c : Cluster) (serverId : String) : Option Ref := c.allServers.reverse.find? (c.hasId serverId)

def setWeight (c : Cluster) (r : Ref) (ramp : TrafficRamp) : Cluster :=
  c.modify r fun s => { s with weight := ramp.targetWeight, weightPos := ramp.targetPos }

def startTrafficRamp (c : Cluster) (serverId : String) (initialWeight targetWeight rampSec : ℚ) : Cluster :=
  if valid : 0 < initialWeight ∧ 0 < targetWeight ∧ 0 ≤ rampSec then
    if c.allServers.any (c.hasId serverId) then
      { c.tick with ramps := c.ramps.set serverId ⟨initialWeight, targetWeight, valid.2.1, rampSec, c.now⟩ }
    else c
  else c

def stopTrafficRamp (c : Cluster) (serverId : String) : Cluster :=
  match c.ramps.get? serverId with
  | none => c
  | some ramp =>
      let stopped := { c with ramps := c.ramps.erase serverId }
      match c.allServers.find? (c.hasId serverId) with
      | none => stopped
      | some r => stopped.setWeight r ramp

def finishRamp (c : Cluster) (serverId : String) (ramp : TrafficRamp) : Cluster :=
  let finished := { c with ramps := c.ramps.erase serverId }
  match c.findServer serverId with
  | none => finished
  | some r => finished.setWeight r ramp

def updateRamps (c : Cluster) : Cluster :=
  let completed := (c.ramps.entries.mapIdx fun i entry => (entry, c.monotonic.reading (c.monotonic.ticks + i))).filter
    fun timed => timed.1.2.isComplete timed.2
  completed.foldl (fun state timed => state.finishRamp timed.1.1 timed.1.2)
    { c with monotonic := { c.monotonic with ticks := c.monotonic.ticks + c.ramps.entries.length } }

def clearAffinity (c : Cluster) (key : Option String) : Cluster :=
  match key with
  | none => { c with affinityMap := .empty }
  | some key => { c with affinityMap := c.affinityMap.erase key }

-- One ping of the canary prober on a server it found in the outer ring. The
-- answer is the success flag and the duration; there is none when it raised.
def canaryProbe (cfg : Config) (c : Cluster) (r : Ref) (answer : Option (Bool × ℚ)) : Cluster :=
  match answer with
  | some (true, elapsedMs) => c.recordLatency r elapsedMs
  | some (false, elapsedMs) => (c.modifyMetrics r ServerMetrics.recordError).recordLatency r elapsedMs
  | none => (c.modifyMetrics r ServerMetrics.recordError).recordLatency r cfg.requestTimeoutMs

def loadServer (c : Cluster) (r : Ref) (data : SavedServer) : Cluster :=
  c.modify r fun s =>
    { s with
      temperature := data.temperature
      rotationCount := data.rotationCount
      totalInnerTime := data.totalInnerTime
      totalOuterTime := data.totalOuterTime
      metrics := { s.metrics with
        avgResponseMs := data.avgResponseMs
        errorRate := data.errorRate
        latencyAnomalyScore := data.latencyAnomalyScore
        histogramWindow := data.histogramSamples.drop (data.histogramSamples.length - 1000)
        latencyWindow := data.histogramSamples.drop (data.histogramSamples.length - 10) } }

def loadState (c : Cluster) (serversData : List (String × SavedServer)) : Cluster :=
  serversData.foldl (fun state entry =>
    match c.findServer entry.1 with
    | none => state
    | some r => state.loadServer r entry.2) c

def recordHardwareTelemetry (c : Cluster) (serverId : String) (reading : HardwareReading) : Cluster :=
  match c.hardwareManager with
  | none => c
  | some manager =>
      let updated := manager.recordTelemetry serverId reading
      let stored := { c with hardwareManager := some updated }
      match c.allServers.find? (c.hasId serverId) with
      | none => stored
      | some r => stored.modify r fun s => { s with temperature := updated.fuseTemperature s.id s.temperature }

def triggerRemediation (c : Cluster) (serverId : String) (policy : RemediationPolicy) : Cluster :=
  { c with remediator := c.remediator.map fun remediator => (remediator.triggerRemediation serverId policy).1 }

def clearRemediationQuarantine (c : Cluster) (serverId : String) : Cluster :=
  { c with remediator := c.remediator.map fun remediator => remediator.clearQuarantine serverId }

end Cluster

-- The operations a cluster is driven by. Whatever comes from outside (the draw
-- of a weighted choice, durations, the end of a request) is in the operation;
-- setMetrics stands for every writer of metrics fields that is not listed: the
-- metrics updater, ws_open and ws_close, health checks and the admin API.
inductive Op where
  | addServer (r : Ref) (forceInner : Bool)
  | removeServer (serverId : String)
  | forceEvict (serverId : String)
  | rotate
  | checkDrainingServers
  | updateRamps
  | getServer (affinityKey : Option String) (draw : ℚ)
  | getServerContext (affinityKey : Option String) (draw : ℚ) (raised : Bool) (elapsedMs : ℚ)
  | requestWithRetry (affinityKey : Option String) (draw : ℚ) (attempts : List (Cluster.Outcome × ℚ))
  | setMetrics (r : Ref) (metrics : ServerMetrics)
  | updateTemperature (r : Ref)
  | recordLatency (r : Ref) (latencyMs : ℚ)
  | batchRecordLatency (measurements : List (Ref × ℚ))
  | recordTokens (r : Ref) (promptTokens completionTokens : Int) (applyThermalPenalty : Bool)
  | recordStreaming (r : Ref) (ttftMs : ℚ) (itlMs totalLatencyMs : Option ℚ)
  | canaryProbe (r : Ref) (answer : Option (Bool × ℚ))
  | loadState (serversData : List (String × SavedServer))
  | recordHardwareTelemetry (serverId : String) (reading : HardwareReading)
  | startTrafficRamp (serverId : String) (initialWeight targetWeight rampSec : ℚ)
  | stopTrafficRamp (serverId : String)
  | clearAffinity (key : Option String)
  | triggerRemediation (serverId : String) (policy : RemediationPolicy)
  | clearRemediationQuarantine (serverId : String)

def Op.added : Op → Option Ref
  | .addServer r _ => some r
  | _ => none

def Op.removed : Op → Option String
  | .removeServer serverId => some serverId
  | _ => none

def step (cfg : Config) (c : Cluster) : Op → Cluster
  | .addServer r forceInner => c.addServer cfg r forceInner
  | .removeServer serverId => (c.removeServer cfg serverId).1
  | .forceEvict serverId => (c.forceEvict cfg serverId).1
  | .rotate => c.rotate cfg
  | .checkDrainingServers => c.checkDrainingServers cfg
  | .updateRamps => c.updateRamps
  | .getServer affinityKey draw => (c.getServer affinityKey draw).2
  | .getServerContext affinityKey draw raised elapsedMs => c.getServerContext affinityKey draw raised elapsedMs
  | .requestWithRetry affinityKey draw attempts => c.requestWithRetry affinityKey draw attempts
  | .setMetrics r metrics => c.modifyMetrics r fun _ => metrics
  | .updateTemperature r => c.updateTemperature r
  | .recordLatency r latencyMs => c.recordLatency r latencyMs
  | .batchRecordLatency measurements => c.batchRecordLatency measurements
  | .recordTokens r promptTokens completionTokens applyThermalPenalty =>
      c.recordTokens cfg r promptTokens completionTokens applyThermalPenalty
  | .recordStreaming r ttftMs itlMs totalLatencyMs => c.recordStreaming r ttftMs itlMs totalLatencyMs
  | .canaryProbe r answer => c.canaryProbe cfg r answer
  | .loadState serversData => c.loadState serversData
  | .recordHardwareTelemetry serverId reading => c.recordHardwareTelemetry serverId reading
  | .startTrafficRamp serverId initialWeight targetWeight rampSec => c.startTrafficRamp serverId initialWeight targetWeight rampSec
  | .stopTrafficRamp serverId => c.stopTrafficRamp serverId
  | .clearAffinity key => c.clearAffinity key
  | .triggerRemediation serverId policy => c.triggerRemediation serverId policy
  | .clearRemediationQuarantine serverId => c.clearRemediationQuarantine serverId

-- Operations never refuse, so a run may take any of them at any state; what a
-- caller is asked for is a condition on the steps of the run.
def next (cfg : Config) (c : Cluster) (op : Op) : Option Cluster := some (step cfg c op)

abbrev ClusterRun (cfg : Config) (allowed : Cluster → Op → Prop) := Runs.Run (next cfg) allowed

end HuddleCluster.Ring
