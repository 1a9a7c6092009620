import HuddleCluster.Ring.Cluster

set_option autoImplicit false

namespace HuddleCluster.Ring

open Statistics

namespace TrafficRamp

def progress (ramp : TrafficRamp) (now : ℚ) : ℚ :=
  if ramp.rampSec ≤ 0 then 1 else min 1 ((now - ramp.startTime) / ramp.rampSec)

def currentWeight (ramp : TrafficRamp) (now : ℚ) : ℚ :=
  ramp.startWeight + ramp.progress now * (ramp.targetWeight - ramp.startWeight)

def isComplete (ramp : TrafficRamp) (now : ℚ) : Bool := decide (1 ≤ ramp.progress now)

end TrafficRamp

namespace Cluster

-- deque.rotate(-1): the head goes to the end.
def turn (c : Cluster) : Cluster := { c with innerRing := c.innerRing.rotate 1 }

def selectionWeight (c : Cluster) (now : ℚ) (r : Ref) : ℚ :=
  match c.ramps.get? (c.idOf r) with
  | none => max (1 / 1000000) (c.objects r).weight
  | some ramp => max (1 / 1000000) (ramp.currentWeight now)

-- The walk over the cumulative weights, which stops at the draw.
def pickWeighted (draw : ℚ) : ℚ → List (Ref × ℚ) → Option Ref
  | _, [] => none
  | _, [(r, _)] => some r
  | cumulative, (r, weight) :: rest => if draw ≤ cumulative + weight then some r else pickWeighted draw (cumulative + weight) rest

-- Every ring position reads the clock in turn.
def weightedSelect (c : Cluster) (draw : ℚ) : Option Ref × Cluster :=
  let weights := c.innerRing.mapIdx fun i r => (r, c.selectionWeight (c.monotonic.reading (c.monotonic.ticks + i)) r)
  (pickWeighted draw 0 weights,
    { c with monotonic := { c.monotonic with ticks := c.monotonic.ticks + c.innerRing.length } })

def takeHead (c : Cluster) : Option Ref × Cluster := (c.innerRing.head?, c.turn)

-- Of two inner servers with one id the later one is the value of the dict.
def boundServer (c : Cluster) (affinityKey : String) : Option Ref :=
  match c.affinityMap.get? affinityKey with
  | none => none
  | some boundId => (c.innerRing.reverse.find? (c.hasId boundId)).filter fun r => (c.objects r).metrics.isHealthy

def bindAffinity (c : Cluster) (affinityKey : String) (r : Option Ref) : Cluster :=
  match r with
  | none => c
  | some r => { c with affinityMap := c.affinityMap.set affinityKey (c.idOf r) }

def getServer (c : Cluster) (affinityKey : Option String) (draw : ℚ) : Option Ref × Cluster :=
  if c.innerRing.isEmpty then (c.emergencyServer, c)
  else
    match affinityKey with
    | none => if c.ramps.entries.isEmpty then c.takeHead else c.weightedSelect draw
    | some key =>
        match c.boundServer key with
        | some r => (some r, c)
        | none => (c.innerRing.head?, c.turn.bindAffinity key c.innerRing.head?)

-- One turn for every server of the ring, stopping at one not yet tried.
def skipExcluded (excludedIds : List String) : Nat → Cluster → Option Ref × Cluster
  | 0, c => c.takeHead
  | fuel + 1, c =>
      match c.innerRing.head? with
      | none => c.takeHead
      | some r => if c.idOf r ∈ excludedIds then skipExcluded excludedIds fuel c.turn else c.takeHead

def getServerExcluding (c : Cluster) (excludedIds : List String) : Option Ref × Cluster :=
  if c.innerRing.isEmpty then (c.emergencyServer, c) else skipExcluded excludedIds c.innerRing.length c

def modifyMetrics (c : Cluster) (r : Ref) (f : ServerMetrics → ServerMetrics) : Cluster :=
  c.modify r fun s => { s with metrics := f s.metrics }

def updateTemperature (c : Cluster) (r : Ref) : Cluster := c.modify r Server.updateTemperature

def innerAverages (c : Cluster) : List ℚ :=
  (c.innerRing.map fun r => (c.objects r).metrics.avgResponseMs).filter fun avg => decide (0 < avg)

def feedP95 (c : Cluster) : Cluster :=
  let p95Vals := (c.innerRing.map fun r => (c.objects r).metrics.p95Latency).filter fun p95 => decide (0 < p95)
  if p95Vals.isEmpty then c
  else
    { c with
      p95Window := pushWindow 100 c.p95Window (mean p95Vals)
      adaptive := c.adaptive.map fun adaptive => adaptive.recordP95 (mean p95Vals) }

def recordLatency (c : Cluster) (r : Ref) (latencyMs : ℚ) : Cluster :=
  let sampled := c.modifyMetrics r fun m => m.recordLatency latencyMs
  let avgs := sampled.innerAverages
  let baseline := if avgs.isEmpty then latencyMs else median avgs
  ((sampled.modifyMetrics r fun m => m.updateLatencyAnomaly baseline).updateTemperature r).feedP95

def batchRecordLatency (c : Cluster) (measurements : List (Ref × ℚ)) : Cluster :=
  let sampled := measurements.foldl (fun state entry => state.modifyMetrics entry.1 fun m => m.recordLatency entry.2) c
  let avgs := sampled.innerAverages
  let baseline := if avgs.isEmpty then 1 else median avgs
  (measurements.foldl (fun state entry =>
    (state.modifyMetrics entry.1 fun m => m.updateLatencyAnomaly baseline).updateTemperature entry.1) sampled).feedP95

def recordTokens (cfg : Config) (c : Cluster) (r : Ref) (promptTokens completionTokens : Int) (applyThermalPenalty : Bool) :
    Cluster :=
  let totalTokens := promptTokens + completionTokens
  let counted := { c.modifyMetrics r fun m => m.recordTokens promptTokens completionTokens with
    totalTokensRouted := c.totalTokensRouted + totalTokens
    totalLlmRequests := c.totalLlmRequests + 1 }
  if applyThermalPenalty && cfg.llmRoutingEnabled then
    let tokenHeat := min (1 / 2) (totalTokens * max 0 cfg.llmTokenCostMultiplier)
    counted.modify r fun s => { s with temperature := min 1 (s.temperature + tokenHeat) }
  else counted

def recordStreaming (c : Cluster) (r : Ref) (ttftMs : ℚ) (itlMs totalLatencyMs : Option ℚ) : Cluster :=
  (c.modifyMetrics r fun m => m.recordStreamingLatency ttftMs itlMs).recordLatency r (totalLatencyMs.getD ttftMs)

-- A failure counted against a server: its error rate goes up, and past one
-- half the server is marked unhealthy.
def penalise (c : Cluster) (r : Ref) : Cluster :=
  (c.modifyMetrics r fun m =>
    let failed := m.recordError
    if 1 / 2 < failed.errorRate then { failed with isHealthy := false } else failed).updateTemperature r

-- How one request on a chosen server ended: the block or fn returned, it
-- raised an exception that counts, or it raised one that is not in retry_on.
inductive Outcome where
  | success
  | failure
  | notRetryable
deriving DecidableEq, Repr

def recordOutcome (c : Cluster) (r : Ref) (outcome : Outcome) (elapsedMs : ℚ) : Cluster :=
  let timed := c.recordLatency r elapsedMs
  match outcome with
  | .success | .notRetryable => timed
  | .failure => timed.penalise r

-- The context manager counts every exception; without a server it does nothing.
def getServerContext (c : Cluster) (affinityKey : Option String) (draw : ℚ) (raised : Bool) (elapsedMs : ℚ) : Cluster :=
  match c.getServer affinityKey draw with
  | (none, after) => after
  | (some r, after) => after.recordOutcome r (if raised then .failure else .success) elapsedMs

-- The attempts after the first one. The list gives the outcome and duration of
-- each attempt that is still allowed.
def retryAttempts : List (Outcome × ℚ) → List String → Cluster → Cluster
  | [], _, c => c
  | (outcome, elapsedMs) :: rest, triedIds, c =>
      match c.getServerExcluding triedIds with
      | (none, after) => after
      | (some r, after) =>
          let recorded := after.recordOutcome r outcome elapsedMs
          match outcome with
          | .failure => retryAttempts rest (triedIds ++ [after.idOf r]) recorded
          | .success | .notRetryable => recorded

def requestWithRetry (c : Cluster) (affinityKey : Option String) (draw : ℚ) (attempts : List (Outcome × ℚ)) : Cluster :=
  match attempts with
  | [] => c
  | (outcome, elapsedMs) :: rest =>
      match c.getServer affinityKey draw with
      | (none, after) => after
      | (some r, after) =>
          let recorded := after.recordOutcome r outcome elapsedMs
          match outcome with
          | .failure => retryAttempts rest [after.idOf r] recorded
          | .success | .notRetryable => recorded

theorem get_server_turned (c : Cluster) (affinityKey : Option String) (draw : ℚ) : ∃ turns bindings readings,
    (c.getServer affinityKey draw).2 =
      { c with
        innerRing := c.innerRing.rotate turns
        affinityMap := bindings
        monotonic := { c.monotonic with ticks := c.monotonic.ticks + readings } } := by
  have still : c = { c with innerRing := c.innerRing.rotate 0 } := by rw [List.rotate_zero]
  unfold getServer
  split
  · exact ⟨0, c.affinityMap, 0, still⟩
  · cases affinityKey with
    | none =>
        simp only
        split
        · exact ⟨1, c.affinityMap, 0, rfl⟩
        · refine ⟨0, c.affinityMap, c.innerRing.length, ?_⟩
          rw [List.rotate_zero]
          rfl
    | some key =>
        simp only
        split
        · exact ⟨0, c.affinityMap, 0, still⟩
        · cases c.innerRing.head? with
          | none => exact ⟨1, c.affinityMap, 0, rfl⟩
          | some r => exact ⟨1, c.affinityMap.set key (c.idOf r), 0, rfl⟩

theorem get_excluding_turned (c : Cluster) (excludedIds : List String) : ∃ turns,
    (c.getServerExcluding excludedIds).2 = { c with innerRing := c.innerRing.rotate turns } := by
  have skipped (fuel : Nat) (state : Cluster) : ∃ turns,
      (state.skipExcluded excludedIds fuel).2 = { state with innerRing := state.innerRing.rotate turns } := by
    induction fuel generalizing state with
    | zero => exact ⟨1, rfl⟩
    | succ fuel ih =>
        rw [skipExcluded]
        split
        · exact ⟨1, rfl⟩
        · split
          · obtain ⟨turns, turned⟩ := ih state.turn
            refine ⟨1 + turns, turned.trans ?_⟩
            rw [turn, List.rotate_rotate]
          · exact ⟨1, rfl⟩
  unfold getServerExcluding
  split
  · exact ⟨0, by rw [List.rotate_zero]⟩
  · exact skipped _ c

theorem get_server_objects (c : Cluster) (affinityKey : Option String) (draw : ℚ) :
    (c.getServer affinityKey draw).2.objects = c.objects := by
  obtain ⟨_, _, _, turned⟩ := get_server_turned c affinityKey draw
  rw [turned]

theorem get_excluding_objects (c : Cluster) (excludedIds : List String) : (c.getServerExcluding excludedIds).2.objects = c.objects := by
  obtain ⟨_, turned⟩ := get_excluding_turned c excludedIds
  rw [turned]

-- What holds of a cluster after its requests, if it survives the choice of a server
-- and the outcome of an attempt.
section Served

variable (P : Cluster → Prop)
  (chosen : ∀ c affinityKey draw, P c → P (c.getServer affinityKey draw).2)
  (other : ∀ c excludedIds, P c → P (c.getServerExcluding excludedIds).2)
  (recorded : ∀ c r outcome elapsedMs, P c → P (c.recordOutcome r outcome elapsedMs))
include recorded

include chosen in
theorem served_context (c : Cluster) (affinityKey : Option String) (draw : ℚ) (raised : Bool) (elapsedMs : ℚ) (held : P c) :
    P (c.getServerContext affinityKey draw raised elapsedMs) := by
  have served := chosen c affinityKey draw held
  rw [getServerContext]
  split
  · rename_i after equal
    rwa [equal] at served
  · rename_i r after equal
    rw [equal] at served
    exact recorded after r _ elapsedMs served

include other in
theorem served_attempts (attempts : List (Outcome × ℚ)) (triedIds : List String) (c : Cluster) (held : P c) :
    P (c.retryAttempts attempts triedIds) := by
  induction attempts generalizing triedIds c with
  | nil => exact held
  | cons attempt rest ih =>
      obtain ⟨outcome, elapsedMs⟩ := attempt
      have served := other c triedIds held
      rw [retryAttempts]
      split
      · rename_i after equal
        rwa [equal] at served
      · rename_i r after equal
        rw [equal] at served
        have noted := recorded after r outcome elapsedMs served
        cases outcome with
        | failure => exact ih _ _ noted
        | success => exact noted
        | notRetryable => exact noted

include chosen other in
theorem served_request (c : Cluster) (affinityKey : Option String) (draw : ℚ) (attempts : List (Outcome × ℚ)) (held : P c) :
    P (c.requestWithRetry affinityKey draw attempts) := by
  cases attempts with
  | nil => exact held
  | cons attempt rest =>
      obtain ⟨outcome, elapsedMs⟩ := attempt
      have served := chosen c affinityKey draw held
      rw [requestWithRetry]
      split
      · rename_i after equal
        rwa [equal] at served
      · rename_i r after equal
        rw [equal] at served
        have noted := recorded after r outcome elapsedMs served
        cases outcome with
        | failure => exact served_attempts P other recorded rest _ _ noted
        | success => exact noted
        | notRetryable => exact noted

end Served

end Cluster

end HuddleCluster.Ring
