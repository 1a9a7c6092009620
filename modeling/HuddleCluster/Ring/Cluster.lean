import HuddleCluster.Lib.Dict
import HuddleCluster.Lib.Heapq
import HuddleCluster.Ring.Server
import HuddleCluster.Ring.Adaptive
import HuddleCluster.Ring.Hardware
import HuddleCluster.Ring.Remediator

set_option autoImplicit false

namespace HuddleCluster.Ring

theorem default_gap : (30 / 100 : ℚ) < 55 / 100 := by norm_num

theorem default_inner_nonempty : 1 ≤ 2 := by norm_num

theorem default_inner_sizes : 2 ≤ 5 := by norm_num

theorem default_ema_range : (0 : ℚ) < 60 / 100 ∧ (60 / 100 : ℚ) ≤ 1 := by norm_num

-- The constructor raises unless the four proof fields hold.
structure Config where
  heatThreshold : ℚ := 55 / 100
  coolThreshold : ℚ := 30 / 100
  minInnerSize : Nat := 2
  maxInnerSize : Nat := 5
  rotationCooldownSec : ℚ := 5
  minOuterDwellSec : ℚ := 10
  emaAlpha : ℚ := 60 / 100
  absoluteLatencyFloorMs : Option ℚ := none
  coldStartSec : ℚ := 0
  requestTimeoutMs : ℚ := 500
  circuitBreakerThreshold : ℚ := 1 / 2
  wsDrainTimeout : ℚ := 0
  llmRoutingEnabled : Bool := false
  llmTokenCostMultiplier : ℚ := 5 / 10000
  gap : coolThreshold < heatThreshold := by first | exact HuddleCluster.Ring.default_gap | norm_num
  innerNonempty : 1 ≤ minInnerSize := by first | exact HuddleCluster.Ring.default_inner_nonempty | norm_num
  innerSizes : minInnerSize ≤ maxInnerSize := by first | exact HuddleCluster.Ring.default_inner_sizes | norm_num
  emaRange : 0 < emaAlpha ∧ emaAlpha ≤ 1 := by first | exact HuddleCluster.Ring.default_ema_range | norm_num

def smallestRing : Config := { minInnerSize := 1 }

-- A reference to a Server object. Two objects may carry one id; the rings hold
-- references, while the draining dict and the affinity map are keyed by id.
abbrev Ref := Nat

structure Drain where
  server : Ref
  start : ℚ
  reason : EvictionReason

structure TrafficRamp where
  startWeight : ℚ
  targetWeight : ℚ
  targetPos : 0 < targetWeight
  rampSec : ℚ
  startTime : ℚ

structure Cluster where
  objects : Ref → Server
  innerRing : List Ref
  outerRing : List Ref
  drainingServers : Dict String Drain
  affinityMap : Dict String String
  ramps : Dict String TrafficRamp
  heatThreshold : ℚ
  coolThreshold : ℚ
  adaptive : Option AdaptiveThresholdController
  p95Window : List ℚ
  remediator : Option Remediator
  hardwareManager : Option HardwareTelemetryManager
  totalTokensRouted : Int
  totalLlmRequests : Int
  monotonic : Clock

namespace Cluster

-- Every Server object that will ever be created is in the object store from
-- the start; one that is in no ring is not registered.
def empty (cfg : Config) (objects : Ref → Server) (adaptive : Option AdaptiveThresholdController)
    (remediator : Option Remediator) (hardwareManager : Option HardwareTelemetryManager) (monotonic : Clock) : Cluster where
  objects := objects
  innerRing := []
  outerRing := []
  drainingServers := .empty
  affinityMap := .empty
  ramps := .empty
  heatThreshold := cfg.heatThreshold
  coolThreshold := cfg.coolThreshold
  adaptive := adaptive
  p95Window := []
  remediator := remediator
  hardwareManager := hardwareManager
  totalTokensRouted := 0
  totalLlmRequests := 0
  monotonic := monotonic

def now (c : Cluster) : ℚ := c.monotonic.now

def tick (c : Cluster) : Cluster := { c with monotonic := c.monotonic.tick }

def modify (c : Cluster) (r : Ref) (f : Server → Server) : Cluster :=
  { c with objects := Function.update c.objects r (f (c.objects r)) }

def idOf (c : Cluster) (r : Ref) : String := (c.objects r).id

def temperatureOf (c : Cluster) (r : Ref) : ℚ := (c.objects r).temperature

def drainingRefs (c : Cluster) : List Ref := c.drainingServers.values.map Drain.server

def allServers (c : Cluster) : List Ref := c.innerRing ++ c.drainingRefs ++ c.outerRing

def hasId (c : Cluster) (serverId : String) (r : Ref) : Bool := decide (c.idOf r = serverId)

def pushOuter (c : Cluster) (r : Ref) : Cluster :=
  { c with outerRing := Heapq.heappush c.temperatureOf c.outerRing r }

-- deque.remove drops the first element that is equal, and servers are equal
-- when their ids are.
def removeInner (c : Cluster) (r : Ref) : Cluster :=
  { c with innerRing := c.innerRing.eraseP (c.hasId (c.idOf r)) }

def recordEviction (c : Cluster) (r : Ref) : Cluster :=
  match c.remediator with
  | none => c
  | some remediator =>
      match remediator.recordEviction (c.idOf r) with
      | (after, none) => { c with remediator := some after }
      | (after, some policy) => { c with remediator := some (after.triggerRemediation (c.idOf r) policy).1 }

def completeEviction (c : Cluster) (r : Ref) : Cluster :=
  let moved := (c.tick.modify r fun s => { s with position := .outer, lastRotated := c.now }).pushOuter r
  moved.recordEviction r

def markEvicted (now : ℚ) (reason : EvictionReason) (s : Server) : Server :=
  { s with
    totalInnerTime := s.totalInnerTime + (now - s.lastRotated)
    lastRotated := now
    rotationCount := s.rotationCount + 1
    consecutiveEvictions := s.consecutiveEvictions + 1
    temperature := if reason = .absoluteLatency then max s.temperature (8 / 10) else s.temperature }

-- The first part of an eviction: bookkeeping on the server, its affinity
-- bindings, and its place in the inner ring.
def leaveInner (c : Cluster) (r : Ref) (reason : EvictionReason) : Cluster :=
  let marked := c.tick.modify r (markEvicted c.now reason)
  { marked.removeInner r with affinityMap := c.affinityMap.filter fun _ bound => decide (bound ≠ c.idOf r) }

def startDrain (c : Cluster) (r : Ref) (now : ℚ) (reason : EvictionReason) : Cluster :=
  { c.modify r fun s => { s with position := .draining } with
    drainingServers := c.drainingServers.set (c.idOf r) ⟨r, now, reason⟩ }

def mustDrain (cfg : Config) (c : Cluster) (r : Ref) : Bool :=
  decide (0 < cfg.wsDrainTimeout) && decide (0 < (c.objects r).metrics.activeConnections) &&
    !c.drainingServers.contains (c.idOf r)

def moveToOuter (cfg : Config) (c : Cluster) (r : Ref) (reason : EvictionReason) : Cluster :=
  let left := c.leaveInner r reason
  if left.mustDrain cfg r then left.startDrain r c.now reason else left.completeEviction r

def markPromoted (now : ℚ) (s : Server) : Server :=
  { s with
    totalOuterTime := s.totalOuterTime + (now - s.lastRotated)
    position := .inner
    lastRotated := now
    rotationCount := s.rotationCount + 1 }

def recordRecovery (c : Cluster) (r : Ref) : Cluster :=
  if c.temperatureOf r ≤ c.coolThreshold then
    { c.modify r fun s => { s with consecutiveEvictions := 0 } with
      remediator := c.remediator.map fun remediator => remediator.recordRecovery (c.idOf r) }
  else c

def moveToInner (c : Cluster) (r : Ref) : Cluster :=
  let moved := (c.tick.modify r (markPromoted c.now)).recordRecovery r
  { moved with innerRing := moved.innerRing ++ [r] }

def popOuter (c : Cluster) : Option (Ref × Cluster) :=
  (Heapq.heappop c.temperatureOf c.outerRing).map fun popped => (popped.1, { c with outerRing := popped.2 })

-- Each turn of the loop takes one server out of the outer ring, so its length
-- bounds the number of turns.
def pullFromOuter (cfg : Config) : Nat → Cluster → Cluster
  | 0, c => c
  | fuel + 1, c =>
      if c.innerRing.length < cfg.minInnerSize then
        match c.popOuter with
        | none => c
        | some (r, popped) => pullFromOuter cfg fuel (popped.moveToInner r)
      else c

def maybePullFromOuter (cfg : Config) (c : Cluster) : Cluster := pullFromOuter cfg c.outerRing.length c

def addServer (cfg : Config) (c : Cluster) (r : Ref) (forceInner : Bool) : Cluster :=
  let c := c.modify r fun s => { s with emaAlpha := cfg.emaAlpha, emaPos := cfg.emaRange.1, emaLe := cfg.emaRange.2 }
  if 0 < cfg.coldStartSec then
    (c.tick.modify r fun s => { s with coldUntil := c.now + cfg.coldStartSec, position := .outer }).pushOuter r
  else if forceInner = true ∧ c.innerRing.length < cfg.maxInnerSize then
    { c.modify r fun s => { s with position := .inner } with innerRing := c.innerRing ++ [r] }
  else (c.modify r fun s => { s with position := .outer }).pushOuter r

-- The inner ring is searched first, then the outer one. A server that is
-- draining is in neither.
def removeServer (cfg : Config) (c : Cluster) (serverId : String) : Cluster × Bool :=
  if c.innerRing.any (c.hasId serverId) then
    (maybePullFromOuter cfg { c with innerRing := c.innerRing.eraseP (c.hasId serverId) }, true)
  else if c.outerRing.any (c.hasId serverId) then
    ({ c with outerRing := Heapq.heapify c.temperatureOf (c.outerRing.eraseP (c.hasId serverId)) }, true)
  else (c, false)

def forceEvict (cfg : Config) (c : Cluster) (serverId : String) : Cluster × Bool :=
  match c.innerRing.find? (c.hasId serverId) with
  | none => (c, false)
  | some r => (c.moveToOuter cfg r .manual, true)

def emergencyServer (c : Cluster) : Option Ref :=
  match c.outerRing with
  | r :: _ => some r
  | [] => c.drainingRefs.head?

end Cluster

end HuddleCluster.Ring
