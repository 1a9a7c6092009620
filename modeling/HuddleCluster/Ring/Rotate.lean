import HuddleCluster.Ring.Cluster

set_option autoImplicit false

namespace HuddleCluster.Ring

namespace Cluster

def adaptThresholds (c : Cluster) : Cluster :=
  match c.adaptive with
  | none => c
  | some adaptive =>
      let adapted := adaptive.maybeAdapt c.now
      { c.tick with
        adaptive := some adapted
        heatThreshold := adapted.currentHeat
        coolThreshold := adapted.currentCool }

-- Hardware fusion visits the inner ring and then the outer one.
def fuseServers (manager : HardwareTelemetryManager) (c : Cluster) (refs : List Ref) : Cluster :=
  refs.foldl (fun state r => state.modify r fun s => { s with temperature := manager.fuseTemperature s.id s.temperature }) c

def fuseTemperatures (c : Cluster) : Cluster :=
  match c.hardwareManager with
  | none => c
  | some manager => fuseServers manager c (c.innerRing ++ c.outerRing)

def floorBreach (cfg : Config) (s : Server) : Bool :=
  match cfg.absoluteLatencyFloorMs with
  | none => false
  | some floor => decide (0 < s.metrics.avgResponseMs) && decide (floor < s.metrics.avgResponseMs)

def evictionCandidate (cfg : Config) (c : Cluster) (now : ℚ) (r : Ref) : Option EvictionReason :=
  let s := c.objects r
  let cooldownOk := decide (cfg.rotationCooldownSec ≤ now - s.lastRotated)
  let due := !s.metrics.isHealthy || cooldownOk
  if floorBreach cfg s && due then some .absoluteLatency
  else if s.isOverheated c.heatThreshold && due then some .overheated
  else none

def candidates (cfg : Config) (c : Cluster) (now : ℚ) : List (Ref × EvictionReason) :=
  c.innerRing.filterMap fun r => (evictionCandidate cfg c now r).map fun reason => (r, reason)

def maxEvict (c : Cluster) : Nat := max 1 (c.innerRing.length / 3)

-- Natural subtraction is max(0, len - min_inner_size).
def safeEvict (cfg : Config) (c : Cluster) : Nat := c.innerRing.length - cfg.minInnerSize

def toEvict (cfg : Config) (c : Cluster) (now : ℚ) : List (Ref × EvictionReason) :=
  (c.candidates cfg now).take (min c.maxEvict (c.safeEvict cfg))

def evictAll (cfg : Config) (c : Cluster) (evicted : List (Ref × EvictionReason)) : Cluster :=
  evicted.foldl (fun state entry => state.moveToOuter cfg entry.1 entry.2) c

def promotable (cfg : Config) (c : Cluster) (r : Ref) : Bool :=
  let s := c.objects r
  !s.isColdStart c.tick.now && !decide (c.now - s.lastRotated < cfg.minOuterDwellSec) &&
    !(match c.remediator with
      | none => false
      | some remediator => remediator.isQuarantined s.id) &&
    s.isCooled c.coolThreshold

-- Only the head of the outer ring is looked at, and the loop ends at the first
-- head that may not be promoted. The fuel bounds the servers it can take out.
def promoteCooled (cfg : Config) : Nat → Cluster → Cluster
  | 0, c => c
  | fuel + 1, c =>
      if c.innerRing.length < cfg.maxInnerSize then
        match c.outerRing with
        | [] => c
        | coolest :: _ =>
            if c.promotable cfg coolest then
              match c.tick.tick.popOuter with
              | none => c
              | some (r, popped) => promoteCooled cfg fuel (popped.moveToInner r)
            else c.tick.tick
      else c

def circuitOpen (cfg : Config) (s : Server) : Bool :=
  decide (cfg.circuitBreakerThreshold < 1) && decide (cfg.circuitBreakerThreshold ≤ s.metrics.errorRate)

def remediateOpenCircuit (c : Cluster) (r : Ref) : Cluster :=
  match c.remediator with
  | none => c
  | some remediator =>
      match remediator.recordCircuitBreakerOpen with
      | none => c
      | some policy => { c with remediator := some (remediator.triggerRemediation (c.idOf r) policy).1 }

-- The list is the inner ring as it was when the loop started.
def evictUnhealthy (cfg : Config) : List Ref → Cluster → Cluster
  | [], c => c
  | r :: rest, c =>
      if c.innerRing.length ≤ cfg.minInnerSize then c
      else
        let s := c.objects r
        if !s.metrics.isHealthy || circuitOpen cfg s then
          let moved := c.moveToOuter cfg r .healthFail
          evictUnhealthy cfg rest (if circuitOpen cfg s then moved.remediateOpenCircuit r else moved)
        else evictUnhealthy cfg rest c

def remediateStale (c : Cluster) : Cluster :=
  match c.remediator with
  | none => c
  | some remediator =>
      let checked := remediator.checkStaleCoolingRing
      { c with remediator := some (checked.1.triggerAll checked.2) }

-- rotate up to the point where the first candidate is chosen.
def beginRotate (c : Cluster) : Cluster := c.adaptThresholds.tick.fuseTemperatures

def rotateStep1 (cfg : Config) (c : Cluster) : Cluster :=
  c.beginRotate.evictAll cfg (c.beginRotate.toEvict cfg c.adaptThresholds.now)

def rotateStep2 (cfg : Config) (c : Cluster) : Cluster := promoteCooled cfg c.outerRing.length c

def rotateStep3 (cfg : Config) (c : Cluster) : Cluster := evictUnhealthy cfg c.innerRing c

def rotate (cfg : Config) (c : Cluster) : Cluster :=
  (((c.rotateStep1 cfg).rotateStep2 cfg).rotateStep3 cfg).remediateStale

def rotated (cfg : Config) (c : Cluster) : Bool :=
  let first := c.rotateStep1 cfg
  let second := first.rotateStep2 cfg
  let third := second.rotateStep3 cfg
  !(c.beginRotate.toEvict cfg c.adaptThresholds.now).isEmpty ||
    decide (first.innerRing.length ≠ second.innerRing.length) || decide (second.innerRing.length ≠ third.innerRing.length)

end Cluster

end HuddleCluster.Ring
