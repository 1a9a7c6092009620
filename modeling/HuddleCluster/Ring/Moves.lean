import HuddleCluster.Ring.Operations

set_option autoImplicit false

namespace HuddleCluster.Ring

namespace Cluster

@[simp] theorem modify_objects (c : Cluster) (r x : Ref) (f : Server → Server) :
    (c.modify r f).objects x = if x = r then f (c.objects r) else c.objects x := by
  simp only [modify, Function.update_apply]

@[simp] theorem modify_inner (c : Cluster) (r : Ref) (f : Server → Server) : (c.modify r f).innerRing = c.innerRing := rfl
@[simp] theorem modify_outer (c : Cluster) (r : Ref) (f : Server → Server) : (c.modify r f).outerRing = c.outerRing := rfl
@[simp] theorem modify_draining (c : Cluster) (r : Ref) (f : Server → Server) :
    (c.modify r f).drainingServers = c.drainingServers := rfl
@[simp] theorem tick_objects (c : Cluster) : c.tick.objects = c.objects := rfl
@[simp] theorem tick_inner (c : Cluster) : c.tick.innerRing = c.innerRing := rfl
@[simp] theorem tick_outer (c : Cluster) : c.tick.outerRing = c.outerRing := rfl
@[simp] theorem tick_draining (c : Cluster) : c.tick.drainingServers = c.drainingServers := rfl

end Cluster

structure Quiet (c d : Cluster) : Prop where
  inner : d.innerRing = c.innerRing
  outer : d.outerRing = c.outerRing
  draining : d.drainingServers = c.drainingServers
  ids : d.idOf = c.idOf
  positions : ∀ r, (d.objects r).position = (c.objects r).position

structure Calm (c d : Cluster) : Prop extends Quiet c d where
  temperatures : d.temperatureOf = c.temperatureOf

structure Evicted (c d : Cluster) (r : Ref) (reason : EvictionReason) : Prop where
  inner : d.innerRing = c.innerRing.eraseP (c.hasId (c.idOf r))
  ids : d.idOf = c.idOf
  others : ∀ x, x ≠ r → (d.objects x).position = (c.objects x).position ∧ d.temperatureOf x = c.temperatureOf x
  temperature : d.temperatureOf r = if reason = .absoluteLatency then max (c.temperatureOf r) (8 / 10) else c.temperatureOf r
  placed : (d.outerRing = Heapq.heappush d.temperatureOf c.outerRing r ∧ d.drainingServers = c.drainingServers ∧
      (d.objects r).position = .outer) ∨
    (d.outerRing = c.outerRing ∧ (d.objects r).position = .draining ∧ c.drainingServers.get? (c.idOf r) = none ∧
      ∃ drain : Drain, drain.server = r ∧ d.drainingServers = c.drainingServers.set (c.idOf r) drain)

structure Promoted (c d : Cluster) (r : Ref) : Prop where
  popped : Heapq.heappop c.temperatureOf c.outerRing = some (r, d.outerRing)
  inner : d.innerRing = c.innerRing ++ [r]
  draining : d.drainingServers = c.drainingServers
  ids : d.idOf = c.idOf
  temperatures : d.temperatureOf = c.temperatureOf
  others : ∀ x, x ≠ r → (d.objects x).position = (c.objects x).position
  position : (d.objects r).position = .inner

structure Drained (c d : Cluster) (serverId : String) (drain : Drain) : Prop where
  entry : c.drainingServers.get? serverId = some drain
  draining : d.drainingServers = c.drainingServers.erase serverId
  inner : d.innerRing = c.innerRing
  outer : d.outerRing = Heapq.heappush d.temperatureOf c.outerRing drain.server
  ids : d.idOf = c.idOf
  temperatures : d.temperatureOf = c.temperatureOf
  others : ∀ x, x ≠ drain.server → (d.objects x).position = (c.objects x).position
  position : (d.objects drain.server).position = .outer

-- The elementary moves between the three containers, with the reasons an
-- eviction may have.
inductive Move (cfg : Config) (reasons : Set EvictionReason) (c d : Cluster) : Prop where
  | calm (same : Calm c d)
  | evicted (r : Ref) (reason : EvictionReason) (permitted : reason ∈ reasons) (member : r ∈ c.innerRing)
      (moved : Evicted c d r reason)
  | promoted (r : Ref) (room : c.innerRing.length < cfg.maxInnerSize) (moved : Promoted c d r)
  | drained (serverId : String) (drain : Drain) (moved : Drained c d serverId drain)

abbrev Moves (cfg : Config) (reasons : Set EvictionReason) := Relation.ReflTransGen (Move cfg reasons)

-- The evictions that leave the temperature alone.
def steady : Set EvictionReason := {reason | reason ≠ .absoluteLatency}

theorem calm_refl (c : Cluster) : Calm c c := ⟨⟨rfl, rfl, rfl, rfl, fun _ => rfl⟩, rfl⟩

-- The p95 feed writes its window and the adaptive thresholds, and nothing else.
theorem feed_p95_spec (c : Cluster) :
    c.feedP95 = { c with p95Window := c.feedP95.p95Window, adaptive := c.feedP95.adaptive } := by
  unfold Cluster.feedP95
  simp only
  split <;> rfl

theorem quiet_trans (c d e : Cluster) (before : Quiet c d) (after : Quiet d e) : Quiet c e :=
  ⟨after.inner.trans before.inner, after.outer.trans before.outer, after.draining.trans before.draining,
    after.ids.trans before.ids, fun r => (after.positions r).trans (before.positions r)⟩

theorem modify_ids (c : Cluster) (r : Ref) (f : Server → Server) (same : (f (c.objects r)).id = (c.objects r).id) :
    (c.modify r f).idOf = c.idOf := by
  funext x
  by_cases here : x = r <;> simp [Cluster.idOf, here, same]

theorem modify_temperatures (c : Cluster) (r : Ref) (f : Server → Server)
    (same : (f (c.objects r)).temperature = (c.objects r).temperature) : (c.modify r f).temperatureOf = c.temperatureOf := by
  funext x
  by_cases here : x = r <;> simp [Cluster.temperatureOf, here, same]

theorem quiet_modify (c : Cluster) (r : Ref) (f : Server → Server) (sameId : (f (c.objects r)).id = (c.objects r).id)
    (samePosition : (f (c.objects r)).position = (c.objects r).position) : Quiet c (c.modify r f) := by
  refine ⟨rfl, rfl, rfl, modify_ids c r f sameId, ?_⟩
  intro x
  by_cases here : x = r <;> simp [here, samePosition]

theorem calm_modify (c : Cluster) (r : Ref) (f : Server → Server) (sameId : (f (c.objects r)).id = (c.objects r).id)
    (samePosition : (f (c.objects r)).position = (c.objects r).position)
    (sameTemperature : (f (c.objects r)).temperature = (c.objects r).temperature) : Calm c (c.modify r f) :=
  ⟨quiet_modify c r f sameId samePosition, modify_temperatures c r f sameTemperature⟩

theorem record_eviction_treats (c : Cluster) (r : Ref) : ∃ remediator, c.recordEviction r = { c with remediator := remediator } := by
  unfold Cluster.recordEviction
  split
  · exact ⟨c.remediator, rfl⟩
  · split
    · exact ⟨some _, rfl⟩
    · exact ⟨some _, rfl⟩

theorem open_circuit_treats (c : Cluster) (r : Ref) :
    ∃ remediator, c.remediateOpenCircuit r = { c with remediator := remediator } := by
  unfold Cluster.remediateOpenCircuit
  split
  · exact ⟨c.remediator, rfl⟩
  · split
    · exact ⟨c.remediator, rfl⟩
    · exact ⟨some _, rfl⟩

theorem stale_treats (c : Cluster) : ∃ remediator, c.remediateStale = { c with remediator := remediator } := by
  unfold Cluster.remediateStale
  split
  · exact ⟨c.remediator, rfl⟩
  · exact ⟨some _, rfl⟩

theorem calm_treated (c : Cluster) (remediator : Option Remediator) : Calm c { c with remediator := remediator } :=
  ⟨⟨rfl, rfl, rfl, rfl, fun _ => rfl⟩, rfl⟩

theorem calm_record_eviction (c : Cluster) (r : Ref) : Calm c (c.recordEviction r) := by
  obtain ⟨remediator, treated⟩ := record_eviction_treats c r
  exact treated ▸ calm_treated c remediator

theorem calm_record_recovery (c : Cluster) (r : Ref) : Calm c (c.recordRecovery r) := by
  simp only [Cluster.recordRecovery]
  split
  · have counted := calm_modify c r (fun s => { s with consecutiveEvictions := 0 }) rfl rfl rfl
    exact ⟨⟨rfl, rfl, rfl, counted.ids, counted.positions⟩, counted.temperatures⟩
  · exact calm_refl c

theorem leave_inner_ids (c : Cluster) (r : Ref) (reason : EvictionReason) : (c.leaveInner r reason).idOf = c.idOf :=
  modify_ids c.tick r (Cluster.markEvicted c.now reason) rfl

theorem leave_inner_others (c : Cluster) (r x : Ref) (reason : EvictionReason) (other : x ≠ r) :
    (c.leaveInner r reason).objects x = c.objects x := by
  simp [Cluster.leaveInner, Cluster.removeInner, other]

theorem leave_inner_temperature (c : Cluster) (r : Ref) (reason : EvictionReason) :
    (c.leaveInner r reason).temperatureOf r =
      if reason = .absoluteLatency then max (c.temperatureOf r) (8 / 10) else c.temperatureOf r := by
  simp [Cluster.temperatureOf, Cluster.leaveInner, Cluster.removeInner, Cluster.markEvicted]

theorem leave_inner_ring (c : Cluster) (r : Ref) (reason : EvictionReason) :
    (c.leaveInner r reason).innerRing = c.innerRing.eraseP (c.hasId (c.idOf r)) := by
  have marked : (c.tick.modify r (Cluster.markEvicted c.now reason)).idOf = c.idOf := leave_inner_ids c r reason
  have same : (c.tick.modify r (Cluster.markEvicted c.now reason)).hasId (c.idOf r) = c.hasId (c.idOf r) := by
    funext x
    simp only [Cluster.hasId, marked]
  simp only [Cluster.leaveInner, Cluster.removeInner, Cluster.modify_inner, Cluster.tick_inner, marked, same]

theorem complete_eviction_spec (c : Cluster) (r : Ref) :
    (c.completeEviction r).innerRing = c.innerRing ∧ (c.completeEviction r).drainingServers = c.drainingServers ∧
      (c.completeEviction r).idOf = c.idOf ∧ (c.completeEviction r).temperatureOf = c.temperatureOf ∧
      (c.completeEviction r).outerRing = Heapq.heappush c.temperatureOf c.outerRing r ∧
      (∀ x, x ≠ r → ((c.completeEviction r).objects x).position = (c.objects x).position) ∧
      ((c.completeEviction r).objects r).position = .outer := by
  have ids := modify_ids c.tick r (fun s => { s with position := .outer, lastRotated := c.now }) rfl
  have temperatures := modify_temperatures c.tick r (fun s => { s with position := .outer, lastRotated := c.now }) rfl
  simp only [Cluster.completeEviction]
  set marked := c.tick.modify r fun s => { s with position := .outer, lastRotated := c.now } with markedDef
  have recorded := calm_record_eviction (marked.pushOuter r) r
  refine ⟨recorded.inner, recorded.draining, recorded.ids.trans ids, recorded.temperatures.trans temperatures, ?_, ?_, ?_⟩
  · rw [recorded.outer]
    change Heapq.heappush marked.temperatureOf c.outerRing r = Heapq.heappush c.temperatureOf c.outerRing r
    rw [temperatures]
    rfl
  · intro x other
    rw [recorded.positions]
    simp [Cluster.pushOuter, markedDef, other]
  · rw [recorded.positions]
    simp [Cluster.pushOuter, markedDef]

theorem start_drain_spec (c : Cluster) (r : Ref) (now : ℚ) (reason : EvictionReason) :
    (c.startDrain r now reason).idOf = c.idOf ∧ (c.startDrain r now reason).temperatureOf = c.temperatureOf ∧
      (∀ x, x ≠ r → ((c.startDrain r now reason).objects x).position = (c.objects x).position) ∧
      ((c.startDrain r now reason).objects r).position = .draining := by
  refine ⟨modify_ids c r (fun s => { s with position := .draining }) rfl,
    modify_temperatures c r (fun s => { s with position := .draining }) rfl, ?_, ?_⟩
  · intro x other
    simp [Cluster.startDrain, other]
  · simp [Cluster.startDrain]

theorem evicted_move_to_outer (cfg : Config) (c : Cluster) (r : Ref) (reason : EvictionReason) :
    Evicted c (c.moveToOuter cfg r reason) r reason := by
  have leftIds := leave_inner_ids c r reason
  have leftRing := leave_inner_ring c r reason
  have leftTemperature := leave_inner_temperature c r reason
  have leftOthers := fun x other => leave_inner_others c r x reason other
  have leftOuter : (c.leaveInner r reason).outerRing = c.outerRing := rfl
  have leftDraining : (c.leaveInner r reason).drainingServers = c.drainingServers := rfl
  unfold Cluster.moveToOuter
  generalize c.leaveInner r reason = left at *
  simp only
  split
  · rename_i drains
    have absent : c.drainingServers.get? (c.idOf r) = none := by
      simp only [Cluster.mustDrain, Bool.and_eq_true, Bool.not_eq_true', leftIds, leftDraining] at drains
      simpa [Dict.contains] using drains.2
    obtain ⟨ids, temperatures, others, position⟩ := start_drain_spec left r c.now reason
    refine ⟨leftRing, ids.trans leftIds, ?_, ?_, Or.inr ⟨leftOuter, position, absent, ⟨r, c.now, reason⟩, rfl, ?_⟩⟩
    · intro x other
      rw [others x other, temperatures, leftOthers x other, Cluster.temperatureOf, leftOthers x other]
      exact ⟨rfl, rfl⟩
    · rw [temperatures, leftTemperature]
    · simp only [Cluster.startDrain, leftIds, leftDraining]
  · obtain ⟨inner, draining, ids, temperatures, outer, others, position⟩ := complete_eviction_spec left r
    refine ⟨inner.trans leftRing, ids.trans leftIds, ?_, ?_, Or.inl ⟨?_, draining.trans leftDraining, position⟩⟩
    · intro x other
      rw [others x other, temperatures, leftOthers x other, Cluster.temperatureOf, leftOthers x other]
      exact ⟨rfl, rfl⟩
    · rw [temperatures, leftTemperature]
    · rw [outer, temperatures, leftOuter]

theorem promoted_pop_outer (c popped : Cluster) (r : Ref) (taken : c.popOuter = some (r, popped)) :
    Promoted c (popped.moveToInner r) r := by
  simp only [Cluster.popOuter, Option.map_eq_some_iff, Prod.mk.injEq] at taken
  obtain ⟨⟨item, rest⟩, found, rfl, rfl⟩ := taken
  simp only [Cluster.moveToInner]
  set shorter : Cluster := { c with outerRing := rest } with shorterDef
  have marked := calm_record_recovery (shorter.tick.modify item (Cluster.markPromoted shorter.now)) item
  refine ⟨?_, ?_, marked.draining, ?_, ?_, ?_, ?_⟩
  · rw [found, marked.outer, Cluster.modify_outer, Cluster.tick_outer]
  · exact congrArg (fun ring => ring ++ [item]) marked.inner
  · exact marked.ids.trans (modify_ids shorter.tick item (Cluster.markPromoted shorter.now) rfl)
  · exact marked.temperatures.trans (modify_temperatures shorter.tick item (Cluster.markPromoted shorter.now) rfl)
  · intro x other
    rw [marked.positions]
    simp [shorterDef, other]
  · rw [marked.positions]
    simp [Cluster.markPromoted]

theorem drained_finish (c : Cluster) (serverId : String) (drain : Drain)
    (entry : c.drainingServers.get? serverId = some drain) : Drained c (c.finishDrain serverId drain) serverId drain := by
  obtain ⟨inner, draining, ids, temperatures, outer, others, position⟩ :=
    complete_eviction_spec { c with drainingServers := c.drainingServers.erase serverId } drain.server
  refine ⟨entry, draining, inner, ?_, ids, temperatures, others, position⟩
  rw [Cluster.finishDrain, temperatures]
  exact outer

end HuddleCluster.Ring
