import HuddleCluster.Ring.Trails

set_option autoImplicit false

namespace HuddleCluster.Ring

namespace HardwareTelemetryManager

-- The documented blend of a latency temperature with a hardware stress.
def effective (sensorWeight latencyTemp stress : ℚ) : ℚ :=
  Statistics.roundTo 4 (unit ((1 - sensorWeight) * latencyTemp + sensorWeight * stress))

end HardwareTelemetryManager

open Cluster HardwareTelemetryManager

-- One more smoothing step of a score kept beside the server, from the metrics
-- the server has now.
def rescored (c : Cluster) (smoothed : Ref → ℚ) (r : Ref) : Ref → ℚ :=
  Function.update smoothed r
    (MovingAverage.smooth (c.objects r).emaAlpha (Server.rawScore (c.objects r).metrics) (smoothed r))

-- A cluster, for each server the score smoothed from its own metrics alone, and
-- whether anything else has written its temperature. After a rotation, settled
-- has the temperatures before it if the operation before it was a rotation too.
structure FusionWatch where
  cluster : Cluster
  smoothed : Ref → ℚ
  mixed : Ref → Bool
  rotated : Bool
  settled : Option (Ref → ℚ)

namespace FusionWatch

def fresh (c : Cluster) : FusionWatch := ⟨c, c.temperatureOf, fun _ => false, false, none⟩

-- Every measured server is rescored once for each of its measurements.
def measured (s : FusionWatch) (after : Cluster) (refs : List Ref) : FusionWatch :=
  ⟨after, refs.foldl (rescored after) s.smoothed, s.mixed, false, none⟩

def marked (s : FusionWatch) (after : Cluster) (r : Ref) : Bool :=
  s.mixed r || decide (after.temperatureOf r ≠ s.cluster.temperatureOf r)

def next (cfg : Config) (s : FusionWatch) (op : Op) : Option FusionWatch :=
  let after := step cfg s.cluster op
  match op with
  | .recordLatency r _ | .recordStreaming r _ _ _ | .canaryProbe r _ | .updateTemperature r => some (s.measured after [r])
  | .batchRecordLatency measurements => some (s.measured after (measurements.map Prod.fst))
  | .setMetrics _ _ => some (s.measured after [])
  | .recordHardwareTelemetry _ _ => some ⟨after, s.smoothed, s.marked after, false, none⟩
  | .rotate => some ⟨after, s.smoothed, s.marked after, true, if s.rotated then some s.cluster.temperatureOf else none⟩
  | _ => none

-- After a rotation every registered server with telemetry is at the blend of its
-- own smoothed score, and a second rotation in a row has changed nothing.
def Fused (s : FusionWatch) : Prop :=
  s.rotated = true → ∀ manager ∈ s.cluster.hardwareManager, ∀ r ∈ s.cluster.allServers,
    ∀ stress ∈ manager.thermalStress.get? (s.cluster.idOf r),
      s.cluster.temperatureOf r = effective manager.sensorWeight (s.smoothed r) stress ∧
        ∀ temperatures ∈ s.settled, s.cluster.temperatureOf r = temperatures r

-- A rotation fuses a server that rests or serves, so its temperature must still be
-- the smoothed score, unless the sensor weighs everything. It must not lift it to
-- the floor either. A draining server it passes over.
def Blendable (cfg : Config) (s : FusionWatch) (manager : HardwareTelemetryManager) (r : Ref) (stress : ℚ) : Prop :=
  if r ∈ s.cluster.innerRing ++ s.cluster.outerRing then
    (s.cluster.innerRing ++ s.cluster.outerRing).count r = 1 ∧
      (s.cluster.temperatureOf r = s.smoothed r ∨ manager.sensorWeight = 1) ∧
      ((r, .absoluteLatency) ∈ s.cluster.beginRotate.toEvict cfg s.cluster.adaptThresholds.now →
        8 / 10 ≤ effective manager.sensorWeight (s.smoothed r) stress)
  else s.cluster.temperatureOf r = effective manager.sensorWeight (s.smoothed r) stress

def FusesOnce (cfg : Config) (s : FusionWatch) : Op → Prop
  | .rotate => ∀ manager ∈ s.cluster.hardwareManager, ∀ r ∈ s.cluster.allServers,
      ∀ stress ∈ manager.thermalStress.get? (s.cluster.idOf r), s.Blendable cfg manager r stress
  | _ => True

end FusionWatch

open FusionWatch

theorem fuse_effective (manager : HardwareTelemetryManager) (serverId : String) (latencyTemp stress : ℚ)
    (read : manager.thermalStress.get? serverId = some stress) :
    manager.fuseTemperature serverId latencyTemp = effective manager.sensorWeight latencyTemp stress := by
  simp only [fuseTemperature, read, effective]

theorem effective_hardware_only (latencyTemp other stress : ℚ) : effective 1 latencyTemp stress = effective 1 other stress := by
  simp [effective]

theorem modify_temperature (c : Cluster) (x r : Ref) (f : Server → Server) :
    (c.modify x f).temperatureOf r = if r = x then (f (c.objects x)).temperature else c.temperatureOf r := by
  by_cases here : r = x <;> simp [temperatureOf, here]

theorem fuse_servers_absent (manager : HardwareTelemetryManager) (refs : List Ref) (c : Cluster) (r : Ref) (absent : r ∉ refs) :
    (fuseServers manager c refs).temperatureOf r = c.temperatureOf r := by
  induction refs generalizing c with
  | nil => rfl
  | cons x rest ih =>
      rw [List.mem_cons, not_or] at absent
      rw [fuseServers, List.foldl_cons]
      exact (ih _ absent.2).trans ((modify_temperature c x r _).trans (if_neg absent.1))

theorem fuse_servers_once (manager : HardwareTelemetryManager) (refs : List Ref) (c : Cluster) (r : Ref)
    (once : refs.count r = 1) :
    (fuseServers manager c refs).temperatureOf r = manager.fuseTemperature (c.idOf r) (c.temperatureOf r) := by
  induction refs generalizing c with
  | nil => cases once
  | cons x rest ih =>
      have turned := modify_temperature c x r fun s => { s with temperature := manager.fuseTemperature s.id s.temperature }
      have ids := modify_ids c x (fun s => { s with temperature := manager.fuseTemperature s.id s.temperature }) rfl
      rw [fuseServers, List.foldl_cons]
      by_cases here : r = x
      · subst here
        have gone : r ∉ rest := by
          rw [List.count_cons_self] at once
          exact List.count_eq_zero.mp (by omega)
        exact (fuse_servers_absent manager rest _ r gone).trans (turned.trans (if_pos rfl))
      · rw [List.count_cons_of_ne (Ne.symm here)] at once
        rw [if_neg here] at turned
        have rested := ih (c.modify x fun s => { s with temperature := manager.fuseTemperature s.id s.temperature }) once
        rw [ids, turned] at rested
        exact rested

theorem adapt_manager (c : Cluster) : c.adaptThresholds.hardwareManager = c.hardwareManager := by
  unfold adaptThresholds
  split <;> rfl

theorem begin_rotate_fuses (c : Cluster) (manager : HardwareTelemetryManager) (managed : c.hardwareManager = some manager) :
    c.beginRotate = fuseServers manager c.adaptThresholds.tick (c.innerRing ++ c.outerRing) := by
  have adapted := calm_adapt_thresholds c
  rw [beginRotate, fuseTemperatures, show c.adaptThresholds.tick.hardwareManager = some manager from (adapt_manager c).trans managed]
  simp only [tick_inner, tick_outer, adapted.inner, adapted.outer]

theorem begin_rotate_once (c : Cluster) (manager : HardwareTelemetryManager) (r : Ref)
    (managed : c.hardwareManager = some manager) (once : (c.innerRing ++ c.outerRing).count r = 1) :
    c.beginRotate.temperatureOf r = manager.fuseTemperature (c.idOf r) (c.temperatureOf r) := by
  have adapted := calm_adapt_thresholds c
  rw [begin_rotate_fuses c manager managed, fuse_servers_once manager _ _ r once]
  exact congrArg₂ manager.fuseTemperature (congrFun adapted.ids r) (congrFun adapted.temperatures r)

theorem begin_rotate_absent (c : Cluster) (manager : HardwareTelemetryManager) (r : Ref)
    (managed : c.hardwareManager = some manager) (absent : r ∉ c.innerRing ++ c.outerRing) :
    c.beginRotate.temperatureOf r = c.temperatureOf r := by
  rw [begin_rotate_fuses c manager managed, fuse_servers_absent manager _ _ r absent]
  exact congrFun (calm_adapt_thresholds c).temperatures r

theorem evicted_temperature (c d : Cluster) (x r : Ref) (reason : EvictionReason) (moved : Evicted c d x reason) :
    d.temperatureOf r = if (r, .absoluteLatency) = (x, reason) then max (c.temperatureOf r) (8 / 10) else c.temperatureOf r := by
  by_cases here : r = x
  · subst here
    rw [moved.temperature]
    cases reason <;> simp
  · rw [(moved.others r here).2, if_neg]
    exact fun same => here (congrArg Prod.fst same)

-- The floor is reached once, however often a server is evicted for it.
theorem evict_all_temperature (cfg : Config) (evicted : List (Ref × EvictionReason)) (c : Cluster) (r : Ref) :
    (c.evictAll cfg evicted).temperatureOf r =
      if (r, .absoluteLatency) ∈ evicted then max (c.temperatureOf r) (8 / 10) else c.temperatureOf r := by
  induction evicted generalizing c with
  | nil => rfl
  | cons entry rest ih =>
      have turned := evicted_temperature c _ entry.1 r entry.2 (evicted_move_to_outer cfg c entry.1 entry.2)
      rw [evictAll, List.foldl_cons]
      refine (ih _).trans ?_
      rw [turned]
      by_cases here : (r, .absoluteLatency) = entry
      · simp [← here]
      · simp [here]

theorem steady_temperatures (cfg : Config) (c d : Cluster) (moved : Moves cfg steady c d) :
    d.temperatureOf = c.temperatureOf := by
  induction moved with
  | refl => rfl
  | tail _ last ih =>
      cases last with
      | calm same => exact same.temperatures.trans ih
      | promoted r _ moved => exact moved.temperatures.trans ih
      | drained serverId drain moved => exact moved.temperatures.trans ih
      | evicted x reason permitted _ moved =>
          refine Eq.trans ?_ ih
          funext r
          refine (evicted_temperature _ _ x r reason moved).trans (if_neg ?_)
          exact fun same => permitted (congrArg Prod.snd same).symm

theorem rotate_temperature (cfg : Config) (c : Cluster) (r : Ref) :
    (c.rotate cfg).temperatureOf r =
      if (r, .absoluteLatency) ∈ c.beginRotate.toEvict cfg c.adaptThresholds.now then max (c.beginRotate.temperatureOf r) (8 / 10)
      else c.beginRotate.temperatureOf r :=
  (congrFun (steady_temperatures cfg _ _ (moves_rotate_rest cfg c)) r).trans (evict_all_temperature cfg _ c.beginRotate r)

theorem rotate_members (cfg : Config) (c : Cluster) : (c.rotate cfg).allServers ⊆ c.allServers := by
  have begun := quiet_begin_rotate c
  have same : c.beginRotate.allServers = c.allServers := by
    rw [allServers, allServers, drainingRefs, drainingRefs, begun.inner, begun.outer, begun.draining]
  exact same ▸ moves_members cfg Set.univ c.beginRotate _ (moves_rotate cfg c)

theorem record_eviction_manager (c : Cluster) (r : Ref) : (c.recordEviction r).hardwareManager = c.hardwareManager := by
  obtain ⟨_, treated⟩ := record_eviction_treats c r
  rw [treated]

theorem complete_eviction_manager (c : Cluster) (r : Ref) : (c.completeEviction r).hardwareManager = c.hardwareManager :=
  record_eviction_manager _ r

theorem move_to_outer_manager (cfg : Config) (c : Cluster) (r : Ref) (reason : EvictionReason) :
    (c.moveToOuter cfg r reason).hardwareManager = c.hardwareManager := by
  unfold moveToOuter
  simp only
  split
  · rfl
  · exact complete_eviction_manager (c.leaveInner r reason) r

theorem move_to_inner_manager (c : Cluster) (r : Ref) : (c.moveToInner r).hardwareManager = c.hardwareManager := by
  simp only [moveToInner, recordRecovery]
  split <;> rfl

theorem manager_tuning : Tuning fun c d => d.hardwareManager = c.hardwareManager where
  refl _ := rfl
  trans _ _ _ before after := after.trans before
  heated _ _ _ := rfl
  tuned _ _ _ _ _ := rfl
  read _ _ := rfl

theorem begin_rotate_manager (c : Cluster) : c.beginRotate.hardwareManager = c.hardwareManager :=
  frame_begin_rotate manager_tuning.onward c

theorem manager_links (cfg : Config) : Links cfg fun c d => d.hardwareManager = c.hardwareManager where
  begun := begin_rotate_manager
  ticked _ := rfl
  waited _ := rfl
  evicted c r reason _ := move_to_outer_manager cfg c r reason
  circuit c r := by
    obtain ⟨_, treated⟩ := open_circuit_treats c r
    rw [treated]
  stale c := by
    obtain ⟨_, treated⟩ := stale_treats c
    rw [treated]
  drained c serverId drain _ := complete_eviction_manager { c with drainingServers := c.drainingServers.erase serverId } drain.server
  promoted c r popped _ _ taken := by
    simp only [popOuter, Option.map_eq_some_iff, Prod.mk.injEq] at taken
    obtain ⟨_, _, _, rfl⟩ := taken
    exact move_to_inner_manager _ r

theorem rotate_manager (cfg : Config) (c : Cluster) : (c.rotate cfg).hardwareManager = c.hardwareManager :=
  rotate_related cfg (fun c d => d.hardwareManager = c.hardwareManager) manager_tuning.refl manager_tuning.trans (manager_links cfg) c

theorem feed_objects (c : Cluster) : c.feedP95.objects = c.objects := by
  rw [feed_p95_spec]

theorem rescored_other (c : Cluster) (smoothed : Ref → ℚ) (x r : Ref) (other : r ≠ x) : rescored c smoothed x r = smoothed r :=
  Function.update_of_ne other _ _

theorem rescored_same (c : Cluster) (first second : Ref → ℚ) (x r : Ref) (same : first r = second r) :
    rescored c first x r = rescored c second x r := by
  by_cases here : r = x
  · subst here
    simp only [rescored, Function.update_self, same]
  · rw [rescored_other c first x r here, rescored_other c second x r here, same]

theorem rescored_all_same (c : Cluster) (refs : List Ref) (first second : Ref → ℚ) (r : Ref) (same : first r = second r) :
    refs.foldl (rescored c) first r = refs.foldl (rescored c) second r := by
  induction refs generalizing first second with
  | nil => exact same
  | cons x rest ih => exact ih _ _ (rescored_same c first second x r same)

theorem rescored_all_congr (c d : Cluster) (refs : List Ref) (smoothed : Ref → ℚ)
    (agree : ∀ r ∈ refs, (c.objects r).emaAlpha = (d.objects r).emaAlpha ∧ (c.objects r).metrics = (d.objects r).metrics) :
    refs.foldl (rescored c) smoothed = refs.foldl (rescored d) smoothed := by
  induction refs generalizing smoothed with
  | nil => rfl
  | cons x rest ih =>
      rw [List.forall_mem_cons] at agree
      have here : rescored c smoothed x = rescored d smoothed x := by rw [rescored, rescored, agree.1.1, agree.1.2]
      rw [List.foldl_cons, List.foldl_cons, here]
      exact ih _ agree.2

theorem update_temperature_rescored (c : Cluster) (r : Ref) :
    (c.updateTemperature r).temperatureOf = rescored c c.temperatureOf r := by
  funext x
  rw [updateTemperature, modify_temperature, rescored, Function.update_apply]
  rfl

-- What one measurement leaves behind: the temperature follows from the metrics
-- the server ends up with.
theorem record_latency_rescored (c : Cluster) (r : Ref) (latencyMs : ℚ) :
    (c.recordLatency r latencyMs).temperatureOf = rescored (c.recordLatency r latencyMs) c.temperatureOf r := by
  unfold recordLatency
  simp only
  generalize (if (c.modifyMetrics r fun m => m.recordLatency latencyMs).innerAverages.isEmpty = true then latencyMs
    else Statistics.median (c.modifyMetrics r fun m => m.recordLatency latencyMs).innerAverages) = baseline
  have sampled := modify_temperatures c r (fun s => { s with metrics := s.metrics.recordLatency latencyMs }) rfl
  generalize before : (c.modifyMetrics r fun m => m.recordLatency latencyMs) = d
  rw [modifyMetrics] at before
  rw [before] at sampled
  have judged := modify_temperatures d r (fun s => { s with metrics := s.metrics.updateLatencyAnomaly baseline }) rfl
  generalize middle : (d.modifyMetrics r fun m => m.updateLatencyAnomaly baseline) = e
  rw [modifyMetrics] at middle
  rw [middle] at judged
  have fed : (e.updateTemperature r).feedP95.temperatureOf = (e.updateTemperature r).temperatureOf := by
    funext x
    rw [temperatureOf, feed_objects, temperatureOf]
  have same : ∀ smoothed, rescored (e.updateTemperature r).feedP95 smoothed r = rescored e smoothed r := by
    intro smoothed
    rw [rescored, rescored, feed_objects]
    simp [updateTemperature, Server.updateTemperature]
  rw [fed, same, update_temperature_rescored, judged, sampled]

theorem sampled_rescored (c : Cluster) (r : Ref) (f : ServerMetrics → ServerMetrics) (latencyMs : ℚ) :
    ((c.modifyMetrics r f).recordLatency r latencyMs).temperatureOf =
      rescored ((c.modifyMetrics r f).recordLatency r latencyMs) c.temperatureOf r := by
  rw [record_latency_rescored]
  exact congrArg (fun smoothed => rescored _ smoothed r) (modify_temperatures c r (fun s => { s with metrics := f s.metrics }) rfl)

theorem canary_rescored (cfg : Config) (c : Cluster) (r : Ref) (answer : Option (Bool × ℚ)) :
    (c.canaryProbe cfg r answer).temperatureOf = rescored (c.canaryProbe cfg r answer) c.temperatureOf r := by
  unfold canaryProbe
  split
  · exact record_latency_rescored c r _
  · exact sampled_rescored c r _ _
  · exact sampled_rescored c r _ _

def judge (baseline : ℚ) (c : Cluster) (entry : Ref × ℚ) : Cluster :=
  (c.modifyMetrics entry.1 fun m => m.updateLatencyAnomaly baseline).updateTemperature entry.1

theorem judge_objects (baseline : ℚ) (c : Cluster) (entry : Ref × ℚ) (r : Ref) :
    ((judge baseline c entry).objects r).emaAlpha = (c.objects r).emaAlpha ∧
      ((judge baseline c entry).objects r).metrics =
        if r = entry.1 then (c.objects r).metrics.updateLatencyAnomaly baseline else (c.objects r).metrics := by
  by_cases here : r = entry.1
  · subst here
    simp [judge, modifyMetrics, updateTemperature, Server.updateTemperature]
  · simp [judge, modifyMetrics, updateTemperature, here]

theorem judged_objects (baseline : ℚ) (measurements : List (Ref × ℚ)) (c : Cluster) (r : Ref) :
    ((measurements.foldl (judge baseline) c).objects r).emaAlpha = (c.objects r).emaAlpha ∧
      ((measurements.foldl (judge baseline) c).objects r).metrics =
        if r ∈ measurements.map Prod.fst then (c.objects r).metrics.updateLatencyAnomaly baseline else (c.objects r).metrics := by
  induction measurements generalizing c with
  | nil => simp
  | cons entry rest ih =>
      obtain ⟨factor, metrics⟩ := judge_objects baseline c entry r
      obtain ⟨laterFactor, laterMetrics⟩ := ih (judge baseline c entry)
      rw [List.foldl_cons]
      refine ⟨laterFactor.trans factor, laterMetrics.trans ?_⟩
      rw [metrics]
      by_cases here : r = entry.1
      · subst here
        simp [ServerMetrics.updateLatencyAnomaly]
      · simp only [List.map_cons, List.mem_cons, here, false_or, if_false]

theorem judged_rescored (baseline : ℚ) (measurements : List (Ref × ℚ)) (c : Cluster) :
    (measurements.foldl (judge baseline) c).temperatureOf =
      (measurements.map Prod.fst).foldl (rescored (measurements.foldl (judge baseline) c)) c.temperatureOf := by
  induction measurements generalizing c with
  | nil => rfl
  | cons entry rest ih =>
      obtain ⟨factor, metrics⟩ := judged_objects baseline (entry :: rest) c entry.1
      rw [List.map_cons, if_pos (List.mem_cons_self)] at metrics
      generalize last : (entry :: rest).foldl (judge baseline) c = final at *
      rw [List.foldl_cons] at last
      have judged : (judge baseline c entry).temperatureOf = rescored final c.temperatureOf entry.1 := by
        have stamped := modify_temperatures c entry.1 (fun s => { s with metrics := s.metrics.updateLatencyAnomaly baseline }) rfl
        refine (update_temperature_rescored _ entry.1).trans ?_
        rw [rescored, rescored, factor, metrics]
        simp only [modifyMetrics, modify_objects, if_true, stamped]
      have rested := ih (judge baseline c entry)
      rw [last, judged] at rested
      exact rested

theorem batch_rescored (c : Cluster) (measurements : List (Ref × ℚ)) :
    (c.batchRecordLatency measurements).temperatureOf =
      (measurements.map Prod.fst).foldl (rescored (c.batchRecordLatency measurements)) c.temperatureOf := by
  have sampled : ∀ (entries : List (Ref × ℚ)) (d : Cluster),
      (entries.foldl (fun state entry => state.modifyMetrics entry.1 fun m => m.recordLatency entry.2) d).temperatureOf =
        d.temperatureOf := by
    intro entries
    induction entries with
    | nil => exact fun _ => rfl
    | cons entry rest ih => exact fun d => (ih _).trans (modify_temperatures d entry.1 _ rfl)
  unfold batchRecordLatency
  simp only
  generalize start : measurements.foldl (fun state entry => state.modifyMetrics entry.1 fun m => m.recordLatency entry.2) c = d
  generalize (if d.innerAverages.isEmpty = true then 1 else Statistics.median d.innerAverages) = baseline
  have before : d.temperatureOf = c.temperatureOf := start ▸ sampled measurements c
  have judged := judged_rescored baseline measurements d
  rw [before] at judged
  change (measurements.foldl (judge baseline) d).feedP95.temperatureOf =
    (measurements.map Prod.fst).foldl (rescored (measurements.foldl (judge baseline) d).feedP95) c.temperatureOf
  have fed : (measurements.foldl (judge baseline) d).feedP95.temperatureOf = (measurements.foldl (judge baseline) d).temperatureOf := by
    funext x
    rw [temperatureOf, feed_objects, temperatureOf]
  rw [fed, judged]
  exact rescored_all_congr _ _ _ _ fun r _ => by rw [feed_objects]; exact ⟨rfl, rfl⟩

def Agree (s : FusionWatch) : Prop := ∀ r, s.mixed r = false → s.cluster.temperatureOf r = s.smoothed r

theorem agree_measured (s : FusionWatch) (after : Cluster) (refs : List Ref) (agree : Agree s)
    (rescores : after.temperatureOf = refs.foldl (rescored after) s.cluster.temperatureOf) : Agree (s.measured after refs) := by
  intro r pure
  change after.temperatureOf r = _
  rw [rescores]
  exact rescored_all_same after refs _ _ r (agree r pure)

theorem agree_marked (s : FusionWatch) (after : Cluster) (rotated : Bool) (settled : Option (Ref → ℚ)) (agree : Agree s) :
    Agree ⟨after, s.smoothed, s.marked after, rotated, settled⟩ := by
  intro r pure
  simp only [marked, Bool.or_eq_false_iff, decide_eq_false_iff_not, not_not] at pure
  exact pure.2.trans (agree r pure.1)

theorem agree_next (cfg : Config) (s after : FusionWatch) (op : Op) (agree : Agree s) (taken : s.next cfg op = some after) :
    Agree after := by
  cases op with
  | recordLatency r latencyMs =>
      cases taken
      exact agree_measured s _ [r] agree (record_latency_rescored s.cluster r latencyMs)
  | recordStreaming r ttftMs itlMs totalLatencyMs =>
      cases taken
      exact agree_measured s _ [r] agree (sampled_rescored s.cluster r _ _)
  | canaryProbe r answer =>
      cases taken
      exact agree_measured s _ [r] agree (canary_rescored cfg s.cluster r answer)
  | updateTemperature r =>
      cases taken
      refine agree_measured s _ [r] agree ((update_temperature_rescored s.cluster r).trans ?_)
      rw [List.foldl_cons, List.foldl_nil]
      exact rescored_all_congr s.cluster _ [r] _ fun x _ => by
        by_cases here : x = r <;> simp [step, updateTemperature, Server.updateTemperature, here]
  | batchRecordLatency measurements =>
      cases taken
      exact agree_measured s _ _ agree (batch_rescored s.cluster measurements)
  | setMetrics r metrics =>
      cases taken
      exact agree_measured s _ [] agree (modify_temperatures s.cluster r (fun server => { server with metrics := metrics }) rfl)
  | recordHardwareTelemetry serverId reading =>
      cases taken
      exact agree_marked s _ _ _ agree
  | rotate =>
      cases taken
      exact agree_marked s _ _ _ agree
  | _ => cases taken

theorem rotate_fused (cfg : Config) (s : FusionWatch) (permitted : FusesOnce cfg s .rotate) (manager : HardwareTelemetryManager)
    (managed : manager ∈ s.cluster.hardwareManager) (r : Ref) (registered : r ∈ s.cluster.allServers) (stress : ℚ)
    (read : stress ∈ manager.thermalStress.get? (s.cluster.idOf r)) :
    (s.cluster.rotate cfg).temperatureOf r = effective manager.sensorWeight (s.smoothed r) stress := by
  have blendable := permitted manager managed r registered stress read
  rw [rotate_temperature]
  unfold Blendable at blendable
  split at blendable
  · obtain ⟨once, own, floor⟩ := blendable
    have blended : s.cluster.beginRotate.temperatureOf r = effective manager.sensorWeight (s.smoothed r) stress := by
      rw [begin_rotate_once s.cluster manager r managed once, fuse_effective manager _ _ stress read]
      rcases own with same | whole
      · rw [same]
      · rw [whole]
        exact effective_hardware_only _ _ stress
    rw [blended]
    split
    · rename_i evicted
      exact max_eq_left (floor evicted)
    · rfl
  · rename_i passed
    have spared : (r, EvictionReason.absoluteLatency) ∉ s.cluster.beginRotate.toEvict cfg s.cluster.adaptThresholds.now := by
      intro evicted
      have inner := (to_evict_sublist cfg _ _).subset (List.mem_map_of_mem (f := Prod.fst) evicted)
      rw [(quiet_begin_rotate s.cluster).inner] at inner
      exact passed (List.mem_append_left _ inner)
    rw [if_neg spared, begin_rotate_absent s.cluster manager r managed passed]
    exact blendable

theorem fused_next (cfg : Config) (s after : FusionWatch) (op : Op) (fused : s.Fused) (permitted : FusesOnce cfg s op)
    (taken : s.next cfg op = some after) : after.Fused := by
  intro rotated manager managed r registered stress read
  cases op with
  | rotate =>
      cases taken
      rw [step, rotate_manager] at managed
      have ids : (s.cluster.rotate cfg).idOf = s.cluster.idOf := step_ids cfg s.cluster .rotate
      rw [step, ids] at read
      have before := rotate_members cfg s.cluster registered
      have blended := rotate_fused cfg s permitted manager managed r before stress read
      refine ⟨blended, ?_⟩
      intro temperatures settled
      simp only [Option.mem_def] at settled
      split at settled
      · rename_i again
        cases settled
        exact blended.trans (fused again manager managed r before stress read).1.symm
      · cases settled
  | recordLatency | recordStreaming | canaryProbe | updateTemperature | batchRecordLatency | setMetrics
  | recordHardwareTelemetry => cases taken; cases rotated
  | _ => cases taken

abbrev FusionRun (cfg : Config) (allowed : FusionWatch → Op → Prop) := Runs.Run (FusionWatch.next cfg) allowed

-- In a run whose rotations blend scores that nothing else has blended yet, every
-- rotation ends at the documented blend, and repeating it changes nothing.
theorem fusion_not_compounding (cfg : Config) (c : Cluster) (ops : List Op) (s : FusionWatch)
    (run : FusionRun cfg (FusesOnce cfg) (.fresh c) ops s) :
    s.Fused ∧ ∀ r, s.mixed r = false → s.cluster.temperatureOf r = s.smoothed r := by
  refine Runs.run_invariant (FusionWatch.next cfg) (FusesOnce cfg) (fun s => s.Fused ∧ Agree s) ?_ _ s ops ?_ run
  · exact fun state op after before permitted taken =>
      ⟨fused_next cfg state after op before.1 permitted taken, agree_next cfg state after op before.2 taken⟩
  · exact ⟨fun rotated => (by cases rotated), fun _ _ => rfl⟩

def sensedStart (cfg : Config) : Cluster :=
  (Cluster.empty cfg (fun r => { id := toString r }) none none
    (some { sensorWeight := 35 / 100, weightLow := by norm_num, weightHigh := by norm_num })
    ⟨fun ticks => ticks, 0⟩).addServer cfg 0 true

-- The server is idle, so the law asks for 0.35 of its stress 0.7, which is what the
-- telemetry call left; each rotation then blends the stress in once more.
theorem fusion_compounds : ∃ first ∈ Runs.follow (FusionWatch.next smallestRing) (fun _ _ => True) (.fresh (sensedStart smallestRing))
      [.recordHardwareTelemetry "0" { cpuTempC := 85 }, .rotate],
    ∃ second ∈ FusionWatch.next smallestRing first .rotate, ¬ first.Fused ∧ first.smoothed 0 = 0 ∧
      effective (35 / 100) 0 (7 / 10) = 245 / 1000 ∧ first.cluster.temperatureOf 0 = 4042 / 10000 ∧
        second.cluster.temperatureOf 0 = 5077 / 10000 := by
  refine ⟨_, rfl, _, rfl, ?_, by decide +kernel⟩
  intro fused
  have blended := (fused rfl _ rfl 0 (by decide +kernel) (7 / 10) (by decide +kernel)).1
  exact absurd blended (by decide +kernel)

instance (cfg : Config) (s : FusionWatch) (manager : HardwareTelemetryManager) (r : Ref) (stress : ℚ) :
    Decidable (s.Blendable cfg manager r stress) :=
  inferInstanceAs (Decidable (if r ∈ s.cluster.innerRing ++ s.cluster.outerRing then _ else _))

instance (cfg : Config) (s : FusionWatch) (op : Op) : Decidable (FusesOnce cfg s op) :=
  match op with
  | .rotate => inferInstanceAs (Decidable (∀ manager ∈ s.cluster.hardwareManager, ∀ r ∈ s.cluster.allServers,
      ∀ stress ∈ manager.thermalStress.get? (s.cluster.idOf r), s.Blendable cfg manager r stress))
  | .addServer .. | .removeServer .. | .forceEvict .. | .checkDrainingServers | .updateRamps | .getServer ..
  | .getServerContext .. | .requestWithRetry .. | .setMetrics .. | .updateTemperature .. | .recordLatency ..
  | .batchRecordLatency .. | .recordTokens .. | .recordStreaming .. | .canaryProbe .. | .loadState ..
  | .recordHardwareTelemetry .. | .startTrafficRamp .. | .stopTrafficRamp .. | .clearAffinity .. | .triggerRemediation ..
  | .clearRemediationQuarantine .. => isTrue trivial

def unsmoothed : Config := { smallestRing with emaAlpha := 1, emaRange := by norm_num }

def sensedRun : List Op :=
  [.recordHardwareTelemetry "0" { cpuTempC := 85 }, .recordLatency 0 900, .rotate, .batchRecordLatency [(0, 300), (0, 700)], .rotate]

-- Without smoothing every measurement overwrites what the fusion left.
theorem fusion_not_compounding_unsmoothed :
    ∃ s ∈ Runs.follow (FusionWatch.next unsmoothed) (FusesOnce unsmoothed) (.fresh (sensedStart unsmoothed)) sensedRun, s.Fused := by
  have taken : (Runs.follow (FusionWatch.next unsmoothed) (FusesOnce unsmoothed) (.fresh (sensedStart unsmoothed))
      sensedRun).isSome = true := by decide +kernel
  obtain ⟨s, reached⟩ := Option.isSome_iff_exists.mp taken
  exact ⟨s, reached, (fusion_not_compounding unsmoothed _ sensedRun s (Runs.follow_run _ _ _ s _ reached)).1⟩

end HuddleCluster.Ring
