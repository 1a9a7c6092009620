import HuddleCluster.Ring.Moves

set_option autoImplicit false

namespace HuddleCluster.Ring

-- What holds between a cluster and the cluster after any of the writes a
-- rotation begins with.
structure Tuning (kept : Cluster → Cluster → Prop) : Prop where
  refl : ∀ c, kept c c
  trans : ∀ c d e, kept c d → kept d e → kept c e
  heated : ∀ c r (heat : Server → ℚ), kept c (c.modify r fun s => { s with temperature := heat s })
  tuned : ∀ c heatThreshold coolThreshold adaptive p95Window, kept c { c with
    heatThreshold := heatThreshold, coolThreshold := coolThreshold, adaptive := adaptive, p95Window := p95Window }
  read : ∀ c ticks, kept c { c with monotonic := { c.monotonic with ticks := ticks } }

structure Frame (kept : Cluster → Cluster → Prop) : Prop extends Tuning kept where
  metrics : ∀ c r f, kept c (c.modifyMetrics r f)
  weighed : ∀ c r ramp, kept c (c.setWeight r ramp)
  counted : ∀ c tokens requests, kept c { c with totalTokensRouted := tokens, totalLlmRequests := requests }
  ramped : ∀ c ramps, kept c { c with ramps := ramps }
  sensed : ∀ c manager, kept c { c with hardwareManager := manager }

-- For a relation that sees the clock and the ramps, what the same writes do to
-- them: the clock goes on, a ramp ends, and a new ramp starts at the reading taken
-- for it.
structure Onward (kept : Cluster → Cluster → Prop) : Prop where
  refl : ∀ c, kept c c
  trans : ∀ c d e, kept c d → kept d e → kept c e
  heated : ∀ c r (heat : Server → ℚ), kept c (c.modify r fun s => { s with temperature := heat s })
  tuned : ∀ c heatThreshold coolThreshold adaptive p95Window, kept c { c with
    heatThreshold := heatThreshold, coolThreshold := coolThreshold, adaptive := adaptive, p95Window := p95Window }
  waited : ∀ c readings, kept c { c with monotonic := { c.monotonic with ticks := c.monotonic.ticks + readings } }

structure Course (kept : Cluster → Cluster → Prop) : Prop extends Onward kept where
  metrics : ∀ c r f, kept c (c.modifyMetrics r f)
  weighed : ∀ c r ramp, kept c (c.setWeight r ramp)
  counted : ∀ c tokens requests, kept c { c with totalTokensRouted := tokens, totalLlmRequests := requests }
  ended : ∀ c serverId, kept c { c with ramps := c.ramps.erase serverId }
  started : ∀ c serverId ramp, ramp.startTime = c.now → kept c { c.tick with ramps := c.ramps.set serverId ramp }
  sensed : ∀ c manager, kept c { c with hardwareManager := manager }

def Op.routine : Op → Bool
  | .addServer _ _ | .removeServer _ | .forceEvict _ | .rotate | .checkDrainingServers => false
  | _ => true

-- The rest of these choose a server, bind a key, treat a server or read a file.
def Op.plain : Op → Bool
  | .getServer _ _ | .getServerContext _ _ _ _ | .requestWithRetry _ _ _ | .clearAffinity _ => false
  | .triggerRemediation _ _ | .clearRemediationQuarantine _ | .loadState _ => false
  | op => op.routine

theorem Tuning.onward {kept : Cluster → Cluster → Prop} (tuning : Tuning kept) : Onward kept where
  refl := tuning.refl
  trans := tuning.trans
  heated := tuning.heated
  tuned := tuning.tuned
  waited c readings := tuning.read c (c.monotonic.ticks + readings)

theorem Frame.course {kept : Cluster → Cluster → Prop} (frame : Frame kept) : Course kept where
  toOnward := frame.toTuning.onward
  metrics := frame.metrics
  weighed := frame.weighed
  counted := frame.counted
  ended c serverId := frame.ramped c (c.ramps.erase serverId)
  started c serverId ramp _ := frame.trans _ _ _ (frame.read c (c.monotonic.ticks + 1)) (frame.ramped c.tick (c.ramps.set serverId ramp))
  sensed := frame.sensed

theorem frame_weaken {kept held : Cluster → Cluster → Prop} (frame : Frame kept) (weaker : ∀ c d, kept c d → held c d)
    (trans : ∀ c d e, held c d → held d e → held c e) : Frame held where
  refl c := weaker _ _ (frame.refl c)
  trans := trans
  metrics c r f := weaker _ _ (frame.metrics c r f)
  heated c r heat := weaker _ _ (frame.heated c r heat)
  weighed c r ramp := weaker _ _ (frame.weighed c r ramp)
  tuned c heatThreshold coolThreshold adaptive p95Window :=
    weaker _ _ (frame.tuned c heatThreshold coolThreshold adaptive p95Window)
  counted c tokens requests := weaker _ _ (frame.counted c tokens requests)
  ramped c ramps := weaker _ _ (frame.ramped c ramps)
  sensed c manager := weaker _ _ (frame.sensed c manager)
  read c ticks := weaker _ _ (frame.read c ticks)

section Onwards

variable {kept : Cluster → Cluster → Prop} (onward : Onward kept)
include onward

theorem frame_foldl {β : Type} (f : Cluster → β → Cluster) (same : ∀ c item, kept c (f c item)) (items : List β)
    (c : Cluster) : kept c (items.foldl f c) := by
  induction items generalizing c with
  | nil => exact onward.refl c
  | cons item tail ih => exact onward.trans c (f c item) _ (same c item) (ih (f c item))

theorem frame_begin_rotate (c : Cluster) : kept c c.beginRotate := by
  have adapted : kept c c.adaptThresholds := by
    unfold Cluster.adaptThresholds
    split
    · exact onward.refl c
    · have ticked := onward.waited c 1
      exact onward.trans _ _ _ ticked (onward.tuned _ _ _ _ _)
  have begun := onward.trans _ _ _ adapted (onward.waited c.adaptThresholds 1)
  unfold Cluster.beginRotate Cluster.fuseTemperatures
  split
  · exact begun
  · rename_i manager _
    refine onward.trans _ _ _ begun (frame_foldl onward _ (fun state r => ?_) _ _)
    exact onward.heated state r fun s => manager.fuseTemperature s.id s.temperature

end Onwards

section Courses

variable {kept : Cluster → Cluster → Prop} (course : Course kept)
include course

theorem frame_update_temperature (c : Cluster) (r : Ref) : kept c (c.updateTemperature r) :=
  course.heated c r fun s => s.updateTemperature.temperature

theorem frame_rescore (c : Cluster) (r : Ref) (baseline : ℚ) :
    kept c ((c.modifyMetrics r fun m => m.updateLatencyAnomaly baseline).updateTemperature r) :=
  course.trans _ _ _ (course.metrics c r _) (frame_update_temperature course _ r)

theorem frame_feed_p95 (c : Cluster) : kept c c.feedP95 := by
  rw [feed_p95_spec]
  exact course.tuned c _ _ _ _

theorem frame_record_latency (c : Cluster) (r : Ref) (latencyMs : ℚ) : kept c (c.recordLatency r latencyMs) := by
  have sampled := course.metrics c r fun m => m.recordLatency latencyMs
  exact course.trans _ _ _ (course.trans _ _ _ sampled (frame_rescore course _ r _)) (frame_feed_p95 course _)

theorem frame_batch_record_latency (c : Cluster) (measurements : List (Ref × ℚ)) :
    kept c (c.batchRecordLatency measurements) := by
  have sampled := frame_foldl course.toOnward (fun state entry => state.modifyMetrics entry.1 fun m => m.recordLatency entry.2)
    (fun state entry => course.metrics state entry.1 _) measurements c
  have rescored := fun baseline => frame_foldl course.toOnward
    (fun state entry => (state.modifyMetrics entry.1 fun m => m.updateLatencyAnomaly baseline).updateTemperature entry.1)
    (fun state entry => frame_rescore course state entry.1 baseline) measurements
  exact course.trans _ _ _ (course.trans _ _ _ sampled (rescored _ _)) (frame_feed_p95 course _)

theorem frame_record_tokens (cfg : Config) (c : Cluster) (r : Ref) (promptTokens completionTokens : Int) (apply : Bool) :
    kept c (c.recordTokens cfg r promptTokens completionTokens apply) := by
  have counted := course.metrics c r fun m => m.recordTokens promptTokens completionTokens
  have routed := course.trans _ _ _ counted
    (course.counted _ (c.totalTokensRouted + (promptTokens + completionTokens)) (c.totalLlmRequests + 1))
  unfold Cluster.recordTokens
  simp only
  split
  · exact course.trans _ _ _ routed (course.heated _ r fun s => min 1 (s.temperature + _))
  · exact routed

theorem frame_record_outcome (c : Cluster) (r : Ref) (outcome : Cluster.Outcome) (elapsedMs : ℚ) :
    kept c (c.recordOutcome r outcome elapsedMs) := by
  have timed := frame_record_latency course c r elapsedMs
  cases outcome with
  | success => exact timed
  | notRetryable => exact timed
  | failure =>
      refine course.trans _ _ _ timed ?_
      exact course.trans _ _ _ (course.metrics _ r _) (frame_update_temperature course _ r)

theorem frame_canary_probe (cfg : Config) (c : Cluster) (r : Ref) (answer : Option (Bool × ℚ)) :
    kept c (c.canaryProbe cfg r answer) := by
  have counted := course.metrics c r ServerMetrics.recordError
  have failed (latencyMs : ℚ) := course.trans _ _ _ counted (frame_record_latency course _ r latencyMs)
  unfold Cluster.canaryProbe
  split
  · exact frame_record_latency course c r _
  · exact failed _
  · exact failed _

theorem frame_record_hardware (c : Cluster) (serverId : String) (reading : HardwareReading) :
    kept c (c.recordHardwareTelemetry serverId reading) := by
  unfold Cluster.recordHardwareTelemetry
  split
  · exact course.refl c
  · rename_i manager _
    have stored := course.sensed c (some (manager.recordTelemetry serverId reading))
    simp only
    split
    · exact stored
    · exact course.trans _ _ _ stored
        (course.heated _ _ fun s => (manager.recordTelemetry serverId reading).fuseTemperature s.id s.temperature)

theorem frame_update_ramps (c : Cluster) : kept c c.updateRamps := by
  have finished (state : Cluster) (serverId : String) (ramp : TrafficRamp) : kept state (state.finishRamp serverId ramp) := by
    have erased := course.ended state serverId
    unfold Cluster.finishRamp
    simp only
    split
    · exact erased
    · exact course.trans _ _ _ erased (course.weighed _ _ ramp)
  refine course.trans _ _ _ (course.waited c c.ramps.entries.length) ?_
  exact frame_foldl course.toOnward (fun state (timed : (String × TrafficRamp) × ℚ) => state.finishRamp timed.1.1 timed.1.2)
    (fun state timed => finished state timed.1.1 timed.1.2) _ _

theorem frame_start_ramp (c : Cluster) (serverId : String) (initialWeight targetWeight rampSec : ℚ) :
    kept c (c.startTrafficRamp serverId initialWeight targetWeight rampSec) := by
  unfold Cluster.startTrafficRamp
  split
  · split
    · exact course.started c serverId _ rfl
    · exact course.refl c
  · exact course.refl c

theorem frame_stop_ramp (c : Cluster) (serverId : String) : kept c (c.stopTrafficRamp serverId) := by
  unfold Cluster.stopTrafficRamp
  split
  · exact course.refl c
  · have erased := course.ended c serverId
    simp only
    split
    · exact erased
    · exact course.trans _ _ _ erased (course.weighed _ _ _)

theorem frame_plain (cfg : Config) (c : Cluster) (op : Op) (plain : op.plain = true) : kept c (step cfg c op) := by
  cases op with
  | updateRamps => exact frame_update_ramps course c
  | setMetrics r metrics => exact course.metrics c r fun _ => metrics
  | updateTemperature r => exact frame_update_temperature course c r
  | recordLatency r latencyMs => exact frame_record_latency course c r latencyMs
  | batchRecordLatency measurements => exact frame_batch_record_latency course c measurements
  | recordTokens r promptTokens completionTokens apply =>
      exact frame_record_tokens course cfg c r promptTokens completionTokens apply
  | recordStreaming r ttftMs itlMs totalLatencyMs =>
      exact course.trans _ _ _ (course.metrics c r _) (frame_record_latency course _ r _)
  | canaryProbe r answer => exact frame_canary_probe course cfg c r answer
  | recordHardwareTelemetry serverId reading => exact frame_record_hardware course c serverId reading
  | startTrafficRamp serverId initialWeight targetWeight rampSec =>
      exact frame_start_ramp course c serverId initialWeight targetWeight rampSec
  | stopTrafficRamp serverId => exact frame_stop_ramp course c serverId
  | _ => simp [Op.plain, Op.routine] at plain

section Served

variable (chosen : ∀ c affinityKey draw, kept c (Cluster.getServer c affinityKey draw).2)
  (other : ∀ c excludedIds, kept c (Cluster.getServerExcluding c excludedIds).2)

include chosen in
theorem frame_context (c : Cluster) (affinityKey : Option String) (draw : ℚ) (raised : Bool) (elapsedMs : ℚ) :
    kept c (c.getServerContext affinityKey draw raised elapsedMs) := by
  apply Cluster.served_context (kept c) _ _ c affinityKey draw raised elapsedMs (course.refl c)
  · exact fun d key draw held => course.trans _ _ _ held (chosen d key draw)
  · exact fun d r outcome elapsedMs held => course.trans _ _ _ held (frame_record_outcome course d r outcome elapsedMs)

include chosen other in
theorem frame_request (c : Cluster) (affinityKey : Option String) (draw : ℚ) (attempts : List (Cluster.Outcome × ℚ)) :
    kept c (c.requestWithRetry affinityKey draw attempts) := by
  apply Cluster.served_request (kept c) _ _ _ c affinityKey draw attempts (course.refl c)
  · exact fun d key draw held => course.trans _ _ _ held (chosen d key draw)
  · exact fun d excludedIds held => course.trans _ _ _ held (other d excludedIds)
  · exact fun d r outcome elapsedMs held => course.trans _ _ _ held (frame_record_outcome course d r outcome elapsedMs)

end Served

theorem frame_load_state (restored : ∀ c r data, kept c (Cluster.loadServer c r data)) (c : Cluster)
    (serversData : List (String × SavedServer)) : kept c (c.loadState serversData) := by
  unfold Cluster.loadState
  refine frame_foldl course.toOnward _ (fun state entry => ?_) serversData c
  split
  · exact course.refl state
  · exact restored state _ entry.2

end Courses

end HuddleCluster.Ring
