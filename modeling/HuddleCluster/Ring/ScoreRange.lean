import HuddleCluster.Ring.ErrorRate
import HuddleCluster.Ring.Trails

set_option autoImplicit false

namespace HuddleCluster.Ring

open Statistics Cluster

structure InRange (s : Server) : Prop where
  low : 0 ≤ s.temperature
  high : s.temperature ≤ 1
  counted : s.metrics.totalTokensProcessed = s.metrics.promptTokens + s.metrics.completionTokens

def Cluster.Scored (c : Cluster) : Prop := ∀ r, InRange (c.objects r)

theorem scored_same (c d : Cluster) (scored : c.Scored) (same : d.objects = c.objects) : d.Scored := by
  intro r
  rw [same]
  exact scored r

theorem scored_modify (c : Cluster) (r : Ref) (f : Server → Server) (scored : c.Scored)
    (kept : InRange (c.objects r) → InRange (f (c.objects r))) : (c.modify r f).Scored := by
  intro x
  rw [modify_objects]
  split
  · exact kept (scored r)
  · exact scored x

theorem scored_foldl {β : Type} (f : Cluster → β → Cluster) (kept : ∀ c item, c.Scored → (f c item).Scored) (items : List β)
    (c : Cluster) (scored : c.Scored) : (items.foldl f c).Scored := by
  induction items generalizing c with
  | nil => exact scored
  | cons item tail ih => exact ih (f c item) (kept c item scored)

theorem raw_score_range (m : ServerMetrics) : 0 ≤ Server.rawScore m ∧ Server.rawScore m ≤ 1 :=
  ⟨le_max_left _ _, max_le zero_le_one (min_le_left _ _)⟩

theorem in_range_update (s : Server) (sound : InRange s) : InRange s.updateTemperature := by
  have range := MovingAverage.smooth_between s.emaAlpha 0 1 (Server.rawScore s.metrics) s.temperature s.emaPos.le s.emaLe
    (raw_score_range s.metrics) ⟨sound.low, sound.high⟩
  exact ⟨range.1, range.2, sound.counted⟩

theorem fuse_range (manager : HardwareTelemetryManager) (serverId : String) (temperature : ℚ)
    (low : 0 ≤ temperature) (high : temperature ≤ 1) :
    0 ≤ manager.fuseTemperature serverId temperature ∧ manager.fuseTemperature serverId temperature ≤ 1 := by
  unfold HardwareTelemetryManager.fuseTemperature
  split
  · exact ⟨low, high⟩
  · rename_i stress _
    obtain ⟨low, high⟩ := HardwareTelemetryManager.unit_range
      ((1 - manager.sensorWeight) * temperature + manager.sensorWeight * stress)
    exact round_to_unit 4 _ low high

theorem scored_modify_metrics (c : Cluster) (r : Ref) (f : ServerMetrics → ServerMetrics) (scored : c.Scored)
    (kept : ∀ m : ServerMetrics, m.totalTokensProcessed = m.promptTokens + m.completionTokens →
      (f m).totalTokensProcessed = (f m).promptTokens + (f m).completionTokens) : (c.modifyMetrics r f).Scored :=
  scored_modify c r _ scored fun sound => ⟨sound.low, sound.high, kept _ sound.counted⟩

theorem scored_update (c : Cluster) (r : Ref) (scored : c.Scored) : (c.updateTemperature r).Scored :=
  scored_modify c r _ scored (in_range_update _)

theorem scored_feed (c : Cluster) (scored : c.Scored) : c.feedP95.Scored := by
  rw [feed_p95_spec]
  exact scored

theorem scored_sample (c : Cluster) (r : Ref) (latencyMs : ℚ) (scored : c.Scored) :
    (c.modifyMetrics r fun m => m.recordLatency latencyMs).Scored :=
  scored_modify_metrics c r _ scored fun _ counted => counted

theorem scored_rescore (c : Cluster) (r : Ref) (baseline : ℚ) (scored : c.Scored) :
    ((c.modifyMetrics r fun m => m.updateLatencyAnomaly baseline).updateTemperature r).Scored :=
  scored_update _ r (scored_modify_metrics c r _ scored fun _ counted => counted)

theorem scored_record_latency (c : Cluster) (r : Ref) (latencyMs : ℚ) (scored : c.Scored) :
    (c.recordLatency r latencyMs).Scored :=
  scored_feed _ (scored_rescore _ r _ (scored_sample c r latencyMs scored))

theorem scored_batch (c : Cluster) (measurements : List (Ref × ℚ)) (scored : c.Scored) :
    (c.batchRecordLatency measurements).Scored := by
  have sampled := scored_foldl (fun state entry => state.modifyMetrics entry.1 fun m => m.recordLatency entry.2)
    (fun state entry => scored_sample state entry.1 entry.2) measurements c scored
  exact scored_feed _ (scored_foldl _ (fun state entry => scored_rescore state entry.1 _) measurements _ sampled)

theorem streaming_tokens (m : ServerMetrics) (ttftMs : ℚ) (itlMs : Option ℚ) :
    (m.recordStreamingLatency ttftMs itlMs).totalTokensProcessed = m.totalTokensProcessed ∧
      (m.recordStreamingLatency ttftMs itlMs).promptTokens = m.promptTokens ∧
      (m.recordStreamingLatency ttftMs itlMs).completionTokens = m.completionTokens := by
  simp only [ServerMetrics.recordStreamingLatency]
  by_cases first : 0 < ttftMs
  · cases itlMs with
    | none => simp only [if_pos first, and_self]
    | some itl => by_cases next : 0 < itl <;> simp only [if_pos first, next, if_true, if_false, and_self]
  · cases itlMs with
    | none => simp only [if_neg first, and_self]
    | some itl => by_cases next : 0 < itl <;> simp only [if_neg first, next, if_true, if_false, and_self]

theorem scored_streaming (c : Cluster) (r : Ref) (ttftMs : ℚ) (itlMs totalLatencyMs : Option ℚ) (scored : c.Scored) :
    (c.recordStreaming r ttftMs itlMs totalLatencyMs).Scored := by
  refine scored_record_latency _ r _ (scored_modify_metrics c r _ scored ?_)
  intro m counted
  obtain ⟨total, prompt, completion⟩ := streaming_tokens m ttftMs itlMs
  rw [total, prompt, completion, counted]

theorem scored_error (c : Cluster) (r : Ref) (scored : c.Scored) : (c.modifyMetrics r ServerMetrics.recordError).Scored :=
  scored_modify_metrics c r _ scored fun _ counted => counted

theorem scored_penalise (c : Cluster) (r : Ref) (scored : c.Scored) : (c.penalise r).Scored := by
  refine scored_update _ r (scored_modify_metrics c r _ scored ?_)
  intro m counted
  simp only
  split <;> exact counted

theorem scored_outcome (c : Cluster) (r : Ref) (outcome : Outcome) (elapsedMs : ℚ) (scored : c.Scored) :
    (c.recordOutcome r outcome elapsedMs).Scored := by
  have timed := scored_record_latency c r elapsedMs scored
  cases outcome with
  | success => exact timed
  | notRetryable => exact timed
  | failure => exact scored_penalise _ r timed

theorem scored_canary (cfg : Config) (c : Cluster) (r : Ref) (answer : Option (Bool × ℚ)) (scored : c.Scored) :
    (c.canaryProbe cfg r answer).Scored := by
  simp only [canaryProbe]
  split
  · exact scored_record_latency c r _ scored
  · exact scored_record_latency _ r _ (scored_error c r scored)
  · exact scored_record_latency _ r _ (scored_error c r scored)

theorem scored_get_server (c : Cluster) (affinityKey : Option String) (draw : ℚ) (scored : c.Scored) :
    (c.getServer affinityKey draw).2.Scored :=
  scored_same c _ scored (get_server_objects c affinityKey draw)

theorem scored_context (c : Cluster) (affinityKey : Option String) (draw : ℚ) (raised : Bool) (elapsedMs : ℚ)
    (scored : c.Scored) : (c.getServerContext affinityKey draw raised elapsedMs).Scored :=
  served_context Cluster.Scored scored_get_server scored_outcome c affinityKey draw raised elapsedMs scored

theorem scored_request (c : Cluster) (affinityKey : Option String) (draw : ℚ) (attempts : List (Outcome × ℚ))
    (scored : c.Scored) : (c.requestWithRetry affinityKey draw attempts).Scored := by
  apply served_request Cluster.Scored scored_get_server _ scored_outcome c affinityKey draw attempts scored
  exact fun d excludedIds held => scored_same d _ held (get_excluding_objects d excludedIds)

theorem scored_record_eviction (c : Cluster) (r : Ref) (scored : c.Scored) : (c.recordEviction r).Scored := by
  obtain ⟨_, treated⟩ := record_eviction_treats c r
  exact scored_same c _ scored (by rw [treated])

theorem scored_complete_eviction (c : Cluster) (r : Ref) (scored : c.Scored) : (c.completeEviction r).Scored := by
  have moved := scored_modify c.tick r (fun s => { s with position := .outer, lastRotated := c.now }) scored
    fun sound => ⟨sound.low, sound.high, sound.counted⟩
  exact scored_record_eviction _ r moved

theorem in_range_evicted (now : ℚ) (reason : EvictionReason) (s : Server) (sound : InRange s) :
    InRange (markEvicted now reason s) := by
  refine ⟨?_, ?_, sound.counted⟩
  · simp only [markEvicted]
    split
    · exact sound.low.trans (le_max_left _ _)
    · exact sound.low
  · simp only [markEvicted]
    split
    · exact max_le sound.high (by norm_num)
    · exact sound.high

theorem scored_move_outer (cfg : Config) (c : Cluster) (r : Ref) (reason : EvictionReason) (scored : c.Scored) :
    (c.moveToOuter cfg r reason).Scored := by
  have left : (c.leaveInner r reason).Scored :=
    scored_modify c.tick r (markEvicted c.now reason) scored (in_range_evicted c.now reason _)
  simp only [moveToOuter]
  split
  · exact scored_modify (c.leaveInner r reason) r (fun s => { s with position := .draining }) left
      fun sound => ⟨sound.low, sound.high, sound.counted⟩
  · exact scored_complete_eviction _ r left

theorem scored_recovery (c : Cluster) (r : Ref) (scored : c.Scored) : (c.recordRecovery r).Scored := by
  have counted := scored_modify c r (fun s => { s with consecutiveEvictions := 0 }) scored
    fun sound => ⟨sound.low, sound.high, sound.counted⟩
  unfold recordRecovery
  split
  · exact counted
  · exact scored

theorem scored_move_inner (c : Cluster) (r : Ref) (scored : c.Scored) : (c.moveToInner r).Scored := by
  have marked := scored_modify c.tick r (markPromoted c.now) scored fun sound => ⟨sound.low, sound.high, sound.counted⟩
  exact scored_recovery _ r marked

theorem scored_pop (c : Cluster) (r : Ref) (popped : Cluster) (taken : c.popOuter = some (r, popped)) (scored : c.Scored) :
    popped.Scored := by
  simp only [popOuter, Option.map_eq_some_iff, Prod.mk.injEq] at taken
  obtain ⟨_, _, _, rfl⟩ := taken
  exact scored

theorem scored_begin_rotate (c : Cluster) (scored : c.Scored) : c.beginRotate.Scored := by
  have adapted : c.adaptThresholds.Scored := by
    unfold adaptThresholds
    split <;> exact scored
  unfold beginRotate fuseTemperatures
  split
  · exact adapted
  · rename_i manager _
    refine scored_foldl _ ?_ _ c.adaptThresholds.tick adapted
    intro state r held
    refine scored_modify state r
      (fun s => { s with temperature := manager.fuseTemperature s.id s.temperature }) held fun sound => ?_
    have fused := fuse_range manager (state.objects r).id (state.objects r).temperature sound.low sound.high
    exact ⟨fused.1, fused.2, sound.counted⟩

theorem scored_promoted (c popped : Cluster) (r : Ref) (taken : c.popOuter = some (r, popped)) (scored : c.Scored) :
    (popped.moveToInner r).Scored := scored_move_inner popped r (scored_pop c r popped taken scored)

theorem scored_links (cfg : Config) : Links cfg fun c d => c.Scored → d.Scored where
  begun := scored_begin_rotate
  ticked _ scored := scored
  waited _ scored := scored
  evicted c r reason _ := scored_move_outer cfg c r reason
  circuit c r scored := by
    obtain ⟨_, treated⟩ := open_circuit_treats c r
    exact scored_same c _ scored (by rw [treated])
  stale c scored := by
    obtain ⟨_, treated⟩ := stale_treats c
    exact scored_same c _ scored (by rw [treated])
  drained c serverId drain _ := scored_complete_eviction { c with drainingServers := c.drainingServers.erase serverId } drain.server
  promoted c r popped _ _ taken := scored_promoted c.tick.tick popped r taken

theorem scored_rotate (cfg : Config) (c : Cluster) : c.Scored → (c.rotate cfg).Scored :=
  rotate_related cfg (fun c d => c.Scored → d.Scored) (fun _ => id) (fun _ _ _ before after => after ∘ before) (scored_links cfg) c

theorem scored_drains (cfg : Config) (c : Cluster) : c.Scored → (c.checkDrainingServers cfg).Scored :=
  check_related cfg (fun c d => c.Scored → d.Scored) (fun _ => id) (fun _ _ _ before after => after ∘ before) (scored_links cfg) c

theorem scored_pull (cfg : Config) (fuel : Nat) (c : Cluster) : c.Scored → (c.pullFromOuter cfg fuel).Scored :=
  refill_related cfg (fun c d => c.Scored → d.Scored) (fun _ => id) (fun _ _ _ before after => after ∘ before)
    (fun c r popped taken => scored_promoted c popped r taken) fuel c

theorem scored_add (cfg : Config) (c : Cluster) (r : Ref) (forceInner : Bool) (scored : c.Scored) :
    (c.addServer cfg r forceInner).Scored := by
  have enrolled := scored_modify c r
    (fun s => { s with emaAlpha := cfg.emaAlpha, emaPos := cfg.emaRange.1, emaLe := cfg.emaRange.2 }) scored
    fun sound => ⟨sound.low, sound.high, sound.counted⟩
  unfold addServer
  generalize c.modify r
    (fun s => { s with emaAlpha := cfg.emaAlpha, emaPos := cfg.emaRange.1, emaLe := cfg.emaRange.2 }) = e at *
  have placed (position : Position) := scored_modify e r (fun s => { s with position := position }) enrolled
    fun sound => ⟨sound.low, sound.high, sound.counted⟩
  simp only
  split
  · exact scored_modify e.tick r (fun s => { s with coldUntil := e.now + cfg.coldStartSec, position := .outer }) enrolled
      fun sound => ⟨sound.low, sound.high, sound.counted⟩
  · split
    · exact placed .inner
    · exact placed .outer

theorem scored_remove (cfg : Config) (c : Cluster) (serverId : String) (scored : c.Scored) :
    (c.removeServer cfg serverId).1.Scored := by
  unfold removeServer
  split
  · exact scored_pull cfg _ _ scored
  · split <;> exact scored

theorem scored_force_evict (cfg : Config) (c : Cluster) (serverId : String) (scored : c.Scored) :
    (c.forceEvict cfg serverId).1.Scored := by
  unfold forceEvict
  split
  · exact scored
  · exact scored_move_outer cfg c _ _ scored

theorem scored_hardware (c : Cluster) (serverId : String) (reading : HardwareReading) (scored : c.Scored) :
    (c.recordHardwareTelemetry serverId reading).Scored := by
  unfold recordHardwareTelemetry
  split
  · exact scored
  · rename_i manager _
    simp only
    split
    · exact scored
    · rename_i r _
      refine scored_modify { c with hardwareManager := some (manager.recordTelemetry serverId reading) } r
        (fun s => { s with temperature := (manager.recordTelemetry serverId reading).fuseTemperature s.id s.temperature })
        scored fun sound => ?_
      have fused := fuse_range (manager.recordTelemetry serverId reading) (c.objects r).id (c.objects r).temperature
        sound.low sound.high
      exact ⟨fused.1, fused.2, sound.counted⟩

theorem scored_set_weight (c : Cluster) (r : Ref) (ramp : TrafficRamp) (scored : c.Scored) : (c.setWeight r ramp).Scored :=
  scored_modify c r _ scored fun sound => ⟨sound.low, sound.high, sound.counted⟩

theorem scored_ramps (c : Cluster) (scored : c.Scored) : c.updateRamps.Scored := by
  unfold updateRamps
  refine scored_foldl _ ?_ _ { c with monotonic := _ } scored
  intro state timed held
  unfold finishRamp
  simp only
  split
  · exact held
  · exact scored_set_weight { state with ramps := _ } _ _ held

theorem scored_start_ramp (c : Cluster) (serverId : String) (initialWeight targetWeight rampSec : ℚ) (scored : c.Scored) :
    (c.startTrafficRamp serverId initialWeight targetWeight rampSec).Scored := by
  unfold startTrafficRamp
  split
  · split <;> exact scored
  · exact scored

theorem scored_stop_ramp (c : Cluster) (serverId : String) (scored : c.Scored) : (c.stopTrafficRamp serverId).Scored := by
  unfold stopTrafficRamp
  split
  · exact scored
  · simp only
    split
    · exact scored
    · exact scored_set_weight { c with ramps := _ } _ _ scored

def tokenCounts (m : ServerMetrics) : Int × Int × Int := (m.totalTokensProcessed, m.promptTokens, m.completionTokens)

-- Everything a cluster does, but for the two ways a temperature or a token
-- counter is assigned from outside: a state file is not loaded, and whoever
-- writes the metrics leaves the counters alone.
def scoreNext (cfg : Config) (c : Cluster) (op : Op) : Option Cluster :=
  match op with
  | .loadState _ => none
  | .setMetrics r metrics =>
      if tokenCounts metrics = tokenCounts (c.objects r).metrics then some (step cfg c op) else none
  | _ => some (step cfg c op)

def SameSign (promptTokens completionTokens : Int) : Prop :=
  (0 ≤ promptTokens ∧ 0 ≤ completionTokens) ∨ (promptTokens ≤ 0 ∧ completionTokens ≤ 0)

-- The server has the heat that a negative penalty takes away.
def Payable (cfg : Config) (c : Cluster) (r : Ref) (totalTokens : Int) : Prop :=
  0 ≤ c.temperatureOf r + totalTokens * max 0 cfg.llmTokenCostMultiplier

def TokensFit (cfg : Config) (c : Cluster) : Op → Prop
  | .recordTokens r promptTokens completionTokens applyThermalPenalty =>
      SameSign promptTokens completionTokens ∧
        ((applyThermalPenalty && cfg.llmRoutingEnabled) = true → Payable cfg c r (promptTokens + completionTokens))
  | _ => True

theorem same_sign_iff (p q : Int) : max 0 (p + q) = max 0 p + max 0 q ↔ SameSign p q := by
  unfold SameSign
  omega

theorem record_tokens_others (cfg : Config) (c : Cluster) (r x : Ref) (p q : Int) (apply : Bool) (other : x ≠ r) :
    (c.recordTokens cfg r p q apply).objects x = c.objects x := by
  simp only [recordTokens]
  split <;> simp [modifyMetrics, other]

theorem record_tokens_metrics (cfg : Config) (c : Cluster) (r : Ref) (p q : Int) (apply : Bool) :
    ((c.recordTokens cfg r p q apply).objects r).metrics = (c.objects r).metrics.recordTokens p q := by
  simp only [recordTokens]
  split <;> simp [modifyMetrics]

theorem record_tokens_temperature (cfg : Config) (c : Cluster) (r : Ref) (p q : Int) (apply : Bool) :
    ((c.recordTokens cfg r p q apply).objects r).temperature =
      if (apply && cfg.llmRoutingEnabled) = true then
        min 1 (c.temperatureOf r + min (1 / 2) (((p + q : Int) : ℚ) * max 0 cfg.llmTokenCostMultiplier))
      else c.temperatureOf r := by
  simp only [recordTokens]
  split <;> simp [modifyMetrics, temperatureOf]

-- The penalty is bounded from above only: one half of heat more never brings a
-- temperature below zero, a negative penalty may.
theorem heated_low_iff (temperature heat : ℚ) (low : 0 ≤ temperature) :
    0 ≤ min 1 (temperature + min (1 / 2) heat) ↔ 0 ≤ temperature + heat := by
  rw [le_min_iff, ← min_add_add_left, le_min_iff]
  constructor
  · exact fun bounds => bounds.2.2
  · exact fun enough => ⟨zero_le_one, by linarith, enough⟩

theorem record_tokens_scored (cfg : Config) (c : Cluster) (r : Ref) (p q : Int) (apply : Bool) (scored : c.Scored) :
    (c.recordTokens cfg r p q apply).Scored ↔ TokensFit cfg c (.recordTokens r p q apply) := by
  have counted : ((c.recordTokens cfg r p q apply).objects r).metrics.totalTokensProcessed =
      ((c.recordTokens cfg r p q apply).objects r).metrics.promptTokens +
        ((c.recordTokens cfg r p q apply).objects r).metrics.completionTokens ↔ SameSign p q := by
    have before := (scored r).counted
    rw [record_tokens_metrics, ← same_sign_iff]
    simp only [ServerMetrics.recordTokens]
    omega
  have heat := record_tokens_temperature cfg c r p q apply
  have start : 0 ≤ c.temperatureOf r := (scored r).low
  constructor
  · intro after
    refine ⟨counted.mp (after r).counted, fun heated => ?_⟩
    have low := (after r).low
    rw [heat, if_pos heated, heated_low_iff _ _ start] at low
    exact low
  · intro fit x
    by_cases here : x = r
    · subst here
      refine ⟨?_, ?_, counted.mpr fit.1⟩
      · rw [heat]
        split
        · rename_i heated
          exact (heated_low_iff _ _ start).mpr (fit.2 heated)
        · exact start
      · rw [heat]
        split
        · exact min_le_left 1 _
        · exact (scored x).high
    · rw [record_tokens_others cfg c r x p q apply here]
      exact scored x

theorem score_step (cfg : Config) (c d : Cluster) (op : Op) (scored : c.Scored) (taken : scoreNext cfg c op = some d) :
    d.Scored ↔ TokensFit cfg c op := by
  have kept (after : Cluster) (sound : after.Scored) (reached : some after = some d) : d.Scored ↔ True := by
    cases reached
    exact iff_true_intro sound
  cases op with
  | addServer r forceInner => exact kept _ (scored_add cfg c r forceInner scored) taken
  | removeServer serverId => exact kept _ (scored_remove cfg c serverId scored) taken
  | forceEvict serverId => exact kept _ (scored_force_evict cfg c serverId scored) taken
  | rotate => exact kept _ (scored_rotate cfg c scored) taken
  | checkDrainingServers => exact kept _ (scored_drains cfg c scored) taken
  | updateRamps => exact kept _ (scored_ramps c scored) taken
  | getServer affinityKey draw => exact kept _ (scored_get_server c affinityKey draw scored) taken
  | getServerContext affinityKey draw raised elapsedMs =>
      exact kept _ (scored_context c affinityKey draw raised elapsedMs scored) taken
  | requestWithRetry affinityKey draw attempts => exact kept _ (scored_request c affinityKey draw attempts scored) taken
  | setMetrics r metrics =>
      simp only [scoreNext] at taken
      split at taken
      · rename_i same
        refine kept _ (scored_modify c r (fun s => { s with metrics := metrics }) scored fun sound =>
          ⟨sound.low, sound.high, ?_⟩) taken
        simp only [tokenCounts, Prod.mk.injEq] at same
        rw [same.1, same.2.1, same.2.2]
        exact sound.counted
      · cases taken
  | updateTemperature r => exact kept _ (scored_update c r scored) taken
  | recordLatency r latencyMs => exact kept _ (scored_record_latency c r latencyMs scored) taken
  | batchRecordLatency measurements => exact kept _ (scored_batch c measurements scored) taken
  | recordTokens r p q apply =>
      cases taken
      exact record_tokens_scored cfg c r p q apply scored
  | recordStreaming r ttftMs itlMs totalLatencyMs => exact kept _ (scored_streaming c r ttftMs itlMs totalLatencyMs scored) taken
  | canaryProbe r answer => exact kept _ (scored_canary cfg c r answer scored) taken
  | loadState serversData => cases taken
  | recordHardwareTelemetry serverId reading => exact kept _ (scored_hardware c serverId reading scored) taken
  | startTrafficRamp serverId initialWeight targetWeight rampSec =>
      exact kept _ (scored_start_ramp c serverId initialWeight targetWeight rampSec scored) taken
  | stopTrafficRamp serverId => exact kept _ (scored_stop_ramp c serverId scored) taken
  | clearAffinity key => exact kept _ (by cases key <;> exact scored) taken
  | triggerRemediation serverId policy => exact kept (c.triggerRemediation serverId policy) scored taken
  | clearRemediationQuarantine serverId => exact kept (c.clearRemediationQuarantine serverId) scored taken

-- Whatever the servers live through, only record_tokens can push a temperature
-- or a counter out of its range, and it does exactly when the counts do not fit.
theorem scores_in_range_iff (cfg : Config) (start last : Cluster) (ops : List Op) (scored : start.Scored)
    (run : Runs.Run (scoreNext cfg) (fun _ _ => True) start ops last) :
    (Runs.Always (scoreNext cfg) start ops Cluster.Scored ↔ Runs.Run (scoreNext cfg) (TokensFit cfg) start ops last) ∧
      ∀ (factor temperature : ℚ) (m : ServerMetrics), 0 ≤ factor → factor ≤ 1 → 0 ≤ temperature → temperature ≤ 1 →
        0 ≤ MovingAverage.smooth factor (Server.rawScore m) temperature ∧
          MovingAverage.smooth factor (Server.rawScore m) temperature ≤ 1 := by
  constructor
  · exact Runs.run_always (scoreNext cfg) (TokensFit cfg) (fun _ => True) Cluster.Scored (fun _ _ _ _ _ => trivial)
      (fun state op after _ held taken => score_step cfg state after op held taken) start last ops trivial scored run
  · intro factor temperature m factorLow factorHigh low high
    exact MovingAverage.smooth_between factor 0 1 _ temperature factorLow factorHigh (raw_score_range m) ⟨low, high⟩

def llmConfig : Config := { smallestRing with llmRoutingEnabled := true }

def llmCluster : Cluster := .empty llmConfig (fun r => { id := toString r }) none none none ⟨fun ticks => ticks, 0⟩

theorem llm_scored : llmCluster.Scored := fun _ => ⟨le_refl 0, zero_le_one, rfl⟩

-- A negative count is dropped from its own counter but not from the sum, and
-- one that is penalised cools a server below zero.
theorem scores_leave_range : llmCluster.Scored ∧
    (∃ s ∈ Runs.follow (scoreNext llmConfig) (fun _ _ => True) llmCluster [.addServer 0 true, .recordTokens 0 5 (-3) false],
      (s.objects 0).metrics.totalTokensProcessed = 2 ∧
        (s.objects 0).metrics.promptTokens + (s.objects 0).metrics.completionTokens = 5) ∧
    ∃ s ∈ Runs.follow (scoreNext llmConfig) (fun _ _ => True) llmCluster [.addServer 0 true, .recordTokens 0 (-2000) 0 true],
      s.temperatureOf 0 = -1 :=
  ⟨llm_scored, ⟨_, rfl, by decide +kernel⟩, ⟨_, rfl, by decide +kernel⟩⟩

instance (cfg : Config) (c : Cluster) (op : Op) : Decidable (TokensFit cfg c op) :=
  match op with
  | .recordTokens r p q apply => inferInstanceAs (Decidable (((0 ≤ p ∧ 0 ≤ q) ∨ (p ≤ 0 ∧ q ≤ 0)) ∧
      ((apply && cfg.llmRoutingEnabled) = true → 0 ≤ c.temperatureOf r + ((p + q : Int) : ℚ) * max 0 cfg.llmTokenCostMultiplier)))
  | .addServer .. | .removeServer .. | .forceEvict .. | .rotate | .checkDrainingServers | .updateRamps | .getServer ..
  | .getServerContext .. | .requestWithRetry .. | .setMetrics .. | .updateTemperature .. | .recordLatency ..
  | .batchRecordLatency .. | .recordStreaming .. | .canaryProbe .. | .loadState .. | .recordHardwareTelemetry ..
  | .startTrafficRamp .. | .stopTrafficRamp .. | .clearAffinity .. | .triggerRemediation .. | .clearRemediationQuarantine .. =>
      isTrue trivial

def tokensRun : List Op :=
  [.addServer 0 true, .recordTokens 0 400 100 true, .recordLatency 0 900, .recordTokens 0 (-100) 0 true, .rotate]

theorem scores_in_range_after : Runs.Always (scoreNext llmConfig) llmCluster tokensRun Cluster.Scored := by
  have taken : (Runs.follow (scoreNext llmConfig) (TokensFit llmConfig) llmCluster tokensRun).isSome = true := by decide +kernel
  obtain ⟨s, reached⟩ := Option.isSome_iff_exists.mp taken
  have run := Runs.follow_run _ _ _ s _ reached
  exact (scores_in_range_iff llmConfig llmCluster s tokensRun llm_scored (Runs.run_free _ _ _ s _ run)).1.mpr run

end HuddleCluster.Ring
