import HuddleCluster.Ring.Registration
import HuddleCluster.Ring.Selection

set_option autoImplicit false

namespace HuddleCluster.Ring

open Cluster

-- What traffic a server is to get: the share of a fixed weight, or that of a ramp.
inductive RoutingPlan where
  | fixed (weight : ℚ)
  | ramping (ramp : TrafficRamp)

def RoutingPlan.weightAt (now : ℚ) : RoutingPlan → ℚ
  | .fixed weight => weight
  | .ramping ramp => ramp.currentWeight now

def RoutingPlan.cancelled : RoutingPlan → RoutingPlan
  | .fixed weight => .fixed weight
  | .ramping ramp => .fixed ramp.targetWeight

-- A cluster with what was ordered for each id: a plan says nothing of how long an entry of
-- a ramp is kept, or when the weight of a server is written.
structure Planned where
  registry : Registry
  plans : String → RoutingPlan

namespace Planned

def cluster (s : Planned) : Cluster := s.registry.cluster

def ordered (s : Planned) : Op → String → RoutingPlan
  | .addServer r _ => Function.update s.plans (s.cluster.idOf r) (.fixed (s.cluster.objects r).weight)
  | .startTrafficRamp serverId initialWeight targetWeight rampSec =>
      if valid : (0 < initialWeight ∧ 0 < targetWeight ∧ 0 ≤ rampSec) ∧
      ∃ r ∈ s.registry.registered, s.cluster.idOf r = serverId then
        Function.update s.plans serverId (.ramping ⟨initialWeight, targetWeight, valid.1.2.1, rampSec, s.cluster.now⟩)
      else s.plans
  | .stopTrafficRamp serverId => Function.update s.plans serverId (s.plans serverId).cancelled
  | _ => s.plans

def next (cfg : Config) (s : Planned) (op : Op) : Option Planned :=
  (s.registry.next cfg op).map fun registry => ⟨registry, s.ordered op⟩

-- No server is added under an id for which a ramp was left behind.
def Permitted (s : Planned) (op : Op) : Prop :=
  s.registry.Permitted op ∧ ∀ r ∈ op.added, (s.cluster.ramps.get? (s.cluster.idOf r)).isNone

instance (s : Planned) (op : Op) : Decidable (s.Permitted op) :=
  inferInstanceAs (Decidable (s.registry.Permitted op ∧ ∀ r ∈ op.added, (s.cluster.ramps.get? (s.cluster.idOf r)).isNone = true))

abbrev PlannedRun (cfg : Config) := Runs.Run (Planned.next cfg) Permitted

end Planned

-- How a cluster holds the plan of a server: as an entry, as the weight of the server, or,
-- once a ramp is over, as the weight it ended with.
inductive Routed (c : Cluster) (plan : RoutingPlan) (r : Ref) : Prop where
  | ramping (ramp : TrafficRamp) (ordered : plan = .ramping ramp) (active : c.ramps.get? (c.idOf r) = some ramp)
  | fixed (weight : ℚ) (ordered : plan = .fixed weight) (idle : c.ramps.get? (c.idOf r) = none)
      (settled : (c.objects r).weight = weight)
  | reached (ramp : TrafficRamp) (ordered : plan = .ramping ramp) (idle : c.ramps.get? (c.idOf r) = none)
      (settled : (c.objects r).weight = ramp.targetWeight) (tick : Nat) (past : tick < c.monotonic.ticks)
      (complete : ramp.isComplete (c.monotonic.reading tick) = true)

structure Planned.Followed (s : Planned) : Prop where
  known : Registered s.registry
  routed : ∀ r ∈ s.registry.registered, Routed s.cluster (s.plans (s.cluster.idOf r)) r

structure SharesKept (c d : Cluster) : Prop where
  ids : d.idOf = c.idOf
  weights : ∀ r, (d.objects r).weight = (c.objects r).weight
  ramps : d.ramps = c.ramps

theorem shares_same (c d : Cluster) (objects : d.objects = c.objects) (ramps : d.ramps = c.ramps) : SharesKept c d := by
  refine ⟨?_, fun r => by rw [objects], ramps⟩
  funext r
  rw [idOf, objects, idOf]

theorem shares_refl (c : Cluster) : SharesKept c c := shares_same c c rfl rfl

theorem shares_trans (c d e : Cluster) (before : SharesKept c d) (after : SharesKept d e) : SharesKept c e :=
  ⟨after.ids.trans before.ids, fun r => (after.weights r).trans (before.weights r), after.ramps.trans before.ramps⟩

theorem shares_modify (c : Cluster) (r : Ref) (f : Server → Server) (sameId : (f (c.objects r)).id = (c.objects r).id)
    (sameWeight : (f (c.objects r)).weight = (c.objects r).weight) : SharesKept c (c.modify r f) := by
  refine ⟨modify_ids c r f sameId, fun x => ?_, rfl⟩
  rw [modify_objects]
  split
  · rename_i same
    rw [same, sameWeight]
  · rfl

theorem shares_ticked (c : Cluster) (r : Ref) (f : Server → Server) (sameId : (f (c.objects r)).id = (c.objects r).id)
    (sameWeight : (f (c.objects r)).weight = (c.objects r).weight) : SharesKept c (c.tick.modify r f) :=
  shares_trans c c.tick _ (shares_same c c.tick rfl rfl) (shares_modify c.tick r f sameId sameWeight)

theorem shares_onward : Onward SharesKept where
  refl := shares_refl
  trans := shares_trans
  heated c r _ := shares_modify c r _ rfl rfl
  tuned c _ _ _ _ := shares_same c _ rfl rfl
  waited c _ := shares_same c _ rfl rfl

theorem shares_metrics (c : Cluster) (r : Ref) (f : ServerMetrics → ServerMetrics) : SharesKept c (c.modifyMetrics r f) :=
  shares_modify c r _ rfl rfl

theorem shares_rescore (c : Cluster) (r : Ref) (baseline : ℚ) :
    SharesKept c ((c.modifyMetrics r fun m => m.updateLatencyAnomaly baseline).updateTemperature r) :=
  shares_trans _ _ _ (shares_metrics c r _) (shares_modify _ r _ rfl rfl)

theorem shares_feed_p95 (c : Cluster) : SharesKept c c.feedP95 := by
  rw [feed_p95_spec]
  exact shares_onward.tuned c _ _ _ _

theorem shares_record_latency (c : Cluster) (r : Ref) (latencyMs : ℚ) : SharesKept c (c.recordLatency r latencyMs) :=
  shares_trans _ _ _ (shares_trans _ _ _ (shares_metrics c r _) (shares_rescore _ r _)) (shares_feed_p95 _)

theorem shares_batch (c : Cluster) (measurements : List (Ref × ℚ)) : SharesKept c (c.batchRecordLatency measurements) := by
  have sampled := frame_foldl shares_onward (fun state entry => state.modifyMetrics entry.1 fun m => m.recordLatency entry.2)
    (fun state entry => shares_metrics state entry.1 _) measurements c
  have rescored := fun baseline => frame_foldl shares_onward
    (fun state entry => (state.modifyMetrics entry.1 fun m => m.updateLatencyAnomaly baseline).updateTemperature entry.1)
    (fun state entry => shares_rescore state entry.1 baseline) measurements
  exact shares_trans _ _ _ (shares_trans _ _ _ sampled (rescored _ _)) (shares_feed_p95 _)

theorem shares_record_tokens (cfg : Config) (c : Cluster) (r : Ref) (promptTokens completionTokens : Int) (apply : Bool) :
    SharesKept c (c.recordTokens cfg r promptTokens completionTokens apply) := by
  have counted : SharesKept c { c.modifyMetrics r fun m => m.recordTokens promptTokens completionTokens with
      totalTokensRouted := c.totalTokensRouted + (promptTokens + completionTokens), totalLlmRequests := c.totalLlmRequests + 1 } :=
    shares_trans _ _ _ (shares_metrics c r fun m => m.recordTokens promptTokens completionTokens) (shares_same _ _ rfl rfl)
  unfold recordTokens
  simp only
  split
  · exact shares_trans _ _ _ counted (shares_onward.heated _ r fun s => min 1 (s.temperature + _))
  · exact counted

theorem shares_record_outcome (c : Cluster) (r : Ref) (outcome : Outcome) (elapsedMs : ℚ) :
    SharesKept c (c.recordOutcome r outcome elapsedMs) := by
  have timed := shares_record_latency c r elapsedMs
  cases outcome with
  | success => exact timed
  | notRetryable => exact timed
  | failure => exact shares_trans _ _ _ timed (shares_trans _ _ _ (shares_metrics _ r _) (shares_modify _ r _ rfl rfl))

theorem shares_canary_probe (cfg : Config) (c : Cluster) (r : Ref) (answer : Option (Bool × ℚ)) :
    SharesKept c (c.canaryProbe cfg r answer) := by
  unfold canaryProbe
  split
  · exact shares_record_latency c r _
  · exact shares_trans _ _ _ (shares_metrics c r _) (shares_record_latency _ r _)
  · exact shares_trans _ _ _ (shares_metrics c r _) (shares_record_latency _ r _)

theorem shares_hardware (c : Cluster) (serverId : String) (reading : HardwareReading) :
    SharesKept c (c.recordHardwareTelemetry serverId reading) := by
  unfold recordHardwareTelemetry
  split
  · exact shares_refl c
  · rename_i manager _
    have stored : SharesKept c { c with hardwareManager := some (manager.recordTelemetry serverId reading) } := shares_same c _ rfl rfl
    simp only
    split
    · exact stored
    · exact shares_trans _ _ _ stored (shares_modify _ _ _ rfl rfl)

theorem shares_get_server (c : Cluster) (affinityKey : Option String) (draw : ℚ) : SharesKept c (c.getServer affinityKey draw).2 := by
  obtain ⟨_, _, _, turned⟩ := c.get_server_turned affinityKey draw
  rw [turned]
  exact shares_same c _ rfl rfl

theorem shares_get_excluding (c : Cluster) (excludedIds : List String) : SharesKept c (c.getServerExcluding excludedIds).2 := by
  obtain ⟨_, turned⟩ := c.get_excluding_turned excludedIds
  rw [turned]
  exact shares_same c _ rfl rfl

theorem shares_complete_eviction (c : Cluster) (r : Ref) : SharesKept c (c.completeEviction r) := by
  obtain ⟨_, treated⟩ := record_eviction_treats
    ((c.tick.modify r fun s => { s with position := .outer, lastRotated := c.now }).pushOuter r) r
  rw [completeEviction, treated]
  exact shares_trans _ _ _ (shares_ticked c r (fun s => { s with position := .outer, lastRotated := c.now }) rfl rfl)
    (shares_same _ _ rfl rfl)

theorem shares_move_to_outer (cfg : Config) (c : Cluster) (r : Ref) (reason : EvictionReason) :
    SharesKept c (c.moveToOuter cfg r reason) := by
  have left : SharesKept c (c.leaveInner r reason) :=
    shares_trans _ _ _ (shares_ticked c r (markEvicted c.now reason) rfl rfl) (shares_same _ _ rfl rfl)
  unfold moveToOuter
  simp only
  split
  · refine shares_trans _ _ _ left (shares_trans _ _ _ (shares_modify _ r (fun s => { s with position := .draining }) rfl rfl) ?_)
    exact shares_same _ _ rfl rfl
  · exact shares_trans _ _ _ left (shares_complete_eviction _ r)

theorem shares_move_to_inner (c : Cluster) (r : Ref) : SharesKept c (c.moveToInner r) := by
  have marked := shares_ticked c r (markPromoted c.now) rfl rfl
  unfold moveToInner recordRecovery
  simp only
  split
  · exact shares_trans _ _ _ marked (shares_trans _ _ _
      (shares_modify _ r (fun s => { s with consecutiveEvictions := 0 }) rfl rfl) (shares_same _ _ rfl rfl))
  · exact shares_trans _ _ _ marked (shares_same _ _ rfl rfl)

theorem shares_pop (c popped : Cluster) (r : Ref) (taken : c.popOuter = some (r, popped)) : SharesKept c (popped.moveToInner r) := by
  simp only [popOuter, Option.map_eq_some_iff, Prod.mk.injEq] at taken
  obtain ⟨⟨item, rest⟩, _, rfl, rfl⟩ := taken
  exact shares_trans c { c with outerRing := rest } _ (shares_same c _ rfl rfl) (shares_move_to_inner _ item)

theorem shares_links (cfg : Config) : Links cfg SharesKept where
  begun c := frame_begin_rotate shares_onward c
  ticked c := shares_same c _ rfl rfl
  waited c := shares_same c _ rfl rfl
  evicted c r reason _ := shares_move_to_outer cfg c r reason
  circuit c r := by
    obtain ⟨_, treated⟩ := open_circuit_treats c r
    exact shares_same c _ (by rw [treated]) (by rw [treated])
  stale c := by
    obtain ⟨_, treated⟩ := stale_treats c
    exact shares_same c _ (by rw [treated]) (by rw [treated])
  drained c serverId drain _ := shares_trans c { c with drainingServers := c.drainingServers.erase serverId } _
    (shares_same c _ rfl rfl) (shares_complete_eviction _ drain.server)
  promoted c r popped _ _ taken := shares_trans c c.tick.tick _ (shares_same c _ rfl rfl) (shares_pop _ popped r taken)

theorem shares_add_server (cfg : Config) (c : Cluster) (r : Ref) (forceInner : Bool) : SharesKept c (c.addServer cfg r forceInner) := by
  have enrolled := shares_modify c r
    (fun s => { s with emaAlpha := cfg.emaAlpha, emaPos := cfg.emaRange.1, emaLe := cfg.emaRange.2 }) rfl rfl
  unfold addServer
  generalize c.modify r (fun s => { s with emaAlpha := cfg.emaAlpha, emaPos := cfg.emaRange.1, emaLe := cfg.emaRange.2 }) = e at *
  simp only
  split
  · exact shares_trans _ _ _ enrolled (shares_trans _ _ _
      (shares_ticked e r (fun s => { s with coldUntil := e.now + cfg.coldStartSec, position := .outer }) rfl rfl) (shares_same _ _ rfl rfl))
  · split
    · exact shares_trans _ _ _ enrolled (shares_trans _ _ _
        (shares_modify e r (fun s => { s with position := .inner }) rfl rfl) (shares_same _ _ rfl rfl))
    · exact shares_trans _ _ _ enrolled (shares_trans _ _ _
        (shares_modify e r (fun s => { s with position := .outer }) rfl rfl) (shares_same _ _ rfl rfl))

theorem shares_remove (cfg : Config) (c : Cluster) (serverId : String) : SharesKept c (c.removeServer cfg serverId).1 := by
  unfold removeServer
  split
  · have erased : SharesKept c { c with innerRing := c.innerRing.eraseP (c.hasId serverId) } := shares_same c _ rfl rfl
    exact shares_trans _ _ _ erased (refill_related cfg SharesKept shares_refl shares_trans
      (fun d r popped taken => shares_pop d popped r taken) _ _)
  · split <;> exact shares_same c _ rfl rfl

def Op.ramps : Op → Bool
  | .updateRamps | .startTrafficRamp _ _ _ _ | .stopTrafficRamp _ => true
  | _ => false

theorem shares_step (cfg : Config) (c : Cluster) (op : Op) (other : op.ramps = false) : SharesKept c (step cfg c op) := by
  cases op with
  | addServer r forceInner => exact shares_add_server cfg c r forceInner
  | removeServer serverId => exact shares_remove cfg c serverId
  | forceEvict serverId =>
      rw [step, forceEvict]
      split
      · exact shares_refl c
      · exact shares_move_to_outer cfg c _ .manual
  | rotate => exact rotate_related cfg SharesKept shares_refl shares_trans (shares_links cfg) c
  | checkDrainingServers => exact check_related cfg SharesKept shares_refl shares_trans (shares_links cfg) c
  | updateRamps => cases other
  | startTrafficRamp => cases other
  | stopTrafficRamp => cases other
  | getServer affinityKey draw => exact shares_get_server c affinityKey draw
  | getServerContext affinityKey draw raised elapsedMs =>
      apply served_context (SharesKept c) _ _ c affinityKey draw raised elapsedMs (shares_refl c)
      · exact fun d key draw held => shares_trans _ _ _ held (shares_get_server d key draw)
      · exact fun d r outcome elapsedMs held => shares_trans _ _ _ held (shares_record_outcome d r outcome elapsedMs)
  | requestWithRetry affinityKey draw attempts =>
      apply served_request (SharesKept c) _ _ _ c affinityKey draw attempts (shares_refl c)
      · exact fun d key draw held => shares_trans _ _ _ held (shares_get_server d key draw)
      · exact fun d excludedIds held => shares_trans _ _ _ held (shares_get_excluding d excludedIds)
      · exact fun d r outcome elapsedMs held => shares_trans _ _ _ held (shares_record_outcome d r outcome elapsedMs)
  | setMetrics r metrics => exact shares_metrics c r fun _ => metrics
  | updateTemperature r => exact shares_modify c r _ rfl rfl
  | recordLatency r latencyMs => exact shares_record_latency c r latencyMs
  | batchRecordLatency measurements => exact shares_batch c measurements
  | recordTokens r promptTokens completionTokens apply => exact shares_record_tokens cfg c r promptTokens completionTokens apply
  | recordStreaming r ttftMs itlMs totalLatencyMs => exact shares_trans _ _ _ (shares_metrics c r _) (shares_record_latency _ r _)
  | canaryProbe r answer => exact shares_canary_probe cfg c r answer
  | loadState serversData =>
      unfold step loadState
      refine frame_foldl shares_onward _ (fun state entry => ?_) serversData c
      split
      · exact shares_refl state
      · exact shares_modify state _ _ rfl rfl
  | recordHardwareTelemetry serverId reading => exact shares_hardware c serverId reading
  | clearAffinity key => cases key <;> exact shares_same c _ rfl rfl
  | triggerRemediation => exact shares_same c _ rfl rfl
  | clearRemediationQuarantine => exact shares_same c _ rfl rfl

theorem routed_kept (c d : Cluster) (plan : RoutingPlan) (r : Ref) (shares : SharesKept c d)
    (readings : d.monotonic.reading = c.monotonic.reading) (ticks : c.monotonic.ticks ≤ d.monotonic.ticks) (routed : Routed c plan r) :
    Routed d plan r := by
  have entry : d.ramps.get? (d.idOf r) = c.ramps.get? (c.idOf r) := by rw [shares.ramps, shares.ids]
  cases routed with
  | ramping ramp ordered active => exact .ramping ramp ordered (entry.trans active)
  | fixed weight ordered idle settled => exact .fixed weight ordered (entry.trans idle) ((shares.weights r).trans settled)
  | reached ramp ordered idle settled tick past complete =>
      exact .reached ramp ordered (entry.trans idle) ((shares.weights r).trans settled) tick (past.trans_le ticks) (readings ▸ complete)

def Apart (c : Cluster) : Prop := ∀ x ∈ c.allServers, ∀ y ∈ c.allServers, c.idOf x = c.idOf y → x = y

structure RampEnded (c d : Cluster) (serverId : String) (ramp : TrafficRamp) : Prop where
  ids : d.idOf = c.idOf
  servers : d.allServers = c.allServers
  clock : d.monotonic = c.monotonic
  ramps : d.ramps = c.ramps.erase serverId
  weights : ∀ r ∈ c.allServers, (d.objects r).weight = if c.idOf r = serverId then ramp.targetWeight else (c.objects r).weight

theorem ramp_ended_found (c : Cluster) (serverId : String) (ramp : TrafficRamp) (found : Option Ref) (apart : Apart c)
    (sound : ∀ x, found = some x → x ∈ c.allServers ∧ c.idOf x = serverId)
    (absent : found = none → ∀ x ∈ c.allServers, c.idOf x ≠ serverId) :
    RampEnded c (found.elim { c with ramps := c.ramps.erase serverId } fun r =>
      Cluster.setWeight { c with ramps := c.ramps.erase serverId } r ramp) serverId ramp := by
  cases found with
  | none =>
      refine ⟨rfl, rfl, rfl, rfl, fun r member => ?_⟩
      rw [if_neg (absent rfl r member)]
      rfl
  | some x =>
      obtain ⟨known, named⟩ := sound x rfl
      rw [Option.elim_some, setWeight]
      have ids := modify_ids { c with ramps := c.ramps.erase serverId } x
        (fun s => { s with weight := ramp.targetWeight, weightPos := ramp.targetPos }) rfl
      refine ⟨ids, rfl, rfl, rfl, fun r member => ?_⟩
      rw [modify_objects]
      by_cases same : r = x
      · rw [if_pos same, if_pos (same ▸ named)]
      · rw [if_neg same, if_neg fun also => same (apart r member x known (also.trans named.symm))]

theorem finish_ramp_ended (c : Cluster) (serverId : String) (ramp : TrafficRamp) (apart : Apart c) :
    RampEnded c (c.finishRamp serverId ramp) serverId ramp := by
  have ends : c.finishRamp serverId ramp = (c.findServer serverId).elim { c with ramps := c.ramps.erase serverId } fun r =>
      Cluster.setWeight { c with ramps := c.ramps.erase serverId } r ramp := by
    unfold finishRamp
    cases c.findServer serverId <;> rfl
  rw [ends]
  refine ramp_ended_found c serverId ramp (c.findServer serverId) apart ?_ ?_
  · intro x found
    exact ⟨List.mem_reverse.mp (List.mem_of_find?_eq_some found), by simpa [hasId] using List.find?_some found⟩
  · intro missing x member
    simpa [hasId] using List.find?_eq_none.mp missing x (List.mem_reverse.mpr member)

theorem ended_apart (c d : Cluster) (serverId : String) (ramp : TrafficRamp) (ended : RampEnded c d serverId ramp) (apart : Apart c) :
    Apart d := by
  unfold Apart
  rw [ended.servers, ended.ids]
  exact apart

theorem ended_entry (c d : Cluster) (serverId : String) (ramp : TrafficRamp) (ended : RampEnded c d serverId ramp) (r : Ref) :
    d.ramps.get? (d.idOf r) = if c.idOf r = serverId then none else c.ramps.get? (c.idOf r) := by
  rw [ended.ramps, ended.ids, Dict.get_erase]

theorem ended_other (c d : Cluster) (serverId : String) (ramp : TrafficRamp) (plan : RoutingPlan) (r : Ref)
    (ended : RampEnded c d serverId ramp) (member : r ∈ c.allServers) (other : c.idOf r ≠ serverId) (routed : Routed c plan r) :
    Routed d plan r := by
  have entry := ended_entry c d serverId ramp ended r
  have weight := ended.weights r member
  rw [if_neg other] at entry weight
  cases routed with
  | ramping own ordered active => exact .ramping own ordered (entry.trans active)
  | fixed own ordered idle settled => exact .fixed own ordered (entry.trans idle) (weight.trans settled)
  | reached own ordered idle settled tick past complete =>
      exact .reached own ordered (entry.trans idle) (weight.trans settled) tick (ended.clock ▸ past) (ended.clock ▸ complete)

theorem ramping_plan (c : Cluster) (plan : RoutingPlan) (r : Ref) (ramp : TrafficRamp) (routed : Routed c plan r)
    (active : c.ramps.get? (c.idOf r) = some ramp) : plan = .ramping ramp := by
  cases routed with
  | ramping own ordered present =>
      rw [active] at present
      exact ordered.trans (congrArg RoutingPlan.ramping (Option.some.inj present).symm)
  | fixed own ordered idle settled => simp [idle] at active
  | reached own ordered idle settled tick past complete => simp [idle] at active

theorem finished_routed (c : Cluster) (serverId : String) (ramp : TrafficRamp) (plan : RoutingPlan) (r : Ref) (apart : Apart c)
    (member : r ∈ c.allServers) (active : c.ramps.get? serverId = some ramp) (tick : Nat) (past : tick < c.monotonic.ticks)
    (complete : ramp.isComplete (c.monotonic.reading tick) = true) (routed : Routed c plan r) :
    Routed (c.finishRamp serverId ramp) plan r := by
  have ended := finish_ramp_ended c serverId ramp apart
  by_cases named : c.idOf r = serverId
  · have entry := ended_entry c _ serverId ramp ended r
    have weight := ended.weights r member
    rw [if_pos named] at entry weight
    exact .reached ramp (ramping_plan c plan r ramp routed (named ▸ active)) entry weight tick (ended.clock ▸ past)
      (ended.clock ▸ complete)
  · exact ended_other c _ serverId ramp plan r ended member named routed

theorem finish_all_routed (completed : List ((String × TrafficRamp) × ℚ)) (c : Cluster) (plan : RoutingPlan) (r : Ref) (apart : Apart c)
    (member : r ∈ c.allServers) (keys : (completed.map fun timed => timed.1.1).Nodup)
    (active : ∀ timed ∈ completed, c.ramps.get? timed.1.1 = some timed.1.2)
    (past : ∀ timed ∈ completed, ∃ tick < c.monotonic.ticks, timed.1.2.isComplete (c.monotonic.reading tick) = true)
    (routed : Routed c plan r) :
    Routed (completed.foldl (fun state timed => state.finishRamp timed.1.1 timed.1.2) c) plan r := by
  induction completed generalizing c with
  | nil => exact routed
  | cons timed rest ih =>
      rw [List.map_cons, List.nodup_cons] at keys
      obtain ⟨tick, before, complete⟩ := past timed List.mem_cons_self
      have ended := finish_ramp_ended c timed.1.1 timed.1.2 apart
      refine ih (c.finishRamp timed.1.1 timed.1.2) (ended_apart _ _ _ _ ended apart) ?_ keys.2 ?_ ?_ ?_
      · rw [ended.servers]
        exact member
      · intro later inside
        have other : later.1.1 ≠ timed.1.1 := fun same => keys.1 (same ▸ List.mem_map_of_mem inside)
        rw [ended.ramps, Dict.get_erase, if_neg other]
        exact active later (List.mem_cons_of_mem _ inside)
      · intro later inside
        rw [ended.clock]
        exact past later (List.mem_cons_of_mem _ inside)
      · exact finished_routed c _ _ plan r apart member (active timed List.mem_cons_self) tick before complete routed

theorem update_ramps_routed (c : Cluster) (plan : RoutingPlan) (r : Ref) (apart : Apart c) (member : r ∈ c.allServers)
    (routed : Routed c plan r) : Routed c.updateRamps plan r := by
  have read : Routed { c with monotonic := { c.monotonic with ticks := c.monotonic.ticks + c.ramps.entries.length } } plan r :=
    routed_kept c _ plan r (shares_same c _ rfl rfl) rfl (Nat.le_add_right _ _) routed
  have placed : ∀ timed ∈ c.ramps.entries.mapIdx (fun i entry => (entry, c.monotonic.reading (c.monotonic.ticks + i))),
      timed.1 ∈ c.ramps.entries ∧ ∃ i < c.ramps.entries.length, timed.2 = c.monotonic.reading (c.monotonic.ticks + i) := by
    intro timed inside
    obtain ⟨i, short, rfl⟩ := List.mem_mapIdx.mp inside
    exact ⟨List.getElem_mem short, i, short, rfl⟩
  refine finish_all_routed _ _ plan r apart member ?_ ?_ ?_ read
  · refine (List.filter_sublist.map _).nodup ?_
    have keys : (c.ramps.entries.mapIdx fun i entry => (entry, c.monotonic.reading (c.monotonic.ticks + i))).map (fun timed => timed.1.1) =
        c.ramps.entries.map Prod.fst := by
      apply List.ext_getElem?
      intro i
      rw [List.getElem?_map, List.getElem?_mapIdx, List.getElem?_map, Option.map_map]
      rfl
    rw [keys]
    exact c.ramps.nodup
  · intro timed inside
    exact (Dict.get_mem _ _ _).mpr (placed timed (List.mem_of_mem_filter inside)).1
  · intro timed inside
    obtain ⟨listed, complete⟩ := List.mem_filter.mp inside
    obtain ⟨_, i, short, reading⟩ := placed timed listed
    exact ⟨c.monotonic.ticks + i, Nat.add_lt_add_left short _, reading ▸ complete⟩

theorem idle_cancelled (c : Cluster) (plan : RoutingPlan) (r : Ref) (idle : c.ramps.get? (c.idOf r) = none) (routed : Routed c plan r) :
    Routed c plan.cancelled r := by
  cases routed with
  | ramping ramp ordered active => simp [idle] at active
  | fixed weight ordered _ settled => exact .fixed weight (by rw [ordered, RoutingPlan.cancelled]) idle settled
  | reached ramp ordered _ settled tick past complete =>
      exact .fixed ramp.targetWeight (by rw [ordered, RoutingPlan.cancelled]) idle settled

theorem stop_routed (c : Cluster) (serverId : String) (plan : RoutingPlan) (r : Ref) (apart : Apart c) (member : r ∈ c.allServers)
    (routed : Routed c plan r) :
    Routed (c.stopTrafficRamp serverId) (if c.idOf r = serverId then plan.cancelled else plan) r := by
  cases active : c.ramps.get? serverId with
  | none =>
      have same : c.stopTrafficRamp serverId = c := by simp [stopTrafficRamp, active]
      rw [same]
      split
      · rename_i named
        exact idle_cancelled c plan r (named ▸ active) routed
      · exact routed
  | some ramp =>
      have ended : RampEnded c (c.stopTrafficRamp serverId) serverId ramp := by
        have ends : c.stopTrafficRamp serverId = (c.allServers.find? (c.hasId serverId)).elim { c with ramps := c.ramps.erase serverId }
            fun r => Cluster.setWeight { c with ramps := c.ramps.erase serverId } r ramp := by
          unfold stopTrafficRamp
          rw [active]
          cases c.allServers.find? (c.hasId serverId) <;> rfl
        rw [ends]
        refine ramp_ended_found c serverId ramp _ apart ?_ ?_
        · exact fun x found => ⟨List.mem_of_find?_eq_some found, by simpa [hasId] using List.find?_some found⟩
        · exact fun missing x known => by simpa [hasId] using List.find?_eq_none.mp missing x known
      split
      · rename_i named
        have entry := ended_entry c _ serverId ramp ended r
        have weight := ended.weights r member
        rw [if_pos named] at entry weight
        have ordered := ramping_plan c plan r ramp routed (named ▸ active)
        exact .fixed ramp.targetWeight (by rw [ordered, RoutingPlan.cancelled]) entry weight
      · rename_i other
        exact ended_other c _ serverId ramp plan r ended member other routed

theorem start_routed (c : Cluster) (serverId : String) (ramp : TrafficRamp) (plan : RoutingPlan) (r : Ref) (routed : Routed c plan r) :
    Routed { c.tick with ramps := c.ramps.set serverId ramp } (if c.idOf r = serverId then .ramping ramp else plan) r := by
  by_cases named : c.idOf r = serverId
  · rw [if_pos named]
    refine .ramping ramp rfl ?_
    exact (Dict.get_set c.ramps serverId (c.idOf r) ramp).trans (if_pos named)
  · have entry : (c.ramps.set serverId ramp).get? (c.idOf r) = c.ramps.get? (c.idOf r) := by rw [Dict.get_set, if_neg named]
    rw [if_neg named]
    cases routed with
    | ramping own ordered active => exact .ramping own ordered (entry.trans active)
    | fixed own ordered idle settled => exact .fixed own ordered (entry.trans idle) settled
    | reached own ordered idle settled tick past complete =>
        exact .reached own ordered (entry.trans idle) settled tick (Nat.lt_succ_of_lt past) complete

-- A weight that a ramp ended with is the weight of the ramp from then on.
theorem routed_weight (c : Cluster) (plan : RoutingPlan) (r : Ref) (forward : Monotone c.monotonic.reading) (routed : Routed c plan r)
    (tick : Nat) (coming : c.monotonic.ticks ≤ tick) :
    c.selectionWeight (c.monotonic.reading tick) r = max (1 / 1000000) (plan.weightAt (c.monotonic.reading tick)) := by
  rw [selection_weight_spec]
  cases routed with
  | ramping ramp ordered active => rw [active, ordered, Option.elim_some, RoutingPlan.weightAt]
  | fixed weight ordered idle settled => rw [idle, ordered, Option.elim_none, settled, RoutingPlan.weightAt]
  | reached ramp ordered idle settled earlier past complete =>
      have passed : 1 ≤ ramp.progress (c.monotonic.reading tick) := by
        have before : 1 ≤ ramp.progress (c.monotonic.reading earlier) := by simpa [TrafficRamp.isComplete] using complete
        exact before.trans (ramp.progress_mono _ _ (forward (past.le.trans coming)))
      have whole : ramp.progress (c.monotonic.reading tick) = 1 := le_antisymm (ramp.progress_le_one _) passed
      rw [idle, ordered, Option.elim_none, settled, RoutingPlan.weightAt, TrafficRamp.currentWeight, whole]
      congr 1
      ring

namespace Planned

theorem followed_apart (s : Planned) (followed : s.Followed) : Apart s.cluster :=
  fun x known y other same => same_of_id s.cluster followed.known.partitioned y x other known same

theorem kept_routed (cfg : Config) (s : Planned) (op : Op) (other : op.ramps = false) (followed : s.Followed) :
    ∀ r ∈ s.registry.registered, Routed (step cfg s.cluster op) (s.plans (s.cluster.idOf r)) r := by
  intro r member
  have aged := aged_step cfg s.cluster op
  exact routed_kept s.cluster _ _ r (shares_step cfg s.cluster op other) aged.readings aged.ticks (followed.routed r member)

theorem step_routed (cfg : Config) (s : Planned) (op : Op) (followed : s.Followed) (permitted : s.Permitted op) :
    ∀ r ∈ s.registry.register op, Routed (step cfg s.cluster op) (s.ordered op (s.cluster.idOf r)) r := by
  have listed : ∀ r ∈ s.registry.registered, r ∈ s.cluster.allServers := fun r member => followed.known.all.mem_iff.mpr member
  cases op with
  | addServer r forceInner =>
      intro x member
      rcases List.mem_append.mp member with before | new
      · have other : s.cluster.idOf x ≠ s.cluster.idOf r := permitted.1.1 r rfl x before
        rw [ordered, Function.update_of_ne other]
        exact kept_routed cfg s (.addServer r forceInner) rfl followed x before
      · obtain rfl := List.mem_singleton.mp new
        have shares := shares_add_server cfg s.cluster x forceInner
        have idle : s.cluster.ramps.get? (s.cluster.idOf x) = none := Option.isNone_iff_eq_none.mp (permitted.2 x rfl)
        rw [ordered, Function.update_self]
        refine .fixed _ rfl ?_ (shares.weights x)
        rw [step, shares.ids, shares.ramps, idle]
  | removeServer serverId =>
      intro r member
      exact kept_routed cfg s (.removeServer serverId) rfl followed r (List.mem_of_mem_filter member)
  | updateRamps =>
      intro r member
      exact update_ramps_routed s.cluster _ r (followed_apart s followed) (listed r member) (followed.routed r member)
  | startTrafficRamp serverId initialWeight targetWeight rampSec =>
      intro r member
      have known : s.cluster.allServers.any (s.cluster.hasId serverId) = true ↔
        ∃ r ∈ s.registry.registered, s.cluster.idOf r = serverId := by
        simp only [List.any_eq_true, hasId, decide_eq_true_eq]
        exact exists_congr fun x => and_congr_left fun _ => followed.known.all.mem_iff
      rw [ordered, step, startTrafficRamp]
      by_cases weights : 0 < initialWeight ∧ 0 < targetWeight ∧ 0 ≤ rampSec
      · rw [dif_pos weights]
        by_cases present : ∃ r ∈ s.registry.registered, s.cluster.idOf r = serverId
        · have started := start_routed s.cluster serverId ⟨initialWeight, targetWeight, weights.2.1, rampSec, s.cluster.now⟩ _ r
            (followed.routed r member)
          rwa [if_pos (known.mpr present), dif_pos ⟨weights, present⟩, Function.update_apply]
        · rw [if_neg fun found => present (known.mp found), dif_neg fun valid => present valid.2]
          exact followed.routed r member
      · rw [dif_neg weights, dif_neg fun valid => weights valid.1]
        exact followed.routed r member
  | stopTrafficRamp serverId =>
      intro r member
      have stopped := stop_routed s.cluster serverId _ r (followed_apart s followed) (listed r member) (followed.routed r member)
      rw [ordered, Function.update_apply]
      by_cases named : s.cluster.idOf r = serverId
      · rw [if_pos named] at stopped ⊢
        rwa [named] at stopped
      · rw [if_neg named] at stopped ⊢
        exact stopped
  | _ => exact kept_routed cfg s _ rfl followed

theorem step_followed (cfg : Config) (s after : Planned) (op : Op) (followed : s.Followed) (permitted : s.Permitted op)
    (taken : s.next cfg op = some after) : after.Followed := by
  cases taken
  refine ⟨step_registered cfg s.registry op followed.known permitted.1, ?_⟩
  intro r member
  have routed := step_routed cfg s op followed permitted r member
  rw [← step_ids cfg s.cluster op] at routed
  exact routed

theorem step_forward (cfg : Config) (s after : Planned) (op : Op) (forward : Monotone s.cluster.monotonic.reading)
    (taken : s.next cfg op = some after) : Monotone after.cluster.monotonic.reading := by
  cases taken
  exact (aged_step cfg s.cluster op).readings.symm ▸ forward

end Planned

end HuddleCluster.Ring
