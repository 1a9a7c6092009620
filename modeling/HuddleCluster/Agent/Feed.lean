import HuddleCluster.Breaker.Turns
import HuddleCluster.Master.Leave
import HuddleCluster.Ring.HealthReport

set_option autoImplicit false

namespace HuddleCluster.Agent

open Breaker (States)
open Master (NodeRecord Registry RegistryEvent RegistryUpdate nodeStep nodeUpdate)
open HuddleCluster.Ring (Cluster Config ReportSources)

def getD (report : List (String × Json)) (key : String) (fallback : Json) : Json := (Json.find? report key).getD fallback

-- What _send_heartbeat collects. There may be no report: without a cluster, or
-- when health_report raises.
def collectMetrics : Option (List (String × Json)) → List (String × Json)
  | none => []
  | some report => [
      ("inner_servers", getD report "inner_count" (.int 0)),
      ("outer_servers", getD report "outer_count" (.int 0)),
      ("fairness_score", getD report "fairness_score" (.number 0)),
      ("rotation_count", getD report "rotation_count" (.int 0)),
      ("requests_per_sec", getD report "requests_per_sec" (.number 0))]

structure Paired where
  config : Config
  sources : ReportSources
  cluster : Cluster

def Paired.metrics (paired : Paired) : List (String × Json) :=
  collectMetrics (some (paired.cluster.healthReport paired.config paired.sources))

def heartbeat (now : ℚ) (nodeId : String) (metrics : List (String × Json)) : RegistryEvent :=
  .heartbeat now nodeId (.obj [("metrics", .obj metrics)])

structure Feed where
  registry : Registry
  states : States

-- The agent sends its heartbeats, the other steps of the registry are anything
-- but heartbeats of the node, and the breaker evaluates.
inductive FeedEvent where
  | beat (now : ℚ) (paired : Option Paired)
  | update (event : RegistryUpdate)
  | evaluate (now : ℚ) (listed : String → ℚ)
  | reset (nodeId : String)

def foreign (id : String) : RegistryUpdate → Bool
  | .receive (.heartbeat _ nodeId _) => decide (nodeId ≠ id)
  | _ => true

def feedStep (m : Master.Settings) (cfg : Breaker.Settings) (id : String) (s : Feed) : FeedEvent → Option Feed
  | .beat now paired =>
      some { s with registry := s.registry.step m (heartbeat now id ((paired.map Paired.metrics).getD [])) }
  | .update event => if foreign id event then some { s with registry := s.registry.update m event } else none
  | .evaluate now listed => some { s with states := Breaker.evaluate cfg now (Scheduler.nodes listed s.registry) s.states }
  | .reset nodeId => some { s with states := (Breaker.reset nodeId s.states).2 }

abbrev FeedRun (m : Master.Settings) (cfg : Breaker.Settings) (id : String) (allowed : Feed → FeedEvent → Prop) :=
  Runs.Run (feedStep m cfg id) allowed

-- A way to sum up error rates, such as the maximum or the mean.
def Exceeds (aggregate : List ℚ → ℚ) : Prop :=
  ∀ threshold rates, rates ≠ [] → (∀ rate ∈ rates, threshold < rate) → threshold < aggregate rates

-- The metrics of a cluster reach the breaker: they have an error rate that sums
-- up those of the servers, and the breaker of the node is open after they are
-- sent and looked at while every inner server is above the threshold.
structure Fed (cfg : Breaker.Settings) (id : String) (aggregate : List ℚ → ℚ) (paired : Paired) (after : Feed) : Prop where
  forwarded : (Json.find? paired.metrics "error_rate").bind Json.toRational? = some (aggregate paired.cluster.errorRates)
  tripped : (∀ rate ∈ paired.cluster.errorRates, cfg.tripThreshold < rate) → after.states.isOpen id = true

theorem no_error_rate (report : Option (List (String × Json))) : Json.find? (collectMetrics report) "error_rate" = none := by
  cases report with
  | none => rfl
  | some report => simp [collectMetrics, Json.find?, Dict.last?]

theorem no_rate (report : Option (List (String × Json))) :
    Breaker.rate? ((Json.obj (collectMetrics report)).orElse (.obj [])) = none := by
  have unread : (Json.get (collectMetrics report) "error_rate").toFloat? = none := by rw [Json.get, no_error_rate]; rfl
  cases report with
  | none => rfl
  | some report => exact unread

theorem revive_metrics (m : Master.Settings) (now : ℚ) (node : NodeRecord) : (node.revive m now).metrics = node.metrics := by
  simp only [NodeRecord.revive]
  split <;> rfl

theorem arrive_metrics (m : Master.Settings) (now : ℚ) (tlsClientCn : Option String) (request : Master.JoinRequest)
    (before : Option NodeRecord) : (NodeRecord.arrive m now tlsClientCn request before).metrics = .obj [] ∨
      ∃ old, before = some old ∧ (NodeRecord.arrive m now tlsClientCn request before).metrics = old.metrics := by
  cases before with
  | none => exact Or.inl rfl
  | some old =>
      refine Or.inr ⟨old, rfl, ?_⟩
      simp only [NodeRecord.arrive, NodeRecord.rejoin]
      cases old.status with
      | dead => exact revive_metrics m now _
      | _ => rfl

theorem monitor_metrics (m : Master.Settings) (now : ℚ) (old node : NodeRecord) (kept : old.monitor m now = some node) :
    node.metrics = old.metrics := by
  simp only [NodeRecord.monitor] at kept
  split at kept
  · cases kept
  · rw [← Option.some.inj kept, NodeRecord.check]
    split <;> rfl

theorem foreign_metrics (m : Master.Settings) (id : String) (before : Option NodeRecord) (event : RegistryUpdate) (node : NodeRecord)
    (other : foreign id event = true) (updated : nodeUpdate m id before event = some node) :
    node.metrics = .obj [] ∨ ∃ old, before = some old ∧ node.metrics = old.metrics := by
  cases event with
  | receive event =>
      cases event with
      | heartbeat now nodeId data =>
          have different : nodeId ≠ id := of_decide_eq_true other
          simp only [nodeUpdate, nodeStep, if_neg different] at updated
          exact Or.inr ⟨node, updated, rfl⟩
      | join now data tlsClientCn =>
          simp only [nodeUpdate, nodeStep] at updated
          split at updated
          · exact Or.inr ⟨node, updated, rfl⟩
          · split at updated
            · rename_i request _ _
              rw [← Option.some.inj updated]
              exact arrive_metrics m now tlsClientCn request before
            · exact Or.inr ⟨node, updated, rfl⟩
      | tick now =>
          obtain ⟨old, held, kept⟩ := Option.bind_eq_some_iff.mp updated
          exact Or.inr ⟨old, held, monitor_metrics m now old node kept⟩
  | beginLeave nodeId =>
      by_cases same : nodeId = id
      · simp only [nodeUpdate, if_pos same] at updated
        obtain ⟨old, held, rfl⟩ := Option.map_eq_some_iff.mp updated
        exact Or.inr ⟨old, held, rfl⟩
      · simp only [nodeUpdate, if_neg same] at updated
        exact Or.inr ⟨node, updated, rfl⟩
  | finishLeave nodeId =>
      by_cases same : nodeId = id
      · simp [nodeUpdate, same] at updated
      · simp only [nodeUpdate, if_neg same] at updated
        exact Or.inr ⟨node, updated, rfl⟩

theorem heartbeat_metrics (m : Master.Settings) (now : ℚ) (fields : List (String × Json)) (node : NodeRecord) :
    (node.heartbeat m now fields).metrics = (Json.get fields "metrics").orElse (.obj []) := by
  simp only [NodeRecord.heartbeat, NodeRecord.beat]
  split
  · exact revive_metrics m now _
  · exact (apply_ite NodeRecord.metrics _ _ _).trans (ite_self _)
  · rfl

-- The master has no error rate of the node, and its breaker has never tripped.
structure Starved (id : String) (s : Feed) : Prop where
  metrics : ∀ node, s.registry.nodes.get? id = some node → Breaker.rate? node.metrics = none
  breaker : ∀ breaker ∈ s.states.get? id, breaker.state = .closed

theorem starved_step (m : Master.Settings) (cfg : Breaker.Settings) (id : String) (s after : Feed) (event : FeedEvent)
    (starved : Starved id s) (taken : feedStep m cfg id s event = some after) : Starved id after := by
  cases event with
  | beat now paired =>
      cases taken
      refine ⟨?_, starved.breaker⟩
      intro node found
      rw [Registry.step_node] at found
      simp only [heartbeat, nodeStep, if_true] at found
      obtain ⟨old, _, rfl⟩ := Option.map_eq_some_iff.mp found
      have sent (metrics : Json) : Json.get [("metrics", metrics)] "metrics" = metrics := by simp [Json.get, Json.find?, Dict.last?]
      rw [NodeRecord.receive, heartbeat_metrics, sent]
      cases paired with
      | none => exact no_rate none
      | some paired => exact no_rate (some (paired.cluster.healthReport paired.config paired.sources))
  | update event =>
      simp only [feedStep] at taken
      split at taken
      · rename_i other
        cases taken
        refine ⟨?_, starved.breaker⟩
        intro node found
        rw [Registry.update_node] at found
        rcases foreign_metrics m id _ event node other found with empty | ⟨old, held, same⟩
        · rw [empty]
          rfl
        · rw [same]
          exact starved.metrics old held
      · cases taken
  | evaluate now listed =>
      cases taken
      refine ⟨starved.metrics, ?_⟩
      cases found : s.registry.nodes.get? id with
      | none =>
          intro breaker held
          rw [Breaker.evaluate_unregistered cfg now listed s.registry s.states id found] at held
          exact starved.breaker breaker held
      | some node =>
          have seen := Breaker.evaluate_seen cfg now listed s.registry s.states id node found
          exact Breaker.unread_seen cfg now id s.registry node _ _ (starved.metrics node found) starved.breaker seen
  | reset nodeId =>
      cases taken
      refine ⟨starved.metrics, ?_⟩
      intro breaker held
      rcases Breaker.reset_spec nodeId id s.states with same | ⟨shut, shown, closed⟩
      · rw [same] at held
        exact starved.breaker breaker held
      · rw [Option.mem_def] at held shown
        rw [held] at shown
        cases shown
        exact closed

def Feed.fresh : Feed := ⟨.empty, .empty⟩

theorem breaker_never_fed (m : Master.Settings) (cfg : Breaker.Settings) (id : String) (events : List FeedEvent) (last : Feed)
    (run : FeedRun m cfg id (fun _ _ => True) .fresh events last) (aggregate : List ℚ → ℚ) (paired : Paired) :
    ¬ Fed cfg id aggregate paired last ∧ last.states.isOpen id = false := by
  have starved := Runs.run_invariant (feedStep m cfg id) (fun _ _ => True) (Starved id)
    (fun s event after starved _ taken => starved_step m cfg id s after event starved taken) .fresh last events
    ⟨by simp [Feed.fresh, Registry.empty], by simp [Feed.fresh]⟩ run
  constructor
  · intro fed
    have forwarded := fed.forwarded
    rw [Paired.metrics, no_error_rate] at forwarded
    cases forwarded
  · simp only [Breaker.States.isOpen]
    cases held : last.states.get? id with
    | none => rfl
    | some breaker => simp [Breaker.BreakerState.isOpen, starved.breaker breaker held]

-- A cluster whose only inner server fails every request.
def failing : Paired where
  config := {}
  sources := ⟨fun _ => [], [], fun _ => .null⟩
  cluster := { Cluster.empty {} (fun r => { id := toString r, metrics := { errorRate := 1 } }) none none none
    ⟨fun ticks => ticks, 0⟩ with
    innerRing := [0] }

def oneBeat : List FeedEvent :=
  [.update (.receive (.join 0 (Master.sampleJoin "a") none)), .beat 1 (some failing), .evaluate 2 fun _ => 2]

theorem failing_cluster_unseen : ∃ last, FeedRun {} {} "a" (fun _ _ => True) .fresh oneBeat last ∧
    (last.states.get? "a").map Breaker.BreakerState.state = some .closed ∧
      ∀ aggregate, ¬ Fed {} "a" aggregate failing last ∧ last.states.isOpen "a" = false := by
  have reached : ∃ last ∈ Runs.follow (feedStep {} {} "a") (fun _ _ => True) .fresh oneBeat,
      (last.states.get? "a").map Breaker.BreakerState.state = some .closed := by decide +kernel
  obtain ⟨last, followed, closed⟩ := reached
  have run := Runs.follow_run _ _ _ last _ followed
  exact ⟨last, run, closed, fun aggregate => breaker_never_fed {} {} "a" _ last run aggregate failing⟩

-- Every inner server is above the threshold, and no way to sum up their error
-- rates is what the breaker gets.
theorem failing_cluster_not_fed : (∀ rate ∈ failing.cluster.errorRates, Breaker.Settings.tripThreshold {} < rate) ∧
    Json.find? failing.metrics "error_rate" = none ∧ ¬ ∃ aggregate last, Exceeds aggregate ∧ Fed {} "a" aggregate failing last := by
  refine ⟨?_, no_error_rate _, ?_⟩
  · have rates : failing.cluster.errorRates = [1] := rfl
    rw [rates]
    norm_num
  · rintro ⟨aggregate, last, _, fed⟩
    have forwarded := fed.forwarded
    rw [Paired.metrics, no_error_rate] at forwarded
    cases forwarded

end HuddleCluster.Agent
