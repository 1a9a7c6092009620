import HuddleCluster.Api.Followers

set_option autoImplicit false

namespace HuddleCluster.Api

open Handler (require)
open Master (NodeRecord Registry)

-- Everything that a heartbeat says of its node is in the record of the node.
structure Recorded (m : Master.Settings) (now : ℚ) (fields : List (String × Json)) (before after : NodeRecord) : Prop where
  whole : after = before.heartbeat m now fields
  lastHeartbeat : after.lastHeartbeat = now
  heartbeatCount : after.heartbeatCount = before.heartbeatCount + 1
  metrics : after.metrics = (Json.get fields "metrics").orElse (.obj [])
  status : after.status ≠ .dead

inductive HeartbeatAtomic (cfg : Settings) (call : Call) (nodeId : String) (before : Option NodeRecord) (response : Response)
    (after : Option NodeRecord) : Prop where
  | recorded (node record : NodeRecord) (fields : List (String × Json)) (known : before = some node) (written : after = some record)
      (recorded : Recorded cfg.rollout.master call.now fields node record)
      (ok : response = .success 200 [("node_id", .str nodeId), ("heartbeat", .int record.heartbeatCount)])
  | untouched (same : after = before)

-- The request does not get as far as the body, there is no such node, or the body is
-- the JSON null or a JSON object.
def HeartbeatFits (cfg : Settings) (request : Request) (nodeId : String) (m : MasterNode) : Prop :=
  (∃ reply, request.checkAuth cfg "nodes:write" = .error reply) ∨ (∃ reply, request.checkLeader m = .error reply) ∨
    m.registry.nodes.get? nodeId = none ∨ ∀ body, request.readJson = .ok body → body = .null ∨ ∃ fields, body = .obj fields

theorem heartbeat_recorded (m : Master.Settings) (now : ℚ) (fields : List (String × Json)) (node : NodeRecord) :
    Recorded m now fields node (node.heartbeat m now fields) := by
  refine ⟨rfl, ?_, ?_, ?_, ?_⟩
  all_goals
    simp only [NodeRecord.heartbeat, NodeRecord.revive]
    cases status : node.status with
    | alive => simp [NodeRecord.beat, status]
    | leaving => simp [NodeRecord.beat, status]
    | dead =>
        simp only [NodeRecord.beat, status]
        split <;> simp
    | quarantined =>
        simp only [NodeRecord.beat, status]
        split <;> simp

theorem welcome_registry (call : Call) (nodeId : String) (before : Option NodeRecord) (m : MasterNode) :
    (m.welcome call nodeId before).registry = m.registry := by
  simp only [MasterNode.welcome]
  split
  · rfl
  · split <;> rfl
  · rfl

section Beats

variable (cfg : Settings) (call : Call) (request : Request) (nodeId : String) (m : MasterNode)

theorem heartbeat_turned_away (reply : Response) (refused : request.checkAuth cfg "nodes:write" = .error reply ∨
      (request.checkAuth cfg "nodes:write" = .ok () ∧ (request.checkLeader m = .error reply ∨
        request.checkLeader m = .ok () ∧ request.json = .error reply))) :
    Endpoint.heartbeat cfg call request nodeId m = (reply, m) := by
  rcases refused with auth | ⟨auth, leader | ⟨leader, body⟩⟩
  · simp only [Endpoint.heartbeat, require, auth]
  · simp only [Endpoint.heartbeat, require, auth, leader]
  · simp only [Endpoint.heartbeat, require, auth, leader, body]

theorem heartbeat_handled (body : Json) (auth : request.checkAuth cfg "nodes:write" = .ok ()) (leader : request.checkLeader m = .ok ())
    (read : request.json = .ok body) :
    (Endpoint.heartbeat cfg call request nodeId m).1 =
        .ofReply 404 (m.registry.handleHeartbeat cfg.rollout.master call.now nodeId body).1 ∧
      (Endpoint.heartbeat cfg call request nodeId m).2.registry.nodes.get? nodeId =
        (m.registry.nodes.get? nodeId).map fun node => node.receive cfg.rollout.master call.now body := by
  simp only [Endpoint.heartbeat, require, auth, leader, read, welcome_registry]
  refine ⟨trivial, ?_⟩
  have received := Registry.step_node cfg.rollout.master m.registry (.heartbeat call.now nodeId body) nodeId
  exact received.trans (if_pos rfl)

-- A body that has no get: the time and the count are written, and the request fails.
theorem beaten_torn (node : NodeRecord) (known : m.registry.nodes.get? nodeId = some node) (body : Json)
    (auth : request.checkAuth cfg "nodes:write" = .ok ()) (leader : request.checkLeader m = .ok ()) (read : request.json = .ok body)
    (shape : ∀ fields, body ≠ .obj fields) :
    ¬ HeartbeatAtomic cfg call nodeId (some node) (Endpoint.heartbeat cfg call request nodeId m).1
      ((Endpoint.heartbeat cfg call request nodeId m).2.registry.nodes.get? nodeId) := by
  obtain ⟨response, after⟩ := heartbeat_handled cfg call request nodeId m body auth leader read
  have raised : (m.registry.handleHeartbeat cfg.rollout.master call.now nodeId body).1 = .raised := by
    cases body with
    | obj fields => exact absurd rfl (shape fields)
    | _ => simp only [Registry.handleHeartbeat, known]
  have torn : node.receive cfg.rollout.master call.now body = node.beat call.now := by
    cases body with
    | obj fields => exact absurd rfl (shape fields)
    | _ => rfl
  rw [raised] at response
  rw [known, Option.map_some, torn] at after
  intro atomic
  cases atomic with
  | recorded _ _ _ _ _ _ ok => cases response.symm.trans ok
  | untouched same =>
      have counts := congrArg (Option.map NodeRecord.heartbeatCount) (after.symm.trans same)
      simp [NodeRecord.beat] at counts

theorem beaten_whole (node : NodeRecord) (known : m.registry.nodes.get? nodeId = some node) (fields : List (String × Json))
    (auth : request.checkAuth cfg "nodes:write" = .ok ()) (leader : request.checkLeader m = .ok ())
    (read : request.json = .ok (.obj fields)) :
    HeartbeatAtomic cfg call nodeId (some node) (Endpoint.heartbeat cfg call request nodeId m).1
      ((Endpoint.heartbeat cfg call request nodeId m).2.registry.nodes.get? nodeId) := by
  obtain ⟨response, after⟩ := heartbeat_handled cfg call request nodeId m (.obj fields) auth leader read
  rw [known, Option.map_some] at after
  refine .recorded node _ fields rfl after (heartbeat_recorded cfg.rollout.master call.now fields node) ?_
  rw [response, Registry.handleHeartbeat, known]
  rfl

theorem unknown_untouched (unknown : m.registry.nodes.get? nodeId = none) :
    (Endpoint.heartbeat cfg call request nodeId m).2.registry.nodes.get? nodeId = m.registry.nodes.get? nodeId := by
  cases auth : request.checkAuth cfg "nodes:write" with
  | error reply => rw [heartbeat_turned_away cfg call request nodeId m reply (Or.inl auth)]
  | ok _ =>
      cases leader : request.checkLeader m with
      | error reply => rw [heartbeat_turned_away cfg call request nodeId m reply (Or.inr ⟨auth, Or.inl leader⟩)]
      | ok _ =>
          cases read : request.json with
          | error reply => rw [heartbeat_turned_away cfg call request nodeId m reply (Or.inr ⟨auth, Or.inr ⟨leader, read⟩⟩)]
          | ok body => rw [(heartbeat_handled cfg call request nodeId m body auth leader read).2, unknown, Option.map_none]

theorem reached_atomic (node : NodeRecord) (known : m.registry.nodes.get? nodeId = some node)
    (auth : request.checkAuth cfg "nodes:write" = .ok ()) (leader : request.checkLeader m = .ok ()) :
    HeartbeatAtomic cfg call nodeId (some node) (Endpoint.heartbeat cfg call request nodeId m).1
      ((Endpoint.heartbeat cfg call request nodeId m).2.registry.nodes.get? nodeId) ↔
        ∀ body, request.readJson = .ok body → body = .null ∨ ∃ fields, body = .obj fields := by
  have away (reply : Response) (unread : request.json = .error reply) :
      HeartbeatAtomic cfg call nodeId (some node) (Endpoint.heartbeat cfg call request nodeId m).1
        ((Endpoint.heartbeat cfg call request nodeId m).2.registry.nodes.get? nodeId) := by
    rw [heartbeat_turned_away cfg call request nodeId m reply (Or.inr ⟨auth, Or.inr ⟨leader, unread⟩⟩), known]
    exact .untouched rfl
  cases read : request.readJson with
  | error reply =>
      refine iff_of_true (away reply ?_) (fun _ other => by cases other)
      rw [Request.json, read]
  | ok body =>
      have parsed (nonnull : body ≠ .null) : request.json = .ok body := by
        rw [Request.json, read]
        cases body with
        | null => exact absurd rfl nonnull
        | _ => rfl
      simp only [Except.ok.injEq, forall_eq']
      by_cases null : body = .null
      · refine iff_of_true (away (.error 400 "invalid JSON") ?_) (Or.inl null)
        rw [Request.json, read, null]
      · by_cases object : ∃ fields, body = .obj fields
        · obtain ⟨fields, rfl⟩ := object
          exact iff_of_true (beaten_whole cfg call request nodeId m node known fields auth leader (parsed null)) (Or.inr ⟨fields, rfl⟩)
        · refine iff_of_false (beaten_torn cfg call request nodeId m node known body auth leader (parsed null) ?_) ?_
          · exact fun fields same => object ⟨fields, same⟩
          · exact fun fits => fits.elim null object

-- A heartbeat is recorded as a whole or not at all, unless its body is no object and it
-- gets as far as the node.
theorem heartbeat_atomic_iff :
    HeartbeatAtomic cfg call nodeId (m.registry.nodes.get? nodeId) (Endpoint.heartbeat cfg call request nodeId m).1
      ((Endpoint.heartbeat cfg call request nodeId m).2.registry.nodes.get? nodeId) ↔ HeartbeatFits cfg request nodeId m := by
  cases auth : request.checkAuth cfg "nodes:write" with
  | error reply =>
      rw [heartbeat_turned_away cfg call request nodeId m reply (Or.inl auth)]
      exact iff_of_true (.untouched rfl) (Or.inl ⟨reply, auth⟩)
  | ok _ =>
      cases leader : request.checkLeader m with
      | error reply =>
          rw [heartbeat_turned_away cfg call request nodeId m reply (Or.inr ⟨auth, Or.inl leader⟩)]
          exact iff_of_true (.untouched rfl) (Or.inr (Or.inl ⟨reply, leader⟩))
      | ok _ =>
          cases known : m.registry.nodes.get? nodeId with
          | none =>
              rw [unknown_untouched cfg call request nodeId m known]
              exact iff_of_true (.untouched known) (Or.inr (Or.inr (Or.inl known)))
          | some node =>
              rw [reached_atomic cfg call request nodeId m node known auth leader]
              simp [HeartbeatFits, auth, leader, known]

end Beats

def oneNode : MasterNode := { registry := Registry.empty.run {} [.join 0 (Master.sampleJoin "a") none] }

def beatWith (body : Json) : Request :=
  { postTo ["", "v1", "nodes", "a", "heartbeat"] (by decide) with body := .parsed body }

-- The body is an empty list. The request fails, and the record says that the node has beaten.
theorem list_beat_torn : (Endpoint.heartbeat plainSettings ⟨5, "0"⟩ (beatWith (.arr [])) "a" oneNode).1 = .raised ∧
    ¬ HeartbeatAtomic plainSettings ⟨5, "0"⟩ "a" (oneNode.registry.nodes.get? "a")
      (Endpoint.heartbeat plainSettings ⟨5, "0"⟩ (beatWith (.arr [])) "a" oneNode).1
      ((Endpoint.heartbeat plainSettings ⟨5, "0"⟩ (beatWith (.arr [])) "a" oneNode).2.registry.nodes.get? "a") := by
  refine ⟨rfl, ?_⟩
  obtain ⟨node, known⟩ : ∃ node, oneNode.registry.nodes.get? "a" = some node := Option.isSome_iff_exists.mp (by decide +kernel)
  rw [known]
  exact beaten_torn plainSettings ⟨5, "0"⟩ (beatWith (.arr [])) "a" oneNode node known (.arr []) rfl rfl rfl (by simp)

end HuddleCluster.Api
