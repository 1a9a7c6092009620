import HuddleCluster.Lib.Dict
import HuddleCluster.Master.Record

set_option autoImplicit false

namespace HuddleCluster.Master

structure Registry where
  nodes : Dict String NodeRecord
  keyed : ∀ id node, nodes.get? id = some node → node.nodeId = id

inductive Reply where
  | ok (fields : List (String × Json))
  | error (text : String)
  | raised

structure JoinRequest where
  nodeId : String
  address : String
  port : Json
  metadata : Json
  named : Accepted nodeId
  addressed : Accepted address
  routable : validPort port = true

namespace JoinRequest

-- (value or "").strip(), which only a string has.
def stripped (value : Json) : Option { text : String // Text.strip text = text } :=
  match value.orElse (.str "") with
  | .str text => some ⟨Text.strip text, Text.strip_twice text⟩
  | _ => none

def read : Json → Except Reply JoinRequest
  | .obj fields =>
      match stripped (Json.get fields "node_id"), stripped (Json.get fields "address") with
      | some nodeId, some address =>
          let port := Json.get fields "port"
          if unnamed : nodeId.val = "" then .error (.error "node_id is required")
          else if unaddressed : address.val = "" then .error (.error "address is required")
          else if routable : validPort port = true then
            .ok {
              nodeId := nodeId
              address := address
              port := port
              metadata := (Json.get fields "metadata").orElse (.obj [])
              named := ⟨unnamed, nodeId.property⟩
              addressed := ⟨unaddressed, address.property⟩
              routable := routable }
          else .error (.error "valid integer port (1-65535) is required")
      | _, _ => .error .raised
  | _ => .error .raised

end JoinRequest

namespace NodeRecord

def join (now : ℚ) (tlsClientCn : Option String) (request : JoinRequest) : NodeRecord where
  nodeId := request.nodeId
  address := request.address
  port := request.port
  metadata := request.metadata
  joinedAt := now
  lastHeartbeat := now
  tlsClientCn := tlsClientCn
  named := request.named
  addressed := request.addressed
  routable := request.routable

-- Quarantine is not left by a join.
def rejoin (m : Settings) (now : ℚ) (tlsClientCn : Option String) (request : JoinRequest) (node : NodeRecord) : NodeRecord :=
  let node := { node with
    address := request.address
    port := request.port
    metadata := request.metadata
    tlsClientCn := if tlsClientCn.any (· ≠ "") then tlsClientCn else node.tlsClientCn
    lastHeartbeat := now
    addressed := request.addressed
    routable := request.routable }
  match node.status with
  | .dead => node.revive m now
  | .leaving => { node with status := .alive }
  | _ => node

@[simp] theorem join_id (now : ℚ) (tlsClientCn : Option String) (request : JoinRequest) :
    (join now tlsClientCn request).nodeId = request.nodeId := rfl

@[simp] theorem revive_id (m : Settings) (now : ℚ) (node : NodeRecord) : (node.revive m now).nodeId = node.nodeId := by
  simp only [revive]
  split <;> rfl

@[simp] theorem rejoin_id (m : Settings) (now : ℚ) (tlsClientCn : Option String) (request : JoinRequest) (node : NodeRecord) :
    (node.rejoin m now tlsClientCn request).nodeId = node.nodeId := by
  simp only [rejoin]
  split <;> simp

@[simp] theorem heartbeat_id (m : Settings) (now : ℚ) (fields : List (String × Json)) (node : NodeRecord) :
    (node.heartbeat m now fields).nodeId = node.nodeId := by
  simp only [heartbeat]
  split
  · simp [beat]
  · split <;> rfl
  · rfl

@[simp] theorem check_id (m : Settings) (now : ℚ) (node : NodeRecord) : (node.check m now).nodeId = node.nodeId := by
  simp only [check]
  split <;> rfl

end NodeRecord

namespace Registry

def empty : Registry := ⟨.empty, by simp⟩

def put (r : Registry) (node : NodeRecord) : Registry where
  nodes := r.nodes.set node.nodeId node
  keyed := by
    intro id found held
    rw [Dict.get_set] at held
    split at held
    · rename_i same
      rw [← Option.some.inj held, same]
    · exact r.keyed id found held

def pop (r : Registry) (node : NodeRecord) : Registry where
  nodes := r.nodes.erase node.nodeId
  keyed := by
    intro id found held
    rw [Dict.get_erase] at held
    split at held
    · exact absurd held (by simp)
    · exact r.keyed id found held

def mark (r : Registry) (f : NodeRecord → NodeRecord) (same : ∀ node, (f node).nodeId = node.nodeId) : Registry where
  nodes := r.nodes.map fun _ => f
  keyed := by
    intro id found held
    rw [Dict.get_map] at held
    obtain ⟨node, at_id, rfl⟩ := Option.map_eq_some_iff.mp held
    rw [same, r.keyed id node at_id]

def handleJoin (m : Settings) (now : ℚ) (data : Json) (tlsClientCn : Option String) (r : Registry) : Reply × Registry :=
  match JoinRequest.read data with
  | .error reply => (reply, r)
  | .ok request =>
      let answer (action : String) : Reply := .ok [("action", .str action), ("node_id", .str request.nodeId),
        ("heartbeat_timeout_sec", .number m.timeout)]
      match r.nodes.get? request.nodeId with
      | some existing => (answer "re-joined", r.put (existing.rejoin m now tlsClientCn request))
      | none => (answer "joined", r.put (.join now tlsClientCn request))

-- A body without a get raises when the time and the count are already written.
def handleHeartbeat (m : Settings) (now : ℚ) (nodeId : String) (data : Json) (r : Registry) : Reply × Registry :=
  match r.nodes.get? nodeId with
  | none => (.error s!"unknown node '{nodeId}'", r)
  | some node =>
      match data with
      | .obj fields =>
          let after := node.heartbeat m now fields
          (.ok [("node_id", .str nodeId), ("heartbeat", .int after.heartbeatCount)], r.put after)
      | _ => (.raised, r.put (node.beat now))

def checkHeartbeats (m : Settings) (now : ℚ) (r : Registry) : Registry :=
  let purged := r.nodes.values.filter fun node => node.purgeDue m now
  purged.foldl pop (r.mark (fun node => node.check m now) fun node => NodeRecord.check_id m now node)

end Registry

-- What reaches the registry of a master from outside, with the reading of the
-- clock that its handler takes.
inductive RegistryEvent where
  | heartbeat (now : ℚ) (nodeId : String) (data : Json)
  | join (now : ℚ) (data : Json) (tlsClientCn : Option String)
  | tick (now : ℚ)

def Registry.step (m : Settings) (r : Registry) : RegistryEvent → Registry
  | .heartbeat now nodeId data => (r.handleHeartbeat m now nodeId data).2
  | .join now data tlsClientCn => (r.handleJoin m now data tlsClientCn).2
  | .tick now => r.checkHeartbeats m now

def Registry.run (m : Settings) (r : Registry) (events : List RegistryEvent) : Registry := events.foldl (step m) r

end HuddleCluster.Master
