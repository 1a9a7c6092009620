import HuddleCluster.Master.Registry

set_option autoImplicit false

namespace HuddleCluster.Master

-- A registry seen as one machine for each name. A name without a record is none.

def NodeRecord.receive (m : Settings) (now : ℚ) (node : NodeRecord) : Json → NodeRecord
  | .obj fields => node.heartbeat m now fields
  | _ => node.beat now

def NodeRecord.arrive (m : Settings) (now : ℚ) (tlsClientCn : Option String) (request : JoinRequest) : Option NodeRecord → NodeRecord
  | none => .join now tlsClientCn request
  | some node => node.rejoin m now tlsClientCn request

def NodeRecord.monitor (m : Settings) (now : ℚ) (node : NodeRecord) : Option NodeRecord :=
  if node.purgeDue m now then none else some (node.check m now)

def nodeStep (m : Settings) (id : String) (node : Option NodeRecord) : RegistryEvent → Option NodeRecord
  | .heartbeat now nodeId data => if nodeId = id then node.map fun node => node.receive m now data else node
  | .join now data tlsClientCn =>
      match JoinRequest.read data with
      | .error _ => node
      | .ok request => if request.nodeId = id then some (.arrive m now tlsClientCn request node) else node
  | .tick now => node.bind (·.monitor m now)

def nodeRun (m : Settings) (id : String) (node : Option NodeRecord) (events : List RegistryEvent) : Option NodeRecord :=
  events.foldl (nodeStep m id) node

namespace Registry

@[simp] theorem get_put (r : Registry) (node : NodeRecord) (id : String) :
    (r.put node).nodes.get? id = if id = node.nodeId then some node else r.nodes.get? id :=
  Dict.get_set r.nodes node.nodeId id node

theorem get_pops (gone : List NodeRecord) (r : Registry) (id : String) :
    (gone.foldl pop r).nodes.get? id = if ∃ node ∈ gone, node.nodeId = id then none else r.nodes.get? id := by
  induction gone generalizing r with
  | nil => simp
  | cons node tail ih =>
      rw [List.foldl_cons, ih]
      have popped : (r.pop node).nodes.get? id = if id = node.nodeId then none else r.nodes.get? id :=
        Dict.get_erase r.nodes node.nodeId id
      by_cases same : node.nodeId = id
      · simp [popped, same]
      · simp [popped, same, Ne.symm same]

theorem heartbeat_node (m : Settings) (now : ℚ) (nodeId : String) (data : Json) (r : Registry) (id : String) :
    (r.handleHeartbeat m now nodeId data).2.nodes.get? id = nodeStep m id (r.nodes.get? id) (.heartbeat now nodeId data) := by
  simp only [handleHeartbeat, nodeStep]
  cases found : r.nodes.get? nodeId with
  | none =>
      by_cases same : nodeId = id
      · subst same
        simp [found]
      · simp [same]
  | some node =>
      have name := r.keyed nodeId node found
      have written : ∀ after : NodeRecord, after.nodeId = node.nodeId → after = node.receive m now data →
          (r.put after).nodes.get? id = if nodeId = id then (r.nodes.get? id).map fun node => node.receive m now data
            else r.nodes.get? id := by
        intro after kept value
        rw [get_put, kept, name]
        by_cases same : nodeId = id
        · subst same
          simp [found, value]
        · simp [same, Ne.symm same]
      cases data with
      | obj fields => exact written _ (NodeRecord.heartbeat_id m now fields node) rfl
      | _ => exact written _ rfl rfl

theorem join_node (m : Settings) (now : ℚ) (data : Json) (tlsClientCn : Option String) (r : Registry) (id : String) :
    (r.handleJoin m now data tlsClientCn).2.nodes.get? id = nodeStep m id (r.nodes.get? id) (.join now data tlsClientCn) := by
  simp only [handleJoin, nodeStep]
  cases JoinRequest.read data with
  | error reply => rfl
  | ok request =>
      cases found : r.nodes.get? request.nodeId with
      | none =>
          by_cases same : request.nodeId = id
          · subst same
            simp [found, NodeRecord.arrive]
          · simp [found, same, Ne.symm same]
      | some existing =>
          have name := r.keyed request.nodeId existing found
          by_cases same : request.nodeId = id
          · subst same
            simp [found, name, NodeRecord.arrive]
          · simp [found, name, same, Ne.symm same]

theorem tick_node (m : Settings) (now : ℚ) (r : Registry) (id : String) :
    (r.checkHeartbeats m now).nodes.get? id = nodeStep m id (r.nodes.get? id) (.tick now) := by
  have marked : (r.mark (fun node => node.check m now) fun node => NodeRecord.check_id m now node).nodes.get? id =
      (r.nodes.get? id).map fun node => node.check m now :=
    Dict.get_map _ r.nodes id
  simp only [checkHeartbeats, get_pops, marked, nodeStep]
  cases found : r.nodes.get? id with
  | none => simp
  | some node =>
      have due : (∃ old ∈ r.nodes.values.filter (fun node => node.purgeDue m now), old.nodeId = id) ↔ node.purgeDue m now = true := by
        simp only [List.mem_filter, Dict.mem_values]
        constructor
        · rintro ⟨old, ⟨⟨key, held⟩, purge⟩, name⟩
          have keyed := r.keyed key old held
          have same : some old = some node := by rw [← held, ← found, ← name, keyed]
          exact Option.some.inj same ▸ purge
        · intro purge
          exact ⟨node, ⟨⟨id, found⟩, purge⟩, r.keyed id node found⟩
      simp only [due, Option.map_some, Option.bind_some, NodeRecord.monitor]

-- Each node of a registry is a machine of its own.
theorem step_node (m : Settings) (r : Registry) (event : RegistryEvent) (id : String) :
    (r.step m event).nodes.get? id = nodeStep m id (r.nodes.get? id) event := by
  cases event with
  | heartbeat now nodeId data => exact heartbeat_node m now nodeId data r id
  | join now data tlsClientCn => exact join_node m now data tlsClientCn r id
  | tick now => exact tick_node m now r id

theorem run_node (m : Settings) (r : Registry) (events : List RegistryEvent) (id : String) :
    (r.run m events).nodes.get? id = nodeRun m id (r.nodes.get? id) events := by
  induction events generalizing r with
  | nil => rfl
  | cons event tail ih =>
      have rest := ih (r.step m event)
      rw [step_node] at rest
      exact rest

end Registry

def sampleJoin (nodeId : String) : Json := .obj [("node_id", .str nodeId), ("address", .str "10.0.0.1"), ("port", .int 8001)]

end HuddleCluster.Master
