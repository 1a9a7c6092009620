import HuddleCluster.Lib.Runs
import HuddleCluster.Master.NodeMachine

set_option autoImplicit false

namespace HuddleCluster.Master

namespace Registry

def drop (nodeId : String) (r : Registry) : Registry where
  nodes := r.nodes.erase nodeId
  keyed := by
    intro id found held
    rw [Dict.get_erase] at held
    split at held
    · exact absurd held (by simp)
    · exact r.keyed id found held

-- _handle_leave holds the lock twice, and the leave callback runs in between.
def beginLeave (nodeId : String) (r : Registry) : Except Reply Registry :=
  match r.nodes.get? nodeId with
  | none => .error (.error s!"unknown node '{nodeId}'")
  | some node => .ok (r.put { node with status := .leaving })

def finishLeave (nodeId : String) (r : Registry) : Reply × Registry :=
  (.ok [("node_id", .str nodeId), ("action", .str "left")], r.drop nodeId)

end Registry

-- Everything that writes to the registry of a running master.
inductive RegistryUpdate where
  | receive (event : RegistryEvent)
  | beginLeave (nodeId : String)
  | finishLeave (nodeId : String)

def Registry.update (m : Settings) (r : Registry) : RegistryUpdate → Registry
  | .receive event => r.step m event
  | .beginLeave nodeId =>
      match r.beginLeave nodeId with
      | .ok after => after
      | .error _ => r
  | .finishLeave nodeId => (r.finishLeave nodeId).2

def nodeUpdate (m : Settings) (id : String) (node : Option NodeRecord) : RegistryUpdate → Option NodeRecord
  | .receive event => nodeStep m id node event
  | .beginLeave nodeId => if nodeId = id then node.map fun node => { node with status := .leaving } else node
  | .finishLeave nodeId => if nodeId = id then none else node

namespace Registry

theorem update_node (m : Settings) (r : Registry) (event : RegistryUpdate) (id : String) :
    (r.update m event).nodes.get? id = nodeUpdate m id (r.nodes.get? id) event := by
  cases event with
  | receive event => exact step_node m r event id
  | beginLeave nodeId =>
      simp only [update, beginLeave, nodeUpdate]
      cases found : r.nodes.get? nodeId with
      | none =>
          by_cases same : nodeId = id
          · subst same
            simp [found]
          · simp [same]
      | some node =>
          have name := r.keyed nodeId node found
          by_cases same : nodeId = id
          · subst same
            simp [name, found]
          · simp [name, same, Ne.symm same]
  | finishLeave nodeId =>
      have dropped : (r.drop nodeId).nodes.get? id = if id = nodeId then none else r.nodes.get? id :=
        Dict.get_erase r.nodes nodeId id
      simp only [update, finishLeave, nodeUpdate, dropped, eq_comm]

end Registry

-- A registry and the ids of the leave requests that have marked their node and
-- not yet removed it.
structure Members where
  registry : Registry
  leaves : List String

def memberStep (m : Settings) (s : Members) (event : RegistryUpdate) : Option Members :=
  let after := s.registry.update m event
  match event with
  | .receive _ => some { s with registry := after }
  | .beginLeave nodeId =>
      match s.registry.nodes.get? nodeId with
      | none => some s
      | some _ => some ⟨after, nodeId :: s.leaves⟩
  | .finishLeave nodeId => if nodeId ∈ s.leaves then some ⟨after, s.leaves.erase nodeId⟩ else none

abbrev MemberRun (m : Settings) (allowed : Members → RegistryUpdate → Prop) := Runs.Run (memberStep m) allowed

theorem member_step_node (m : Settings) (s after : Members) (event : RegistryUpdate) (id : String)
    (taken : memberStep m s event = some after) :
    after.registry.nodes.get? id = nodeUpdate m id (s.registry.nodes.get? id) event := by
  cases event with
  | receive event =>
      cases taken
      exact Registry.update_node m s.registry _ id
  | beginLeave nodeId =>
      simp only [memberStep] at taken
      split at taken
      · rename_i unknown
        cases taken
        by_cases same : nodeId = id
        · subst same
          simp [nodeUpdate, unknown]
        · simp [nodeUpdate, same]
      · cases taken
        exact Registry.update_node m s.registry _ id
  | finishLeave nodeId =>
      simp only [memberStep] at taken
      split at taken
      · cases taken
        exact Registry.update_node m s.registry _ id
      · cases taken

theorem revive_data (m : Settings) (now : ℚ) (node : NodeRecord) :
    (node.revive m now).address = node.address ∧ (node.revive m now).port = node.port ∧
      (node.revive m now).metadata = node.metadata ∧ (node.revive m now).status ≠ .leaving := by
  simp only [NodeRecord.revive]
  split <;> simp

theorem arrive_data (m : Settings) (now : ℚ) (tlsClientCn : Option String) (request : JoinRequest) (node : Option NodeRecord) :
    (NodeRecord.arrive m now tlsClientCn request node).address = request.address ∧
      (NodeRecord.arrive m now tlsClientCn request node).port = request.port ∧
        (NodeRecord.arrive m now tlsClientCn request node).metadata = request.metadata ∧
          (NodeRecord.arrive m now tlsClientCn request node).status ≠ .leaving := by
  cases node with
  | none => simp [NodeRecord.arrive, NodeRecord.join]
  | some node =>
      simp only [NodeRecord.arrive, NodeRecord.rejoin]
      cases status : node.status with
      | dead => exact revive_data m now _
      | _ => simp

theorem receive_data (m : Settings) (now : ℚ) (node : NodeRecord) (data : Json) :
    (node.receive m now data).address = node.address ∧ (node.receive m now data).port = node.port ∧
      (node.receive m now data).metadata = node.metadata ∧
        (node.status ≠ .leaving → (node.receive m now data).status ≠ .leaving) := by
  cases data with
  | obj fields =>
      simp only [NodeRecord.receive, NodeRecord.heartbeat]
      cases status : node.status with
      | dead =>
          obtain ⟨address, port, metadata, staying⟩ :=
            revive_data m now { node.beat now with metrics := (Json.get fields "metrics").orElse (.obj []) }
          simp only [NodeRecord.beat, status]
          exact ⟨address, port, metadata, fun _ => staying⟩
      | quarantined =>
          simp only [NodeRecord.beat, status]
          split <;> simp
      | _ => simp [NodeRecord.beat, status]
  | _ => simp [NodeRecord.receive, NodeRecord.beat]

theorem leaves_step (m : Settings) (s after : Members) (event : RegistryUpdate) (id : String)
    (taken : memberStep m s event = some after) :
    (id ∈ after.leaves → id ∈ s.leaves ∨ event = .beginLeave id ∧ (s.registry.nodes.get? id).isSome = true) ∧
      (id ∈ s.leaves → id ∈ after.leaves ∨ event = .finishLeave id) := by
  cases event with
  | receive event =>
      cases taken
      exact ⟨Or.inl, Or.inl⟩
  | beginLeave nodeId =>
      simp only [memberStep] at taken
      split at taken
      · cases taken
        exact ⟨Or.inl, Or.inl⟩
      · rename_i node found
        cases taken
        refine ⟨?_, fun member => Or.inl (List.mem_cons_of_mem _ member)⟩
        intro member
        rcases List.mem_cons.mp member with rfl | old
        · exact Or.inr ⟨rfl, by rw [found]; rfl⟩
        · exact Or.inl old
  | finishLeave nodeId =>
      simp only [memberStep] at taken
      split at taken
      · cases taken
        refine ⟨fun member => Or.inl (List.mem_of_mem_erase member), ?_⟩
        intro member
        by_cases same : id = nodeId
        · exact Or.inr (by rw [same])
        · exact Or.inl ((List.mem_erase_of_ne same).mpr member)
      · cases taken

end HuddleCluster.Master
