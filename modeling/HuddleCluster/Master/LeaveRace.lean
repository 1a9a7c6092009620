import HuddleCluster.Master.Leave

set_option autoImplicit false

namespace HuddleCluster.Master

-- The node is there with the data of the join, and is not leaving.
structure Joined (s : Members) (request : JoinRequest) (node : NodeRecord) : Prop where
  found : s.registry.nodes.get? request.nodeId = some node
  address : node.address = request.address
  port : node.port = request.port
  metadata : node.metadata = request.metadata
  staying : node.status ≠ .leaving

-- What happens to a node after its last accepted join: joins of other nodes,
-- leaves that find no node to mark, and the ends of leaves begun before.
def Later (id : String) (s : Members) : RegistryUpdate → Prop
  | .receive (.join _ data _) => ∀ request, JoinRequest.read data = .ok request → request.nodeId ≠ id
  | .receive (.heartbeat _ _ _) => True
  | .receive (.tick _) => False
  | .beginLeave nodeId => nodeId = id → s.registry.nodes.get? id = none
  | .finishLeave _ => True

theorem joined_step (m : Settings) (s after : Members) (event : RegistryUpdate) (request : JoinRequest) (node : NodeRecord)
    (joined : Joined s request node) (free : request.nodeId ∉ s.leaves) (later : Later request.nodeId s event)
    (taken : memberStep m s event = some after) : (∃ node, Joined after request node) ∧ request.nodeId ∉ after.leaves := by
  have steps := member_step_node m s after event request.nodeId taken
  rw [joined.found] at steps
  have still : nodeUpdate m request.nodeId (some node) event = some node → ∃ node, Joined after request node := by
    intro same
    exact ⟨node, by rw [steps, same], joined.address, joined.port, joined.metadata, joined.staying⟩
  constructor
  · cases event with
    | receive event =>
        cases event with
        | heartbeat now nodeId data =>
            by_cases same : nodeId = request.nodeId
            · obtain ⟨address, port, metadata, staying⟩ := receive_data m now node data
              refine ⟨node.receive m now data, ?_, by rw [address, joined.address], by rw [port, joined.port],
                by rw [metadata, joined.metadata], staying joined.staying⟩
              rw [steps]
              simp [nodeUpdate, nodeStep, same]
            · exact still (by simp [nodeUpdate, nodeStep, same])
        | join now data tlsClientCn =>
            apply still
            simp only [nodeUpdate, nodeStep]
            split
            · rfl
            · rename_i other read
              rw [if_neg (later other read)]
        | tick now => exact later.elim
    | beginLeave nodeId =>
        apply still
        have other : nodeId ≠ request.nodeId := by
          intro same
          have gone := later same
          rw [joined.found] at gone
          cases gone
        simp [nodeUpdate, other]
    | finishLeave nodeId =>
        apply still
        have other : nodeId ≠ request.nodeId := by
          intro same
          simp only [memberStep] at taken
          split at taken
          · rename_i member
            exact free (same ▸ member)
          · cases taken
        simp [nodeUpdate, other]
  · intro member
    rcases (leaves_step m s after event request.nodeId taken).1 member with old | ⟨rfl, known⟩
    · exact free old
    · have gone := later rfl
      rw [joined.found] at gone
      cases gone

theorem doomed_step (m : Settings) (s after : Members) (event : RegistryUpdate) (id : String)
    (doomed : id ∈ s.leaves ∨ s.registry.nodes.get? id = none) (later : Later id s event)
    (taken : memberStep m s event = some after) : id ∈ after.leaves ∨ after.registry.nodes.get? id = none := by
  have steps := member_step_node m s after event id taken
  rcases doomed with leaving | gone
  · rcases (leaves_step m s after event id taken).2 leaving with still | rfl
    · exact Or.inl still
    · exact Or.inr (by rw [steps]; simp [nodeUpdate])
  · right
    rw [steps, gone]
    cases event with
    | receive event =>
        cases event with
        | heartbeat now nodeId data => simp [nodeUpdate, nodeStep]
        | join now data tlsClientCn =>
            simp only [nodeUpdate, nodeStep]
            split
            · rfl
            · rename_i other read
              rw [if_neg (later other read)]
        | tick now => rfl
    | beginLeave nodeId => simp [nodeUpdate]
    | finishLeave nodeId => simp [nodeUpdate]

-- s is the state in which the last accepted join updates the registry.
theorem join_kept_iff (m : Settings) (s updated last : Members) (events : List RegistryUpdate) (now : ℚ) (data : Json)
    (tlsClientCn : Option String) (request : JoinRequest) (accepted : JoinRequest.read data = .ok request)
    (update : memberStep m s (.receive (.join now data tlsClientCn)) = some updated)
    (later : MemberRun m (Later request.nodeId) updated events last) (returned : last.leaves = []) :
    (∃ node, Joined last request node) ↔ request.nodeId ∉ s.leaves := by
  have found := member_step_node m s updated (.receive (.join now data tlsClientCn)) request.nodeId update
  simp only [nodeUpdate, nodeStep, accepted, if_true] at found
  have leaves : updated.leaves = s.leaves := by
    cases update
    rfl
  constructor
  · rintro ⟨node, joined⟩ leaving
    have doomed := Runs.run_invariant (memberStep m) (Later request.nodeId)
      (fun state => request.nodeId ∈ state.leaves ∨ state.registry.nodes.get? request.nodeId = none)
      (fun state event after doomed later taken => doomed_step m state after event request.nodeId doomed later taken)
      updated last events (Or.inl (leaves ▸ leaving)) later
    rw [returned, joined.found] at doomed
    simp at doomed
  · intro free
    obtain ⟨address, port, metadata, staying⟩ :=
      arrive_data m now tlsClientCn request (s.registry.nodes.get? request.nodeId)
    have kept := Runs.run_invariant (memberStep m) (Later request.nodeId)
      (fun state => (∃ node, Joined state request node) ∧ request.nodeId ∉ state.leaves)
      (fun state event after held later taken => by
        obtain ⟨⟨node, joined⟩, free⟩ := held
        exact joined_step m state after event request node joined free later taken)
      updated last events ⟨⟨_, found, address, port, metadata, staying⟩, leaves ▸ free⟩ later
    exact kept.1

theorem sample_join_read : ∃ request, JoinRequest.read (sampleJoin "a") = .ok request ∧ request.nodeId = "a" := by
  have name : (JoinRequest.read (sampleJoin "a")).toOption.map JoinRequest.nodeId = some "a" := by decide +kernel
  cases read : JoinRequest.read (sampleJoin "a") with
  | error reply => simp [read, Except.toOption] at name
  | ok request => exact ⟨request, rfl, by simpa [read, Except.toOption] using name⟩

-- A node leaves, joins again, and hears from nobody else.
theorem join_kept_after_leave : ∃ request node s updated,
    MemberRun {} (fun _ _ => True) ⟨.empty, []⟩ [.receive (.join 0 (sampleJoin "a") none), .beginLeave "a", .finishLeave "a"] s ∧
      memberStep {} s (.receive (.join 0 (sampleJoin "a") none)) = some updated ∧ Joined updated request node := by
  have reached : ∃ s ∈ Runs.follow (memberStep {}) (fun _ _ => True) ⟨.empty, []⟩
      [.receive (.join 0 (sampleJoin "a") none), .beginLeave "a", .finishLeave "a"], s.leaves = [] := by decide +kernel
  obtain ⟨s, followed, leaves⟩ := reached
  obtain ⟨request, read, name⟩ := sample_join_read
  have free : request.nodeId ∉ s.leaves := by simp [leaves]
  obtain ⟨node, joined⟩ := (join_kept_iff {} s _ _ [] 0 (sampleJoin "a") none request read rfl .nil leaves).mpr free
  exact ⟨request, node, s, _, Runs.follow_run _ _ _ s _ followed, rfl, joined⟩

-- A node joins while its leave runs the callback, and the leave removes it.
theorem join_lost_to_leave : ∃ request s updated last,
    MemberRun {} (fun _ _ => True) ⟨.empty, []⟩ [.receive (.join 0 (sampleJoin "a") none), .beginLeave "a"] s ∧
      JoinRequest.read (sampleJoin "a") = .ok request ∧ memberStep {} s (.receive (.join 0 (sampleJoin "a") none)) = some updated ∧
        MemberRun {} (Later request.nodeId) updated [.finishLeave "a"] last ∧ last.leaves = [] ∧
          ¬ ∃ node, Joined last request node := by
  have reached : ∃ s ∈ Runs.follow (memberStep {}) (fun _ _ => True) ⟨.empty, []⟩
      [.receive (.join 0 (sampleJoin "a") none), .beginLeave "a"], s.leaves = ["a"] := by decide +kernel
  obtain ⟨s, followed, leaves⟩ := reached
  obtain ⟨request, read, name⟩ := sample_join_read
  have ended : memberStep {} ⟨s.registry.update {} (.receive (.join 0 (sampleJoin "a") none)), s.leaves⟩ (.finishLeave "a") =
      some ⟨(s.registry.update {} (.receive (.join 0 (sampleJoin "a") none))).drop "a", []⟩ := by
    simp [memberStep, leaves, Registry.update, Registry.finishLeave]
  refine ⟨request, s, _, _, Runs.follow_run _ _ _ s _ followed, read, rfl, Runs.run_one _ _ _ _ _ trivial ended, rfl, ?_⟩
  rintro ⟨node, joined⟩
  have found := joined.found
  rw [name] at found
  simp [Registry.drop] at found

end HuddleCluster.Master
