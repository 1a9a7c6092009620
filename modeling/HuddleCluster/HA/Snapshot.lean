import HuddleCluster.Master.NodeMachine

set_option autoImplicit false

namespace HuddleCluster.HA

open Master

-- A record as a follower makes it from a snapshot. Nothing is checked: each
-- field is whatever the JSON has there.
structure ReplicaRecord where
  nodeId : Json
  address : Json
  port : Json
  metadata : Json
  status : Json
  joinedAt : Json
  lastHeartbeat : Json
  heartbeatCount : Json
  metrics : Json := .obj []
  deathCount : Json
  recentDeaths : Json := .arr []
  consecutiveAliveHeartbeats : Json := .int 0
  tlsClientCn : Json := .null

structure Readings where
  joinedAt : ℚ
  lastHeartbeat : ℚ

namespace ReplicaRecord

def fields (record : ReplicaRecord) : List (String × Json) := [
  ("node_id", record.nodeId),
  ("address", record.address),
  ("port", record.port),
  ("metadata", record.metadata),
  ("status", record.status),
  ("joined_at", record.joinedAt),
  ("last_heartbeat", record.lastHeartbeat),
  ("heartbeat_count", record.heartbeatCount),
  ("metrics", record.metrics),
  ("death_count", record.deathCount),
  ("recent_deaths", record.recentDeaths),
  ("consecutive_alive_heartbeats", record.consecutiveAliveHeartbeats),
  ("tls_client_cn", record.tlsClientCn)]

def Holds (record : ReplicaRecord) (sent : Json) : Prop :=
  ∃ given, sent = .obj given ∧ ∀ field ∈ record.fields, ∀ value ∈ Json.find? given field.1, field.2 = value

-- Without one of the three required fields the constructor is not reached.
def decode (created : Readings) : Json → Option ReplicaRecord
  | .obj fields => do
      let nodeId ← Json.find? fields "node_id"
      let address ← Json.find? fields "address"
      let port ← Json.find? fields "port"
      return {
        nodeId := nodeId
        address := address
        port := port
        metadata := (Json.find? fields "metadata").getD (.obj [])
        status := (Json.find? fields "status").getD (.str "alive")
        heartbeatCount := (Json.find? fields "heartbeat_count").getD (.int 0)
        deathCount := (Json.find? fields "death_count").getD (.int 0)
        lastHeartbeat := (Json.find? fields "last_heartbeat").getD (.number created.lastHeartbeat)
        joinedAt := (Json.find? fields "joined_at").getD (.number created.joinedAt) }
  | _ => none

def complete : Json → Bool
  | .obj fields =>
      (Json.find? fields "node_id").isSome && (Json.find? fields "address").isSome && (Json.find? fields "port").isSome
  | _ => false

theorem decode_complete (created : Readings) (value : Json) : (decode created value).isSome = complete value := by
  cases value with
  | obj fields =>
      simp only [decode, complete]
      cases Json.find? fields "node_id" <;> cases Json.find? fields "address" <;> cases Json.find? fields "port" <;> rfl
  | _ => rfl

-- The fields that are not read, with what a new record has for them.
def unread : List (String × Json) :=
  [("metrics", .obj []), ("recent_deaths", .arr []), ("consecutive_alive_heartbeats", .int 0), ("tls_client_cn", .null)]

def Blank (given : List (String × Json)) : Prop := ∀ field ∈ unread, ∀ value ∈ Json.find? given field.1, value = field.2

theorem decode_holds (created : Readings) (given : List (String × Json)) (record : ReplicaRecord)
    (decoded : decode created (.obj given) = some record) : record.Holds (.obj given) ↔ Blank given := by
  simp only [decode, Option.pure_def, Option.bind_eq_bind, Option.bind_eq_some_iff, Option.some.injEq] at decoded
  obtain ⟨nodeId, hasId, address, hasAddress, port, hasPort, rfl⟩ := decoded
  have filled (field : String) (default : Json) (value : Json) (sent : value ∈ Json.find? given field) :
      (Json.find? given field).getD default = value := by rw [Option.mem_def.mp sent, Option.getD_some]
  constructor
  · rintro ⟨_, same, held⟩ field unread value sent
    obtain rfl := Json.obj.inj same
    simp only [ReplicaRecord.unread, List.mem_cons, List.not_mem_nil, or_false] at unread
    rcases unread with rfl | rfl | rfl | rfl <;> exact (held (_, _) (by simp [fields]) value sent).symm
  · intro blank
    refine ⟨given, rfl, fun field member value sent => ?_⟩
    simp only [fields, List.mem_cons, List.not_mem_nil, or_false] at member
    rcases member with rfl | rfl | rfl | rfl | rfl | rfl | rfl | rfl | rfl | rfl | rfl | rfl | rfl
    · exact Option.some.inj (hasId.symm.trans sent)
    · exact Option.some.inj (hasAddress.symm.trans sent)
    · exact Option.some.inj (hasPort.symm.trans sent)
    · exact filled "metadata" _ value sent
    · exact filled "status" _ value sent
    · exact filled "joined_at" _ value sent
    · exact filled "last_heartbeat" _ value sent
    · exact filled "heartbeat_count" _ value sent
    · exact (blank ("metrics", .obj []) (by simp [unread]) value sent).symm
    · exact filled "death_count" _ value sent
    · exact (blank ("recent_deaths", .arr []) (by simp [unread]) value sent).symm
    · exact (blank ("consecutive_alive_heartbeats", .int 0) (by simp [unread]) value sent).symm
    · exact (blank ("tls_client_cn", .null) (by simp [unread]) value sent).symm

def ofNode (node : NodeRecord) : ReplicaRecord where
  nodeId := .str node.nodeId
  address := .str node.address
  port := node.port
  metadata := node.metadata
  status := .str node.status.text
  joinedAt := .number node.joinedAt
  lastHeartbeat := .number node.lastHeartbeat
  heartbeatCount := .int node.heartbeatCount
  metrics := node.metrics
  deathCount := .int node.deathCount
  recentDeaths := .arr (node.recentDeaths.map .number)
  consecutiveAliveHeartbeats := .int node.consecutiveAliveHeartbeats
  tlsClientCn := .ofOption .str node.tlsClientCn

end ReplicaRecord

abbrev ReplicaNodes := Dict String ReplicaRecord

-- What a snapshot decodes to. An exception in one of its entries loses it all.
def decodeSnapshot (clock : String → Readings) : Json → Option ReplicaNodes
  | .obj fields => Dict.build (fun id => ReplicaRecord.decode (clock id)) fields
  | _ => none

def wellFormed : Json → Bool
  | .obj fields => fields.all fun entry => ReplicaRecord.complete entry.2
  | _ => false

def newNodes (clock : String → Readings) (snapshot : Json) (registry : Option ReplicaNodes) : Option ReplicaNodes :=
  registry.bind fun _ => decodeSnapshot clock snapshot

-- Without a master there is no registry. An exception is logged and dropped.
def applySnapshot (clock : String → Readings) (snapshot : Json) (registry : Option ReplicaNodes) : Option ReplicaNodes :=
  (newNodes clock snapshot registry).or registry

def buildSnapshot (clock : String → ℚ) : Option Registry → Json
  | none => .obj []
  | some r => .obj (r.nodes.entries.map fun entry => (entry.1, entry.2.toDict (clock entry.1)))

theorem decode_snapshot_well_formed (clock : String → Readings) (snapshot : Json) :
    (decodeSnapshot clock snapshot).isSome = wellFormed snapshot := by
  cases snapshot with
  | obj fields =>
      have total := Dict.build_total (fun id => ReplicaRecord.decode (clock id)) fields
      simp only [ReplicaRecord.decode_complete] at total
      rw [Bool.eq_iff_iff, wellFormed, List.all_eq_true]
      exact total
  | _ => rfl

-- Every entry of the snapshot has a record that holds it, and there is no other.
def AppliedInFull (snapshot : Json) (nodes : ReplicaNodes) : Prop :=
  ∃ entries, snapshot = .obj entries ∧ ∀ id,
    (∀ sent, Json.find? entries id = some sent → ∃ record, nodes.get? id = some record ∧ record.Holds sent) ∧
    (Json.find? entries id = none → nodes.get? id = none)

-- No entry says anything in a field that is not read.
def AllRead : Json → Prop
  | .obj entries => ∀ id given, Json.find? entries id = some (.obj given) → ReplicaRecord.Blank given
  | _ => True

theorem decode_snapshot_full (clock : String → Readings) (snapshot : Json) (nodes : ReplicaNodes)
    (decoded : decodeSnapshot clock snapshot = some nodes) : AppliedInFull snapshot nodes ↔ AllRead snapshot := by
  cases snapshot with
  | obj entries =>
      have built := fun id => Dict.get_build (fun id => ReplicaRecord.decode (clock id)) entries nodes id decoded
      constructor
      · rintro ⟨_, same, full⟩ id given sent
        obtain rfl := Json.obj.inj same
        obtain ⟨record, found, held⟩ := (full id).1 _ sent
        obtain ⟨made, decoded, here⟩ := (built id).1 _ sent
        rw [found, Option.some.injEq] at here
        subst here
        exact (ReplicaRecord.decode_holds _ given record decoded).mp held
      · intro blank
        refine ⟨entries, rfl, fun id => ⟨fun sent found => ?_, (built id).2⟩⟩
        obtain ⟨record, decoded, here⟩ := (built id).1 sent found
        cases sent with
        | obj given => exact ⟨record, here, (ReplicaRecord.decode_holds _ given record decoded).mpr (blank id given found)⟩
        | _ => cases decoded
  | _ => simp [decodeSnapshot] at decoded

-- What a follower has of a record: no metrics, and the counters of the flap
-- detector and of the quarantine start again.
def replicated (node : NodeRecord) : NodeRecord :=
  { node with metrics := .obj [], recentDeaths := [], consecutiveAliveHeartbeats := 0, tlsClientCn := none }

theorem decode_to_dict (created : Readings) (now : ℚ) (node : NodeRecord) :
    ReplicaRecord.decode created (node.toDict now) = some (.ofNode (replicated node)) := by
  simp [ReplicaRecord.decode, NodeRecord.toDict, Json.find?, Dict.last?, ReplicaRecord.ofNode, replicated, Json.ofOption]

def replica (r : Registry) : Registry := r.mark replicated fun _ => rfl

def held (r : Registry) : ReplicaNodes := r.nodes.map fun _ => ReplicaRecord.ofNode

theorem apply_build_snapshot (clock : String → Readings) (now : String → ℚ) (r : Registry) (old : ReplicaNodes) :
    applySnapshot clock (buildSnapshot now (some r)) (some old) = some (held (replica r)) := by
  have decoded : decodeSnapshot clock (buildSnapshot now (some r)) =
      some (r.nodes.map fun _ node => ReplicaRecord.ofNode (replicated node)) := by
    simp only [decodeSnapshot, buildSnapshot, Dict.build, List.foldlM_map]
    exact Dict.build_entries _ _ r.nodes fun id node => decode_to_dict (clock id) (now id) node
  have same : held (replica r) = r.nodes.map fun _ node => ReplicaRecord.ofNode (replicated node) := by
    simp [held, replica, Registry.mark, Dict.map]
  simp [applySnapshot, newNodes, decoded, same]

end HuddleCluster.HA
