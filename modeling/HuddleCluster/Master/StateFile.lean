import HuddleCluster.Master.NodeMachine

set_option autoImplicit false

namespace HuddleCluster.Master

def Status.read : Json → Option Status
  | .str "alive" => some .alive
  | .str "dead" => some .dead
  | .str "quarantined" => some .quarantined
  | .str "leaving" => some .leaving
  | _ => none

namespace NodeRecord

def asdict (node : NodeRecord) : List (String × Json) := [
  ("node_id", .str node.nodeId),
  ("address", .str node.address),
  ("port", node.port),
  ("metadata", node.metadata),
  ("status", .str node.status.text),
  ("joined_at", .number node.joinedAt),
  ("last_heartbeat", .number node.lastHeartbeat),
  ("heartbeat_count", .int node.heartbeatCount),
  ("metrics", node.metrics),
  ("death_count", .int node.deathCount),
  ("recent_deaths", .arr (node.recentDeaths.map .number)),
  ("consecutive_alive_heartbeats", .int node.consecutiveAliveHeartbeats),
  ("tls_client_cn", .ofOption .str node.tlsClientCn)]

theorem to_dict_asdict (now : ℚ) (node : NodeRecord) :
    node.toDict now = .obj (node.asdict ++ [("url", .str node.url), ("last_seen_ago_sec", .number (node.lastSeenAgo now))]) := rfl

def fieldNames : List String := [
  "node_id", "address", "port", "metadata", "status", "joined_at", "last_heartbeat", "heartbeat_count", "metrics",
  "death_count", "recent_deaths", "consecutive_alive_heartbeats", "tls_client_cn"]

def readText : Json → Option String
  | .str text => some text
  | _ => none

def readTime : Json → Option ℚ
  | .number value => some value
  | .int value => some value
  | _ => none

def readCount : Json → Option Nat
  | .int value => if 0 ≤ value then some value.toNat else none
  | _ => none

def readTimes : Json → Option (List ℚ)
  | .arr items => items.mapM readTime
  | _ => none

def readCn : Json → Option (Option String)
  | .null => some none
  | .str text => some (some text)
  | _ => none

instance (text : String) : Decidable (Accepted text) := inferInstanceAs (Decidable (text ≠ "" ∧ Text.strip text = text))

-- The constructor called with the fields of a saved record. Names it does not know
-- and fields it misses make it raise. It takes values of every type, but a file
-- that a master has written has only those of its records.
def construct (now : ℚ) (fields : List (String × Json)) : Option NodeRecord :=
  let field (name : String) (fallback : Json) : Json := (Json.find? fields name).getD fallback
  if fields.all fun entry => fieldNames.contains entry.1 then do
    let nodeId ← (Json.find? fields "node_id").bind readText
    let address ← (Json.find? fields "address").bind readText
    let port ← Json.find? fields "port"
    let status ← Status.read (field "status" (.str "alive"))
    let joinedAt ← readTime (field "joined_at" (.number now))
    let lastHeartbeat ← readTime (field "last_heartbeat" (.number now))
    let heartbeatCount ← readCount (field "heartbeat_count" (.int 0))
    let deathCount ← readCount (field "death_count" (.int 0))
    let recentDeaths ← readTimes (field "recent_deaths" (.arr []))
    let consecutiveAliveHeartbeats ← readCount (field "consecutive_alive_heartbeats" (.int 0))
    let tlsClientCn ← readCn (field "tls_client_cn" .null)
    if valid : Accepted nodeId ∧ Accepted address ∧ validPort port = true then
      some {
        nodeId := nodeId
        address := address
        port := port
        metadata := field "metadata" (.obj [])
        status := status
        joinedAt := joinedAt
        lastHeartbeat := lastHeartbeat
        heartbeatCount := heartbeatCount
        metrics := field "metrics" (.obj [])
        deathCount := deathCount
        recentDeaths := recentDeaths
        consecutiveAliveHeartbeats := consecutiveAliveHeartbeats
        tlsClientCn := tlsClientCn
        named := valid.1
        addressed := valid.2.1
        routable := valid.2.2 }
    else none
  else none

theorem status_round_trip (status : Status) : Status.read (.str status.text) = some status := by
  cases status <;> rfl

theorem times_round_trip (times : List ℚ) : readTimes (.arr (times.map .number)) = some times := by
  simp only [readTimes]
  induction times with
  | nil => rfl
  | cons time tail ih => simp [List.mapM_cons, readTime, ih]

theorem cn_round_trip (name : Option String) : readCn (.ofOption .str name) = some name := by
  cases name <;> rfl

theorem construct_asdict (now : ℚ) (node : NodeRecord) : construct now node.asdict = some node := by
  have names : node.asdict.all (fun entry => fieldNames.contains entry.1) = true := by
    simp [asdict, fieldNames]
  simp only [construct, names, if_true]
  simp [asdict, Json.find?, Dict.last?, readText, readTime, readCount, status_round_trip, times_round_trip, cn_round_trip,
    node.named, node.addressed, node.routable]

end NodeRecord

namespace Registry

def snapshot (now : ℚ) (r : Registry) : Json := .obj [
  ("version", .int 1),
  ("saved_at", .number now),
  ("nodes", .obj (r.nodes.entries.map fun entry => (entry.1, .obj entry.2.asdict)))]

-- A record that cannot be made again is skipped. A master writes each under its id.
def restore (now : ℚ) (r : Registry) (entry : String × Json) : Registry :=
  match entry.2 with
  | .obj data =>
      match NodeRecord.construct now data with
      | some node => if node.nodeId = entry.1 then r.put node else r
      | none => r
  | _ => r

def loadSnapshot (now : ℚ) (payload : Json) (r : Registry) : Registry :=
  match payload with
  | .obj fields =>
      match (Json.find? fields "nodes").getD (.obj []) with
      | .obj entries => entries.foldl (restore now) r
      | _ => r
  | _ => r

theorem restore_entries (now : ℚ) (entries : List (String × NodeRecord)) (keyed : ∀ entry ∈ entries, entry.2.nodeId = entry.1)
    (r : Registry) (id : String) :
    ((entries.map fun entry => (entry.1, Json.obj entry.2.asdict)).foldl (restore now) r).nodes.get? id =
      (Dict.last? entries id).or (r.nodes.get? id) := by
  induction entries generalizing r with
  | nil => rfl
  | cons entry tail ih =>
      have name := keyed entry List.mem_cons_self
      have restored : restore now r (entry.1, Json.obj entry.2.asdict) = r.put entry.2 := by
        simp [restore, NodeRecord.construct_asdict, name]
      rw [List.map_cons, List.foldl_cons, restored, ih (fun other member => keyed other (List.mem_cons_of_mem _ member)), Dict.last?,
        get_put, name]
      cases Dict.last? tail id with
      | some node => rfl
      | none => by_cases same : entry.1 = id <;> simp [same, Ne.symm]

theorem load_snapshot (now saved : ℚ) (r : Registry) (id : String) :
    (loadSnapshot now (r.snapshot saved) .empty).nodes.get? id = r.nodes.get? id := by
  have keyed : ∀ entry ∈ r.nodes.entries, entry.2.nodeId = entry.1 := by
    intro entry member
    exact r.keyed entry.1 entry.2 ((Dict.get_mem r.nodes entry.1 entry.2).mpr member)
  have restored := restore_entries now r.nodes.entries keyed .empty id
  have found : Json.find? [("version", .int 1), ("saved_at", .number saved),
      ("nodes", .obj (r.nodes.entries.map fun entry => (entry.1, .obj entry.2.asdict)))] "nodes" =
        some (.obj (r.nodes.entries.map fun entry => (entry.1, .obj entry.2.asdict))) := by
    simp [Json.find?, Dict.last?]
  simp only [loadSnapshot, snapshot, found, Option.getD_some]
  rw [restored, Dict.last_entries]
  simp [empty]

end Registry

end HuddleCluster.Master
