import HuddleCluster.Lib.Json
import HuddleCluster.Lib.Statistics

set_option autoImplicit false

namespace HuddleCluster.Master

inductive Status where
  | alive
  | dead
  | quarantined
  | leaving
deriving DecidableEq, Repr

def Status.text : Status → String
  | .alive => "alive"
  | .dead => "dead"
  | .quarantined => "quarantined"
  | .leaving => "leaving"

-- None of these is checked when a master is built.
structure Settings where
  timeout : ℚ := 30
  flapWindow : ℚ := 300
  flapThreshold : Int := 3
  quarantineRecovery : Int := 3
  purgeAfter : Option ℚ := none

-- True is an instance of int, and it is 1.
def validPort : Json → Bool
  | .int port => decide (1 ≤ port) && decide (port ≤ 65535)
  | .bool port => port
  | _ => false

def portText : Json → String
  | .int port => toString port
  | .bool true => "True"
  | _ => "False"

def Accepted (text : String) : Prop := text ≠ "" ∧ Text.strip text = text

structure NodeRecord where
  nodeId : String
  address : String
  port : Json
  metadata : Json := .obj []
  status : Status := .alive
  joinedAt : ℚ
  lastHeartbeat : ℚ
  heartbeatCount : Nat := 0
  metrics : Json := .obj []
  deathCount : Nat := 0
  recentDeaths : List ℚ := []
  consecutiveAliveHeartbeats : Nat := 0
  tlsClientCn : Option String := none
  named : Accepted nodeId
  addressed : Accepted address
  routable : validPort port = true

namespace NodeRecord

def url (node : NodeRecord) : String :=
  let address := node.address
  let port := portText node.port
  s!"http://{address}:{port}"

def lastSeenAgo (now : ℚ) (node : NodeRecord) : ℚ :=
  Double.nearest (Statistics.roundTo 2 (Double.nearest (now - node.lastHeartbeat)))

def toDict (now : ℚ) (node : NodeRecord) : Json := .obj [
  ("node_id", .str node.nodeId),
  ("address", .str node.address),
  ("port", node.port),
  ("metadata", node.metadata),
  ("status", .str node.status.text),
  ("joined_at", .number node.joinedAt),
  ("last_heartbeat", .number node.lastHeartbeat),
  ("heartbeat_count", .int node.heartbeatCount),
  ("metrics", node.metrics),
  ("death_count", .int node.deathCount),
  ("recent_deaths", .arr (node.recentDeaths.map .number)),
  ("consecutive_alive_heartbeats", .int node.consecutiveAliveHeartbeats),
  ("tls_client_cn", .ofOption .str node.tlsClientCn),
  ("url", .str node.url),
  ("last_seen_ago_sec", .number (node.lastSeenAgo now))]

def recent (m : Settings) (now : ℚ) (deaths : List ℚ) : List ℚ := deaths.filter fun death => decide (now - m.flapWindow ≤ death)

def recordDeath (m : Settings) (now : ℚ) (node : NodeRecord) : NodeRecord :=
  { node with
    deathCount := node.deathCount + 1
    recentDeaths := recent m now (node.recentDeaths ++ [now])
    consecutiveAliveHeartbeats := 0 }

-- A dead node that shows up again, by a join or by a heartbeat.
def revive (m : Settings) (now : ℚ) (node : NodeRecord) : NodeRecord :=
  let node := { node with recentDeaths := recent m now node.recentDeaths }
  if m.flapThreshold ≤ node.recentDeaths.length then { node with status := .quarantined, consecutiveAliveHeartbeats := 1 }
  else { node with status := .alive }

def timedOut (m : Settings) (now : ℚ) (node : NodeRecord) : Bool := decide (m.timeout < now - node.lastHeartbeat)

def live (node : NodeRecord) : Bool := decide (node.status = .alive) || decide (node.status = .quarantined)

def check (m : Settings) (now : ℚ) (node : NodeRecord) : NodeRecord :=
  if node.live && node.timedOut m now then { node with status := .dead }.recordDeath m now else node

def purgeDue (m : Settings) (now : ℚ) (node : NodeRecord) : Bool :=
  decide (node.status = .dead) && m.purgeAfter.any fun limit => decide (limit < now - node.lastHeartbeat)

-- What is written before the body of a heartbeat is looked at.
def beat (now : ℚ) (node : NodeRecord) : NodeRecord :=
  { node with lastHeartbeat := now, heartbeatCount := node.heartbeatCount + 1 }

def heartbeat (m : Settings) (now : ℚ) (fields : List (String × Json)) (node : NodeRecord) : NodeRecord :=
  let node := { node.beat now with metrics := (Json.get fields "metrics").orElse (.obj []) }
  match node.status with
  | .dead => node.revive m now
  | .quarantined =>
      let node := { node with consecutiveAliveHeartbeats := node.consecutiveAliveHeartbeats + 1 }
      if m.quarantineRecovery ≤ node.consecutiveAliveHeartbeats then { node with status := .alive, recentDeaths := [] } else node
  | _ => node

end NodeRecord

end HuddleCluster.Master
