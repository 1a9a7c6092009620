import HuddleCluster.Api.Webhooks
import HuddleCluster.Breaker.Evaluate
import HuddleCluster.HA.Node
import HuddleCluster.Rollout.Updater
import HuddleCluster.Scheduler.Deployment

set_option autoImplicit false

namespace HuddleCluster.Api

open Master (Registry)
open Master.JoinRequest (stripped)
open Rollout (Updater)
open Scheduler (Canary)
open TokenBucket (Bucket Limits)

inductive Method where
  | post
  | delete
deriving DecidableEq

-- No Content-Length, one that is no number, or what was read.
inductive Body where
  | absent
  | badLength
  | invalid
  | parsed (value : Json)

-- The requests that the Raft endpoints of the HA component answer.
def haPaths : List (List String) := [["", "v1", "ha", "vote"], ["", "v1", "ha", "sync"]]

-- A POST or DELETE request to a master; path is the target before its query, cut
-- at every slash.
structure Request where
  method : Method
  path : List String
  query : String := ""
  authorization : String := ""
  body : Body := .absent
  tlsClientCn : Option String := none
  notHa : method = .post → path ∉ haPaths

structure WorkloadReport where
  nodeId : String
  durationMs : Json
  success : Bool
  time : ℚ

abbrev Announced := Dict String (Finset String)

structure MasterNode where
  ha : Option HA.Node := none
  registry : Registry
  scheduler : Option (List WorkloadReport) := none
  rollout : Option Updater := none
  services : Option Announced := none
  regions : Option Announced := none
  breakers : Option Breaker.States := none
  buckets : Option (Dict String (Bucket ℚ)) := none
  canary : Option Canary := none
  webhooks : Option Webhooks := none

-- apiKeys are the scopes of each key; lower is the method of a str.
structure Settings where
  apiKeys : Option (Dict String (List String)) := none
  rollout : Rollout.Settings := {}
  limits : Limits ℚ
  weightSteps : List ℚ := [5, 25, 50, 100]
  defaultSecret : Option String := none
  python : Builtins
  lower : String → String

structure Call where
  now : ℚ
  hex : String

-- The connection of a request whose handler raises is closed without an answer.
inductive Response where
  | sent (code : Nat) (headers : List (String × String)) (body : Json)
  | raised

namespace Response

def error (code : Nat) (text : String) : Response := .sent code [] (.obj [("ok", .bool false), ("error", .str text)])

def success (code : Nat) (fields : List (String × Json)) : Response := .sent code [] (.obj (("ok", .bool true) :: fields))

def refusal : Response → Prop
  | .sent code _ _ => 300 ≤ code
  | .raised => False

instance (response : Response) : Decidable response.refusal := by
  cases response <;> unfold refusal <;> infer_instance

def ofReply (declined : Nat) : Master.Reply → Response
  | .ok fields => success 200 fields
  | .error text => error declined text
  | .raised => .raised

end Response

namespace Request

def target (request : Request) : String := "/".intercalate request.path ++ request.query

def checkAuth (cfg : Settings) (request : Request) (permission : String) : Except Response Unit :=
  match cfg.apiKeys with
  | none => .ok ()
  | some keys =>
      if "Bearer ".toList.isPrefixOf request.authorization.toList then
        match keys.get? (Text.strip (String.ofList (request.authorization.toList.drop 7))) with
        | none => .error (.error 401 "invalid API key")
        | some scopes =>
            if permission ∈ scopes then .ok ()
            else .error (.error 403 s!"this API key lacks required '{permission}' permission")
      else .error (.error 401 "missing Authorization header (expected 'Bearer <api_key>')")

-- Both no JSON and the JSON null are read as None.
def readJson (request : Request) : Except Response Json :=
  match request.body with
  | .absent => .ok (.obj [])
  | .badLength => .error .raised
  | .invalid => .ok .null
  | .parsed value => .ok value

def json (request : Request) : Except Response Json :=
  match request.readJson with
  | .error reply => .error reply
  | .ok .null => .error (.error 400 "invalid JSON")
  | .ok body => .ok body

-- A body that is no object has no get.
def fields (request : Request) : Except Response (List (String × Json)) :=
  match request.json with
  | .error reply => .error reply
  | .ok (.obj fields) => .ok fields
  | .ok _ => .error .raised

def optionalFields (request : Request) : Except Response (List (String × Json)) :=
  match request.readJson with
  | .error reply => .error reply
  | .ok body =>
      match body.orElse (.obj []) with
      | .obj fields => .ok fields
      | _ => .error .raised

-- The body of a registration, which is the only one whose shape is checked.
def object (request : Request) : Except Response (List (String × Json)) :=
  match request.readJson with
  | .error reply => .error reply
  | .ok (.obj fields) => .ok fields
  | .ok _ => .error (.error 400 "invalid JSON body")

def pingTarget (request : Request) : Except Response Json :=
  match request.readJson with
  | .error reply => .error reply
  | .ok body =>
      match body.orElse (.obj []) with
      | .obj fields => .ok (Json.get fields "webhook_id")
      | _ => .ok .null

end Request

def nodeId (fields : List (String × Json)) : Except Response String :=
  match stripped (Json.get fields "node_id") with
  | none => .error .raised
  | some nodeId => if nodeId.val = "" then .error (.error 400 "node_id is required") else .ok nodeId.val

def nodeAnd (key : String) (fields : List (String × Json)) : Except Response (String × String) :=
  match stripped (Json.get fields "node_id"), stripped (Json.get fields key) with
  | some nodeId, some name =>
      if nodeId.val = "" ∨ name.val = "" then .error (.error 400 s!"node_id and {key} are required")
      else .ok (nodeId.val, name.val)
  | _, _ => .error .raised

end HuddleCluster.Api
