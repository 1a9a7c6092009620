import HuddleCluster.Api.Request
import HuddleCluster.Lib.Handler

set_option autoImplicit false

namespace HuddleCluster.Api

open Handler (answer commit require)
open Master (NodeRecord RegistryUpdate)
open Rollout (Updater)
open Scheduler (Canary)
open TokenBucket (Bucket Limits)

abbrev Endpoint := Handler MasterNode Response

namespace Response

-- What the handlers of an operation without a result answer when it succeeds.
def done : Response := .success 200 [("error", .null)]

def ofFault (code : Nat) : Fault → Response
  | .refused text => .error code text
  | .raised => .raised

end Response

def Request.checkLeader (request : Request) (m : MasterNode) : Except Response Unit :=
  match m.ha with
  | none => .ok ()
  | some node =>
      if node.isReadonly then
        .error (.sent 503 [] (.obj [
          ("ok", .bool false),
          ("error", .str "cluster partition detected — master is in read-only mode to prevent split-brain"),
          ("split_brain", .bool true),
          ("partition_state", .str node.partitionState.text)]))
      else if node.isLeader then .ok ()
      else
        let headers := match node.leaderUrl with
          | none | some "" => []
          | some url => [("Location", url ++ request.target), ("X-Leader-URL", url)]
        .error (.sent 307 headers (.obj [
          ("ok", .bool false),
          ("error", .str "not the leader — retry against the leader"),
          ("leader_url", .ofOption .str node.leaderUrl)]))

def attached {α : Type} (component : MasterNode → Option α) (name : String) (m : MasterNode) : Except Response α :=
  match component m with
  | none => .error (.error 503 s!"{name} is not enabled on this master")
  | some found => .ok found

-- The two checks that the routes of a component have in common.
def guarded {α : Type} (cfg : Settings) (request : Request) (permission : String) (component : MasterNode → Option α) (name : String)
    (next : α → Endpoint) : Endpoint :=
  require (fun _ => request.checkAuth cfg permission) fun _ => require (attached component name) next

namespace Announced

def announce (cfg : Settings) (nodeId name : String) (announced : Announced) : Announced :=
  let name := cfg.lower (Text.strip name)
  announced.set name (insert nodeId (announced.getD name ∅))

def deregister (cfg : Settings) (nodeId name : String) (announced : Announced) : Bool × Announced :=
  let name := cfg.lower (Text.strip name)
  let ids := announced.getD name ∅
  if nodeId ∈ ids then (true, announced.set name (ids.erase nodeId)) else (false, announced)

end Announced

def recordReport (report : WorkloadReport) (reports : List WorkloadReport) : List WorkloadReport :=
  let reports := reports ++ [report]
  reports.drop (reports.length - 1000)

def resetBucket (limits : Limits ℚ) (now : ℚ) (nodeId : String) (buckets : Dict String (Bucket ℚ)) :
    Option (Dict String (Bucket ℚ)) :=
  (buckets.get? nodeId).map fun bucket => buckets.set nodeId (bucket.fill limits now)

namespace MasterNode

-- The updater works on the registry of its master.
def receive (cfg : Settings) (update : RegistryUpdate) (m : MasterNode) : MasterNode :=
  { m with
    registry := m.registry.update cfg.rollout.master update
    rollout := m.rollout.map fun updater => updater.observe cfg.rollout update }

def notify (call : Call) (event : String) (extra : List (String × Json)) (node : NodeRecord) (m : MasterNode) : MasterNode :=
  let data := [("node_id", .str node.nodeId), ("address", .str node.address), ("port", node.port)] ++ extra
  { m with webhooks := m.webhooks.map fun webhooks => webhooks.dispatch event call.now (.obj data) }

-- The callbacks for a new node and for one that is now in quarantine.
def welcome (call : Call) (nodeId : String) (before : Option NodeRecord) (m : MasterNode) : MasterNode :=
  match before, m.registry.nodes.get? nodeId with
  | none, some node => m.notify call "node.joined" [("metadata", node.metadata)] node
  | some old, some node =>
      if old.status = .dead ∧ node.status = .quarantined then
        m.notify call "node.quarantined" [("recent_deaths", .arr (node.recentDeaths.map .number))] node
      else m
  | _, none => m

end MasterNode

inductive RolloutAction where
  | start
  | pause
  | resume
  | abort
deriving DecidableEq

namespace RolloutAction

def operate (now : ℚ) : RolloutAction → Updater → Option Updater
  | .start, updater => updater.startRollout now
  | .pause, updater => updater.pause
  | .resume, updater => updater.resume
  | .abort, updater => updater.abort

def declined : RolloutAction → String
  | .start => "a rollout is already in progress"
  | .pause => "no running rollout to pause"
  | .resume => "no paused rollout to resume"
  | .abort => "no active rollout to abort"

end RolloutAction

inductive CanaryCommand where
  | start
  | advance
  | promote
  | abort
deriving DecidableEq

inductive Route where
  | join
  | heartbeat (nodeId : String)
  | leave (nodeId : String)
  | report
  | rollout (action : RolloutAction)
  | announceService
  | announceRegion
  | resetBreaker (nodeId : String)
  | resetBucket (nodeId : String)
  | canary (command : CanaryCommand)
  | announceCanary
  | registerWebhook
  | testWebhook
  | deregisterService (service nodeId : String)
  | unregisterWebhook (webhookId : String)
  | notFound

namespace Route

-- A node or a service is named by a part of the path that is not empty.
def named (name : String) (route : Route) : Route := if name = "" then .notFound else route

def post : List String → Route
  | ["nodes", "join"] => .join
  | ["nodes", nodeId, "heartbeat"] => named nodeId (.heartbeat nodeId)
  | ["scheduler", "report"] => .report
  | ["rollout", "start"] => .rollout .start
  | ["rollout", "pause"] => .rollout .pause
  | ["rollout", "resume"] => .rollout .resume
  | ["rollout", "abort"] => .rollout .abort
  | ["discovery", "announce"] => .announceService
  | ["regions", "announce"] => .announceRegion
  | ["breakers", nodeId, "reset"] => named nodeId (.resetBreaker nodeId)
  | ["ratelimits", nodeId, "reset"] => named nodeId (.resetBucket nodeId)
  | ["canary", "start"] => .canary .start
  | ["canary", "advance"] => .canary .advance
  | ["canary", "promote"] => .canary .promote
  | ["canary", "abort"] => .canary .abort
  | ["canary", "announce"] => .announceCanary
  | ["webhooks"] => .registerWebhook
  | ["webhooks", "test"] => .testWebhook
  | _ => .notFound

def delete : List String → Route
  | ["nodes", nodeId] => named nodeId (.leave nodeId)
  | ["discovery", "services", service, nodeId] => named service (named nodeId (.deregisterService service nodeId))
  | "webhooks" :: part :: rest => .unregisterWebhook ("/".intercalate (part :: rest))
  | _ => .notFound

end Route

def Request.route (request : Request) : Route :=
  match request.path with
  | "" :: "v1" :: rest =>
      match request.method with
      | .post => Route.post rest
      | .delete => Route.delete rest
  | _ => .notFound

namespace Endpoint

-- The answers to an operation that gives nothing when it declines, and to one
-- that says whether it did anything.
def perform {α : Type} (result : Option α) (store : MasterNode → α → MasterNode) (declined : Response) : Endpoint :=
  match result with
  | none => answer declined
  | some after => commit .done fun m => store m after

def settle {α : Type} (result : Bool × α) (store : MasterNode → α → MasterNode) (declined : Response) : Endpoint :=
  commit (if result.1 then .done else declined) fun m => store m result.2

def join (cfg : Settings) (call : Call) (request : Request) : Endpoint :=
  require (fun _ => request.checkAuth cfg "nodes:write") fun _ =>
  require request.checkLeader fun _ =>
  require (fun _ => request.json) fun body m =>
    let result := m.registry.handleJoin cfg.rollout.master call.now body request.tlsClientCn
    let after := m.receive cfg (.receive (.join call.now body request.tlsClientCn))
    match Master.JoinRequest.read body with
    | .error _ => (.ofReply 400 result.1, after)
    | .ok joining => (.ofReply 400 result.1, after.welcome call joining.nodeId (m.registry.nodes.get? joining.nodeId))

def heartbeat (cfg : Settings) (call : Call) (request : Request) (nodeId : String) : Endpoint :=
  require (fun _ => request.checkAuth cfg "nodes:write") fun _ =>
  require request.checkLeader fun _ =>
  require (fun _ => request.json) fun body m =>
    let result := m.registry.handleHeartbeat cfg.rollout.master call.now nodeId body
    let after := m.receive cfg (.receive (.heartbeat call.now nodeId body))
    (.ofReply 404 result.1, after.welcome call nodeId (m.registry.nodes.get? nodeId))

def leave (cfg : Settings) (call : Call) (request : Request) (nodeId : String) : Endpoint :=
  require (fun _ => request.checkAuth cfg "nodes:write") fun _ =>
  require request.checkLeader fun _ m =>
    match m.registry.nodes.get? nodeId with
    | none => (.error 404 s!"unknown node '{nodeId}'", m)
    | some node =>
        let marked := (m.receive cfg (.beginLeave nodeId)).notify call "node.left" [] node
        (.ofReply 404 (marked.registry.finishLeave nodeId).1, marked.receive cfg (.finishLeave nodeId))

def report (cfg : Settings) (call : Call) (request : Request) : Endpoint :=
  guarded cfg request "scheduler:write" MasterNode.scheduler "scheduler" fun reports =>
  require (fun _ => request.fields) fun fields =>
  require (fun _ => Api.nodeId fields) fun nodeId =>
    let report := {
      nodeId := nodeId
      durationMs := Json.get fields "duration_ms"
      success := ((Json.find? fields "success").getD (.bool true)).truthy
      time := call.now }
    commit (.success 200 [("recorded", .str nodeId)]) fun m => { m with scheduler := some (recordReport report reports) }

def rollout (cfg : Settings) (call : Call) (request : Request) (action : RolloutAction) : Endpoint :=
  guarded cfg request "rollout:control" MasterNode.rollout "rolling_updater" fun updater =>
    perform (action.operate call.now updater) (fun m after => { m with rollout := some after }) (.error 409 action.declined)

def announceService (cfg : Settings) (request : Request) : Endpoint :=
  guarded cfg request "discovery:write" MasterNode.services "service_discovery" fun services =>
  require (fun _ => request.fields) fun fields =>
  require (fun _ => nodeAnd "service" fields) fun found =>
    commit (.success 200 [("node_id", .str found.1), ("service", .str found.2)]) fun m =>
      { m with services := some (services.announce cfg found.1 found.2) }

def announceRegion (cfg : Settings) (request : Request) : Endpoint :=
  guarded cfg request "regions:write" MasterNode.regions "multi_region" fun regions =>
  require (fun _ => request.fields) fun fields =>
  require (fun _ => nodeAnd "region" fields) fun found =>
    commit (.success 200 [("node_id", .str found.1), ("region", .str found.2)]) fun m =>
      { m with regions := some (regions.announce cfg found.1 found.2) }

def resetBreaker (cfg : Settings) (request : Request) (nodeId : String) : Endpoint :=
  guarded cfg request "breakers:reset" MasterNode.breakers "circuit_breaker" fun breakers =>
    settle (Breaker.reset nodeId breakers) (fun m after => { m with breakers := some after })
      (.error 404 s!"no breaker state for '{nodeId}'")

def resetBucket (cfg : Settings) (call : Call) (request : Request) (nodeId : String) : Endpoint :=
  guarded cfg request "ratelimits:reset" MasterNode.buckets "rate_limiter" fun buckets =>
    perform (Api.resetBucket cfg.limits call.now nodeId buckets) (fun m after => { m with buckets := some after })
      (.error 404 s!"no bucket for '{nodeId}'")

def canaryVerdict (result : Option Bool × Canary) (declined : String) : Endpoint :=
  let reply : Response := match result.1 with
    | none => .raised
    | some ok => if ok then .done else .error 409 declined
  commit reply fun m => { m with canary := some result.2 }

def canary (cfg : Settings) (request : Request) (command : CanaryCommand) : Endpoint :=
  guarded cfg request "canary:control" MasterNode.canary "canary" fun canary =>
    match command with
    | .start =>
        require (fun _ => request.optionalFields) fun fields =>
          canaryVerdict (canary.start cfg.weightSteps (Json.get fields "weight")) "a deployment is already active"
    | .advance => canaryVerdict (canary.advance cfg.weightSteps) "no active deployment or already at max weight"
    | .promote => canaryVerdict canary.promote "no active deployment to promote"
    | .abort => canaryVerdict canary.abort "no active deployment to abort"

def announceCanary (cfg : Settings) (request : Request) : Endpoint :=
  guarded cfg request "canary:control" MasterNode.canary "canary" fun canary =>
  require (fun _ => request.fields) fun fields =>
  require (fun _ => Api.nodeId fields) fun nodeId =>
    commit (.success 200 [("node_id", .str nodeId), ("tagged", .str "canary")]) fun m =>
      { m with canary := some (canary.announceCanary nodeId) }

def registerWebhook (cfg : Settings) (call : Call) (request : Request) : Endpoint :=
  guarded cfg request "webhooks:write" MasterNode.webhooks "webhooks" fun webhooks =>
  require (fun _ => request.object) fun fields =>
    let url := Json.get fields "url"
    if url.truthy then
      match WebhookSubscription.read cfg.python cfg.defaultSecret call.now call.hex url (Json.get fields "events")
        (Json.get fields "secret") (Json.get fields "headers") with
      | .error fault => answer (.ofFault 400 fault)
      | .ok subscription =>
          commit (.success 201 [("webhook", subscription.toDict cfg.python)]) fun m =>
            { m with webhooks := some (webhooks.register subscription) }
    else answer (.error 400 "'url' is required")

def testWebhook (cfg : Settings) (call : Call) (request : Request) : Endpoint :=
  guarded cfg request "webhooks:write" MasterNode.webhooks "webhooks" fun webhooks =>
  require (fun _ => request.pingTarget) fun target =>
    match webhooks.targets cfg.python target with
    | .error fault => answer (.ofFault 400 fault)
    | .ok targets =>
        commit (.success 200 [("dispatched_to", .int targets.length)]) fun m =>
          { m with webhooks := some (webhooks.testPing call.now targets) }

def deregisterService (cfg : Settings) (request : Request) (service nodeId : String) : Endpoint :=
  guarded cfg request "discovery:write" MasterNode.services "service_discovery" fun services =>
    settle (services.deregister cfg nodeId service) (fun m after => { m with services := some after })
      (.error 404 s!"'{nodeId}' not registered for '{service}'")

def unregisterWebhook (cfg : Settings) (request : Request) (webhookId : String) : Endpoint :=
  guarded cfg request "webhooks:write" MasterNode.webhooks "webhooks" fun webhooks =>
    perform (webhooks.unregister webhookId) (fun m after => { m with webhooks := some after })
      (.error 404 s!"webhook '{webhookId}' not found")

end Endpoint

def Route.endpoint (cfg : Settings) (call : Call) (request : Request) : Route → Endpoint
  | .join => .join cfg call request
  | .heartbeat nodeId => .heartbeat cfg call request nodeId
  | .leave nodeId => .leave cfg call request nodeId
  | .report => .report cfg call request
  | .rollout action => .rollout cfg call request action
  | .announceService => .announceService cfg request
  | .announceRegion => .announceRegion cfg request
  | .resetBreaker nodeId => .resetBreaker cfg request nodeId
  | .resetBucket nodeId => .resetBucket cfg call request nodeId
  | .canary command => .canary cfg request command
  | .announceCanary => .announceCanary cfg request
  | .registerWebhook => .registerWebhook cfg call request
  | .testWebhook => .testWebhook cfg call request
  | .deregisterService service nodeId => .deregisterService cfg request service nodeId
  | .unregisterWebhook webhookId => .unregisterWebhook cfg request webhookId
  | .notFound => answer (.error 404 "not found")

-- do_POST and do_DELETE. The log of the observability component is not modelled.
def dispatch (cfg : Settings) (call : Call) (request : Request) : Endpoint := request.route.endpoint cfg call request

end HuddleCluster.Api
