import HuddleCluster.Master.Record

set_option autoImplicit false

namespace HuddleCluster.Api

open Master (NodeRecord)

-- Why an operation does not succeed: the text of a ValueError or of an answer, or
-- an exception that no handler catches.
inductive Fault where
  | refused (text : String)
  | raised

def validEvents : List String :=
  ["*", "node.joined", "node.left", "node.dead", "node.quarantined", "node.recovered", "cluster.unhealthy", "cluster.recovered",
    "circuit_breaker.tripped", "autoscaler.scaled", "webhook.test"]

structure WebhookSubscription where
  webhookId : String
  url : String
  events : List String
  secret : Json
  headers : List (Json × Json)
  createdAt : ℚ
  active : Bool := true
  known : ∀ event ∈ events, event ∈ validEvents

structure WebhookDelivery where
  subscription : WebhookSubscription
  event : String
  timestamp : ℚ
  data : Json

structure Webhooks where
  subscriptions : Dict String WebhookSubscription
  queue : List WebhookDelivery
  running : Bool := true

-- The builtins repr and str on a parsed value.
structure Builtins where
  repr : Json → String
  str : Json → String

-- A list or an object is no key of a dictionary, nor a member of a set.
def hashable : Json → Bool
  | .arr _ | .obj _ => false
  | _ => true

-- The items that a loop over a value sees; a number, a truth value or None has no
-- items.
def items? : Json → Option (List Json)
  | .arr items => some items
  | .str text => some (text.toList.map fun c => .str (String.singleton c))
  | .obj fields => some ((fields.map Prod.fst).eraseDups.map .str)
  | _ => none

namespace WebhookSubscription

def isMatch (subscription : WebhookSubscription) (event : String) : Bool :=
  subscription.active && (decide ("*" ∈ subscription.events) || decide (event ∈ subscription.events))

def checkUrl (python : Builtins) (url : Json) : Except Fault String :=
  let invalid : Except Fault String :=
    let shown := python.repr url
    .error (.refused s!"Invalid webhook URL: {shown}. Must start with http:// or https://")
  if url.truthy then
    match url with
    | .str text =>
        if "http://".toList.isPrefixOf text.toList || "https://".toList.isPrefixOf text.toList then .ok text else invalid
    | _ => .error .raised
  else invalid

def checkEvent (python : Builtins) (event : Json) : Except Fault { event : String // event ∈ validEvents } :=
  let unknown : Except Fault { event : String // event ∈ validEvents } :=
    let shown := python.repr event
    let valid := python.repr (.arr ((validEvents.mergeSort fun first second => decide (first ≤ second)).map .str))
    .error (.refused s!"Unknown webhook event: {shown}. Valid events: {valid}")
  match event with
  | .str text => if known : text ∈ validEvents then .ok ⟨text, known⟩ else unknown
  | event => if hashable event then unknown else .error .raised

def checkEvents (python : Builtins) (events : Json) : Except Fault (List { event : String // event ∈ validEvents }) :=
  if events.truthy then
    match items? events with
    | none => .error .raised
    | some events => events.mapM (checkEvent python)
  else .ok [⟨"*", by simp [validEvents]⟩]

-- dict(..) takes an object, or pairs that it reads one after the other.
def checkHeader (header : Json) (i : Nat) : Except Fault (Json × Json) :=
  match items? header with
  | none => .error .raised
  | some [name, value] => if hashable name then .ok (name, value) else .error .raised
  | some found =>
      let length := found.length
      .error (.refused s!"dictionary update sequence element #{i} has length {length}; 2 is required")

def checkHeaders (headers : Json) : Except Fault (List (Json × Json)) :=
  if headers.truthy then
    match headers with
    | .obj fields => .ok (fields.map fun field => (.str field.1, field.2))
    | headers =>
        match items? headers with
        | none => .error .raised
        | some headers => headers.zipIdx.mapM fun header => checkHeader header.1 header.2
  else .ok []

-- What register makes of its arguments, before the subscription is stored.
def read (python : Builtins) (defaultSecret : Option String) (now : ℚ) (hex : String) (url events secret headers : Json) :
    Except Fault WebhookSubscription := do
  let url ← checkUrl python url
  let events ← checkEvents python events
  let headers ← checkHeaders headers
  return {
    webhookId := s!"wh-{hex}"
    url := url
    events := events.map Subtype.val
    secret := secret.orElse (.ofOption .str defaultSecret)
    headers := headers
    createdAt := now
    known := by
      intro event member
      obtain ⟨known, _, rfl⟩ := List.mem_map.mp member
      exact known.property }

def headerText (python : Builtins) : Json → String
  | .str text => text
  | .null => "null"
  | .bool true => "true"
  | .bool false => "false"
  | value => python.repr value

def toDict (python : Builtins) (subscription : WebhookSubscription) : Json := .obj [
  ("webhook_id", .str subscription.webhookId),
  ("url", .str subscription.url),
  ("events", .arr (subscription.events.map .str)),
  ("headers", .obj (subscription.headers.map fun header => (headerText python header.1, header.2))),
  ("created_at", .number subscription.createdAt),
  ("active", .bool subscription.active),
  ("secret", if subscription.secret.truthy then .str "********" else .null)]

end WebhookSubscription

namespace Webhooks

def queueSize : Nat := 1000

-- A delivery for which the queue has no room is dropped.
def put (event : String) (timestamp : ℚ) (data : Json) (w : Webhooks) (subscription : WebhookSubscription) : Webhooks :=
  if w.queue.length < queueSize then { w with queue := w.queue ++ [⟨subscription, event, timestamp, data⟩] } else w

def register (w : Webhooks) (subscription : WebhookSubscription) : Webhooks :=
  { w with subscriptions := w.subscriptions.set subscription.webhookId subscription }

def unregister (webhookId : String) (w : Webhooks) : Option Webhooks :=
  if w.subscriptions.contains webhookId then some { w with subscriptions := w.subscriptions.erase webhookId } else none

def dispatch (event : String) (now : ℚ) (data : Json) (w : Webhooks) : Webhooks :=
  if w.running then
    (w.subscriptions.values.filter fun subscription => subscription.isMatch event).foldl (put event now data) w
  else w

def lookup (w : Webhooks) : Json → Option WebhookSubscription
  | .str webhookId => w.subscriptions.get? webhookId
  | _ => none

def targets (python : Builtins) (target : Json) (w : Webhooks) : Except Fault (List WebhookSubscription) :=
  if target.truthy then
    if hashable target then
      match w.lookup target with
      | none =>
          let shown := python.str target
          .error (.refused s!"Webhook subscription '{shown}' not found")
      | some subscription => .ok [subscription]
    else .error .raised
  else if w.subscriptions.values.isEmpty then .error (.refused "No webhook subscriptions registered")
  else .ok w.subscriptions.values

def testPing (now : ℚ) (targets : List WebhookSubscription) (w : Webhooks) : Webhooks :=
  targets.foldl (put "webhook.test" now (.obj [
    ("message", .str "HuddleCluster synthetic test ping"),
    ("targets_count", .int targets.length)])) w

end Webhooks

end HuddleCluster.Api
