import HuddleCluster.Api.Dispatch

set_option autoImplicit false

namespace HuddleCluster.Api

open Handler (answer commit require Refuses)
open Master.JoinRequest (stripped)
open Rollout (Updater)
open Scheduler (Canary)

-- The master answers with a refusal or a redirect, and neither it nor one of its
-- components changes.
abbrev Refused (endpoint : Endpoint) (m : MasterNode) : Prop := Refuses Response.refusal endpoint m

-- The component, if there is one, declines the request, unless its key does not
-- allow it.
def Turned {α : Type} (cfg : Settings) (request : Request) (permission : String) (component : Option α) (declines : α → Prop) : Prop :=
  request.checkAuth cfg permission = .ok () → ∀ found ∈ component, declines found

-- The body is no JSON, or an object that the route does not accept.
def Request.Bad (request : Request) (declines : List (String × Json) → Prop) : Prop :=
  request.readJson = .ok .null ∨ ∃ fields, request.readJson = .ok (.obj fields) ∧ declines fields

def Nameless (fields : List (String × Json)) : Prop :=
  ∃ nodeId, stripped (Json.get fields "node_id") = some nodeId ∧ nodeId.val = ""

def NamelessWith (key : String) (fields : List (String × Json)) : Prop :=
  ∃ nodeId name, stripped (Json.get fields "node_id") = some nodeId ∧ stripped (Json.get fields key) = some name ∧
    (nodeId.val = "" ∨ name.val = "")

def RolloutAction.Declined (updater : Updater) : RolloutAction → Prop
  | .start => updater.phase = .running ∨ updater.phase = .paused
  | .pause => updater.phase ≠ .running
  | .resume => updater.phase ≠ .paused
  | .abort => updater.phase ≠ .running ∧ updater.phase ≠ .paused

-- The body of a start may be missing, and whatever is falsy counts as missing.
def CanaryCommand.Declined (cfg : Settings) (request : Request) (canary : Canary) : CanaryCommand → Prop
  | .start => canary.phase = .active ∧ ∃ body, request.readJson = .ok body ∧ (body.truthy = true → ∃ fields, body = .obj fields)
  | .advance => canary.phase = .active → ∀ step ∈ cfg.weightSteps, step ≤ canary.weight
  | .promote | .abort => canary.phase ≠ .active

def Fails {α : Type} (check : Except Fault α) : Prop := ∃ text, check = .error (.refused text)

def Passes {α : Type} (check : Except Fault α) : Prop := ∃ found, check = .ok found

-- The first of the three arguments that does not pass ends in a ValueError.
def Invalid (python : Builtins) (fields : List (String × Json)) : Prop :=
  (Json.get fields "url").truthy = false ∨
  Fails (WebhookSubscription.checkUrl python (Json.get fields "url")) ∨
  Passes (WebhookSubscription.checkUrl python (Json.get fields "url")) ∧
    (Fails (WebhookSubscription.checkEvents python (Json.get fields "events")) ∨
      Passes (WebhookSubscription.checkEvents python (Json.get fields "events")) ∧
        Fails (WebhookSubscription.checkHeaders (Json.get fields "headers")))

def Request.Unregistrable (cfg : Settings) (request : Request) : Prop :=
  ∃ body, request.readJson = .ok body ∧ ∀ fields, body = .obj fields → Invalid cfg.python fields

def Webhooks.Unknown (target : Json) (webhooks : Webhooks) : Prop :=
  if target.truthy then hashable target = true ∧ webhooks.lookup target = none else webhooks.subscriptions.values = []

-- What a master that is no leader turns away on a route.
def Route.Declines (cfg : Settings) (request : Request) (m : MasterNode) : Route → Prop
  | .join | .heartbeat _ | .leave _ | .notFound => True
  | .report => Turned cfg request "scheduler:write" m.scheduler fun _ => request.Bad Nameless
  | .rollout action => Turned cfg request "rollout:control" m.rollout fun updater => action.Declined updater
  | .announceService => Turned cfg request "discovery:write" m.services fun _ => request.Bad (NamelessWith "service")
  | .announceRegion => Turned cfg request "regions:write" m.regions fun _ => request.Bad (NamelessWith "region")
  | .resetBreaker nodeId => Turned cfg request "breakers:reset" m.breakers fun breakers => breakers.get? nodeId = none
  | .resetBucket nodeId => Turned cfg request "ratelimits:reset" m.buckets fun buckets => buckets.get? nodeId = none
  | .canary command => Turned cfg request "canary:control" m.canary fun canary => command.Declined cfg request canary
  | .announceCanary => Turned cfg request "canary:control" m.canary fun _ => request.Bad Nameless
  | .registerWebhook => Turned cfg request "webhooks:write" m.webhooks fun _ => request.Unregistrable cfg
  | .testWebhook => Turned cfg request "webhooks:write" m.webhooks fun webhooks =>
      ∃ target, request.pingTarget = .ok target ∧ webhooks.Unknown target
  | .deregisterService service nodeId => Turned cfg request "discovery:write" m.services fun services =>
      nodeId ∉ services.getD (cfg.lower (Text.strip service)) ∅
  | .unregisterWebhook webhookId => Turned cfg request "webhooks:write" m.webhooks fun webhooks =>
      webhooks.subscriptions.get? webhookId = none

section Answers

@[simp] theorem error_refusal (code : Nat) (text : String) : (Response.error code text).refusal ↔ 300 ≤ code := Iff.rfl

@[simp] theorem success_refusal (code : Nat) (fields : List (String × Json)) :
    (Response.success code fields).refusal ↔ 300 ≤ code := Iff.rfl

@[simp] theorem raised_refusal : Response.raised.refusal ↔ False := Iff.rfl

@[simp] theorem done_refusal : Response.done.refusal ↔ False := by
  simp [Response.done]

end Answers

theorem check_auth_refusal (cfg : Settings) (request : Request) (permission : String) (reply : Response)
    (denied : request.checkAuth cfg permission = .error reply) : reply.refusal := by
  simp only [Request.checkAuth] at denied
  split at denied
  · cases denied
  · split at denied
    · split at denied
      · cases denied
        simp
      · split at denied
        · cases denied
        · cases denied
          simp
    · cases denied
      simp

theorem attached_refusal {α : Type} (component : MasterNode → Option α) (name : String) (m : MasterNode) (reply : Response)
    (absent : attached component name m = .error reply) : reply.refusal := by
  simp only [attached] at absent
  split at absent
  · cases absent
    simp
  · cases absent

theorem check_leader_refusal (request : Request) (m : MasterNode) (node : HA.Node) (enabled : m.ha = some node)
    (follower : node.isReadonly = true ∨ node.isLeader = false) :
    ∃ reply, request.checkLeader m = .error reply ∧ reply.refusal := by
  simp only [Request.checkLeader, enabled]
  by_cases readonly : node.isReadonly = true
  · rw [if_pos readonly]
    exact ⟨_, rfl, by simp [Response.refusal]⟩
  · have noLeader : node.isLeader = false := follower.resolve_left readonly
    rw [if_neg readonly, if_neg (by simp [noLeader])]
    exact ⟨_, rfl, by simp [Response.refusal]⟩

theorem auth_first (cfg : Settings) (request : Request) (permission : String) (next : Unit → Endpoint) (m : MasterNode) :
    Refused (require (fun _ => request.checkAuth cfg permission) next) m ↔
      (request.checkAuth cfg permission = .ok () → Refused (next ()) m) := by
  rw [Refused, Handler.require_refusing (fun _ => request.checkAuth cfg permission) next
    fun reply => check_auth_refusal cfg request permission reply]
  exact ⟨fun each allowed => each () allowed, fun allows _ allowed => allows allowed⟩

-- A route that asks for the leader before anything else than the key of the
-- request.
theorem leader_first (cfg : Settings) (request : Request) (m : MasterNode) (node : HA.Node) (enabled : m.ha = some node)
    (follower : node.isReadonly = true ∨ node.isLeader = false) (permission : String) (next : Unit → Endpoint) :
    Refused (require (fun _ => request.checkAuth cfg permission) fun _ => require request.checkLeader next) m := by
  obtain ⟨reply, stops, refused⟩ := check_leader_refusal request m node enabled follower
  rw [auth_first]
  intro _
  exact (Handler.require_error request.checkLeader next reply stops).mpr refused

theorem guarded_turned {α : Type} (cfg : Settings) (request : Request) (permission : String) (component : MasterNode → Option α)
    (name : String) (next : α → Endpoint) (m : MasterNode) (declines : α → Prop)
    (each : ∀ found, component m = some found → (Refused (next found) m ↔ declines found)) :
    Refused (guarded cfg request permission component name next) m ↔
      Turned cfg request permission (component m) declines := by
  rw [guarded, auth_first, Turned]
  refine forall_congr' fun _ => ?_
  rw [Refused, Handler.require_refusing (attached component name) next (attached_refusal component name m)]
  cases held : component m with
  | none => simp [attached, held]
  | some found =>
      have goes : attached component name m = .ok found := by simp only [attached, held]
      simp only [goes, Except.ok.injEq, Option.mem_def, Option.some.injEq, forall_eq']
      exact each found held

theorem read_json_error (request : Request) (reply : Response) (read : request.readJson = .error reply) : reply = .raised := by
  simp only [Request.readJson] at read
  split at read <;> cases read
  rfl

theorem fields_bad (request : Request) (next : List (String × Json) → Endpoint) (m : MasterNode)
    (declines : List (String × Json) → Prop) (each : ∀ fields, Refused (next fields) m ↔ declines fields) :
    Refused (require (fun _ => request.fields) next) m ↔ request.Bad declines := by
  rw [Refused, Request.Bad]
  cases read : request.readJson with
  | error reply =>
      rw [Handler.require_error _ _ reply (by simp only [Request.fields, Request.json, read]), read_json_error request reply read]
      simp
  | ok body =>
      cases body with
      | null =>
          rw [Handler.require_error _ _ (.error 400 "invalid JSON") (by simp only [Request.fields, Request.json, read])]
          simp
      | obj fields =>
          rw [Handler.require_ok _ _ fields (by simp only [Request.fields, Request.json, read])]
          simpa using each fields
      | bool | int | float | str | arr =>
          rw [Handler.require_error _ _ .raised (by simp only [Request.fields, Request.json, read])]
          simp

theorem node_nameless (fields : List (String × Json)) (next : String → Endpoint) (m : MasterNode)
    (accepted : ∀ nodeId, ¬ Refused (next nodeId) m) :
    Refused (require (fun _ => nodeId fields) next) m ↔ Nameless fields := by
  rw [Refused, Nameless]
  cases found : stripped (Json.get fields "node_id") with
  | none =>
      rw [Handler.require_error _ _ .raised (by simp only [nodeId, found])]
      simp
  | some name =>
      by_cases blank : name.val = ""
      · rw [Handler.require_error _ _ (.error 400 "node_id is required") (by simp only [nodeId, found, if_pos blank])]
        simp [blank]
      · rw [Handler.require_ok _ _ name.val (by simp only [nodeId, found, if_neg blank])]
        simpa [blank] using accepted name.val

theorem names_nameless (key : String) (fields : List (String × Json)) (next : String × String → Endpoint) (m : MasterNode)
    (accepted : ∀ found, ¬ Refused (next found) m) :
    Refused (require (fun _ => nodeAnd key fields) next) m ↔ NamelessWith key fields := by
  rw [Refused, NamelessWith]
  cases node : stripped (Json.get fields "node_id") with
  | none =>
      rw [Handler.require_error _ _ .raised (by simp only [nodeAnd, node])]
      simp
  | some nodeId =>
      cases other : stripped (Json.get fields key) with
      | none =>
          rw [Handler.require_error _ _ .raised (by simp only [nodeAnd, node, other])]
          simp
      | some name =>
          by_cases blank : nodeId.val = "" ∨ name.val = ""
          · rw [Handler.require_error _ _ (.error 400 s!"node_id and {key} are required")
              (by simp only [nodeAnd, node, other, if_pos blank])]
            simp [blank]
          · rw [Handler.require_ok _ _ (nodeId.val, name.val) (by simp only [nodeAnd, node, other, if_neg blank])]
            simpa [blank] using accepted (nodeId.val, name.val)

theorem commit_success (code : Nat) (fields : List (String × Json)) (store : MasterNode → MasterNode) (m : MasterNode)
    (below : code < 300) : ¬ Refused (commit (.success code fields) store) m :=
  Handler.commit_accepted _ store (by simpa using below)

section Endpoints

variable (cfg : Settings) (call : Call) (request : Request) (m : MasterNode)

theorem report_refused :
    Refused (.report cfg call request) m ↔ Route.Declines cfg request m .report := by
  refine guarded_turned _ _ _ _ _ _ _ _ fun reports _ => ?_
  refine fields_bad request _ m Nameless fun fields => ?_
  exact node_nameless fields _ m fun _ => commit_success 200 _ _ m (by omega)

theorem announce_service_refused :
    Refused (.announceService cfg request) m ↔ Route.Declines cfg request m .announceService := by
  refine guarded_turned _ _ _ _ _ _ _ _ fun services _ => ?_
  refine fields_bad request _ m (NamelessWith "service") fun fields => ?_
  exact names_nameless "service" fields _ m fun _ => commit_success 200 _ _ m (by omega)

theorem announce_region_refused :
    Refused (.announceRegion cfg request) m ↔ Route.Declines cfg request m .announceRegion := by
  refine guarded_turned _ _ _ _ _ _ _ _ fun regions _ => ?_
  refine fields_bad request _ m (NamelessWith "region") fun fields => ?_
  exact names_nameless "region" fields _ m fun _ => commit_success 200 _ _ m (by omega)

theorem announce_canary_refused :
    Refused (.announceCanary cfg request) m ↔ Route.Declines cfg request m .announceCanary := by
  refine guarded_turned _ _ _ _ _ _ _ _ fun canary _ => ?_
  refine fields_bad request _ m Nameless fun fields => ?_
  exact node_nameless fields _ m fun _ => commit_success 200 _ _ m (by omega)

theorem perform_refused {α : Type} (result : Option α) (store : MasterNode → α → MasterNode) (declined : Response)
    (declining : declined.refusal) : Refused (.perform result store declined) m ↔ result = none := by
  cases result with
  | none => simpa [Refused, Endpoint.perform, Handler.refuses_answer] using declining
  | some after => simp [Refused, Endpoint.perform, Handler.refuses_commit]

theorem settle_refused {α : Type} (result : Bool × α) (store : MasterNode → α → MasterNode) (declined : Response)
    (declining : declined.refusal) (kept : result.1 = false → store m result.2 = m) :
    Refused (.settle result store declined) m ↔ result.1 = false := by
  rw [Refused, Endpoint.settle, Handler.refuses_commit]
  by_cases succeeds : result.1 = true
  · simp [succeeds]
  · rw [Bool.not_eq_true] at succeeds
    simpa [succeeds, kept succeeds] using declining

theorem operate_none (now : ℚ) (updater : Updater) (action : RolloutAction) :
    action.operate now updater = none ↔ action.Declined updater := by
  cases action with
  | start =>
      simp only [RolloutAction.operate, RolloutAction.Declined, Updater.startRollout, ite_eq_left_iff, reduceCtorEq, imp_false,
        not_not]
  | pause => simp [RolloutAction.operate, RolloutAction.Declined, Updater.pause]
  | resume => simp [RolloutAction.operate, RolloutAction.Declined, Updater.resume]
  | abort => simp [RolloutAction.operate, RolloutAction.Declined, Updater.abort]

theorem rollout_refused (action : RolloutAction) :
    Refused (.rollout cfg call request action) m ↔ Route.Declines cfg request m (.rollout action) := by
  refine guarded_turned _ _ _ _ _ _ _ _ fun updater _ => ?_
  rw [← operate_none call.now updater action]
  exact perform_refused m _ _ _ (by simp)

theorem reset_bucket_refused (nodeId : String) :
    Refused (.resetBucket cfg call request nodeId) m ↔ Route.Declines cfg request m (.resetBucket nodeId) := by
  refine guarded_turned _ _ _ _ _ _ _ _ fun buckets _ => ?_
  have declined : resetBucket cfg.limits call.now nodeId buckets = none ↔ buckets.get? nodeId = none := by
    rw [resetBucket, Option.map_eq_none_iff]
  rw [← declined]
  exact perform_refused m _ _ _ (by simp)

theorem unregister_webhook_refused (webhookId : String) :
    Refused (.unregisterWebhook cfg request webhookId) m ↔ Route.Declines cfg request m (.unregisterWebhook webhookId) := by
  refine guarded_turned _ _ _ _ _ _ _ _ fun webhooks _ => ?_
  have declined : webhooks.unregister webhookId = none ↔ webhooks.subscriptions.get? webhookId = none := by
    cases found : webhooks.subscriptions.get? webhookId with
    | none => simp [Webhooks.unregister, Dict.contains, found]
    | some subscription => simp [Webhooks.unregister, Dict.contains, found]
  rw [← declined]
  exact perform_refused m _ _ _ (by simp)

theorem reset_breaker_refused (nodeId : String) :
    Refused (.resetBreaker cfg request nodeId) m ↔ Route.Declines cfg request m (.resetBreaker nodeId) := by
  refine guarded_turned _ _ _ _ _ _ _ _ fun breakers held => ?_
  have declined : (Breaker.reset nodeId breakers).1 = false ↔ breakers.get? nodeId = none := by
    cases found : breakers.get? nodeId with
    | none => simp [Breaker.reset, found]
    | some breaker =>
        by_cases closed : breaker.state = .closed
        · simp [Breaker.reset, found, closed]
        · simp [Breaker.reset, found, closed]
  rw [← declined]
  refine settle_refused m _ _ _ (by simp) fun declines => ?_
  have same : (Breaker.reset nodeId breakers).2 = breakers := by
    simp only [Breaker.reset, declined.mp declines]
  simp only [same, ← held]

theorem deregister_service_refused (service nodeId : String) :
    Refused (.deregisterService cfg request service nodeId) m ↔
      Route.Declines cfg request m (.deregisterService service nodeId) := by
  refine guarded_turned _ _ _ _ _ _ _ _ fun services held => ?_
  by_cases registered : nodeId ∈ services.getD (cfg.lower (Text.strip service)) ∅
  · have result : (services.deregister cfg nodeId service).1 = true := by
      simp only [Announced.deregister, if_pos registered]
    rw [settle_refused m _ _ _ (by simp) (by simp [result])]
    simp [result, registered]
  · have result : services.deregister cfg nodeId service = (false, services) := by
      simp only [Announced.deregister, if_neg registered]
    rw [settle_refused m _ _ _ (by simp) (by simp [result, ← held])]
    simp [result, registered]

-- A deployment that declines stays as it is; where it raises nothing is answered.
theorem canary_verdict_refused (result : Option Bool × Canary) (declined : String) (canary : Canary) (held : m.canary = some canary)
    (kept : result.1 = some false → result.2 = canary) :
    Refused (.canaryVerdict result declined) m ↔ result.1 = some false := by
  rw [Refused, Endpoint.canaryVerdict, Handler.refuses_commit]
  cases outcome : result.1 with
  | none => simp
  | some ok =>
      cases ok with
      | true => simp
      | false => simp [kept outcome, ← held]

theorem optional_fields_refused (next : List (String × Json) → Endpoint) (declined : Prop)
    (each : ∀ fields, Refused (next fields) m ↔ declined) :
    Refused (require (fun _ => request.optionalFields) next) m ↔
      declined ∧ ∃ body, request.readJson = .ok body ∧ (body.truthy = true → ∃ fields, body = .obj fields) := by
  rw [Refused]
  cases read : request.readJson with
  | error reply =>
      rw [Handler.require_error _ _ reply (by simp only [Request.optionalFields, read]), read_json_error request reply read]
      simp
  | ok body =>
      by_cases given : body.truthy = true
      · cases body with
        | obj fields =>
            rw [Handler.require_ok _ _ fields (by simp only [Request.optionalFields, read, Json.orElse, if_pos given])]
            simpa using each fields
        | null | bool | int | float | str | arr =>
            rw [Handler.require_error _ _ .raised (by simp only [Request.optionalFields, read, Json.orElse, if_pos given])]
            simp [given]
      · rw [Handler.require_ok _ _ [] (by simp only [Request.optionalFields, read, Json.orElse, if_neg given])]
        simpa [given] using each []

theorem start_declined (weightSteps : List ℚ) (weight : Json) (canary : Canary) :
    (canary.start weightSteps weight).1 = some false ↔ canary.phase = .active := by
  by_cases active : canary.phase = .active
  · simp [Canary.start, active]
  · unfold Canary.start
    rw [if_neg active]
    simp only [active, iff_false]
    split <;> simp

theorem advance_declined (weightSteps : List ℚ) (canary : Canary) :
    (canary.advance weightSteps).1 = some false ↔ (canary.phase = .active → ∀ step ∈ weightSteps, step ≤ canary.weight) := by
  by_cases active : canary.phase = .active
  · rw [Canary.advance, if_pos active]
    cases next : weightSteps.find? fun step => decide (canary.weight < step) with
    | none => simpa [active] using List.find?_eq_none.mp next
    | some step =>
        have higher : canary.weight < step := by simpa using List.find?_some next
        simp only [active, Option.some.injEq, Bool.true_eq_false, false_iff, forall_const]
        intro bounded
        exact absurd (bounded step (List.mem_of_find?_eq_some next)) (not_le.mpr higher)
  · simp [Canary.advance, active]

theorem declined_same (weightSteps : List ℚ) (weight : Json) (canary : Canary) :
    ((canary.start weightSteps weight).1 = some false → (canary.start weightSteps weight).2 = canary) ∧
      ((canary.advance weightSteps).1 = some false → (canary.advance weightSteps).2 = canary) ∧
      (canary.promote.1 = some false → canary.promote.2 = canary) ∧ (canary.abort.1 = some false → canary.abort.2 = canary) := by
  refine ⟨?_, ?_, ?_, ?_⟩
  · rw [start_declined]
    intro active
    unfold Canary.start
    rw [if_pos active]
  · simp only [Canary.advance]
    split
    · split <;> simp
    · simp
  · simp only [Canary.promote]
    split <;> simp
  · simp only [Canary.abort]
    split <;> simp

theorem canary_refused (command : CanaryCommand) :
    Refused (.canary cfg request command) m ↔ Route.Declines cfg request m (.canary command) := by
  refine guarded_turned _ _ _ _ _ _ _ _ fun canary held => ?_
  cases command with
  | start =>
      refine optional_fields_refused request m _ _ fun fields => ?_
      rw [canary_verdict_refused m _ _ canary held (declined_same cfg.weightSteps (Json.get fields "weight") canary).1]
      exact start_declined cfg.weightSteps (Json.get fields "weight") canary
  | advance =>
      rw [canary_verdict_refused m _ _ canary held (declined_same cfg.weightSteps .null canary).2.1]
      exact advance_declined cfg.weightSteps canary
  | promote =>
      rw [canary_verdict_refused m _ _ canary held (declined_same cfg.weightSteps .null canary).2.2.1]
      by_cases active : canary.phase = .active <;> simp [Canary.promote, CanaryCommand.Declined, active]
  | abort =>
      rw [canary_verdict_refused m _ _ canary held (declined_same cfg.weightSteps .null canary).2.2.2]
      by_cases active : canary.phase = .active <;> simp [Canary.abort, CanaryCommand.Declined, active]

theorem read_fails (python : Builtins) (defaultSecret : Option String) (now : ℚ) (hex : String) (url events secret headers : Json) :
    Fails (WebhookSubscription.read python defaultSecret now hex url events secret headers) ↔
      Fails (WebhookSubscription.checkUrl python url) ∨ Passes (WebhookSubscription.checkUrl python url) ∧
        (Fails (WebhookSubscription.checkEvents python events) ∨ Passes (WebhookSubscription.checkEvents python events) ∧
          Fails (WebhookSubscription.checkHeaders headers)) := by
  unfold WebhookSubscription.read
  cases WebhookSubscription.checkUrl python url with
  | error fault => simp [Fails, Passes, bind, Except.bind]
  | ok url =>
      cases WebhookSubscription.checkEvents python events with
      | error fault => simp [Fails, Passes, bind, Except.bind]
      | ok events =>
          cases WebhookSubscription.checkHeaders headers with
          | error fault => simp [Fails, Passes, bind, Except.bind]
          | ok headers => simp [Fails, Passes, bind, Except.bind, pure, Except.pure]

theorem fault_refusal (code : Nat) (fault : Fault) (declining : 300 ≤ code) :
    (Response.ofFault code fault).refusal ↔ ∃ text, fault = .refused text := by
  cases fault with
  | refused text => simpa [Response.ofFault] using declining
  | raised => simp [Response.ofFault]

theorem register_webhook_refused :
    Refused (.registerWebhook cfg call request) m ↔ Route.Declines cfg request m .registerWebhook := by
  refine guarded_turned _ _ _ _ _ _ _ _ fun webhooks _ => ?_
  rw [Refused, Request.Unregistrable]
  cases read : request.readJson with
  | error reply =>
      rw [Handler.require_error _ _ reply (by simp only [Request.object, read]), read_json_error request reply read]
      simp
  | ok body =>
      cases body with
      | obj fields =>
          rw [Handler.require_ok _ _ fields (by simp only [Request.object, read])]
          simp only [Except.ok.injEq, exists_eq_left', Json.obj.injEq, forall_eq']
          rw [Invalid]
          by_cases given : (Json.get fields "url").truthy = true
          · simp only [given, if_true, Bool.true_eq_false, false_or]
            rw [← read_fails cfg.python cfg.defaultSecret call.now call.hex]
            cases WebhookSubscription.read cfg.python cfg.defaultSecret call.now call.hex (Json.get fields "url")
              (Json.get fields "events") (Json.get fields "secret") (Json.get fields "headers") with
            | error fault => simp [Fails, Handler.refuses_answer, fault_refusal]
            | ok subscription => simp [Fails, Handler.refuses_commit]
          · simp [given, Handler.refuses_answer]
      | null | bool | int | float | str | arr =>
          rw [Handler.require_error _ _ (.error 400 "invalid JSON body") (by simp only [Request.object, read])]
          simp

theorem targets_fail (python : Builtins) (target : Json) (webhooks : Webhooks) :
    Fails (webhooks.targets python target) ↔ webhooks.Unknown target := by
  rw [Webhooks.targets, Webhooks.Unknown]
  by_cases given : target.truthy = true
  · rw [if_pos given, if_pos given]
    by_cases key : hashable target = true
    · rw [if_pos key]
      cases found : webhooks.lookup target with
      | none => simp [Fails, key]
      | some subscription => simp [Fails]
    · simp [Fails, key]
  · rw [if_neg given, if_neg given]
    by_cases nobody : webhooks.subscriptions.values = []
    · simp [Fails, nobody]
    · simp [Fails, nobody]

theorem test_webhook_refused :
    Refused (.testWebhook cfg call request) m ↔ Route.Declines cfg request m .testWebhook := by
  refine guarded_turned _ _ _ _ _ _ _ _ fun webhooks _ => ?_
  rw [Refused]
  cases read : request.pingTarget with
  | error reply =>
      have raised : reply = .raised := by
        simp only [Request.pingTarget] at read
        split at read
        · rename_i unread
          cases read
          exact read_json_error request reply unread
        · split at read <;> cases read
      rw [Handler.require_error (fun _ => .error reply) _ reply rfl, raised]
      simp
  | ok target =>
      rw [Handler.require_ok (fun _ => .ok target) _ target rfl]
      simp only [Except.ok.injEq, exists_eq_left', ← targets_fail cfg.python]
      cases webhooks.targets cfg.python target with
      | error fault => simp [Fails, Handler.refuses_answer, fault_refusal]
      | ok targets => simp [Fails, Handler.refuses_commit]

end Endpoints

-- A master that is no leader, or only lets itself be read, refuses a request and
-- keeps its state exactly where the route asks for the leader or its component
-- has nothing to do.
theorem follower_refuses_iff (cfg : Settings) (call : Call) (request : Request) (m : MasterNode) (node : HA.Node)
    (enabled : m.ha = some node) (follower : node.isReadonly = true ∨ node.isLeader = false) :
    Refused (dispatch cfg call request) m ↔ request.route.Declines cfg request m := by
  rw [dispatch]
  cases request.route with
  | join => exact iff_of_true (leader_first cfg request m node enabled follower _ _) trivial
  | heartbeat nodeId => exact iff_of_true (leader_first cfg request m node enabled follower _ _) trivial
  | leave nodeId => exact iff_of_true (leader_first cfg request m node enabled follower _ _) trivial
  | report => exact report_refused cfg call request m
  | rollout action => exact rollout_refused cfg call request m action
  | announceService => exact announce_service_refused cfg request m
  | announceRegion => exact announce_region_refused cfg request m
  | resetBreaker nodeId => exact reset_breaker_refused cfg request m nodeId
  | resetBucket nodeId => exact reset_bucket_refused cfg call request m nodeId
  | canary command => exact canary_refused cfg request m command
  | announceCanary => exact announce_canary_refused cfg request m
  | registerWebhook => exact register_webhook_refused cfg call request m
  | testWebhook => exact test_webhook_refused cfg call request m
  | deregisterService service nodeId => exact deregister_service_refused cfg request m service nodeId
  | unregisterWebhook webhookId => exact unregister_webhook_refused cfg request m webhookId
  | notFound => exact iff_of_true ((Handler.refuses_answer _).mpr (by simp)) trivial

def standby : MasterNode where
  ha := some { lastQuorumTime := 0, lastHb := 0, electionTimeout := 2, leaderId := some "a", leaderUrl := some "http://a" }
  registry := .empty
  rollout := some (Rollout.attached .empty)

def plainSettings : Settings where
  limits := ⟨1, 1, Double.rounding, one_pos, one_pos, Double.nearest_one⟩
  python := ⟨fun _ => "", fun _ => ""⟩
  lower := fun text => text

def postTo (path : List String) (allowed : path ∉ haPaths) : Request := { method := .post, path := path, notHa := fun _ => allowed }

theorem standby_refuses_joins :
    Refused (dispatch plainSettings ⟨1, "0"⟩ (postTo ["", "v1", "nodes", "join"] (by decide))) standby :=
  (follower_refuses_iff plainSettings ⟨1, "0"⟩ (postTo ["", "v1", "nodes", "join"] (by decide)) standby _ rfl (.inr rfl)).mpr trivial

theorem standby_starts_rollout :
    ¬ ∀ (cfg : Settings) (call : Call) (request : Request) (m : MasterNode) (node : HA.Node), m.ha = some node →
      node.isReadonly = true ∨ node.isLeader = false → Refused (dispatch cfg call request) m := by
  intro always
  have refused := always plainSettings ⟨1, "0"⟩ (postTo ["", "v1", "rollout", "start"] (by decide)) standby _ rfl (.inr rfl)
  have kept := congrArg (fun m : MasterNode => m.rollout.map Rollout.Updater.phase) refused.unchanged
  exact absurd kept (by decide)

end HuddleCluster.Api
