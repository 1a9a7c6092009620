import HuddleCluster.Api.Dispatch
import HuddleCluster.Lib.Runs

set_option autoImplicit false

namespace HuddleCluster.Api

open Handler (Keeps answer commit require keeps_answer keeps_commit keeps_require)

def allPermissions : List String :=
  ["status:read", "metrics:read", "nodes:read", "nodes:write", "scheduler:read", "scheduler:write", "autoscaler:read", "rollout:read",
    "rollout:control", "discovery:read", "discovery:write", "regions:read", "regions:write", "breakers:read", "breakers:reset",
    "ratelimits:read", "ratelimits:reset", "canary:read", "canary:control", "observability:read", "webhooks:read", "webhooks:write"]

def readPermissions : List String := allPermissions.filter fun permission => ":read".toList.isSuffixOf permission.toList

-- What api_keys has for a key: the name of a role, the items of an iterable, or a value
-- of another type.
inductive Grant where
  | role (name : String)
  | scopes (names : List String)
  | other (type : String)
deriving DecidableEq

def builtinRoles : Dict String (List String) := ⟨[("admin", allPermissions), ("viewer", readPermissions)], by decide⟩

namespace Grant

def shown (python : Builtins) (names : List String) : String :=
  python.repr (.arr ((names.mergeSort fun first second => decide (first ≤ second)).map .str))

-- The end of a key, which is all that an error tells of it.
def keyEnd (python : Builtins) (key : String) : String :=
  python.repr (.str (if 4 ≤ key.length then String.ofList (key.toList.drop (key.length - 4)) else key))

def fault (python : Builtins) (key : String) : Grant → Option String
  | .role name =>
      match builtinRoles.get? name with
      | some _ => none
      | none =>
          let role := python.repr (.str name)
          let ending := keyEnd python key
          let roles := shown python (builtinRoles.entries.map Prod.fst)
          let valid := shown python allPermissions
          some (s!"api_keys: unknown role {role} for key ending in ...{ending}. Valid built-in roles: {roles}. " ++
            "For fine-grained access, pass a list of permission scopes instead, e.g. [\"nodes:read\", \"canary:control\"]. " ++
            s!"Valid scopes: {valid}")
  | .scopes names =>
      let unknown := names.dedup.filter (· ∉ allPermissions)
      if unknown.isEmpty then none
      else
        let scopes := shown python unknown
        let ending := keyEnd python key
        let valid := shown python allPermissions
        some s!"api_keys: unknown permission scope(s) {scopes} for key ending in ...{ending}. Valid scopes: {valid}"
  | .other type => some (s!"api_keys: value for a key must be a role name string (\"admin\"/\"viewer\") or an iterable of permission " ++
      s!"scope strings, got {type}")

def resolve : Grant → List String
  | .role name => builtinRoles.getD name []
  | .scopes names => names.dedup
  | .other _ => []

end Grant

-- The first value that is no grant raises.
def resolveApiKeyPermissions (python : Builtins) : Option (Dict String Grant) → Except String (Option (Dict String (List String)))
  | none => .ok none
  | some apiKeys =>
      match apiKeys.entries.findSome? fun entry => entry.2.fault python entry.1 with
      | some text => .error text
      | none => .ok (some (apiKeys.map fun _ grant => grant.resolve))

def Request.key (request : Request) : Option String :=
  if "Bearer ".toList.isPrefixOf request.authorization.toList then
    some (Text.strip (String.ofList (request.authorization.toList.drop 7)))
  else none

-- What a master guards, each part by the permissions that a change of it takes.
inductive Part where
  | ha
  | registry
  | scheduler
  | rollout
  | services
  | regions
  | breakers
  | buckets
  | canary
  | subscriptions
  | deliveries
deriving DecidableEq

namespace Part

-- The updater looks on at the registry, and webhooks tell of its changes.
def permissions : Part → List String
  | .ha => []
  | .registry => ["nodes:write"]
  | .scheduler => ["scheduler:write"]
  | .rollout => ["rollout:control", "nodes:write"]
  | .services => ["discovery:write"]
  | .regions => ["regions:write"]
  | .breakers => ["breakers:reset"]
  | .buckets => ["ratelimits:reset"]
  | .canary => ["canary:control"]
  | .subscriptions => ["webhooks:write"]
  | .deliveries => ["webhooks:write", "nodes:write"]

def Same (before after : MasterNode) : Part → Prop
  | .ha => after.ha = before.ha
  | .registry => after.registry = before.registry
  | .scheduler => after.scheduler = before.scheduler
  | .rollout => after.rollout = before.rollout
  | .services => after.services = before.services
  | .regions => after.regions = before.regions
  | .breakers => after.breakers = before.breakers
  | .buckets => after.buckets = before.buckets
  | .canary => after.canary = before.canary
  | .subscriptions => after.webhooks.map (fun w => (w.subscriptions, w.running)) = before.webhooks.map fun w => (w.subscriptions, w.running)
  | .deliveries => after.webhooks.map Webhooks.queue = before.webhooks.map Webhooks.queue

theorem same_refl (m : MasterNode) (part : Part) : part.Same m m := by
  cases part <;> rfl

theorem same_trans (part : Part) (a b c : MasterNode) (first : part.Same a b) (second : part.Same b c) : part.Same a c := by
  cases part <;> exact Eq.trans second first

end Part

def Confined (permission : String) (endpoint : Endpoint) : Prop :=
  ∀ part : Part, permission ∉ part.permissions → Keeps (fun before after => part.Same before after) endpoint

section Confined

variable {α : Type} (permission : String)

theorem confined_answer (reply : Response) : Confined permission (answer reply) :=
  fun part _ => keeps_answer _ (fun m => part.same_refl m) reply

theorem confined_require (check : MasterNode → Except Response α) (next : α → Endpoint)
    (confined : ∀ found, Confined permission (next found)) : Confined permission (require check next) :=
  fun part outside => keeps_require _ (fun m => part.same_refl m) check next fun m found _ => confined found part outside m

theorem confined_perform (result : Option α) (store : MasterNode → α → MasterNode) (declined : Response)
    (stores : ∀ part : Part, permission ∉ part.permissions → ∀ m after, part.Same m (store m after)) :
    Confined permission (.perform result store declined) := by
  cases result with
  | none => exact confined_answer permission declined
  | some after => exact fun part outside => keeps_commit _ _ _ fun m => stores part outside m after

theorem confined_settle (result : Bool × α) (store : MasterNode → α → MasterNode) (declined : Response)
    (stores : ∀ part : Part, permission ∉ part.permissions → ∀ m after, part.Same m (store m after)) :
    Confined permission (.settle result store declined) :=
  fun part outside => keeps_commit _ _ _ fun m => stores part outside m result.2

end Confined

-- The parts that a request may change: its key has one of their permissions.
def Request.Allowed (cfg : Settings) (request : Request) (part : Part) : Prop :=
  ∃ permission ∈ part.permissions, request.checkAuth cfg permission = .ok ()

section Endpoints

variable (cfg : Settings) (call : Call) (request : Request) (part : Part) (locked : ¬ request.Allowed cfg part)

include locked

theorem authorized_keeps (permission : String) (next : Unit → Endpoint) (confined : Confined permission (next ())) :
    Keeps (fun before after => part.Same before after) (require (fun _ => request.checkAuth cfg permission) next) := by
  refine keeps_require _ (fun m => part.same_refl m) _ _ fun m _ allowed => confined part ?_ m
  exact fun inside => locked ⟨permission, inside, allowed⟩

theorem guarded_keeps {α : Type} (permission : String) (component : MasterNode → Option α) (name : String) (next : α → Endpoint)
    (confined : ∀ found, Confined permission (next found)) :
    Keeps (fun before after => part.Same before after) (guarded cfg request permission component name next) :=
  authorized_keeps cfg request part locked permission _ (confined_require permission _ next confined)

end Endpoints

theorem put_kept (event : String) (now : ℚ) (data : Json) (targets : List WebhookSubscription) (w : Webhooks) :
    (targets.foldl (Webhooks.put event now data) w).subscriptions = w.subscriptions ∧
      (targets.foldl (Webhooks.put event now data) w).running = w.running := by
  induction targets generalizing w with
  | nil => exact ⟨rfl, rfl⟩
  | cons target targets ih =>
      rw [List.foldl_cons]
      obtain ⟨subscriptions, running⟩ := ih (w.put event now data target)
      rw [subscriptions, running]
      unfold Webhooks.put
      split <;> exact ⟨rfl, rfl⟩

theorem dispatch_kept (event : String) (now : ℚ) (data : Json) (w : Webhooks) :
    (w.dispatch event now data).subscriptions = w.subscriptions ∧ (w.dispatch event now data).running = w.running := by
  unfold Webhooks.dispatch
  split
  · exact put_kept event now data _ w
  · exact ⟨rfl, rfl⟩

-- What an event of a node may change, next to the registry itself.
theorem notify_same (part : Part) (outside : "nodes:write" ∉ part.permissions) (call : Call) (event : String)
    (extra : List (String × Json)) (node : Master.NodeRecord) (m : MasterNode) : part.Same m (m.notify call event extra node) := by
  cases part with
  | subscriptions =>
      simp only [Part.Same, MasterNode.notify]
      cases m.webhooks with
      | none => rfl
      | some webhooks => simp [dispatch_kept]
  | deliveries => simp [Part.permissions] at outside
  | _ => rfl

theorem receive_same (part : Part) (outside : "nodes:write" ∉ part.permissions) (cfg : Settings) (update : Master.RegistryUpdate)
    (m : MasterNode) : part.Same m (m.receive cfg update) := by
  cases part with
  | registry => simp [Part.permissions] at outside
  | rollout => simp [Part.permissions] at outside
  | _ => rfl

theorem welcome_same (part : Part) (outside : "nodes:write" ∉ part.permissions) (call : Call) (nodeId : String)
    (before : Option Master.NodeRecord) (m : MasterNode) : part.Same m (m.welcome call nodeId before) := by
  unfold MasterNode.welcome
  split
  · exact notify_same part outside call _ _ _ m
  · split
    · exact notify_same part outside call _ _ _ m
    · exact part.same_refl m
  · exact part.same_refl m

section Stores

variable (part : Part) (m : MasterNode)

theorem scheduler_same (outside : "scheduler:write" ∉ part.permissions) (scheduler : Option (List WorkloadReport)) :
    part.Same m { m with scheduler := scheduler } := by
  cases part with
  | scheduler => simp [Part.permissions] at outside
  | _ => rfl

theorem rollout_same (outside : "rollout:control" ∉ part.permissions) (rollout : Option Rollout.Updater) :
    part.Same m { m with rollout := rollout } := by
  cases part with
  | rollout => simp [Part.permissions] at outside
  | _ => rfl

theorem services_same (outside : "discovery:write" ∉ part.permissions) (services : Option Announced) :
    part.Same m { m with services := services } := by
  cases part with
  | services => simp [Part.permissions] at outside
  | _ => rfl

theorem regions_same (outside : "regions:write" ∉ part.permissions) (regions : Option Announced) :
    part.Same m { m with regions := regions } := by
  cases part with
  | regions => simp [Part.permissions] at outside
  | _ => rfl

theorem breakers_same (outside : "breakers:reset" ∉ part.permissions) (breakers : Option Breaker.States) :
    part.Same m { m with breakers := breakers } := by
  cases part with
  | breakers => simp [Part.permissions] at outside
  | _ => rfl

theorem buckets_same (outside : "ratelimits:reset" ∉ part.permissions) (buckets : Option (Dict String (TokenBucket.Bucket ℚ))) :
    part.Same m { m with buckets := buckets } := by
  cases part with
  | buckets => simp [Part.permissions] at outside
  | _ => rfl

theorem canary_same (outside : "canary:control" ∉ part.permissions) (canary : Option Scheduler.Canary) :
    part.Same m { m with canary := canary } := by
  cases part with
  | canary => simp [Part.permissions] at outside
  | _ => rfl

theorem webhooks_same (outside : "webhooks:write" ∉ part.permissions) (webhooks : Option Webhooks) :
    part.Same m { m with webhooks := webhooks } := by
  cases part with
  | subscriptions => simp [Part.permissions] at outside
  | deliveries => simp [Part.permissions] at outside
  | _ => rfl

end Stores

theorem registry_keeps (cfg : Settings) (request : Request) (part : Part) (locked : ¬ request.Allowed cfg part) (handle : Endpoint)
    (confined : Confined "nodes:write" handle) : Keeps (fun before after => part.Same before after)
      (require (fun _ => request.checkAuth cfg "nodes:write") fun _ => require request.checkLeader fun _ => handle) :=
  authorized_keeps cfg request part locked "nodes:write" _ (confined_require _ _ _ fun _ => confined)

theorem join_keeps (cfg : Settings) (call : Call) (request : Request) (part : Part) (locked : ¬ request.Allowed cfg part) :
    Keeps (fun before after => part.Same before after) (Endpoint.join cfg call request) := by
  refine registry_keeps cfg request part locked _ (confined_require _ _ _ fun body part outside m => ?_)
  have received := receive_same part outside cfg (.receive (.join call.now body request.tlsClientCn)) m
  dsimp only
  split
  · exact received
  · exact part.same_trans _ _ _ received (welcome_same part outside call _ _ _)

theorem heartbeat_keeps (cfg : Settings) (call : Call) (request : Request) (nodeId : String) (part : Part)
    (locked : ¬ request.Allowed cfg part) :
    Keeps (fun before after => part.Same before after) (Endpoint.heartbeat cfg call request nodeId) := by
  refine registry_keeps cfg request part locked _ (confined_require _ _ _ fun body part outside m => ?_)
  exact part.same_trans _ _ _ (receive_same part outside cfg _ m) (welcome_same part outside call nodeId _ _)

theorem leave_keeps (cfg : Settings) (call : Call) (request : Request) (nodeId : String) (part : Part)
    (locked : ¬ request.Allowed cfg part) :
    Keeps (fun before after => part.Same before after) (Endpoint.leave cfg call request nodeId) := by
  refine registry_keeps cfg request part locked _ fun part outside m => ?_
  dsimp only
  split
  · exact part.same_refl m
  · rename_i node found
    have marked := part.same_trans _ _ _ (receive_same part outside cfg (.beginLeave nodeId) m)
      (notify_same part outside call "node.left" [] node _)
    exact part.same_trans _ _ _ marked (receive_same part outside cfg (.finishLeave nodeId) _)

theorem route_keeps (cfg : Settings) (call : Call) (request : Request) (part : Part) (locked : ¬ request.Allowed cfg part)
    (route : Route) : Keeps (fun before after => part.Same before after) (route.endpoint cfg call request) := by
  cases route with
  | join => exact join_keeps cfg call request part locked
  | heartbeat nodeId => exact heartbeat_keeps cfg call request nodeId part locked
  | leave nodeId => exact leave_keeps cfg call request nodeId part locked
  | report =>
      refine guarded_keeps cfg request part locked _ _ _ _ fun reports => ?_
      refine confined_require _ _ _ fun fields => confined_require _ _ _ fun nodeId part outside m => ?_
      exact scheduler_same part m outside _
  | rollout action =>
      refine guarded_keeps cfg request part locked _ _ _ _ fun updater => confined_perform _ _ _ _ fun part outside m after => ?_
      exact rollout_same part m outside _
  | announceService =>
      refine guarded_keeps cfg request part locked _ _ _ _ fun services => ?_
      refine confined_require _ _ _ fun fields => confined_require _ _ _ fun found part outside m => ?_
      exact services_same part m outside _
  | announceRegion =>
      refine guarded_keeps cfg request part locked _ _ _ _ fun regions => ?_
      refine confined_require _ _ _ fun fields => confined_require _ _ _ fun found part outside m => ?_
      exact regions_same part m outside _
  | resetBreaker nodeId =>
      refine guarded_keeps cfg request part locked _ _ _ _ fun breakers => confined_settle _ _ _ _ fun part outside m after => ?_
      exact breakers_same part m outside _
  | resetBucket nodeId =>
      refine guarded_keeps cfg request part locked _ _ _ _ fun buckets => confined_perform _ _ _ _ fun part outside m after => ?_
      exact buckets_same part m outside _
  | canary command =>
      refine guarded_keeps cfg request part locked _ _ _ _ fun canary => ?_
      have verdict (result : Option Bool × Scheduler.Canary) (declined : String) :
          Confined "canary:control" (.canaryVerdict result declined) := fun part outside m => canary_same part m outside _
      cases command with
      | start => exact confined_require _ _ _ fun fields => verdict _ _
      | advance => exact verdict _ _
      | promote => exact verdict _ _
      | abort => exact verdict _ _
  | announceCanary =>
      refine guarded_keeps cfg request part locked _ _ _ _ fun canary => ?_
      refine confined_require _ _ _ fun fields => confined_require _ _ _ fun nodeId part outside m => ?_
      exact canary_same part m outside _
  | registerWebhook =>
      refine guarded_keeps cfg request part locked _ _ _ _ fun webhooks => confined_require _ _ _ fun fields => ?_
      dsimp only
      split
      · split
        · exact confined_answer _ _
        · exact fun part outside m => webhooks_same part m outside _
      · exact confined_answer _ _
  | testWebhook =>
      refine guarded_keeps cfg request part locked _ _ _ _ fun webhooks => confined_require _ _ _ fun target => ?_
      split
      · exact confined_answer _ _
      · exact fun part outside m => webhooks_same part m outside _
  | deregisterService service nodeId =>
      refine guarded_keeps cfg request part locked _ _ _ _ fun services => confined_settle _ _ _ _ fun part outside m after => ?_
      exact services_same part m outside _
  | unregisterWebhook webhookId =>
      refine guarded_keeps cfg request part locked _ _ _ _ fun webhooks => confined_perform _ _ _ _ fun part outside m after => ?_
      exact webhooks_same part m outside _
  | notFound => exact keeps_answer _ (fun m => part.same_refl m) _

theorem parts_all (before after : MasterNode) (same : ∀ part : Part, part.Same before after) : after = before := by
  obtain ⟨_, _, _, _, _, _, _, _, _, webhooks⟩ := before
  obtain ⟨_, _, _, _, _, _, _, _, _, others⟩ := after
  have ha := same .ha
  have registry := same .registry
  have scheduler := same .scheduler
  have rollout := same .rollout
  have services := same .services
  have regions := same .regions
  have breakers := same .breakers
  have buckets := same .buckets
  have canary := same .canary
  have subscriptions := same .subscriptions
  have deliveries := same .deliveries
  simp only [Part.Same] at ha registry scheduler rollout services regions breakers buckets canary subscriptions deliveries
  subst ha registry scheduler rollout services regions breakers buckets canary
  have hooks : others = webhooks := by
    cases others with
    | none =>
        cases webhooks with
        | none => rfl
        | some webhooks => cases deliveries
    | some others =>
        cases webhooks with
        | none => cases deliveries
        | some webhooks =>
            obtain ⟨_, _, _⟩ := others
            obtain ⟨_, _, _⟩ := webhooks
            simp only [Option.map_some, Option.some.injEq, Prod.mk.injEq] at subscriptions deliveries
            obtain ⟨rfl, rfl⟩ := subscriptions
            subst deliveries
            rfl
  subst hooks
  rfl

-- The key of a request has a permission; an open API has no keys.
def Request.Granted (grants : Option (Dict String Grant)) (request : Request) (permission : String) : Prop :=
  ∀ apiKeys ∈ grants, ∃ key ∈ request.key, ∃ grant ∈ apiKeys.get? key, permission ∈ grant.resolve

theorem check_auth_granted (cfg : Settings) (grants : Option (Dict String Grant))
    (resolved : resolveApiKeyPermissions cfg.python grants = .ok cfg.apiKeys) (request : Request) (permission : String) :
    request.checkAuth cfg permission = .ok () ↔ request.Granted grants permission := by
  cases grants with
  | none =>
      simp only [resolveApiKeyPermissions, Except.ok.injEq] at resolved
      simp [Request.checkAuth, ← resolved, Request.Granted]
  | some apiKeys =>
      simp only [resolveApiKeyPermissions] at resolved
      split at resolved
      · cases resolved
      · have keys := Except.ok.inj resolved
        simp only [Request.checkAuth, ← keys, Request.Granted, Request.key, Option.mem_some_iff, forall_eq']
        split
        · rename_i bearer
          cases found : apiKeys.get? (Text.strip (String.ofList (request.authorization.toList.drop 7))) with
          | none => simp [found]
          | some grant => by_cases scope : permission ∈ grant.resolve <;> simp [found, scope]
        · simp

theorem role_known (name : String) (scopes : List String) (found : builtinRoles.get? name = some scopes) : scopes ⊆ allPermissions := by
  have entry := (Dict.get_mem builtinRoles name scopes).mp found
  simp only [builtinRoles, List.mem_cons, Prod.mk.injEq, List.not_mem_nil, or_false] at entry
  rcases entry with ⟨_, rfl⟩ | ⟨_, rfl⟩
  · exact List.Subset.refl _
  · exact List.filter_subset_self _

theorem grant_known (python : Builtins) (key : String) (grant : Grant) (valid : grant.fault python key = none) :
    grant.resolve ⊆ allPermissions := by
  cases grant with
  | role name =>
      cases found : builtinRoles.get? name with
      | none => simp [Grant.fault, found] at valid
      | some scopes =>
          rw [Grant.resolve, Dict.getD, found]
          exact role_known name scopes found
  | scopes names =>
      intro permission member
      by_contra unknown
      have kept : permission ∈ names.dedup.filter (· ∉ allPermissions) := List.mem_filter.mpr ⟨member, by simpa using unknown⟩
      simp only [Grant.fault] at valid
      split at valid
      · rename_i empty
        rw [List.isEmpty_iff.mp empty] at kept
        cases kept
      · cases valid
  | other type => simp [Grant.fault] at valid

theorem resolved_known (python : Builtins) (grants : Option (Dict String Grant)) (keys : Dict String (List String))
    (resolved : resolveApiKeyPermissions python grants = .ok (some keys)) (key : String) (scopes : List String)
    (found : keys.get? key = some scopes) : scopes ⊆ allPermissions := by
  cases grants with
  | none => simp [resolveApiKeyPermissions] at resolved
  | some apiKeys =>
      simp only [resolveApiKeyPermissions] at resolved
      split at resolved
      · cases resolved
      · rename_i valid
        have same := Option.some.inj (Except.ok.inj resolved)
        rw [← same, Dict.get_map, Option.map_eq_some_iff] at found
        obtain ⟨grant, entry, rfl⟩ := found
        have member := (Dict.get_mem apiKeys key grant).mp entry
        exact grant_known python key grant (List.findSome?_eq_none_iff.mp valid _ member)

-- The steps of a master that only answers requests.
def serve (cfg : Settings) (m : MasterNode) (made : Call × Request) : Option MasterNode := some (dispatch cfg made.1 made.2 m).2

theorem guarded_parts (part : Part) : ∀ permission ∈ part.permissions, permission ∉ readPermissions := by
  cases part <;> decide

-- The keys of a master that starts have known permissions only. Whatever requests come,
-- a part of the master changes only by one whose key was granted a permission of that
-- part, so keys that may only read change nothing at all.
theorem access_controlled (cfg : Settings) (grants : Option (Dict String Grant))
    (resolved : resolveApiKeyPermissions cfg.python grants = .ok cfg.apiKeys) (start last : MasterNode)
    (requests : List (Call × Request)) :
    (∀ keys ∈ cfg.apiKeys, ∀ key scopes, keys.get? key = some scopes → scopes ⊆ allPermissions) ∧
      (∀ part : Part, Runs.Run (serve cfg) (fun _ made => ∀ permission ∈ part.permissions, ¬ made.2.Granted grants permission)
        start requests last → part.Same start last) ∧
      (Runs.Run (serve cfg) (fun _ made => ∀ permission, made.2.Granted grants permission → permission ∈ readPermissions)
        start requests last → last = start) := by
  have locked (part : Part) (m : MasterNode) (made : Call × Request)
      (lacks : ∀ permission ∈ part.permissions, ¬ made.2.Granted grants permission) :
        part.Same m (dispatch cfg made.1 made.2 m).2 := by
    refine route_keeps cfg made.1 made.2 part ?_ made.2.route m
    rintro ⟨permission, guards, allowed⟩
    exact lacks permission guards ((check_auth_granted cfg grants resolved made.2 permission).mp allowed)
  refine ⟨fun keys held key scopes found => resolved_known cfg.python grants keys (held ▸ resolved) key scopes found, ?_, ?_⟩
  · intro part run
    refine Runs.run_invariant (serve cfg) _ (part.Same start) ?_ start last requests (part.same_refl start) run
    intro m made after same lacks taken
    cases taken
    exact part.same_trans _ _ _ same (locked part m made lacks)
  · intro run
    refine Runs.run_invariant (serve cfg) _ (· = start) ?_ start last requests rfl run
    intro m made after same reads taken
    cases taken
    rw [← same]
    refine parts_all m _ fun part => locked part m made fun permission guards granted => ?_
    exact guarded_parts part permission guards (reads permission granted)

def viewerGrants : Dict String Grant := ⟨[("v", .role "viewer"), ("w", .scopes ["webhooks:write"])], by decide⟩

theorem viewer_join_not_ha : Method.post = .post → ["", "v1", "nodes", "join"] ∉ haPaths := by decide

theorem viewer_tokens : (0 : ℚ) < 1 := one_pos

def viewerSettings : Settings where
  apiKeys := some (viewerGrants.map fun _ grant => grant.resolve)
  limits := ⟨1, 1, Double.rounding, viewer_tokens, viewer_tokens, Double.nearest_one⟩
  python := ⟨fun _ => "", fun _ => ""⟩
  lower := fun text => text

def viewerJoin : Request :=
  { method := .post, path := ["", "v1", "nodes", "join"], authorization := "Bearer v", notHa := viewer_join_not_ha }

theorem access_controlled_viewer : (dispatch viewerSettings ⟨0, "0"⟩ viewerJoin { registry := .empty }).2 = { registry := .empty } := by
  refine (access_controlled viewerSettings (some viewerGrants) rfl { registry := .empty } _ [(⟨0, "0"⟩, viewerJoin)]).2.2
    (Runs.run_one _ _ _ _ _ ?_ rfl)
  intro permission granted
  obtain ⟨key, bears, grant, given, inside⟩ := granted viewerGrants rfl
  have named : viewerJoin.key = some "v" := by decide
  cases named.symm.trans bears
  cases (show viewerGrants.get? "v" = some (.role "viewer") by decide).symm.trans given
  exact inside

end HuddleCluster.Api
