import HuddleCluster.Api.Webhooks
import HuddleCluster.Master.Leave

set_option autoImplicit false

namespace HuddleCluster.Api

open Master (NodeRecord Registry RegistryUpdate RegistryEvent Members memberStep)

inductive Lifecycle where
  | joined
  | left
  | dead
  | quarantined
  | recovered
deriving DecidableEq, Repr

def Lifecycle.event : Lifecycle → String
  | .joined => "node.joined"
  | .left => "node.left"
  | .dead => "node.dead"
  | .quarantined => "node.quarantined"
  | .recovered => "node.recovered"

def Lifecycle.between : Master.Status → Master.Status → Option Lifecycle
  | .alive, .leaving | .dead, .leaving | .quarantined, .leaving => some .left
  | .alive, .dead | .quarantined, .dead | .leaving, .dead => some .dead
  | .alive, .quarantined | .dead, .quarantined | .leaving, .quarantined => some .quarantined
  | .dead, .alive | .quarantined, .alive => some .recovered
  | .leaving, .alive | .alive, .alive | .dead, .dead | .quarantined, .quarantined | .leaving, .leaving => none

-- What became of a node between two states of the registry. A node that is purged
-- or removed has died or left before.
def change : Option NodeRecord → Option NodeRecord → Option Lifecycle
  | none, some _ => some .joined
  | some before, some after => Lifecycle.between before.status after.status
  | _, none => none

def transitions (before after : Registry) : List (Lifecycle × String) :=
  after.nodes.entries.filterMap fun entry =>
    (change (before.nodes.get? entry.1) (some entry.2)).map fun kind => (kind, entry.1)

-- The callbacks a handler runs after it has released the lock.
def notices (m : Master.Settings) (r : Registry) : RegistryUpdate → List (Lifecycle × String)
  | .receive (.tick now) =>
      (r.nodes.values.filter fun node => node.live && node.timedOut m now).map fun node => (.dead, node.nodeId)
  | .receive (.heartbeat now nodeId (.obj fields)) =>
      match r.nodes.get? nodeId with
      | none => []
      | some node =>
          if node.status = .dead ∧ (node.heartbeat m now fields).status = .quarantined then [(.quarantined, nodeId)] else []
  | .receive (.heartbeat _ _ _) => []
  | .receive (.join now data tlsClientCn) =>
      match Master.JoinRequest.read data with
      | .error _ => []
      | .ok request =>
          match r.nodes.get? request.nodeId with
          | none => [(.joined, request.nodeId)]
          | some existing =>
              if existing.status = .dead ∧ (existing.rejoin m now tlsClientCn request).status = .quarantined then
                [(.quarantined, request.nodeId)]
              else []
  | .beginLeave nodeId => if (r.nodes.get? nodeId).isSome then [(.left, nodeId)] else []
  | .finishLeave _ => []

-- One entry of the delivery queue. Of the payload only the node it names is kept.
structure Item where
  webhookId : String
  event : String
  nodeId : Option String
deriving DecidableEq, Repr

-- A callback still to be run: whether the node it tells of did change that way, and
-- whether the dispatcher was running then.
structure Notice where
  kind : Lifecycle
  nodeId : String
  genuine : Bool
  live : Bool

-- What came of a transition or a callback, beside what was asked for.
structure Outcome where
  kind : Lifecycle
  nodeId : String
  genuine : Bool
  live : Bool
  room : Bool
  listening : List String
  enqueued : List Item

-- The registry of a master and its webhooks: how often each callback of the master
-- has been wrapped, what attach still has to wrap, the callbacks still to be run,
-- and the outcomes so far. None in the queue is the mark that stop leaves.
structure Hooked where
  members : Members
  subscriptions : Dict String WebhookSubscription
  queue : List (Option Item)
  running : Bool
  layers : Lifecycle → Nat
  wiring : List Lifecycle
  due : List Notice
  log : List Outcome

inductive HookEvent where
  | update (update : RegistryUpdate)
  | install (registry : Registry)
  | callback (index : Nat) (raises : Bool)
  | attach
  | wire
  | stop
  | register (subscription : WebhookSubscription)
  | unregister (webhookId : String)
  | other (event : String) (webhookIds : List String)
  | deliver

namespace Hooked

def fresh (members : Members) (subscriptions : Dict String WebhookSubscription) : Hooked where
  members := members
  subscriptions := subscriptions
  queue := []
  running := false
  layers := fun _ => 0
  wiring := []
  due := []
  log := []

def listening (s : Hooked) (kind : Lifecycle) : List String :=
  (s.subscriptions.values.filter fun subscription => subscription.isMatch kind.event).map WebhookSubscription.webhookId

def put (queue : List (Option Item)) (item : Option Item) : List (Option Item) :=
  if queue.length < Webhooks.queueSize then queue ++ [item] else queue

def dispatch (s : Hooked) (kind : Lifecycle) (nodeId : String) (queue : List (Option Item)) : List (Option Item) :=
  if s.running then ((s.listening kind).map fun webhookId => some ⟨webhookId, kind.event, some nodeId⟩).foldl put queue
  else queue

-- Each layer calls the one it wraps before it dispatches, so an exception of the
-- callback of the user leaves all of them.
def calls (s : Hooked) (notice : Notice) (raises : Bool) : Nat := if raises then 0 else s.layers notice.kind

def room (s : Hooked) (kind : Lifecycle) (calls : Nat) : Bool :=
  decide (s.queue.length + max 1 calls * (s.listening kind).length ≤ Webhooks.queueSize)

def called (s : Hooked) (notice : Notice) (raises : Bool) : List (Option Item) :=
  (s.dispatch notice.kind notice.nodeId)^[s.calls notice raises] s.queue

def outcome (s : Hooked) (notice : Notice) (raises : Bool) : Outcome where
  kind := notice.kind
  nodeId := notice.nodeId
  genuine := notice.genuine
  live := notice.live && s.running
  room := s.room notice.kind (s.calls notice raises)
  listening := s.listening notice.kind
  enqueued := ((s.called notice raises).drop s.queue.length).filterMap id

def unnoticed (s : Hooked) (kind : Lifecycle) (nodeId : String) : Outcome :=
  ⟨kind, nodeId, true, s.running, s.room kind 0, s.listening kind, []⟩

def observe (s : Hooked) (after : Members) (noticed : List (Lifecycle × String)) : Hooked :=
  let happened := transitions s.members.registry after.registry
  { s with
    members := after
    due := s.due ++ noticed.map fun notice => ⟨notice.1, notice.2, decide (notice ∈ happened), s.running⟩
    log := s.log ++ (happened.filter fun event => decide (event ∉ noticed)).map fun event => s.unnoticed event.1 event.2 }

-- A registry is also replaced as a whole, by the state file at a start and by the
-- snapshot of a leader. The worker takes what is in front of the queue.
def next (m : Master.Settings) (s : Hooked) : HookEvent → Option Hooked
  | .update update =>
      match memberStep m s.members update with
      | none => none
      | some after => some (s.observe after (notices m s.members.registry update))
  | .install registry => some (s.observe { s.members with registry := registry } [])
  | .callback index raises =>
      match s.due[index]? with
      | none => none
      | some notice =>
          some { s with
            queue := s.called notice raises
            due := s.due.eraseIdx index
            log := s.log ++ [s.outcome notice raises] }
  | .attach =>
      if s.wiring = [] then some { s with running := true, wiring := [.joined, .left, .dead, .quarantined] } else none
  | .wire =>
      match s.wiring with
      | [] => none
      | kind :: rest => some { s with layers := Function.update s.layers kind (s.layers kind + 1), wiring := rest }
  | .stop => some (if s.running then { s with running := false, queue := put s.queue none } else s)
  | .register subscription => some { s with subscriptions := s.subscriptions.set subscription.webhookId subscription }
  | .unregister webhookId => some { s with subscriptions := s.subscriptions.erase webhookId }
  | .other event webhookIds =>
      some { s with queue := (webhookIds.map fun webhookId => some ⟨webhookId, event, none⟩).foldl put s.queue }
  | .deliver => some { s with queue := s.queue.tail }

end Hooked

-- As long as the dispatcher runs and the queue has room: exactly one event for each
-- subscription that listens, and none for what did not happen.
def Outcome.Served (outcome : Outcome) : Prop :=
  outcome.live = true → outcome.room = true → outcome.enqueued =
    if outcome.genuine then outcome.listening.map fun webhookId => ⟨webhookId, outcome.kind.event, some outcome.nodeId⟩ else []

namespace Hooked

def Complete (s : Hooked) : Prop := ∀ outcome ∈ s.log, outcome.Served

def Unheard (s : Hooked) (kind : Lifecycle) : Prop := s.running = true → s.room kind 0 = true → s.listening kind = []

-- No callback tells of a recovery, nor of what a snapshot changes. Any other one
-- must have been wrapped once, return, and tell of something that happened.
def Hears (m : Master.Settings) (s : Hooked) : HookEvent → Prop
  | .update update => ∀ after ∈ memberStep m s.members update,
      ∀ event ∈ transitions s.members.registry after.registry, event.1 = .recovered → s.Unheard .recovered
  | .install registry => ∀ event ∈ transitions s.members.registry registry, s.Unheard event.1
  | .callback index raises => ∀ notice ∈ s.due[index]?, notice.live = true → s.running = true →
      s.room notice.kind (s.calls notice raises) = true →
        s.listening notice.kind = [] ∨ s.calls notice raises = if notice.genuine then 1 else 0
  | .attach | .wire | .stop | .register _ | .unregister _ | .other _ _ | .deliver => True

end Hooked

open Hooked

theorem mem_transitions (before after : Registry) (kind : Lifecycle) (nodeId : String) :
    (kind, nodeId) ∈ transitions before after ↔ change (before.nodes.get? nodeId) (after.nodes.get? nodeId) = some kind := by
  simp only [transitions, List.mem_filterMap, Option.map_eq_some_iff, Prod.mk.injEq]
  constructor
  · intro ⟨entry, member, found, changed, same, named⟩
    have held : after.nodes.get? nodeId = some entry.2 := (Dict.get_mem _ _ _).mpr (named ▸ member)
    rw [held, ← named, changed, same]
  · intro changed
    cases held : after.nodes.get? nodeId with
    | none => simp [held, change] at changed
    | some node =>
        rw [held] at changed
        exact ⟨(nodeId, node), (Dict.get_mem _ _ _).mp held, kind, changed, rfl, rfl⟩

-- What the status of a known node can become by a heartbeat or a join.
inductive Returns : Master.Status → Master.Status → Prop where
  | same (status : Master.Status) : Returns status status
  | back : Returns .leaving .alive
  | trusted : Returns .quarantined .alive
  | revived : Returns .dead .alive
  | flapping : Returns .dead .quarantined

theorem returns_noticed (before after : Master.Status) (kind : Lifecycle) (returned : Returns before after)
    (changed : Lifecycle.between before after = some kind) :
    (before = .dead ∧ after = .quarantined ∧ kind = .quarantined) ∨
      (¬ (before = .dead ∧ after = .quarantined) ∧ kind = .recovered) := by
  cases returned with
  | same => cases before <;> cases changed
  | back => cases changed
  | trusted => cases changed; simp
  | revived => cases changed; simp
  | flapping => cases changed; simp

theorem revive_returns (m : Master.Settings) (now : ℚ) (node : NodeRecord) : Returns .dead (node.revive m now).status := by
  simp only [NodeRecord.revive]
  split
  · exact .flapping
  · exact .revived

theorem heartbeat_returns (m : Master.Settings) (now : ℚ) (fields : List (String × Json)) (node : NodeRecord) :
    Returns node.status (node.heartbeat m now fields).status := by
  simp only [NodeRecord.heartbeat]
  cases status : node.status with
  | alive =>
      simp only [NodeRecord.beat, status]
      exact .same _
  | leaving =>
      simp only [NodeRecord.beat, status]
      exact .same _
  | dead =>
      simp only [NodeRecord.beat, status]
      exact revive_returns m now _
  | quarantined =>
      simp only [NodeRecord.beat, status]
      split
      · exact .trusted
      · exact .same _

theorem rejoin_returns (m : Master.Settings) (now : ℚ) (tlsClientCn : Option String) (request : Master.JoinRequest)
    (node : NodeRecord) : Returns node.status (node.rejoin m now tlsClientCn request).status := by
  simp only [NodeRecord.rejoin]
  cases status : node.status with
  | alive => exact .same _
  | leaving => exact .back
  | dead => exact revive_returns m now _
  | quarantined => exact .same _

theorem guarded_notice (applies : Prop) [Decidable applies] (notice : Lifecycle × String) (kind : Lifecycle) (nodeId : String) :
    (kind, nodeId) ∈ (if applies then [notice] else []) ↔ applies ∧ (kind, nodeId) = notice := by
  split <;> simp_all

theorem returned_notice (before after : NodeRecord) (kind : Lifecycle) (nodeId : String) (returned : Returns before.status after.status)
    (changed : change (some before) (some after) = some kind) :
    (kind, nodeId) ∈ (if before.status = .dead ∧ after.status = .quarantined then [(Lifecycle.quarantined, nodeId)] else []) ↔
      kind ≠ .recovered := by
  rw [guarded_notice]
  rcases returns_noticed before.status after.status kind returned changed with ⟨dead, flapping, rfl⟩ | ⟨trusted, rfl⟩
  · simp [dead, flapping]
  · simp [trusted]

theorem change_same (node : Option NodeRecord) : change node node = none := by
  cases node with
  | none => rfl
  | some node =>
      simp only [change]
      cases node.status <;> rfl

theorem heartbeat_noticed (m : Master.Settings) (r : Registry) (now : ℚ) (sender : String) (data : Json) (kind : Lifecycle)
    (nodeId : String) (changed : change (r.nodes.get? nodeId)
      (Master.nodeStep m nodeId (r.nodes.get? nodeId) (.heartbeat now sender data)) = some kind) :
    (kind, nodeId) ∈ notices m r (.receive (.heartbeat now sender data)) ↔ kind ≠ .recovered := by
  by_cases here : sender = nodeId
  · subst here
    simp only [Master.nodeStep, if_true] at changed
    cases found : r.nodes.get? sender with
    | none =>
        rw [found] at changed
        cases changed
    | some node =>
        rw [found, Option.map_some] at changed
        cases data with
        | obj fields =>
            simp only [notices, found]
            exact returned_notice node _ kind sender (heartbeat_returns m now fields node) changed
        | _ =>
            have kept : change (some node) (some (node.beat now)) = none := change_same (some node)
            exact absurd (kept.symm.trans changed) (by simp)
  · rw [Master.nodeStep, if_neg here, change_same] at changed
    cases changed

theorem join_noticed (m : Master.Settings) (r : Registry) (now : ℚ) (data : Json) (tlsClientCn : Option String) (kind : Lifecycle)
    (nodeId : String) (changed : change (r.nodes.get? nodeId)
      (Master.nodeStep m nodeId (r.nodes.get? nodeId) (.join now data tlsClientCn)) = some kind) :
    (kind, nodeId) ∈ notices m r (.receive (.join now data tlsClientCn)) ↔ kind ≠ .recovered := by
  simp only [Master.nodeStep] at changed
  simp only [notices]
  cases read : Master.JoinRequest.read data with
  | error reply =>
      rw [read, change_same] at changed
      cases changed
  | ok request =>
      simp only [read] at changed
      by_cases here : request.nodeId = nodeId
      · subst here
        rw [if_pos rfl] at changed
        cases found : r.nodes.get? request.nodeId with
        | none =>
            rw [found] at changed
            cases changed
            simp [found]
        | some node =>
            rw [found] at changed
            simp only [found]
            exact returned_notice node _ kind _ (rejoin_returns m now tlsClientCn request node) changed
      · rw [if_neg here, change_same] at changed
        cases changed

theorem tick_noticed (m : Master.Settings) (r : Registry) (now : ℚ) (kind : Lifecycle) (nodeId : String)
    (changed : change (r.nodes.get? nodeId) (Master.nodeStep m nodeId (r.nodes.get? nodeId) (.tick now)) = some kind) :
    (kind, nodeId) ∈ notices m r (.receive (.tick now)) ↔ kind ≠ .recovered := by
  rw [Master.nodeStep] at changed
  cases found : r.nodes.get? nodeId with
  | none =>
      rw [found] at changed
      cases changed
  | some node =>
      rw [found, Option.bind_some, NodeRecord.monitor] at changed
      by_cases purged : node.purgeDue m now = true
      · rw [if_pos purged] at changed
        cases changed
      · rw [if_neg purged, NodeRecord.check] at changed
        by_cases expired : (node.live && node.timedOut m now) = true
        · rw [if_pos expired] at changed
          have died : kind = .dead := by
            have live := (Bool.and_eq_true_iff.mp expired).1
            simp only [NodeRecord.live, Bool.or_eq_true, decide_eq_true_eq] at live
            simp only [change, NodeRecord.recordDeath] at changed
            rcases live with status | status <;> rw [status] at changed <;> cases changed <;> rfl
          subst died
          have named := r.keyed nodeId node found
          simp only [notices, List.mem_map, List.mem_filter, Dict.mem_values, Prod.mk.injEq, true_and, ne_eq, reduceCtorEq,
            not_false_eq_true, iff_true]
          exact ⟨node, ⟨⟨nodeId, found⟩, expired⟩, named⟩
        · rw [if_neg expired, change_same] at changed
          cases changed

-- Of everything that changes in the registry, the handlers tell of all but the
-- recoveries.
theorem update_noticed (m : Master.Settings) (r : Registry) (update : RegistryUpdate) (kind : Lifecycle) (nodeId : String)
    (changed : change (r.nodes.get? nodeId) (Master.nodeUpdate m nodeId (r.nodes.get? nodeId) update) = some kind) :
    (kind, nodeId) ∈ notices m r update ↔ kind ≠ .recovered := by
  cases update with
  | receive event =>
      cases event with
      | heartbeat now sender data => exact heartbeat_noticed m r now sender data kind nodeId changed
      | join now data tlsClientCn => exact join_noticed m r now data tlsClientCn kind nodeId changed
      | tick now => exact tick_noticed m r now kind nodeId changed
  | beginLeave leaver =>
      simp only [Master.nodeUpdate] at changed
      by_cases here : leaver = nodeId
      · subst here
        rw [if_pos rfl] at changed
        cases found : r.nodes.get? leaver with
        | none =>
            rw [found] at changed
            cases changed
        | some node =>
            rw [found, Option.map_some] at changed
            have gone : kind = .left := by
              simp only [change] at changed
              cases status : node.status <;> rw [status] at changed <;> cases changed <;> rfl
            simp [notices, found, gone]
      · rw [if_neg here, change_same] at changed
        cases changed
  | finishLeave leaver =>
      simp only [Master.nodeUpdate] at changed
      by_cases here : leaver = nodeId
      · rw [if_pos here] at changed
        cases found : r.nodes.get? nodeId <;> rw [found] at changed <;> cases changed
      · rw [if_neg here, change_same] at changed
        cases changed

theorem puts_room (items queue : List (Option Item)) (fits : queue.length + items.length ≤ Webhooks.queueSize) :
    items.foldl put queue = queue ++ items := by
  induction items generalizing queue with
  | nil => exact (List.append_nil queue).symm
  | cons item rest ih =>
      rw [List.length_cons] at fits
      have here : put queue item = queue ++ [item] := if_pos (by omega)
      rw [List.foldl_cons, here, ih _ (by rw [List.length_append, List.length_singleton]; omega), List.append_assoc]
      rfl

def items (s : Hooked) (kind : Lifecycle) (nodeId : String) : List Item :=
  (s.listening kind).map fun webhookId => ⟨webhookId, kind.event, some nodeId⟩

theorem dispatch_room (s : Hooked) (kind : Lifecycle) (nodeId : String) (running : s.running = true) (times : Nat)
    (queue : List (Option Item)) (fits : queue.length + times * (s.listening kind).length ≤ Webhooks.queueSize) :
    (s.dispatch kind nodeId)^[times] queue = queue ++ (List.replicate times ((items s kind nodeId).map some)).flatten := by
  induction times generalizing queue with
  | zero => exact (List.append_nil queue).symm
  | succ times ih =>
      have length : ((items s kind nodeId).map some).length = (s.listening kind).length := by simp [items]
      rw [Nat.succ_mul] at fits
      have here : s.dispatch kind nodeId queue = queue ++ (items s kind nodeId).map some := by
        rw [dispatch, if_pos running, items, List.map_map]
        exact puts_room _ _ (by rw [List.length_map]; omega)
      rw [Function.iterate_succ_apply, here, ih _ (by rw [List.length_append, length]; omega), List.replicate_succ,
        List.flatten_cons, List.append_assoc]

theorem replicas_eq (times wanted : Nat) (row : List Item) :
    (List.replicate times row).flatten = (List.replicate wanted row).flatten ↔ row = [] ∨ times = wanted := by
  constructor
  · intro same
    have lengths := congrArg List.length same
    simp only [List.length_flatten, List.map_replicate, List.sum_replicate, smul_eq_mul] at lengths
    rcases Nat.eq_zero_or_pos row.length with empty | some
    · exact Or.inl (List.length_eq_zero_iff.mp empty)
    · exact Or.inr (Nat.eq_of_mul_eq_mul_right some lengths)
  · intro either
    rcases either with rfl | rfl
    · simp
    · rfl

theorem outcome_served (s : Hooked) (notice : Notice) (raises : Bool) :
    (s.outcome notice raises).Served ↔ (notice.live = true → s.running = true →
      s.room notice.kind (s.calls notice raises) = true →
        s.listening notice.kind = [] ∨ s.calls notice raises = if notice.genuine then 1 else 0) := by
  simp only [Outcome.Served, outcome, Bool.and_eq_true, and_imp]
  refine forall_congr' fun _ => forall_congr' fun running => forall_congr' fun room => ?_
  have fits : s.queue.length + s.calls notice raises * (s.listening notice.kind).length ≤ Webhooks.queueSize := by
    have largest := Nat.mul_le_mul_right (s.listening notice.kind).length (le_max_right 1 (s.calls notice raises))
    have whole := of_decide_eq_true room
    omega
  have enqueued : ((s.called notice raises).drop s.queue.length).filterMap id =
      (List.replicate (s.calls notice raises) (items s notice.kind notice.nodeId)).flatten := by
    rw [called, dispatch_room s _ _ running _ _ fits, List.drop_left, ← List.map_replicate, ← List.map_flatten,
      List.filterMap_map]
    exact List.filterMap_some
  have wanted : (if notice.genuine = true then items s notice.kind notice.nodeId else []) =
      (List.replicate (if notice.genuine = true then 1 else 0) (items s notice.kind notice.nodeId)).flatten := by
    split <;> simp
  have empty : items s notice.kind notice.nodeId = [] ↔ s.listening notice.kind = [] := List.map_eq_nil_iff
  rw [enqueued, ← empty, ← replicas_eq, ← wanted]
  rfl

theorem unnoticed_served (s : Hooked) (kind : Lifecycle) (nodeId : String) :
    (s.unnoticed kind nodeId).Served ↔ s.Unheard kind := by
  simp only [Outcome.Served, unnoticed, Unheard, if_true]
  refine forall_congr' fun _ => forall_congr' fun _ => ?_
  rw [eq_comm, List.map_eq_nil_iff]

theorem complete_observe (s : Hooked) (after : Members) (noticed : List (Lifecycle × String)) (complete : s.Complete) :
    (s.observe after noticed).Complete ↔ ∀ event ∈ transitions s.members.registry after.registry, event ∉ noticed →
      s.Unheard event.1 := by
  simp only [Complete, observe, List.forall_mem_append, List.forall_mem_map, List.mem_filter, decide_eq_true_eq, and_imp,
    unnoticed_served]
  exact and_iff_right complete

theorem complete_next (m : Master.Settings) (s after : Hooked) (event : HookEvent) (complete : s.Complete)
    (taken : s.next m event = some after) : after.Complete ↔ s.Hears m event := by
  cases event with
  | update update =>
      simp only [next] at taken
      cases stepped : memberStep m s.members update with
      | none =>
          rw [stepped] at taken
          cases taken
      | some members =>
          rw [stepped] at taken
          cases taken
          rw [complete_observe s members _ complete]
          simp only [Hears, stepped, Option.mem_def, Option.some.injEq, forall_eq']
          refine forall_congr' fun change => forall_congr' fun happened => ?_
          obtain ⟨kind, nodeId⟩ := change
          have changed := (mem_transitions _ _ kind nodeId).mp happened
          rw [Master.member_step_node m s.members members update nodeId stepped] at changed
          rw [update_noticed m s.members.registry update kind nodeId changed, not_not]
          exact ⟨fun unheard recovered => recovered ▸ unheard recovered, fun unheard recovered => recovered ▸ unheard recovered⟩
  | install registry =>
      cases taken
      rw [complete_observe s _ [] complete]
      simp [Hears]
  | callback index raises =>
      simp only [next] at taken
      cases found : s.due[index]? with
      | none =>
          rw [found] at taken
          cases taken
      | some notice =>
          rw [found] at taken
          cases taken
          simp only [Complete, List.forall_mem_append, List.forall_mem_singleton, outcome_served, Hears, found, Option.mem_def,
            Option.some.injEq, forall_eq']
          exact and_iff_right complete
  | attach =>
      simp only [next] at taken
      split at taken
      · cases taken
        exact iff_of_true complete trivial
      · cases taken
  | wire =>
      simp only [next] at taken
      split at taken
      · cases taken
      · cases taken
        exact iff_of_true complete trivial
  | stop =>
      cases taken
      refine iff_of_true ?_ trivial
      split <;> exact complete
  | register | unregister | other | deliver =>
      cases taken
      exact iff_of_true complete trivial

abbrev HookRun (m : Master.Settings) (allowed : Hooked → HookEvent → Prop) := Runs.Run (Hooked.next m) allowed

-- Along a run every change of a node has been told of once to everyone who
-- listens, exactly if the callbacks were wrapped once and returned, and nobody
-- listened for what no callback tells.
theorem events_complete_iff (m : Master.Settings) (members : Members) (subscriptions : Dict String WebhookSubscription)
    (events : List HookEvent) (last : Hooked) (run : HookRun m (fun _ _ => True) (.fresh members subscriptions) events last) :
    Runs.Always (Hooked.next m) (.fresh members subscriptions) events Complete ↔
      HookRun m (Hears m) (.fresh members subscriptions) events last := by
  apply Runs.run_always (Hooked.next m) (Hears m) (fun _ => True) Complete (fun _ _ _ _ _ => trivial)
  · exact fun s event after _ complete taken => complete_next m s after event complete taken
  · trivial
  · exact fun outcome member => absurd member List.not_mem_nil
  · exact run

instance (outcome : Outcome) : Decidable outcome.Served :=
  inferInstanceAs (Decidable (outcome.live = true → outcome.room = true → outcome.enqueued =
    if outcome.genuine then outcome.listening.map fun webhookId => ⟨webhookId, outcome.kind.event, some outcome.nodeId⟩ else []))

instance (s : Hooked) : Decidable s.Complete := inferInstanceAs (Decidable (∀ outcome ∈ s.log, outcome.Served))

instance (s : Hooked) (kind : Lifecycle) : Decidable (s.Unheard kind) :=
  inferInstanceAs (Decidable (s.running = true → s.room kind 0 = true → s.listening kind = []))

instance (m : Master.Settings) (s : Hooked) (event : HookEvent) : Decidable (s.Hears m event) :=
  match event with
  | .update update => inferInstanceAs (Decidable (∀ after ∈ memberStep m s.members update,
      ∀ event ∈ transitions s.members.registry after.registry, event.1 = .recovered → s.Unheard .recovered))
  | .install registry => inferInstanceAs (Decidable (∀ event ∈ transitions s.members.registry registry, s.Unheard event.1))
  | .callback index raises => inferInstanceAs (Decidable (∀ notice ∈ s.due[index]?, notice.live = true → s.running = true →
      s.room notice.kind (s.calls notice raises) = true →
        s.listening notice.kind = [] ∨ s.calls notice raises = if notice.genuine then 1 else 0))
  | .attach | .wire | .stop | .register _ | .unregister _ | .other _ _ | .deliver => isTrue trivial

def listener (events : List String) (known : ∀ event ∈ events, event ∈ validEvents) : Dict String WebhookSubscription :=
  Dict.empty.set "wh-1" ⟨"wh-1", "https://hooks", events, .null, [], 0, true, known⟩

def listenAll : Dict String WebhookSubscription := listener ["*"] (by decide)

def start : List HookEvent := [.attach, .wire, .wire, .wire, .wire]

def joins (raises : Bool) : List HookEvent :=
  [.update (.receive (.join 0 (Master.sampleJoin "n1") none)), .callback 0 raises]

def diesAndRecovers : List HookEvent :=
  [.update (.receive (.tick 31)), .callback 0 false, .update (.receive (.heartbeat 32 "n1" (.obj [])))]

-- A master that was stopped and started tells of one join twice, a callback that
-- raises hides it, and no recovery is told of at all.
theorem events_incomplete :
    (∃ s ∈ Runs.follow (Hooked.next {}) (fun _ _ => True) (.fresh ⟨.empty, []⟩ listenAll)
    (start ++ [.stop] ++ start ++ joins false),
      ¬ s.Complete ∧ s.queue = [none, some ⟨"wh-1", "node.joined", some "n1"⟩, some ⟨"wh-1", "node.joined", some "n1"⟩]) ∧
    (∃ s ∈ Runs.follow (Hooked.next {}) (fun _ _ => True) (.fresh ⟨.empty, []⟩ listenAll) (start ++ joins true),
      ¬ s.Complete ∧ s.queue = []) ∧
    ∃ s ∈ Runs.follow (Hooked.next {}) (fun _ _ => True) (.fresh ⟨.empty, []⟩ listenAll) (start ++ joins false ++ diesAndRecovers),
      ¬ s.Complete ∧ s.queue = [some ⟨"wh-1", "node.joined", some "n1"⟩, some ⟨"wh-1", "node.dead", some "n1"⟩] := by
  decide +kernel

def listenDeaths : Dict String WebhookSubscription := listener ["node.joined", "node.dead"] (by decide)

theorem events_complete_once :
    Runs.Always (Hooked.next {}) (.fresh ⟨.empty, []⟩ listenDeaths) (start ++ joins false ++ diesAndRecovers) Complete := by
  have taken : (Runs.follow (Hooked.next {}) (Hears {}) (.fresh ⟨.empty, []⟩ listenDeaths)
      (start ++ joins false ++ diesAndRecovers)).isSome = true := by decide +kernel
  obtain ⟨s, reached⟩ := Option.isSome_iff_exists.mp taken
  have run := Runs.follow_run _ _ _ s _ reached
  exact (events_complete_iff {} ⟨.empty, []⟩ listenDeaths _ s (Runs.run_free _ _ _ s _ run)).mpr run

end HuddleCluster.Api
