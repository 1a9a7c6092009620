import HuddleCluster.Agent.Feed
import HuddleCluster.Agent.Outages

set_option autoImplicit false

namespace HuddleCluster.Agent

open Master (Accepted JoinRequest NodeRecord Registry RegistryUpdate Reply Settings validPort)

theorem count_set {α : Type} (p q : α → Bool) (items : List α) (i : Nat) (old new : α) (here : items[i]? = some old)
    (mono : ∀ item, p item = true → q item = true) :
    items.countP p + (q new).toNat ≤ (items.set i new).countP q + (p old).toNat := by
  induction items generalizing i with
  | nil => cases here
  | cons head tail ih =>
      cases i with
      | zero =>
          cases here
          have kept : tail.countP p ≤ tail.countP q := List.countP_mono_left fun item _ held => mono item held
          simp only [List.set_cons_zero, List.countP_cons]
          cases p old <;> cases q new <;> simp <;> omega
      | succ i =>
          have rest := ih i here
          have kept : (if p head = true then 1 else 0) ≤ (if q head = true then 1 else 0) := by
            split
            · rename_i held
              rw [if_pos (mono head held)]
            · exact Nat.zero_le _
          simp only [List.set_cons_succ, List.countP_cons]
          omega

-- What an agent knows of its node once __init__ has looked at its arguments.
structure Identity where
  nodeId : String
  address : String
  port : Int
  metadata : List (String × Json)
  named : Accepted nodeId
  addressed : Accepted address
  routable : validPort (.int port) = true

namespace Identity

-- The address that is found is one of an interface, or 127.0.0.1.
def make (nodeId masterUrl : String) (port : Int) (address : Option String) (metadata : Option (List (String × Json)))
    (detected : { text : String // Accepted text }) : Except String Identity :=
  if unnamed : Text.strip nodeId = "" then .error "node_id must be a non-empty string"
  else if masterUrl = "" then .error "master_url is required"
  else if routable : validPort (.int port) = true then
    let given : { text : String // Text.strip text = text } := ⟨Text.strip (address.getD ""), Text.strip_twice _⟩
    let found : { text : String // Accepted text } := if absent : given.val = "" then detected else ⟨given.val, absent, given.property⟩
    .ok {
      nodeId := Text.strip nodeId
      address := found.val
      port := port
      metadata := metadata.getD []
      named := ⟨unnamed, Text.strip_twice nodeId⟩
      addressed := found.property
      routable := routable }
  else .error s!"port must be in range 1-65535, got {port}"

def joinBody (me : Identity) : Json := .obj [
  ("node_id", .str me.nodeId),
  ("address", .str me.address),
  ("port", .int me.port),
  ("metadata", .obj me.metadata)]

def request (me : Identity) : JoinRequest where
  nodeId := me.nodeId
  address := me.address
  port := .int me.port
  metadata := .obj me.metadata
  named := me.named
  addressed := me.addressed
  routable := me.routable

theorem or_else_text (text : String) : (Json.str text).orElse (.str "") = .str text := by
  by_cases empty : text = ""
  · rw [empty]
    rfl
  · simp [Json.orElse, Json.truthy, empty]

theorem or_else_fields (fields : List (String × Json)) : (Json.obj fields).orElse (.obj []) = .obj fields := by
  cases fields <;> rfl

-- The master takes every join of an agent, with what the agent knows.
theorem read_join_body (me : Identity) : JoinRequest.read me.joinBody = .ok me.request := by
  obtain ⟨named, trimmed⟩ := me.named
  obtain ⟨addressed, cut⟩ := me.addressed
  simp [joinBody, JoinRequest.read, JoinRequest.stripped, Json.get, Json.find?, Dict.last?, or_else_text, or_else_fields, request,
    trimmed, cut, named, addressed, me.routable]

end Identity

namespace AgentNode

-- What a step hears of a join sent after three failures, if it is the end of one.
def rejoin? (s : AgentNode) : AgentEvent → Option (Option Bool)
  | .run i received =>
      match s.threads[i]? with
      | some ⟨_, .awaitingRejoin request⟩ => s.reply request received
      | _ => none
  | _ => none

def rejoinDue (s : AgentNode) (event : AgentEvent) : Bool :=
  decide (s.beat? event = some (some false)) && decide ((s.consecutiveFailures + 1) % 3 = 0)

def rejoinFailed (s : AgentNode) (event : AgentEvent) : Bool := (s.rejoin? event).any fun answer => decide (answer ≠ some true)

-- A thread that is to send such a join, or has sent one that the master has not
-- accepted.
def rejoins (s : AgentNode) (thread : AgentThread) : Bool :=
  match thread.phase with
  | .rejoining => true
  | .awaitingRejoin request => decide (s.requests[request]? ≠ some ⟨.join, .processed true⟩)
  | _ => false

def rejoining (s : AgentNode) : Nat := s.threads.countP s.rejoins

-- What a thread awaits after a rejoin is the answer to a join.
def Joins (s : AgentNode) : Prop :=
  ∀ thread ∈ s.threads, ∀ request, thread.phase = .awaitingRejoin request → (s.requests[request]?).map Sent.kind = some .join

-- The requests of one state go on in the other, and the master accepts no join in
-- between.
def Pending (s after : AgentNode) : Prop :=
  ∀ request : Nat, s.requests[request]? ≠ some ⟨.join, .processed true⟩ →
    after.requests[request]? ≠ some ⟨.join, .processed true⟩

def KindsKept (s after : AgentNode) : Prop :=
  ∀ (request : Nat) (kind : RequestKind), (s.requests[request]?).map Sent.kind = some kind →
    (after.requests[request]?).map Sent.kind = some kind

theorem rejoins_mono (s after : AgentNode) (thread : AgentThread) (pending : s.Pending after) (rejoins : s.rejoins thread = true) :
    after.rejoins thread = true := by
  unfold AgentNode.rejoins at rejoins ⊢
  split at rejoins
  · rfl
  · exact decide_eq_true (pending _ (of_decide_eq_true rejoins))
  · cases rejoins

theorem rejoining_kept (s after : AgentNode) (pending : s.Pending after) (threads : s.threads <+: after.threads) :
    s.rejoining ≤ after.rejoining := by
  obtain ⟨fresh, grown⟩ := threads
  have kept : s.threads.countP s.rejoins ≤ s.threads.countP after.rejoins :=
    List.countP_mono_left fun thread _ rejoins => rejoins_mono s after thread pending rejoins
  simp only [rejoining, ← grown, List.countP_append]
  omega

theorem rejoining_set (s after : AgentNode) (i : Nat) (old new : AgentThread) (here : s.threads[i]? = some old)
    (pending : s.Pending after) (threads : after.threads = s.threads.set i new) :
    s.rejoining + (after.rejoins new).toNat ≤ after.rejoining + (s.rejoins old).toNat := by
  simp only [rejoining, threads]
  exact count_set s.rejoins after.rejoins s.threads i old new here fun thread rejoins => rejoins_mono s after thread pending rejoins

theorem after_beat_kept (s : AgentNode) (answer : Option Bool) :
    (s.afterBeat answer).1.threads = s.threads ∧ (s.afterBeat answer).1.requests = s.requests := by
  rw [afterBeat]
  split <;> exact ⟨rfl, rfl⟩

theorem joined_reply (s : AgentNode) (request : Nat) (received : Bool) (join : (s.requests[request]?).map Sent.kind = some .join)
    (replied : s.reply request received = some (some true)) : s.requests[request]? = some ⟨.join, .processed true⟩ := by
  obtain ⟨⟨kind, delivery⟩, here, rfl⟩ := Option.map_eq_some_iff.mp join
  simp only [reply, here] at replied
  split at replied
  · split at replied
    · rename_i same
      cases same
      cases replied
      exact here
    · cases replied
  · cases replied

theorem beat_phase (s : AgentNode) (answer : Option Bool) (request : Nat) : (s.afterBeat answer).2 ≠ .awaitingRejoin request := by
  rw [afterBeat]
  split <;> dsimp only <;> split <;> simp

-- Every step of a thread moves it on, and what it sends is on its way at first.
theorem run_moves (s after : AgentNode) (i : Nat) (received : Bool) (joins : s.Joins) (taken : s.run i received = some after) :
    ∃ old phase, s.threads[i]? = some old ∧ after.threads = s.threads.set i { old with phase := phase } ∧
      (after.requests = s.requests ∨ ∃ kind, after.requests = s.requests ++ [⟨kind, .inFlight⟩]) ∧
      (∀ request, phase = .awaitingRejoin request → (after.requests[request]?).map Sent.kind = some .join) ∧
      (s.rejoinDue (.run i received)).toNat + (s.rejoins old).toNat ≤
        (after.rejoins { old with phase := phase }).toNat + (s.rejoinFailed (.run i received)).toNat := by
  simp only [run] at taken
  split at taken
  · cases taken
  · rename_i thread here
    obtain ⟨retry, phase⟩ := thread
    refine ⟨⟨retry, phase⟩, ?_⟩
    cases phase with
    | attempting attempt | beating | recovering =>
        cases taken
        exact ⟨_, here, rfl, Or.inr ⟨_, rfl⟩, by simp, by simp [rejoinDue, beat?, here, rejoins]⟩
    | rejoining =>
        cases taken
        refine ⟨_, here, rfl, Or.inr ⟨_, rfl⟩, ?_, by simp [rejoinDue, beat?, here, rejoins, setPhase, post]⟩
        rintro request awaited
        cases awaited
        simp [setPhase, post]
    | backingOff attempt =>
        cases taken
        refine ⟨_, here, rfl, Or.inl rfl, ?_, by simp [rejoinDue, beat?, here, rejoins]⟩
        split <;> simp
    | looping =>
        cases taken
        refine ⟨_, here, rfl, Or.inl rfl, ?_, by simp [rejoinDue, beat?, here, rejoins]⟩
        split <;> simp
    | sleeping =>
        cases taken
        refine ⟨_, here, rfl, Or.inl rfl, ?_, by simp [rejoinDue, beat?, here, rejoins]⟩
        split <;> simp
    | woken =>
        cases taken
        refine ⟨_, here, rfl, Or.inl rfl, ?_, by simp [rejoinDue, beat?, here, rejoins]⟩
        split <;> simp
    | awaitingJoin attempt request =>
        obtain ⟨answer, _, rfl⟩ := Option.map_eq_some_iff.mp taken
        split
        · exact ⟨_, here, rfl, Or.inl rfl, by simp, by simp [rejoinDue, beat?, here, rejoins]⟩
        · refine ⟨_, here, rfl, Or.inl rfl, ?_, by simp [rejoinDue, beat?, here, rejoins]⟩
          split <;> simp
    | awaitingRecovery request =>
        obtain ⟨answer, _, rfl⟩ := Option.map_eq_some_iff.mp taken
        exact ⟨_, here, rfl, Or.inl rfl, by simp, by simp [rejoinDue, beat?, here, rejoins]⟩
    | awaitingBeat request =>
        obtain ⟨answer, replied, rfl⟩ := Option.map_eq_some_iff.mp taken
        obtain ⟨threads, requests⟩ := after_beat_kept s answer
        refine ⟨(s.afterBeat answer).2, here, by rw [setPhase, threads],
          Or.inl requests, fun awaited same => absurd same (beat_phase s answer awaited), ?_⟩
        have due : s.rejoinDue (.run i received) = true → (s.afterBeat answer).2 = .rejoining := by
          simp only [rejoinDue, beat?, here, replied, Bool.and_eq_true, decide_eq_true_eq, and_imp]
          rintro same count
          cases same
          simp [afterBeat, count]
        cases send : s.rejoinDue (.run i received) with
        | false => simp [rejoins]
        | true => simp [rejoins, due send]
    | awaitingRejoin request =>
        obtain ⟨answer, replied, rfl⟩ := Option.map_eq_some_iff.mp taken
        refine ⟨.looping, here, by split <;> rfl, Or.inl (by split <;> rfl), by simp, ?_⟩
        have idle : s.rejoinDue (.run i received) = false := by simp [rejoinDue, beat?, here]
        by_cases accepted : answer = some true
        · have read := joined_reply s request received (joins _ (List.mem_of_getElem? here) request rfl) (accepted ▸ replied)
          have done : s.rejoins ⟨retry, .awaitingRejoin request⟩ = false := by simp [rejoins, read]
          simp [idle, done]
        · have failed : s.rejoinFailed (.run i received) = true := by simp [rejoinFailed, rejoin?, here, replied, accepted]
          have one := Bool.toNat_le (s.rejoins ⟨retry, .awaitingRejoin request⟩)
          rw [idle, failed]
          simp only [Bool.toNat_false, Bool.toNat_true]
          omega
    | ended => cases taken

theorem sent_kept (s after : AgentNode)
    (requests : after.requests = s.requests ∨ ∃ kind, after.requests = s.requests ++ [⟨kind, .inFlight⟩]) :
    s.Pending after ∧ s.KindsKept after := by
  rcases requests with same | ⟨kind, same⟩
  · exact ⟨fun request unaccepted => same ▸ unaccepted, fun request kind sent => same ▸ sent⟩
  · refine ⟨?_, ?_⟩
    · intro request unaccepted
      rw [same, List.getElem?_append]
      split
      · exact unaccepted
      · rw [List.getElem?_singleton]
        split <;> simp
    · intro request kind sent
      obtain ⟨found, here, rfl⟩ := Option.map_eq_some_iff.mp sent
      have bound := (List.getElem?_eq_some_iff.mp here).1
      rw [same, List.getElem?_append_left bound, here]
      rfl

theorem delivered_kept (s after : AgentNode) (request : Nat) (kind : RequestKind) (delivery : Delivery)
    (here : s.requests[request]? = some ⟨kind, .inFlight⟩) (requests : after.requests = s.requests.set request ⟨kind, delivery⟩) :
    ((⟨kind, delivery⟩ : Sent) ≠ ⟨.join, .processed true⟩ → s.Pending after) ∧ s.KindsKept after := by
  have bound := (List.getElem?_eq_some_iff.mp here).1
  constructor
  · intro unaccepted other before
    rw [requests, List.getElem?_set]
    split
    · simpa [bound] using unaccepted
    · exact before
  · intro other found sent
    rw [requests, List.getElem?_set]
    split
    · rename_i same
      rw [← same, here] at sent
      simpa [bound] using sent
    · exact sent

theorem threads_kept (s after : AgentNode) (joins : s.Joins) (kinds : s.KindsKept after)
    (threads : after.threads = s.threads ∨ ∃ retry, after.threads = s.threads ++ [⟨retry, firstPhase retry⟩]) :
    after.Joins ∧ s.threads <+: after.threads := by
  rcases threads with same | ⟨retry, same⟩
  · refine ⟨?_, same ▸ List.prefix_refl _⟩
    intro thread member request awaited
    exact kinds request .join (joins thread (same ▸ member) request awaited)
  · refine ⟨?_, same ▸ List.prefix_append _ _⟩
    intro thread member request awaited
    rw [same, List.mem_append, List.mem_singleton] at member
    rcases member with before | rfl
    · exact kinds request .join (joins thread before request awaited)
    · simp only [firstPhase] at awaited
      split at awaited <;> cases awaited

-- What a step that the master has no part in makes of the joins after three
-- failures.
theorem step_rejoining (s after : AgentNode) (event : AgentEvent) (joins : s.Joins) (taken : agentStep s event = some after)
    (own : ∀ request ok, event ≠ .process request ok) :
    after.Joins ∧ s.rejoining + (s.rejoinDue event).toNat ≤ after.rejoining + (s.rejoinFailed event).toNat := by
  have still (idle : s.beat? event = none) (pending : s.Pending after) (kinds : s.KindsKept after)
      (threads : after.threads = s.threads ∨ ∃ retry, after.threads = s.threads ++ [⟨retry, firstPhase retry⟩]) :
      after.Joins ∧ s.rejoining + (s.rejoinDue event).toNat ≤ after.rejoining + (s.rejoinFailed event).toNat := by
    obtain ⟨awaited, longer⟩ := threads_kept s after joins kinds threads
    have kept := rejoining_kept s after pending longer
    have undue : s.rejoinDue event = false := by simp [rejoinDue, idle]
    rw [undue]
    exact ⟨awaited, Nat.le_add_right_of_le kept⟩
  have apart (idle : s.beat? event = none)
      (requests : after.requests = s.requests ∨ ∃ kind, after.requests = s.requests ++ [⟨kind, .inFlight⟩])
      (threads : after.threads = s.threads ∨ ∃ retry, after.threads = s.threads ++ [⟨retry, firstPhase retry⟩]) :
      after.Joins ∧ s.rejoining + (s.rejoinDue event).toNat ≤ after.rejoining + (s.rejoinFailed event).toNat := by
    obtain ⟨pending, kinds⟩ := sent_kept s after requests
    exact still idle pending kinds threads
  cases event with
  | run i received =>
      obtain ⟨old, phase, here, threads, requests, awaits, counted⟩ := run_moves s after i received joins taken
      obtain ⟨pending, kinds⟩ := sent_kept s after requests
      have whole := rejoining_set s after i old _ here pending threads
      refine ⟨?_, by omega⟩
      intro thread member request awaited
      rw [threads] at member
      rcases List.mem_or_eq_of_mem_set member with before | rfl
      · exact kinds request .join (joins thread before request awaited)
      · exact awaits request awaited
  | start retry =>
      simp only [agentStep, start] at taken
      split at taken <;> cases taken
      exact apart rfl (Or.inl rfl) (Or.inl rfl)
  | startStep i =>
      simp only [agentStep, startStep] at taken
      split at taken <;> cases taken
      · exact apart rfl (Or.inl rfl) (Or.inl rfl)
      · exact apart rfl (Or.inl rfl) (Or.inr ⟨_, rfl⟩)
  | stop =>
      have requests : s.stop.requests = s.requests := by unfold stop; split <;> rfl
      have threads : s.stop.threads = s.threads := by unfold stop; split <;> rfl
      cases taken
      exact apart rfl (Or.inl requests) (Or.inl threads)
  | stopStep i received =>
      simp only [agentStep, stopStep] at taken
      split at taken
      · cases taken
        exact apart rfl (Or.inl rfl) (Or.inl rfl)
      · cases taken
        exact apart rfl (Or.inl rfl) (Or.inl rfl)
      · cases taken
        exact apart rfl (Or.inr ⟨_, rfl⟩) (Or.inl rfl)
      · obtain ⟨_, _, rfl⟩ := Option.map_eq_some_iff.mp taken
        exact apart rfl (Or.inl rfl) (Or.inl rfl)
      · cases taken
        exact apart rfl (Or.inl rfl) (Or.inl rfl)
      · cases taken
  | process request ok => exact absurd rfl (own request ok)
  | lose request =>
      simp only [agentStep, lose] at taken
      split at taken
      · cases taken
      · rename_i kind _ here
        cases taken
        obtain ⟨pending, kinds⟩ := delivered_kept s
          { s with requests := s.requests.set request ⟨kind, .lost⟩ } request kind .lost here rfl
        exact still rfl (pending (by simp)) kinds (Or.inl rfl)
      · cases taken

theorem process_rejoining (s after : AgentNode) (request : Nat) (ok : Bool) (joins : s.Joins)
    (taken : s.process request ok = some after) :
    after.Joins ∧ after.consecutiveFailures = s.consecutiveFailures ∧
      (s.requests[request]? ≠ some ⟨.join, .inFlight⟩ ∨ ok = false → s.rejoining ≤ after.rejoining) := by
  simp only [process] at taken
  split at taken
  · rename_i kind here
    obtain rfl := Option.some.inj taken
    obtain ⟨pending, kinds⟩ := delivered_kept s
      { s with requests := s.requests.set request ⟨kind, .processed ok⟩, log := s.log ++ logged kind ok } request kind
        (.processed ok) here rfl
    obtain ⟨awaited, longer⟩ := threads_kept s _ joins kinds (Or.inl rfl)
    refine ⟨awaited, rfl, fun unaccepted => rejoining_kept s _ (pending ?_) longer⟩
    rw [here] at unaccepted
    rcases unaccepted with other | refused
    · simp_all
    · simp [refused]
  · cases taken

end AgentNode

-- The heartbeats that have come to an end without success and the joins after three
-- failures that have, all since the master last had the node or the agent last heard
-- a good answer.
structure Missed where
  rejected : Nat := 0
  unanswered : Nat := 0
  failedJoins : Nat := 0

def Missed.hear (missed : Missed) : Option (Option Bool) → Missed
  | none => missed
  | some none => { missed with unanswered := missed.unanswered + 1 }
  | some (some false) => { missed with rejected := missed.rejected + 1 }
  | some (some true) => {}

structure Enrolment where
  node : AgentNode := {}
  registry : Registry := .empty
  missed : Missed := {}

-- The master comes to a request, or turns it away before its handler does, its
-- registry is written to for others, and a new master may take its place.
inductive EnrolmentEvent where
  | agent (event : AgentEvent)
  | serve (request : Nat) (now : ℚ) (report : Option (List (String × Json))) (tlsClientCn : Option String)
  | refuse (request : Nat)
  | update (event : RegistryUpdate)
  | restart (registry : Registry)

def AgentEvent.own : AgentEvent → Bool
  | .process _ _ => false
  | _ => true

def accepts : Reply → Bool
  | .ok _ => true
  | _ => false

def handle (m : Settings) (me : Identity) (now : ℚ) (report : Option (List (String × Json))) (tlsClientCn : Option String)
    (r : Registry) : RequestKind → Reply × Registry
  | .join => r.handleJoin m now me.joinBody tlsClientCn
  | .heartbeat => r.handleHeartbeat m now me.nodeId (.obj [("metrics", .obj (collectMetrics report))])
  | .leave =>
      match r.beginLeave me.nodeId with
      | .ok marked => marked.finishLeave me.nodeId
      | .error reply => (reply, r)

namespace Enrolment

def settle (me : Identity) (s : Enrolment) : Enrolment := if s.registry.nodes.contains me.nodeId then { s with missed := {} } else s

def hear (s : Enrolment) (event : AgentEvent) : Missed :=
  let missed := s.missed.hear (s.node.beat? event)
  { missed with failedJoins := missed.failedJoins + (s.node.rejoinFailed event).toNat }

def next (m : Settings) (me : Identity) (s : Enrolment) : EnrolmentEvent → Option Enrolment
  | .agent event =>
      if event.own then (agentStep s.node event).map fun node => settle me { s with node := node, missed := s.hear event } else none
  | .serve request now report tlsClientCn =>
      match s.node.requests[request]? with
      | none => none
      | some sent =>
          let handled := handle m me now report tlsClientCn s.registry sent.kind
          (s.node.process request (accepts handled.1)).map fun node => settle me { s with node := node, registry := handled.2 }
  | .refuse request => (s.node.process request false).map fun node => settle me { s with node := node }
  | .update event => some (settle me { s with registry := s.registry.update m event })
  | .restart registry => some (settle me { s with registry := registry })

-- Three rejected heartbeats make a join, unless the third of them is no answer.
structure Accounted (s : Enrolment) : Prop where
  joins : s.node.Joins
  counted : s.missed.rejected + s.missed.unanswered ≤
    3 * (s.missed.unanswered + s.missed.failedJoins + s.node.rejoining) + s.node.consecutiveFailures % 3

theorem settled (me : Identity) (s : Enrolment) (joins : s.node.Joins)
    (counted : s.registry.nodes.contains me.nodeId = false → s.missed.rejected + s.missed.unanswered ≤
      3 * (s.missed.unanswered + s.missed.failedJoins + s.node.rejoining) + s.node.consecutiveFailures % 3) :
    (settle me s).Accounted := by
  unfold settle
  split
  · exact ⟨joins, Nat.zero_le _⟩
  · rename_i missing
    exact ⟨joins, counted (Bool.eq_false_iff.mpr missing)⟩

theorem handle_join (m : Settings) (me : Identity) (now : ℚ) (report : Option (List (String × Json))) (tlsClientCn : Option String)
    (r : Registry) : (handle m me now report tlsClientCn r .join).2.nodes.get? me.nodeId =
      some (NodeRecord.arrive m now tlsClientCn me.request (r.nodes.get? me.nodeId)) := by
  rw [handle, Registry.join_node, Master.nodeStep, me.read_join_body]
  exact if_pos rfl

theorem accounted_agent (me : Identity) (s : Enrolment) (node : AgentNode) (event : AgentEvent) (accounted : s.Accounted)
    (own : event.own = true) (taken : agentStep s.node event = some node) :
    (settle me { s with node := node, missed := s.hear event }).Accounted := by
  have apart : ∀ request ok, event ≠ .process request ok := by
    rintro request ok rfl
    cases own
  obtain ⟨joins, rejoining⟩ := s.node.step_rejoining node event accounted.joins taken apart
  have failures := s.node.step_failures node event taken
  have counted := accounted.counted
  refine settled me _ joins fun _ => ?_
  simp only [hear]
  cases heard : s.node.beat? event with
  | none =>
      have undue : s.node.rejoinDue event = false := by simp [AgentNode.rejoinDue, heard]
      simp only [heard, undue, Bool.toNat_false] at failures rejoining
      simp only [Missed.hear, failures]
      omega
  | some answer =>
      rcases answer with _ | answer
      · have undue : s.node.rejoinDue event = false := by simp [AgentNode.rejoinDue, heard]
        simp only [heard, undue, Bool.toNat_false, reduceCtorEq, if_false] at failures rejoining
        simp only [Missed.hear, failures]
        omega
      · cases answer with
        | true => exact Nat.zero_le _
        | false =>
            have due : s.node.rejoinDue event = decide ((s.node.consecutiveFailures + 1) % 3 = 0) := by
              simp [AgentNode.rejoinDue, heard]
            have more : node.consecutiveFailures = s.node.consecutiveFailures + 1 := by simpa [heard] using failures
            simp only [Missed.hear, more]
            by_cases third : (s.node.consecutiveFailures + 1) % 3 = 0
            · simp only [due, third, decide_true, Bool.toNat_true] at rejoining
              omega
            · omega

theorem accounted_next (m : Settings) (me : Identity) (s after : Enrolment) (event : EnrolmentEvent) (accounted : s.Accounted)
    (taken : next m me s event = some after) : after.Accounted := by
  cases event with
  | agent event =>
      simp only [next] at taken
      split at taken
      · rename_i own
        obtain ⟨node, stepped, rfl⟩ := Option.map_eq_some_iff.mp taken
        exact accounted_agent me s node event accounted own stepped
      · cases taken
  | serve request now report tlsClientCn =>
      simp only [next] at taken
      split at taken
      · cases taken
      · rename_i sent here
        obtain ⟨node, processed, rfl⟩ := Option.map_eq_some_iff.mp taken
        obtain ⟨joins, failures, pending⟩ := s.node.process_rejoining node request _ accounted.joins processed
        have counted := accounted.counted
        refine settled me _ joins fun missing => ?_
        have unjoined : s.node.requests[request]? ≠ some ⟨.join, .inFlight⟩ := by
          intro join
          cases here.symm.trans join
          rw [Dict.contains, handle_join] at missing
          cases missing
        have kept := pending (Or.inl unjoined)
        simp only [failures]
        omega
  | refuse request =>
      obtain ⟨node, processed, rfl⟩ := Option.map_eq_some_iff.mp taken
      obtain ⟨joins, failures, pending⟩ := s.node.process_rejoining node request false accounted.joins processed
      have kept := pending (Or.inr rfl)
      have counted := accounted.counted
      refine settled me _ joins fun _ => ?_
      simp only [failures]
      omega
  | update event =>
      cases taken
      exact settled me _ accounted.joins fun _ => accounted.counted
  | restart registry =>
      cases taken
      exact settled me _ accounted.joins fun _ => accounted.counted

end Enrolment

abbrev EnrolmentRun (m : Settings) (me : Identity) := Runs.Run (Enrolment.next m me) fun _ _ => True

theorem revive_live (m : Settings) (now : ℚ) (node : NodeRecord) : (node.revive m now).live = true := by
  simp only [NodeRecord.revive]
  split <;> simp [NodeRecord.live]

theorem arrive_live (m : Settings) (now : ℚ) (tlsClientCn : Option String) (request : JoinRequest) (before : Option NodeRecord) :
    (NodeRecord.arrive m now tlsClientCn request before).live = true := by
  cases before with
  | none => rfl
  | some old =>
      simp only [NodeRecord.arrive, NodeRecord.rejoin]
      cases status : old.status with
      | dead => exact revive_live m now _
      | leaving => rfl
      | alive | quarantined => simp [NodeRecord.live]

open Enrolment

-- However the agent, its master and everyone else interleave: the agent of a node that
-- the master lacks has a join to send or on its way once three heartbeats were rejected,
-- and two more for each without an answer, three more for each such join that failed.
-- The master takes every join that gets to it.
theorem lost_node_rejoins (m : Settings) (me : Identity) (s : Enrolment) (events : List EnrolmentEvent)
    (run : EnrolmentRun m me {} events s) :
    (2 + 2 * s.missed.unanswered + 3 * s.missed.failedJoins < s.missed.rejected →
      ∃ thread ∈ s.node.threads, s.node.rejoins thread = true) ∧
    ∀ request now report tlsClientCn after, s.node.requests[request]? = some ⟨.join, .inFlight⟩ →
      next m me s (.serve request now report tlsClientCn) = some after →
        ∃ node, after.registry.nodes.get? me.nodeId = some node ∧ node.live = true ∧ node.address = me.address ∧
          node.port = .int me.port ∧ node.metadata = .obj me.metadata := by
  have accounted : s.Accounted := by
    refine Runs.run_invariant (next m me) _ Accounted ?_ {} s events ⟨fun thread member => (by cases member), Nat.zero_le _⟩ run
    exact fun state event after held _ taken => accounted_next m me state after event held taken
  constructor
  · intro many
    have counted := accounted.counted
    have waiting : 0 < s.node.rejoining := by omega
    exact List.countP_pos_iff.mp waiting
  · intro request now report tlsClientCn after here taken
    simp only [next, here] at taken
    obtain ⟨node, _, rfl⟩ := Option.map_eq_some_iff.mp taken
    obtain ⟨address, port, metadata, _⟩ :=
      Master.arrive_data m now tlsClientCn me.request (s.registry.nodes.get? me.nodeId)
    refine ⟨_, ?_, arrive_live m now tlsClientCn me.request _, address, port, metadata⟩
    rw [settle]
    split <;> exact handle_join m me now report tlsClientCn s.registry

theorem loopback_accepted : Accepted "127.0.0.1" := ⟨by decide, by decide +kernel⟩

def oneAgent : Except String Identity := Identity.make " a " "http://master:7070" 8001 none none ⟨"127.0.0.1", loopback_accepted⟩

def rejectedBeat (request : Nat) : List EnrolmentEvent :=
  [.agent (.run 0 false), .agent (.run 0 false), .agent (.run 0 false), .agent (.run 0 false), .serve request 1 none none,
    .agent (.run 0 true)]

-- The node joins, a new master knows nothing of it, three heartbeats are rejected, and
-- the join is on its way.
def forgotten : List EnrolmentEvent :=
  [.agent (.start 1), .agent (.startStep 0), .agent (.startStep 0), .agent (.run 0 false), .serve 0 0 none none,
    .agent (.run 0 true), .restart .empty] ++ rejectedBeat 1 ++ rejectedBeat 2 ++ rejectedBeat 3 ++ [.agent (.run 0 false)]

theorem forgotten_node_rejoins : ∃ me s, oneAgent = .ok me ∧ EnrolmentRun {} me {} forgotten s ∧
    s.missed.rejected = 3 ∧ (∃ thread ∈ s.node.threads, s.node.rejoins thread = true) ∧
      ∃ after node, next {} me s (.serve 4 2 none none) = some after ∧ after.registry.nodes.get? "a" = some node ∧
      node.live = true := by
  have followed : ∃ me ∈ oneAgent.toOption, me.nodeId = "a" ∧ ∃ s ∈ Runs.follow (next {} me) (fun _ _ => True) {} forgotten,
      s.missed.rejected = 3 ∧ s.missed.unanswered = 0 ∧ s.missed.failedJoins = 0 ∧
        s.node.requests[4]? = some ⟨.join, .inFlight⟩ ∧ (next {} me s (.serve 4 2 none none)).isSome = true := by
    decide +kernel
  obtain ⟨me, made, name, s, reached, rejected, unanswered, failed, here, served⟩ := followed
  obtain ⟨after, taken⟩ := Option.isSome_iff_exists.mp served
  have run := Runs.follow_run _ _ _ s _ reached
  obtain ⟨pending, accepted⟩ := lost_node_rejoins {} me s _ run
  obtain ⟨node, found, live, _⟩ := accepted 4 2 none none after here taken
  have ok : oneAgent = .ok me := by
    cases outcome : oneAgent with
    | error text => simp [outcome, Except.toOption] at made
    | ok other =>
        rw [outcome] at made
        cases made
        rfl
  exact ⟨me, s, ok, run, rejected, pending (by omega), after, node, taken, name ▸ found, live⟩

end HuddleCluster.Agent
