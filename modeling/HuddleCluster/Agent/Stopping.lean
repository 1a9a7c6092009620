import HuddleCluster.Lib.Runs

set_option autoImplicit false

namespace HuddleCluster.Agent

inductive RequestKind where
  | join
  | heartbeat
  | leave
deriving DecidableEq, Repr

-- A request that is still on its way may be lost, or the master comes to it and
-- answers with its ok field.
inductive Delivery where
  | inFlight
  | processed (ok : Bool)
  | lost
deriving DecidableEq, Repr

structure Sent where
  kind : RequestKind
  delivery : Delivery
deriving DecidableEq, Repr

-- Where the background thread stands in _run. A phase that awaits an answer has
-- the number of its request.
inductive ThreadPhase where
  | attempting (attempt : Nat)
  | awaitingJoin (attempt request : Nat)
  | backingOff (attempt : Nat)
  | looping
  | sleeping
  | woken
  | beating
  | awaitingBeat (request : Nat)
  | rejoining
  | awaitingRejoin (request : Nat)
  | recovering
  | awaitingRecovery (request : Nat)
  | ended
deriving DecidableEq, Repr

structure AgentThread where
  retry : Nat
  phase : ThreadPhase
deriving DecidableEq, Repr

inductive StartPhase where
  | marked (retry : Nat)
  | cleared (retry : Nat)
  | returned
deriving DecidableEq, Repr

inductive StopPhase where
  | flagged
  | signalled
  | leaving
  | awaitingLeave (request : Nat)
  | joining
  | returned
deriving DecidableEq, Repr

-- What the master has done: it took the node in, or it took a leave.
inductive Logged where
  | joined
  | left
deriving DecidableEq, Repr

-- The calls of start and stop and the threads, old ones too, each where it stands,
-- all requests ever sent, and what the master made of them.
structure AgentNode where
  running : Bool := false
  joined : Bool := false
  stopEvent : Bool := false
  consecutiveFailures : Nat := 0
  threads : List AgentThread := []
  starts : List StartPhase := []
  stops : List StopPhase := []
  requests : List Sent := []
  log : List Logged := []
deriving DecidableEq, Repr

namespace AgentNode

def post (s : AgentNode) (kind : RequestKind) : AgentNode := { s with requests := s.requests ++ [⟨kind, .inFlight⟩] }

-- What a call gets for its request: an answer, once it is there, or nothing, at any
-- time, whatever becomes of the request.
def reply (s : AgentNode) (request : Nat) (received : Bool) : Option (Option Bool) :=
  if received then
    match s.requests[request]? with
    | some ⟨_, .processed ok⟩ => some (some ok)
    | _ => none
  else some none

def setPhase (s : AgentNode) (i : Nat) (thread : AgentThread) (phase : ThreadPhase) : AgentNode :=
  { s with threads := s.threads.set i { thread with phase := phase } }

def firstPhase (retry : Nat) : ThreadPhase := if 1 ≤ retry then .attempting 1 else .looping

def afterBeat (s : AgentNode) (answer : Option Bool) : AgentNode × ThreadPhase :=
  if answer = some true then
    ({ s with consecutiveFailures := 0 }, if 0 < s.consecutiveFailures then .recovering else .looping)
  else
    ({ s with consecutiveFailures := s.consecutiveFailures + 1 },
      if answer.isSome && (s.consecutiveFailures + 1) % 3 == 0 then .rejoining else .looping)

-- One step of a background thread. The result of the join after a recovery is
-- ignored.
def run (s : AgentNode) (i : Nat) (received : Bool) : Option AgentNode :=
  match s.threads[i]? with
  | none => none
  | some thread =>
      match thread.phase with
      | .attempting attempt => some ((s.post .join).setPhase i thread (.awaitingJoin attempt s.requests.length))
      | .awaitingJoin attempt request =>
          (s.reply request received).map fun answer =>
            if answer = some true then { s with joined := true }.setPhase i thread .looping
            else s.setPhase i thread (if attempt < thread.retry then .backingOff attempt else .looping)
      | .backingOff attempt => some (s.setPhase i thread (if s.stopEvent then .looping else .attempting (attempt + 1)))
      | .looping => some (s.setPhase i thread (if s.running then .sleeping else .ended))
      | .sleeping => some (s.setPhase i thread (if s.stopEvent then .ended else .woken))
      | .woken => some (s.setPhase i thread (if s.running then .beating else .ended))
      | .beating => some ((s.post .heartbeat).setPhase i thread (.awaitingBeat s.requests.length))
      | .awaitingBeat request =>
          (s.reply request received).map fun answer => (s.afterBeat answer).1.setPhase i thread (s.afterBeat answer).2
      | .rejoining => some ((s.post .join).setPhase i thread (.awaitingRejoin s.requests.length))
      | .awaitingRejoin request =>
          (s.reply request received).map fun answer =>
            (if answer = some true then { s with joined := true } else s).setPhase i thread .looping
      | .recovering => some ((s.post .join).setPhase i thread (.awaitingRecovery s.requests.length))
      | .awaitingRecovery request => (s.reply request received).map fun _ => s.setPhase i thread .looping
      | .ended => none

def start (s : AgentNode) (retry : Nat) : Option AgentNode :=
  if s.running then none else some { s with running := true, starts := s.starts ++ [.marked retry] }

def startStep (s : AgentNode) (i : Nat) : Option AgentNode :=
  match s.starts[i]? with
  | some (.marked retry) => some { s with stopEvent := false, starts := s.starts.set i (.cleared retry) }
  | some (.cleared retry) =>
      some { s with threads := s.threads ++ [⟨retry, firstPhase retry⟩], starts := s.starts.set i .returned }
  | _ => none

def stop (s : AgentNode) : AgentNode := if s.running then { s with running := false, stops := s.stops ++ [.flagged] } else s

-- The wait for the thread at the end has a time limit, so it says nothing about the
-- thread.
def stopStep (s : AgentNode) (i : Nat) (received : Bool) : Option AgentNode :=
  match s.stops[i]? with
  | some .flagged => some { s with stopEvent := true, stops := s.stops.set i .signalled }
  | some .signalled => some { s with stops := s.stops.set i (if s.joined then .leaving else .joining) }
  | some .leaving => some { s.post .leave with stops := s.stops.set i (.awaitingLeave s.requests.length) }
  | some (.awaitingLeave request) => (s.reply request received).map fun _ => { s with stops := s.stops.set i .joining }
  | some .joining => some { s with stops := s.stops.set i .returned }
  | _ => none

def logged : RequestKind → Bool → List Logged
  | .join, true => [.joined]
  | .leave, _ => [.left]
  | _, _ => []

def process (s : AgentNode) (request : Nat) (ok : Bool) : Option AgentNode :=
  match s.requests[request]? with
  | some ⟨kind, .inFlight⟩ =>
      some { s with requests := s.requests.set request ⟨kind, .processed ok⟩, log := s.log ++ logged kind ok }
  | _ => none

def lose (s : AgentNode) (request : Nat) : Option AgentNode :=
  match s.requests[request]? with
  | some ⟨.leave, _⟩ => none
  | some ⟨kind, .inFlight⟩ => some { s with requests := s.requests.set request ⟨kind, .lost⟩ }
  | _ => none

end AgentNode

inductive AgentEvent where
  | start (retry : Nat)
  | startStep (i : Nat)
  | stop
  | stopStep (i : Nat) (received : Bool)
  | run (i : Nat) (received : Bool)
  | process (request : Nat) (ok : Bool)
  | lose (request : Nat)

def agentStep (s : AgentNode) : AgentEvent → Option AgentNode
  | .start retry => s.start retry
  | .startStep i => s.startStep i
  | .stop => some s.stop
  | .stopStep i received => s.stopStep i received
  | .run i received => s.run i received
  | .process request ok => s.process request ok
  | .lose request => s.lose request

def StopPhase.undecided : StopPhase → Bool
  | .flagged | .signalled | .leaving => true
  | _ => false

namespace AgentNode

def Stopped (s : AgentNode) : Prop := s.running = false ∧ ∀ phase ∈ s.stops, phase = .returned

def Answered (s : AgentNode) : Prop := ∀ request ∈ s.requests, request.delivery ≠ .inFlight

def NoGhost (s : AgentNode) : Prop := s.Stopped → s.Answered → .joined ∈ s.log → s.log.getLast? = some .left

-- A leave is still to come: from a stop that is to be called, that has yet to look
-- at _joined or to send it, or on its way.
def Covered (s : AgentNode) : Prop :=
  s.running = true ∨ (∃ phase ∈ s.stops, phase.undecided = true) ∨ ⟨.leave, .inFlight⟩ ∈ s.requests

def Out (s : AgentNode) : Prop := s.log.getLast? ≠ some .joined

-- The master takes a join only while a leave is still to come, and a stop that does
-- not see the agent joined finds it out, or some other leave is still to come.
def Orderly (s : AgentNode) : AgentEvent → Prop
  | .process request true => (s.requests[request]?).map Sent.kind = some .join → s.Covered
  | .stopStep i _ => s.stops[i]? = some .signalled → s.joined = false → { s with stops := s.stops.set i .joining }.Covered ∨ s.Out
  | _ => True

end AgentNode

theorem mem_set_other {α : Type} (items : List α) (i : Nat) (item new : α) (member : item ∈ items) (other : items[i]? ≠ some item) :
    item ∈ items.set i new := by
  obtain ⟨j, here⟩ := List.mem_iff_getElem?.mp member
  have apart : i ≠ j := by
    rintro rfl
    exact other here
  exact List.mem_iff_getElem?.mpr ⟨j, by rw [List.getElem?_set_ne apart, here]⟩

-- What keeps a leave coming: who runs, who has yet to decide, and the leaves on
-- their way.
theorem covered_mono (s after : AgentNode) (running : s.running = true → after.running = true)
    (stops : ∀ phase ∈ s.stops, phase.undecided = true → phase ∈ after.stops)
    (requests : ⟨.leave, .inFlight⟩ ∈ s.requests → ⟨.leave, .inFlight⟩ ∈ after.requests) (covered : s.Covered) :
    after.Covered := by
  rcases covered with runs | stopping | leaving
  · exact Or.inl (running runs)
  · obtain ⟨phase, member, undecided⟩ := stopping
    exact Or.inr (Or.inl ⟨phase, stops phase member undecided, undecided⟩)
  · exact Or.inr (Or.inr (requests leaving))

-- The steps of a thread send requests, and write nothing else that decides whether
-- a leave is still to come.
theorem run_spec (s after : AgentNode) (i : Nat) (received : Bool) (taken : s.run i received = some after) :
    after.running = s.running ∧ after.stops = s.stops ∧ after.log = s.log ∧ ∃ sent, after.requests = s.requests ++ sent := by
  have unsent : ∃ sent, s.requests = s.requests ++ sent := ⟨[], (List.append_nil _).symm⟩
  simp only [AgentNode.run] at taken
  split at taken
  · cases taken
  · rename_i thread _
    cases phase : thread.phase with
    | attempting | beating | rejoining | recovering =>
        simp only [phase] at taken
        cases taken
        exact ⟨rfl, rfl, rfl, _, rfl⟩
    | backingOff | looping | sleeping | woken =>
        simp only [phase] at taken
        cases taken
        exact ⟨rfl, rfl, rfl, unsent⟩
    | awaitingJoin attempt request =>
        simp only [phase] at taken
        obtain ⟨answer, _, rfl⟩ := Option.map_eq_some_iff.mp taken
        split <;> exact ⟨rfl, rfl, rfl, unsent⟩
    | awaitingBeat request =>
        simp only [phase] at taken
        obtain ⟨answer, _, rfl⟩ := Option.map_eq_some_iff.mp taken
        rw [AgentNode.afterBeat]
        split <;> exact ⟨rfl, rfl, rfl, unsent⟩
    | awaitingRejoin request =>
        simp only [phase] at taken
        obtain ⟨answer, _, rfl⟩ := Option.map_eq_some_iff.mp taken
        split <;> exact ⟨rfl, rfl, rfl, unsent⟩
    | awaitingRecovery request =>
        simp only [phase] at taken
        obtain ⟨answer, _, rfl⟩ := Option.map_eq_some_iff.mp taken
        exact ⟨rfl, rfl, rfl, unsent⟩
    | ended =>
        simp only [phase] at taken
        cases taken

theorem stop_step_accounted (s after : AgentNode) (i : Nat) (received : Bool) (accounted : s.Covered ∨ s.Out)
    (orderly : s.Orderly (.stopStep i received)) (taken : s.stopStep i received = some after) : after.Covered ∨ after.Out := by
  have settled (phase : StopPhase) (next : AgentNode) (here : s.stops[i]? = some phase) (decided : phase.undecided = false)
      (running : next.running = s.running) (stops : next.stops = s.stops.set i .joining ∨ next.stops = s.stops.set i .returned)
      (requests : next.requests = s.requests) (log : next.log = s.log) : next.Covered ∨ next.Out := by
    refine accounted.imp (covered_mono s next (by simp [running]) ?_ (by simp [requests])) fun out => by rwa [AgentNode.Out, log]
    intro other member undecided
    have apart : s.stops[i]? ≠ some other := by
      rintro found
      cases here.symm.trans found
      exact absurd (decided.symm.trans undecided) nofun
    rcases stops with same | same <;> exact same ▸ mem_set_other s.stops i other _ member apart
  simp only [AgentNode.stopStep] at taken
  split at taken
  · rename_i here
    cases taken
    exact Or.inl (Or.inr (Or.inl ⟨_, List.mem_set (List.getElem?_eq_some_iff.mp here).1 _, rfl⟩))
  · rename_i here
    cases taken
    cases joined : s.joined with
    | true => exact Or.inl (Or.inr (Or.inl ⟨_, List.mem_set (List.getElem?_eq_some_iff.mp here).1 _, rfl⟩))
    | false => exact orderly here joined
  · cases taken
    exact Or.inl (Or.inr (Or.inr (List.mem_append_right _ (List.mem_singleton_self _))))
  · rename_i request here
    obtain ⟨_, _, rfl⟩ := Option.map_eq_some_iff.mp taken
    exact settled _ _ here rfl rfl (Or.inl rfl) rfl rfl
  · rename_i here
    cases taken
    exact settled _ _ here rfl rfl (Or.inr rfl) rfl rfl
  · cases taken

theorem delivered_covered (s after : AgentNode) (request : Nat) (sent : Sent) (delivery : Delivery)
    (found : s.requests[request]? = some sent) (other : sent.kind ≠ .leave) (running : after.running = s.running)
    (stops : after.stops = s.stops) (requests : after.requests = s.requests.set request ⟨sent.kind, delivery⟩) (covered : s.Covered) :
    after.Covered := by
  refine covered_mono s after (by simp [running]) (fun phase member _ => stops ▸ member) ?_ covered
  intro member
  rw [requests]
  apply mem_set_other _ _ _ _ member
  intro same
  cases found.symm.trans same
  exact other rfl

theorem process_accounted (s after : AgentNode) (request : Nat) (ok : Bool) (accounted : s.Covered ∨ s.Out)
    (orderly : s.Orderly (.process request ok)) (taken : s.process request ok = some after) : after.Covered ∨ after.Out := by
  simp only [AgentNode.process] at taken
  split at taken
  · rename_i kind found
    have delivered := delivered_covered s after request ⟨kind, .inFlight⟩ (.processed ok) found
    cases kind with
    | leave =>
        cases taken
        refine Or.inr ?_
        simp [AgentNode.Out, AgentNode.logged]
    | heartbeat =>
        cases taken
        refine accounted.imp (delivered nofun rfl rfl rfl) ?_
        intro out
        simpa [AgentNode.Out, AgentNode.logged] using out
    | join =>
        cases ok with
        | true =>
            have covered : s.Covered := orderly (by simp [found])
            cases taken
            exact Or.inl (delivered nofun rfl rfl rfl covered)
        | false =>
            cases taken
            refine accounted.imp (delivered nofun rfl rfl rfl) ?_
            intro out
            simpa [AgentNode.Out, AgentNode.logged] using out
  · cases taken

theorem accounted_step (s after : AgentNode) (event : AgentEvent) (accounted : s.Covered ∨ s.Out) (orderly : s.Orderly event)
    (taken : agentStep s event = some after) : after.Covered ∨ after.Out := by
  cases event with
  | start retry =>
      simp only [agentStep, AgentNode.start] at taken
      split at taken
      · cases taken
      · cases taken
        exact Or.inl (Or.inl rfl)
  | startStep i =>
      simp only [agentStep, AgentNode.startStep] at taken
      split at taken
      · cases taken
        exact accounted
      · cases taken
        exact accounted
      · cases taken
  | stop =>
      cases taken
      rw [AgentNode.stop]
      split
      · exact Or.inl (Or.inr (Or.inl ⟨.flagged, by simp, rfl⟩))
      · exact accounted
  | stopStep i received => exact stop_step_accounted s after i received accounted orderly taken
  | run i received =>
      obtain ⟨running, stops, log, sent, requests⟩ := run_spec s after i received taken
      refine accounted.imp (covered_mono s after (by simp [running]) (fun phase member _ => stops ▸ member) ?_)
        fun out => by rwa [AgentNode.Out, log]
      intro member
      rw [requests]
      exact List.mem_append_left sent member
  | process request ok => exact process_accounted s after request ok accounted orderly taken
  | lose request =>
      simp only [agentStep, AgentNode.lose] at taken
      split at taken
      · cases taken
      · rename_i kind other found
        cases taken
        exact accounted.imp (delivered_covered s _ request _ .lost found other rfl rfl rfl) id
      · cases taken

theorem accounted_no_ghost (s : AgentNode) (accounted : s.Covered ∨ s.Out) : s.NoGhost := by
  intro stopped answered joined
  have out : s.Out := by
    rcases accounted with covered | out
    · rcases covered with runs | stopping | leaving
      · exact absurd (stopped.1.symm.trans runs) nofun
      · obtain ⟨phase, member, undecided⟩ := stopping
        rw [stopped.2 phase member] at undecided
        cases undecided
      · exact absurd rfl (answered _ leaving)
    · exact out
  cases last : s.log.getLast? with
  | none =>
      rw [List.getLast?_eq_none_iff.mp last] at joined
      cases joined
  | some entry =>
      cases entry with
      | joined => exact absurd last out
      | left => rfl

theorem stopped_no_ghost (events : List AgentEvent) (s : AgentNode) (run : Runs.Run agentStep AgentNode.Orderly {} events s) :
    s.NoGhost := by
  apply accounted_no_ghost
  apply Runs.run_invariant agentStep AgentNode.Orderly (fun s => s.Covered ∨ s.Out) _ {} s events _ run
  · exact fun state event after accounted orderly taken => accounted_step state after event accounted orderly taken
  · exact Or.inr nofun

instance (s : AgentNode) : Decidable s.Covered :=
  inferInstanceAs (Decidable (s.running = true ∨ (∃ phase ∈ s.stops, phase.undecided = true) ∨
    ⟨.leave, .inFlight⟩ ∈ s.requests))

instance (s : AgentNode) : Decidable s.Out := inferInstanceAs (Decidable (s.log.getLast? ≠ some .joined))

instance (s : AgentNode) (event : AgentEvent) : Decidable (s.Orderly event) :=
  match event with
  | .process request true => inferInstanceAs (Decidable ((s.requests[request]?).map Sent.kind = some .join → s.Covered))
  | .stopStep i _ => inferInstanceAs (Decidable (s.stops[i]? = some .signalled → s.joined = false →
      ({ s with stops := s.stops.set i .joining } : AgentNode).Covered ∨ s.Out))
  | .start _ | .startStep _ | .stop | .run .. | .process _ false | .lose _ => instDecidableTrue

instance (s : AgentNode) : Decidable s.NoGhost :=
  inferInstanceAs (Decidable ((s.running = false ∧ ∀ phase ∈ s.stops, phase = .returned) →
    (∀ request ∈ s.requests, request.delivery ≠ .inFlight) → .joined ∈ s.log → s.log.getLast? = some .left))

def firstJoin : List AgentEvent := [.start 3, .startStep 0, .startStep 0, .run 0 false]

def stopCall : List AgentEvent := [.stop, .stopStep 0 false, .stopStep 0 false]

theorem stopped_no_ghost_in_turn : ∃ s ∈ Runs.follow agentStep AgentNode.Orderly {} (firstJoin ++ [.process 0 true, .run 0 true] ++
    stopCall ++ [.stopStep 0 false, .process 1 true, .stopStep 0 true, .stopStep 0 false]),
    s.Stopped ∧ s.log = [.joined, .left] ∧ s.NoGhost := by
  obtain ⟨s, followed, stopped, all, log⟩ : ∃ s ∈ Runs.follow agentStep AgentNode.Orderly {} (firstJoin ++
      [.process 0 true, .run 0 true] ++ stopCall ++ [.stopStep 0 false, .process 1 true, .stopStep 0 true, .stopStep 0 false]),
      s.running = false ∧ (∀ phase ∈ s.stops, phase = .returned) ∧ s.log = [.joined, .left] := by decide +kernel
  exact ⟨s, followed, ⟨stopped, all⟩, log, stopped_no_ghost _ s (Runs.follow_run _ _ _ s _ followed)⟩

-- The master takes the first join when stop has looked at the joined flag already.
theorem stopped_ghost : ∃ s, Runs.Run agentStep (fun _ _ => True) {}
    (firstJoin ++ stopCall ++ [.stopStep 0 false, .process 0 true, .run 0 true, .run 0 true]) s ∧ ¬ s.NoGhost := by
  obtain ⟨s, followed, ghost⟩ : ∃ s ∈ Runs.follow agentStep (fun _ _ => True) {}
      (firstJoin ++ stopCall ++ [.stopStep 0 false, .process 0 true, .run 0 true, .run 0 true]), ¬ s.NoGhost := by decide +kernel
  exact ⟨s, Runs.follow_run _ _ _ s _ followed, ghost⟩

end HuddleCluster.Agent
