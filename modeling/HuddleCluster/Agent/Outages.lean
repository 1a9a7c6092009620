import HuddleCluster.Agent.Stopping
import HuddleCluster.Lib.Outage

set_option autoImplicit false

namespace HuddleCluster.Agent

namespace AgentNode

-- What a step hears of a heartbeat, if it is the end of one.
def beat? (s : AgentNode) : AgentEvent → Option (Option Bool)
  | .run i received =>
      match s.threads[i]? with
      | some ⟨_, .awaitingBeat request⟩ => s.reply request received
      | _ => none
  | _ => none

def fireRecovered (s : AgentNode) (answer : Option Bool) : Bool := decide (answer = some true) && decide (0 < s.consecutiveFailures)

def fireUnreachable (s : AgentNode) (answer : Option Bool) : Bool :=
  decide (answer ≠ some true) && decide (s.consecutiveFailures + 1 = 1)

-- The callbacks that a heartbeat decides on: on_recovered is true,
-- on_master_unreachable false.
def fired (s : AgentNode) : Option (Option Bool) → List Bool
  | none => []
  | some answer => (if s.fireRecovered answer then [true] else []) ++ (if s.fireUnreachable answer then [false] else [])

theorem run_failures (s after : AgentNode) (i : Nat) (received : Bool) (taken : s.run i received = some after) :
    after.consecutiveFailures = match s.beat? (.run i received) with
      | none => s.consecutiveFailures
      | some answer => if answer = some true then 0 else s.consecutiveFailures + 1 := by
  simp only [run] at taken
  split at taken
  · cases taken
  · rename_i thread here
    obtain ⟨retry, phase⟩ := thread
    simp only [beat?, here]
    cases phase with
    | awaitingBeat request =>
        obtain ⟨answer, replied, rfl⟩ := Option.map_eq_some_iff.mp taken
        simp only [replied, afterBeat]
        split <;> rfl
    | attempting | beating | rejoining | recovering | backingOff | looping | sleeping | woken =>
        cases taken
        rfl
    | awaitingJoin | awaitingRejoin =>
        obtain ⟨answer, _, rfl⟩ := Option.map_eq_some_iff.mp taken
        split <;> rfl
    | awaitingRecovery =>
        obtain ⟨answer, _, rfl⟩ := Option.map_eq_some_iff.mp taken
        rfl
    | ended => cases taken

theorem step_failures (s after : AgentNode) (event : AgentEvent) (taken : agentStep s event = some after) :
    after.consecutiveFailures = match s.beat? event with
      | none => s.consecutiveFailures
      | some answer => if answer = some true then 0 else s.consecutiveFailures + 1 := by
  cases event with
  | run i received => exact run_failures s after i received taken
  | start retry =>
      simp only [agentStep, start] at taken
      split at taken <;> cases taken
      rfl
  | startStep i =>
      simp only [agentStep, startStep] at taken
      split at taken <;> cases taken <;> rfl
  | stop =>
      cases taken
      unfold stop
      split <;> rfl
  | stopStep i received =>
      simp only [agentStep, stopStep] at taken
      split at taken <;> first | cases taken; rfl | (obtain ⟨_, _, rfl⟩ := Option.map_eq_some_iff.mp taken; rfl) | cases taken
  | process request ok =>
      simp only [agentStep, process] at taken
      split at taken <;> cases taken
      rfl
  | lose request =>
      simp only [agentStep, lose] at taken
      split at taken <;> cases taken
      rfl

end AgentNode

def AgentEvent.thread : AgentEvent → Option Nat
  | .run i _ => some i
  | _ => none

structure Outstanding where
  thread : Nat
  recovered : Bool
deriving DecidableEq, Repr

-- An agent with both callbacks, the heartbeats that came to an end, the callbacks
-- decided on under the lock, those that a thread has yet to call, and the calls.
structure Reporting where
  node : AgentNode := {}
  beats : List Bool := []
  decided : List Bool := []
  owed : List Outstanding := []
  calls : List Bool := []

inductive ReportingEvent where
  | agent (event : AgentEvent)
  | call (i : Nat)

namespace Reporting

def hear (s : Reporting) (event : AgentEvent) : Reporting :=
  match s.node.beat? event with
  | none => s
  | some answer =>
      { s with
        beats := s.beats ++ [decide (answer = some true)]
        decided := s.decided ++ s.node.fired (some answer)
        owed := s.owed ++ (s.node.fired (some answer)).map fun recovered => ⟨event.thread.getD 0, recovered⟩ }

def calling (s : Reporting) (event : AgentEvent) : Bool := s.owed.any fun call => event.thread == some call.thread

-- The lock is not held at a callback: other threads go on.
def next (s : Reporting) : ReportingEvent → Option Reporting
  | .agent event => if s.calling event then none else (agentStep s.node event).map fun node => { s.hear event with node := node }
  | .call i =>
      (s.owed.find? fun call => call.thread == i).map fun call =>
        { s with owed := s.owed.erase call, calls := s.calls ++ [call.recovered] }

abbrev ReportingRun := Runs.Run next fun _ _ => True

def Counted (s : Reporting) : Prop :=
  Outage.Counted 1 s.beats s.node.consecutiveFailures (decide (s.node.consecutiveFailures = 0)) s.decided

def made (s : Reporting) : List Bool := s.calls ++ s.owed.map Outstanding.recovered

-- A heartbeat decides on a callback only while no call of another is to come.
def InTurn (s : Reporting) : ReportingEvent → Prop
  | .agent event => s.node.fired (s.node.beat? event) = [] ∨ s.owed = []
  | .call _ => True

instance (s : Reporting) : DecidablePred s.InTurn
  | .agent event => inferInstanceAs (Decidable (s.node.fired (s.node.beat? event) = [] ∨ s.owed = []))
  | .call _ => inferInstanceAs (Decidable True)

theorem counted_hear (s : Reporting) (event : AgentEvent) (answer : Option Bool) (node : AgentNode) (counted : s.Counted)
    (heard : s.node.beat? event = some answer)
    (failures : node.consecutiveFailures = if answer = some true then 0 else s.node.consecutiveFailures + 1) :
    ({ s.hear event with node := node } : Reporting).Counted := by
  unfold Counted
  simp only [hear, heard]
  by_cases ok : answer = some true
  · have seen := Outage.counted_success 1 Nat.one_pos _ _ _ _ counted
    rw [if_pos ok] at failures
    by_cases reached : s.node.consecutiveFailures = 0
    · simpa [AgentNode.fired, AgentNode.fireRecovered, AgentNode.fireUnreachable, ok, failures, reached] using seen
    · simpa [AgentNode.fired, AgentNode.fireRecovered, AgentNode.fireUnreachable, ok, failures, reached,
        Nat.pos_of_ne_zero reached] using seen
  · have seen := Outage.counted_failure 1 _ _ _ _ counted
    rw [if_neg ok] at failures
    by_cases reached : s.node.consecutiveFailures = 0
    · simpa [AgentNode.fired, AgentNode.fireRecovered, AgentNode.fireUnreachable, ok, failures, reached] using seen
    · simpa [AgentNode.fired, AgentNode.fireRecovered, AgentNode.fireUnreachable, ok, failures, reached] using seen

theorem hear_made (s : Reporting) (event : AgentEvent) :
    (s.hear event).decided = s.decided ++ s.node.fired (s.node.beat? event) ∧
      (s.hear event).made = s.made ++ s.node.fired (s.node.beat? event) := by
  unfold hear
  cases heard : s.node.beat? event with
  | none => exact ⟨(List.append_nil _).symm, (List.append_nil _).symm⟩
  | some answer => exact ⟨rfl, by simp [made, Function.comp_def]⟩

theorem agent_next (s after : Reporting) (event : AgentEvent) (taken : s.next (.agent event) = some after) :
    ∃ node, agentStep s.node event = some node ∧ after = { s.hear event with node := node } := by
  simp only [next] at taken
  split at taken
  · cases taken
  · obtain ⟨node, stepped, rfl⟩ := Option.map_eq_some_iff.mp taken
    exact ⟨node, stepped, rfl⟩

theorem call_next (s after : Reporting) (i : Nat) (taken : s.next (.call i) = some after) :
    ∃ call ∈ s.owed, after = { s with owed := s.owed.erase call, calls := s.calls ++ [call.recovered] } := by
  obtain ⟨call, found, rfl⟩ := Option.map_eq_some_iff.mp taken
  exact ⟨call, List.mem_of_find?_eq_some found, rfl⟩

theorem counted_next (s after : Reporting) (event : ReportingEvent) (counted : s.Counted) (taken : s.next event = some after) :
    after.Counted := by
  cases event with
  | call i =>
      obtain ⟨_, _, rfl⟩ := call_next s after i taken
      exact counted
  | agent event =>
      obtain ⟨node, stepped, rfl⟩ := agent_next s after event taken
      have failures := AgentNode.step_failures s.node node event stepped
      cases heard : s.node.beat? event with
      | none =>
          rw [heard] at failures
          unfold Counted
          simp only [hear, heard, failures]
          exact counted
      | some answer =>
          rw [heard] at failures
          exact counted_hear s event answer node counted heard failures

theorem made_next (s after : Reporting) (event : ReportingEvent) (accounted : s.made.Perm s.decided)
    (taken : s.next event = some after) : after.made.Perm after.decided := by
  cases event with
  | agent event =>
      obtain ⟨node, _, rfl⟩ := agent_next s after event taken
      obtain ⟨decided, made⟩ := hear_made s event
      change (s.hear event).made.Perm (s.hear event).decided
      rw [decided, made]
      exact accounted.append_right _
  | call i =>
      obtain ⟨call, member, rfl⟩ := call_next s after i taken
      refine List.Perm.trans ?_ accounted
      have taken := (List.perm_cons_erase member).map Outstanding.recovered
      simp only [made, List.append_assoc]
      exact taken.symm.append_left s.calls

-- With one call at a time to come, the calls are in the order of the decisions.
def Ordered (s : Reporting) : Prop := s.made = s.decided ∧ s.owed.length ≤ 1

theorem ordered_next (s after : Reporting) (event : ReportingEvent) (ordered : s.Ordered) (turn : s.InTurn event)
    (taken : s.next event = some after) : after.Ordered := by
  obtain ⟨same, single⟩ := ordered
  cases event with
  | agent event =>
      obtain ⟨node, _, rfl⟩ := agent_next s after event taken
      obtain ⟨decided, made⟩ := hear_made s event
      refine ⟨?_, ?_⟩
      · change (s.hear event).made = (s.hear event).decided
        rw [decided, made, same]
      · change (s.hear event).owed.length ≤ 1
        unfold hear
        cases heard : s.node.beat? event with
        | none => exact single
        | some answer =>
            have one : (s.node.fired (some answer)).length ≤ 1 := by
              by_cases ok : answer = some true <;>
                simp [AgentNode.fired, AgentNode.fireRecovered, AgentNode.fireUnreachable, ok] <;> split <;> simp
            simp only [InTurn, heard] at turn
            rcases turn with silent | idle
            · simpa [silent] using single
            · simpa [idle] using one
  | call i =>
      obtain ⟨call, member, rfl⟩ := call_next s after i taken
      obtain ⟨only, alone⟩ := List.length_eq_one_iff.mp (Nat.le_antisymm single (List.length_pos_of_mem member))
      rw [alone, List.mem_singleton] at member
      subst member
      refine ⟨?_, ?_⟩
      · rw [← same]
        simp [made, alone]
      · simp [alone]

end Reporting

open Reporting

-- However start, stop and the threads of an agent interleave, its failures are counted from
-- the last good heartbeat, and it decides on its callbacks in turn, on_master_unreachable
-- first. Each is called once, in that order as long as no two of them are to come.
theorem outages_alternate (s : Reporting) (events : List ReportingEvent) (run : ReportingRun {} events s) :
    s.node.consecutiveFailures = Outage.trailing s.beats ∧ (true :: s.decided).IsChain (· ≠ ·) ∧
      s.decided.getLastD true = decide (s.node.consecutiveFailures = 0) ∧ s.made.Perm s.decided ∧
      (Runs.Run next InTurn {} events s → s.made = s.decided) := by
  have counted : s.Counted := by
    refine Runs.run_invariant next _ Counted ?_ {} s events (Outage.counted_fresh 1 Nat.one_pos) run
    exact fun state event after held _ taken => counted_next state after event held taken
  have accounted : s.made.Perm s.decided := by
    refine Runs.run_invariant next _ (fun state => state.made.Perm state.decided) ?_ {} s events (List.Perm.refl _) run
    exact fun state event after held _ taken => made_next state after event held taken
  obtain ⟨alternate, final⟩ := Outage.reports_alternate true _ _ _ counted.watching
  refine ⟨counted.count, alternate, final, accounted, ?_⟩
  intro turns
  refine (Runs.run_invariant next InTurn Ordered ?_ {} s events ⟨rfl, Nat.zero_le 1⟩ turns).1
  exact fun state event after held turn taken => ordered_next state after event held turn taken

def starting (i : Nat) : List ReportingEvent := [.agent (.start 0), .agent (.startStep i), .agent (.startStep i)]

def beatOnce (i request : Nat) (received : Bool) : List ReportingEvent :=
  List.replicate 4 (.agent (.run i false)) ++ [.agent (.process request true), .agent (.run i received)]

-- One answer that does not arrive, and one that does. The second heartbeat is one of
-- the same thread, or one of a thread that overtakes the first before its callback.
theorem outages_lost_answer :
    (∃ s : Reporting, s.calls = [false, true] ∧ s.made = s.decided) ∧
      ∃ s : Reporting, s.calls = [true, false] ∧ s.decided = [false, true] ∧ s.made.Perm s.decided := by
  have followed : ∃ s ∈ Runs.follow next InTurn {} (starting 0 ++ beatOnce 0 0 false ++ [.call 0] ++ beatOnce 0 1 true ++ [.call 0]),
      s.calls = [false, true] := by
    decide +kernel
  have overtaken : ∃ s ∈ Runs.follow next (fun _ _ => True) {}
      (starting 0 ++ beatOnce 0 0 false ++ [.agent .stop] ++ starting 1 ++ beatOnce 1 1 true ++ [.call 1, .call 0]),
      s.calls = [true, false] ∧ s.decided = [false, true] := by
    decide +kernel
  obtain ⟨s, reached, calls⟩ := followed
  obtain ⟨other, arrived, crossed, decided⟩ := overtaken
  have turns := Runs.follow_run _ _ _ s _ reached
  have run := Runs.follow_run _ _ _ other _ arrived
  exact ⟨⟨s, calls, (outages_alternate s _ (Runs.run_free _ _ _ _ _ turns)).2.2.2.2 turns⟩,
    ⟨other, crossed, decided, (outages_alternate other _ run).2.2.2.1⟩⟩

end HuddleCluster.Agent
