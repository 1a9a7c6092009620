import HuddleCluster.HA.QuorumGuard

set_option autoImplicit false

namespace HuddleCluster.HA

def HeartbeatThread.completed : HeartbeatThread → Option (List String)
  | .round _ active [] => some active
  | _ => none

-- A step that left read-only mode: what the node was before it, and when it had
-- last accepted an AppendEntries.
structure Departure where
  process : Process
  heard : Option ℚ
  event : Event

structure ReadonlyWatch where
  process : Process
  heard : Option ℚ
  departures : List Departure

namespace ReadonlyWatch

def fresh (quorumNow : ℚ) (s : Settings) (timing : Timing) (stored : Option Durable) : ReadonlyWatch :=
  ⟨{ node := .boot quorumNow s timing stored }, none, []⟩

def heardAfter (s : ReadonlyWatch) : Event → Option ℚ
  | .appendEntries _ _ term timing => if s.process.node.term ≤ term then some timing.now else s.heard
  | _ => s.heard

def departuresAfter (s : ReadonlyWatch) (after : Process) (event : Event) : List Departure :=
  if s.process.node.readonly = true ∧ after.node.readonly = false then s.departures ++ [⟨s.process, s.heard, event⟩]
  else s.departures

end ReadonlyWatch

-- One life of a node: a restart builds another one.
def readonlyStep (cfg : Settings) (s : ReadonlyWatch) (event : Event) : Option ReadonlyWatch :=
  if event.restarts then none
  else (s.process.next cfg event).map fun after => ⟨after, s.heardAfter event, s.departuresAfter after event⟩

abbrev ReadonlyRun (cfg : Settings) (allowed : ReadonlyWatch → Event → Prop) := Runs.Run (readonlyStep cfg) allowed

structure Follows (cfg : Settings) (node : Node) (heard : Option ℚ) (now : ℚ) : Prop where
  follower : node.role = .follower
  led : node.leaderId.isSome = true
  recent : ∃ last ∈ heard, now - last ≤ cfg.baseTimeout * 2

structure Gathered (cfg : Settings) (p : Process) : Prop where
  leading : p.node.role = .leader
  majority : ∃ active ∈ p.heartbeat.completed, cfg.needed ≤ active.length + 1

def Legitimate (cfg : Settings) (departure : Departure) : Prop :=
  match departure.event with
  | .exitReadonlyMode => True
  | .evaluate _ _ => cfg.autoHealEnabled = true ∧ Gathered cfg departure.process
  | .appendEntries _ _ term _ => cfg.autoHealEnabled = true ∧ departure.process.node.term ≤ term
  | .autoHeal now => cfg.autoHealEnabled = true ∧ (cfg.peers = [] ∨ Follows cfg departure.process.node departure.heard now)
  | _ => False

-- The two tests of auto_heal that stand for a leader.
def Node.touched (cfg : Settings) (now : ℚ) (n : Node) : Prop :=
  n.leaderId.isSome = true ∧ now - n.lastHb ≤ cfg.baseTimeout * 2

-- A read-only node without auto-healing does not evaluate a round with a
-- majority, and one with it is asked to heal only if it follows a leader whose
-- last message, and not only whose last timer, is recent.
def Guarded (cfg : Settings) (s : ReadonlyWatch) : Event → Prop
  | .evaluate _ _ => s.process.node.readonly = true → Gathered cfg s.process → cfg.autoHealEnabled = true
  | .autoHeal now => s.process.node.readonly = true → cfg.autoHealEnabled = true → cfg.peers ≠ [] →
      s.process.node.touched cfg now → Follows cfg s.process.node s.heard now
  | _ => True

theorem persist_readonly (s : Settings) (n : Node) : (n.persist s).readonly = n.readonly := by
  simp only [Node.persist]
  split <;> rfl

theorem step_down_readonly (s : Settings) (timing : Timing) (newTerm : Int) (n : Node) :
    (n.stepDown s timing newTerm).readonly = n.readonly :=
  persist_readonly s { n with term := newTerm, role := .follower, votedFor := none }

theorem vote_request_readonly (s : Settings) (timing : Timing) (candidateId : String) (candidateTerm : Int) (n : Node) :
    (n.handleVoteRequest s timing candidateId candidateTerm).2.readonly = n.readonly := by
  have granted (m : Node) : (Node.resetTimeout s timing (Node.persist s { m with votedFor := some candidateId })).readonly = m.readonly :=
    persist_readonly s { m with votedFor := some candidateId }
  simp only [Node.handleVoteRequest]
  by_cases stale : candidateTerm < n.term
  · rw [if_pos stale]
  · rw [if_neg stale]
    by_cases later : n.term < candidateTerm
    · have down := step_down_readonly s timing candidateTerm n
      simp only [if_pos later]
      split
      · exact (granted (n.stepDown s timing candidateTerm)).trans down
      · exact down
    · simp only [if_neg later]
      split
      · exact granted n
      · rfl

theorem enter_readonly (s : Settings) (timing : Timing) (reason : String) (n : Node) :
    (n.enterReadonlyMode s timing reason).readonly = true := by
  simp only [Node.enterReadonlyMode]
  split <;> rfl

theorem append_departs (s : Settings) (timing : Timing) (leaderId leaderUrl : String) (term : Int) (n : Node)
    (readonly : n.readonly = true) (left : (n.acceptAppend s timing leaderId leaderUrl term).2.readonly = false) :
    s.autoHealEnabled = true ∧ n.term ≤ term := by
  simp only [Node.acceptAppend] at left
  by_cases stale : term < n.term
  · rw [if_pos stale] at left
    exact absurd (readonly.symm.trans left) (by simp)
  · refine ⟨?_, not_lt.mp stale⟩
    rw [if_neg stale] at left
    cases enabled : s.autoHealEnabled with
    | true => rfl
    | false =>
        rw [enabled, Bool.false_and, if_neg (by simp)] at left
        by_cases later : n.term < term
        · rw [if_pos later] at left
          exact absurd (readonly.symm.trans ((step_down_readonly s timing term n).symm.trans left)) (by simp)
        · rw [if_neg later] at left
          exact absurd (readonly.symm.trans left) (by simp)

theorem evaluate_quorum_readonly (s : Settings) (now : ℚ) (timing : Timing) (active : List String) (n : Node)
    (readonly : n.readonly = true) :
    (n.evaluateQuorum s now timing active).readonly = false ↔ s.needed ≤ active.length + 1 := by
  simp only [Node.evaluateQuorum]
  by_cases enough : s.needed ≤ active.length + 1
  · rw [if_pos enough, if_pos (by simp [readonly])]
    exact iff_of_true rfl enough
  · rw [if_neg enough]
    refine iff_of_false ?_ enough
    split
    · rw [enter_readonly]
      simp
    · simp [readonly]

theorem evaluate_departs (s : Settings) (p after : Process) (now : ℚ) (timing : Timing) (readonly : p.node.readonly = true)
    (taken : p.evaluate s now timing = some after) : after.node.readonly = false ↔ Gathered s p := by
  simp only [Process.evaluate] at taken
  split at taken
  · rename_i term active round
    by_cases leads : p.node.role = .leader
    · rw [if_pos leads] at taken
      cases taken
      refine (evaluate_quorum_readonly s now timing active p.node readonly).trans ⟨fun enough => ⟨leads, active, ?_, enough⟩, ?_⟩
      · simp [HeartbeatThread.completed, round]
      · rintro ⟨_, others, found, enough⟩
        simp only [HeartbeatThread.completed, round, Option.mem_some_iff] at found
        exact found ▸ enough
    · rw [if_neg leads] at taken
      cases taken
      exact iff_of_false (by simp [readonly]) fun gathered => leads gathered.leading
  · cases taken

theorem auto_heal_departs (s : Settings) (now : ℚ) (n : Node) (readonly : n.readonly = true) :
    (n.autoHeal s now).2.readonly = false ↔ s.autoHealEnabled = true ∧ (s.peers = [] ∨ n.touched s now) := by
  simp only [Node.autoHeal, Node.touched, readonly]
  cases s.autoHealEnabled with
  | false => simp [readonly]
  | true =>
      simp only [Bool.not_true, Bool.false_eq_true, if_false, Bool.true_or, true_and]
      by_cases reached : s.peers = [] ∨ n.leaderId.isSome = true ∧ now - n.lastHb ≤ s.baseTimeout * 2
      · rw [if_pos (by simpa [List.isEmpty_iff] using reached)]
        exact iff_of_true rfl reached
      · rw [if_neg (by simpa [List.isEmpty_iff] using reached)]
        exact iff_of_false (by simp [readonly]) reached

-- The steps other than the four of the law leave the flag on.
def Event.lifts : Event → Bool
  | .exitReadonlyMode | .evaluate _ _ | .appendEntries _ _ _ _ | .autoHeal _ | .restart _ _ _ => true
  | _ => false

theorem readonly_stays (s : Settings) (p after : Process) (event : Event) (readonly : p.node.readonly = true)
    (other : event.lifts = false) (taken : p.next s event = some after) : after.node.readonly = true := by
  cases event with
  | attach timing =>
      cases taken
      obtain same | ⟨_, same⟩ := Process.attach_cases s p timing <;> rw [same] <;> exact readonly
  | checkElection now =>
      simp only [Process.next, Process.checkElection] at taken
      split at taken <;> cases taken
      exact readonly
  | startElection timing =>
      simp only [Process.next, Process.startElection] at taken
      split at taken <;> cases taken
      exact (persist_readonly s { p.node with term := p.node.term + 1, role := .candidate, votedFor := some s.id }).trans readonly
  | voteReply reply timing =>
      obtain ⟨_, _, _, _, _, ⟨_, rfl⟩ | ⟨answer, _, _, rfl⟩⟩ := Process.vote_reply_cases s p after reply timing taken
      · exact readonly
      · exact (step_down_readonly s timing answer.term p.node).trans readonly
  | decide timing =>
      simp only [Process.next, Process.decide] at taken
      split at taken
      · split at taken <;> cases taken <;> exact readonly
      · cases taken
  | announced =>
      obtain ⟨_, _, _, _, rfl, _⟩ := Process.announced_cases p after taken
      exact readonly
  | beginRound =>
      obtain ⟨_, rfl⟩ := Process.begin_round_cases s p after taken
      exact readonly
  | syncReply reply timing =>
      obtain ⟨_, _, _, _, _, ⟨_, rfl⟩ | ⟨answer, _, _, rfl⟩⟩ := Process.sync_reply_cases s p after reply timing taken
      · exact readonly
      · exact (step_down_readonly s timing answer.term p.node).trans readonly
  | voteRequest candidateId candidateTerm timing =>
      cases taken
      exact (vote_request_readonly s timing candidateId candidateTerm p.node).trans readonly
  | enterReadonlyMode reason timing =>
      cases taken
      exact enter_readonly s timing reason p.node
  | exitReadonlyMode | evaluate _ _ | appendEntries _ _ _ _ | autoHeal _ | restart _ _ _ => cases other

theorem departure_guarded (cfg : Settings) (s : ReadonlyWatch) (event : Event) (after : Process)
    (readonly : s.process.node.readonly = true) (lasting : event.restarts = false)
    (taken : s.process.next cfg event = some after) :
    (after.node.readonly = false → Legitimate cfg ⟨s.process, s.heard, event⟩) ↔ Guarded cfg s event := by
  cases event with
  | exitReadonlyMode => exact iff_of_true (fun _ => trivial) trivial
  | evaluate now timing =>
      rw [evaluate_departs cfg s.process after now timing readonly taken]
      exact ⟨fun legitimate _ gathered => (legitimate gathered).1, fun guarded gathered => ⟨guarded readonly gathered, gathered⟩⟩
  | appendEntries leaderId leaderUrl term timing =>
      cases taken
      exact iff_of_true (append_departs cfg timing leaderId leaderUrl term s.process.node readonly) trivial
  | autoHeal now =>
      cases taken
      rw [auto_heal_departs cfg now s.process.node readonly]
      constructor
      · intro legitimate _ enabled attached touched
        exact (legitimate ⟨enabled, Or.inr touched⟩).2.resolve_left attached
      · rintro guarded ⟨enabled, reached⟩
        refine ⟨enabled, ?_⟩
        rcases eq_or_ne cfg.peers [] with alone | attached
        · exact Or.inl alone
        · exact Or.inr (guarded readonly enabled attached (reached.resolve_left attached))
  | restart => cases lasting
  | _ =>
      refine iff_of_true (fun left => ?_) trivial
      have stays := readonly_stays cfg s.process after _ readonly rfl taken
      exact absurd (stays.symm.trans left) (by simp)

def AllLegitimate (cfg : Settings) (s : ReadonlyWatch) : Prop := ∀ departure ∈ s.departures, Legitimate cfg departure

theorem legitimate_step (cfg : Settings) (s after : ReadonlyWatch) (event : Event) (taken : readonlyStep cfg s event = some after) :
    AllLegitimate cfg after ↔ AllLegitimate cfg s ∧ Guarded cfg s event := by
  simp only [readonlyStep] at taken
  split at taken
  · cases taken
  · rename_i lasting
    obtain ⟨process, stepped, rfl⟩ := Option.map_eq_some_iff.mp taken
    simp only [AllLegitimate, ReadonlyWatch.departuresAfter]
    cases readonly : s.process.node.readonly with
    | false =>
        have guarded : Guarded cfg s event := by
          cases event <;> simp [Guarded, readonly]
        simp [guarded]
    | true =>
        have exactly := departure_guarded cfg s event process readonly (by simpa using lasting) stepped
        rw [← exactly]
        split
        · rename_i left
          rw [List.forall_mem_append, List.forall_mem_singleton]
          exact and_congr_right fun _ => ⟨fun legitimate _ => legitimate, fun legitimate => legitimate left.2⟩
        · rename_i stayed
          simp only [true_and] at stayed
          simp [stayed]

theorem readonly_not_leader (n : Node) (readonly : n.isReadonly = true) : n.isLeader = false := by
  rw [Node.isReadonly] at readonly
  simp [Node.isLeader, readonly]

theorem readonly_left_iff (cfg : Settings) (quorumNow : ℚ) (timing : Timing) (stored : Option Durable) (events : List Event)
    (last : ReadonlyWatch) (run : ReadonlyRun cfg (fun _ _ => True) (.fresh quorumNow cfg timing stored) events last) :
    (AllLegitimate cfg last ∧ (last.process.node.isReadonly = true → last.process.node.isLeader = false)) ↔
      ReadonlyRun cfg (Guarded cfg) (.fresh quorumNow cfg timing stored) events last := by
  rw [and_iff_left (readonly_not_leader last.process.node)]
  apply Runs.run_characterised (readonlyStep cfg) (Guarded cfg) (fun _ => True) (AllLegitimate cfg)
  · exact fun s after event _ taken => ⟨trivial, legitimate_step cfg s after event taken⟩
  · trivial
  · exact fun departure member => absurd member List.not_mem_nil
  · exact run

instance (cfg : Settings) (node : Node) (heard : Option ℚ) (now : ℚ) : Decidable (Follows cfg node heard now) :=
  decidable_of_iff (node.role = .follower ∧ node.leaderId.isSome = true ∧ ∃ last ∈ heard, now - last ≤ cfg.baseTimeout * 2)
    ⟨fun held => ⟨held.1, held.2.1, held.2.2⟩, fun follows => ⟨follows.follower, follows.led, follows.recent⟩⟩

instance (cfg : Settings) (p : Process) : Decidable (Gathered cfg p) :=
  decidable_of_iff (p.node.role = .leader ∧ ∃ active ∈ p.heartbeat.completed, cfg.needed ≤ active.length + 1)
    ⟨fun held => ⟨held.1, held.2⟩, fun gathered => ⟨gathered.leading, gathered.majority⟩⟩

instance (cfg : Settings) (s : ReadonlyWatch) (event : Event) : Decidable (Guarded cfg s event) :=
  match event with
  | .evaluate _ _ => inferInstanceAs (Decidable (s.process.node.readonly = true → Gathered cfg s.process → cfg.autoHealEnabled = true))
  | .autoHeal now => inferInstanceAs (Decidable (s.process.node.readonly = true → cfg.autoHealEnabled = true → cfg.peers ≠ [] →
      (s.process.node.leaderId.isSome = true ∧ now - s.process.node.lastHb ≤ cfg.baseTimeout * 2) →
        Follows cfg s.process.node s.heard now))
  | .attach _ | .checkElection _ | .startElection _ | .voteReply .. | .decide _ | .announced | .beginRound | .syncReply ..
  | .voteRequest .. | .appendEntries .. | .enterReadonlyMode .. | .exitReadonlyMode | .restart .. => isTrue trivial

def setAside : List Event :=
  [.enterReadonlyMode "manual" ⟨1, 0⟩, .appendEntries "b" "http://b" 1 ⟨2, 0⟩, .enterReadonlyMode "manual" ⟨3, 0⟩, .autoHeal 4]

theorem readonly_left_twice : ∃ last, ReadonlyRun trio (fun _ _ => True) (.fresh 0 trio ⟨0, 0⟩ none) setAside last ∧
    last.departures.length = 2 ∧ AllLegitimate trio last := by
  have reached : ∃ last ∈ Runs.follow (readonlyStep trio) (Guarded trio) (.fresh 0 trio ⟨0, 0⟩ none) setAside,
      last.departures.length = 2 := by decide +kernel
  obtain ⟨last, followed, twice⟩ := reached
  have permitted := Runs.follow_run _ _ _ last _ followed
  have run := Runs.run_free _ _ _ last _ permitted
  exact ⟨last, run, twice, ((readonly_left_iff trio 0 ⟨0, 0⟩ none _ last run).mpr permitted).1⟩

instance (cfg : Settings) (departure : Departure) : Decidable (Legitimate cfg departure) :=
  match departure with
  | ⟨_, _, .exitReadonlyMode⟩ => isTrue trivial
  | ⟨p, _, .evaluate _ _⟩ => inferInstanceAs (Decidable (cfg.autoHealEnabled = true ∧ Gathered cfg p))
  | ⟨p, _, .appendEntries _ _ term _⟩ => inferInstanceAs (Decidable (cfg.autoHealEnabled = true ∧ p.node.term ≤ term))
  | ⟨p, heard, .autoHeal now⟩ =>
      inferInstanceAs (Decidable (cfg.autoHealEnabled = true ∧ (cfg.peers = [] ∨ Follows cfg p.node heard now)))
  | ⟨_, _, .attach _⟩ | ⟨_, _, .checkElection _⟩ | ⟨_, _, .startElection _⟩ | ⟨_, _, .voteReply ..⟩ | ⟨_, _, .decide _⟩
  | ⟨_, _, .announced⟩ | ⟨_, _, .beginRound⟩ | ⟨_, _, .syncReply ..⟩ | ⟨_, _, .voteRequest ..⟩ |
    ⟨_, _, .enterReadonlyMode ..⟩
  | ⟨_, _, .restart ..⟩ => isFalse id

def alone : Settings := { id := "a", autoHealEnabled := false }

-- Elected while read-only, the node leaves by its first round, though it is not
-- to heal by itself.
def healedByRound : List Event :=
  [.enterReadonlyMode "manual" ⟨9, 0⟩, .checkElection 10, .startElection ⟨10, 0⟩, .decide ⟨10, 0⟩, .beginRound,
    .evaluate 11 ⟨11, 0⟩]

-- Elected while read-only, the node is the leader that it has just heard.
def healedByItself : List Event := [.enterReadonlyMode "manual" ⟨9, 0⟩] ++ elected 10 ++ [.autoHeal 11]

theorem readonly_left_unlawfully :
    (∃ last, ReadonlyRun alone (fun _ _ => True) (.fresh 0 alone ⟨0, 0⟩ none) healedByRound last ∧ ¬ AllLegitimate alone last) ∧
      ∃ last, ReadonlyRun trio (fun _ _ => True) (.fresh 0 trio ⟨0, 0⟩ none) healedByItself last ∧ ¬ AllLegitimate trio last := by
  have byRound : ∃ last ∈ Runs.follow (readonlyStep alone) (fun _ _ => True) (.fresh 0 alone ⟨0, 0⟩ none) healedByRound,
      ∃ departure ∈ last.departures, ¬ Legitimate alone departure := by decide +kernel
  have byItself : ∃ last ∈ Runs.follow (readonlyStep trio) (fun _ _ => True) (.fresh 0 trio ⟨0, 0⟩ none) healedByItself,
      ∃ departure ∈ last.departures, ¬ Legitimate trio departure := by decide +kernel
  obtain ⟨first, firstRun, departure, left, unlawful⟩ := byRound
  obtain ⟨second, secondRun, other, leftToo, unlawfulToo⟩ := byItself
  exact ⟨⟨first, Runs.follow_run _ _ _ first _ firstRun, fun legitimate => unlawful (legitimate departure left)⟩,
    second, Runs.follow_run _ _ _ second _ secondRun, fun legitimate => unlawfulToo (legitimate other leftToo)⟩

end HuddleCluster.HA
