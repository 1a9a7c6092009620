import HuddleCluster.HA.Node

set_option autoImplicit false

namespace HuddleCluster.HA

-- Where the election thread is. A campaign knows the term it was started for,
-- its votes so far, and the peers it has still to ask.
inductive ElectionThread where
  | idle
  | armed
  | campaign (term : Int) (votes : Nat) (left : List String)
  | announcing (term : Int) (left : List String)
deriving DecidableEq, Repr

inductive HeartbeatThread where
  | idle
  | round (term : Int) (active left : List String)
deriving DecidableEq, Repr

-- A node with its threads. The list of grants is not part of the program: it
-- has every vote the node gave, to others and to itself, in all its lives.
structure Process where
  node : Node
  election : ElectionThread := .idle
  heartbeat : HeartbeatThread := .idle
  grants : List (Int × String) := []
deriving DecidableEq

-- The steps of one node. Each is one critical section of the program; between
-- two steps of a loop anything else may happen. A reply is absent when the call
-- raised. A crash may find the step-down of a vote request already on disk.
inductive Event where
  | attach (timing : Timing)
  | checkElection (now : ℚ)
  | startElection (timing : Timing)
  | voteReply (reply : Option VoteReply) (timing : Timing)
  | decide (timing : Timing)
  | announced
  | beginRound
  | syncReply (reply : Option SyncReply) (timing : Timing)
  | evaluate (now : ℚ) (timing : Timing)
  | voteRequest (candidateId : String) (candidateTerm : Int) (timing : Timing)
  | appendEntries (leaderId leaderUrl : String) (term : Int) (timing : Timing)
  | enterReadonlyMode (reason : String) (timing : Timing)
  | exitReadonlyMode
  | autoHeal (now : ℚ)
  | restart (interrupted : Option Int) (quorumNow : ℚ) (timing : Timing)

namespace Process

-- A node without peers leads as soon as it is attached, in whatever term it has.
def attach (s : Settings) (p : Process) (timing : Timing) : Process :=
  if s.peers.isEmpty then { p with node := p.node.becomeLeader s timing } else p

def checkElection (p : Process) (now : ℚ) : Option Process :=
  match p.election with
  | .idle => some { p with election := if p.node.electionDue now then .armed else .idle }
  | _ => none

-- The check and the election lock separately, so the role may have changed.
def startElection (s : Settings) (p : Process) (timing : Timing) : Option Process :=
  match p.election with
  | .armed =>
      let node := p.node.beginElection s timing
      some { p with node := node, election := .campaign node.term 1 s.peers, grants := p.grants ++ [(node.term, s.id)] }
  | _ => none

def voteReply (s : Settings) (p : Process) (reply : Option VoteReply) (timing : Timing) : Option Process :=
  match p.election with
  | .campaign term votes (_ :: left) =>
      match reply with
      | none => some { p with election := .campaign term votes left }
      | some reply =>
          if term < reply.term then some { p with node := p.node.stepDown s timing reply.term, election := .idle }
          else some { p with election := .campaign term (if reply.voteGranted then votes + 1 else votes) left }
  | _ => none

def decide (s : Settings) (p : Process) (timing : Timing) : Option Process :=
  match p.election with
  | .campaign _ votes [] =>
      if s.needed ≤ votes then
        some { p with node := p.node.becomeLeader s timing, election := .announcing p.node.term s.peers }
      else some { p with election := .idle }
  | _ => none

def announced (p : Process) : Option Process :=
  match p.election with
  | .announcing term (_ :: left) => some { p with election := .announcing term left }
  | .announcing _ [] => some { p with election := .idle }
  | _ => none

def beginRound (s : Settings) (p : Process) : Option Process :=
  match p.heartbeat with
  | .idle => if p.node.role = .leader then some { p with heartbeat := .round p.node.term [] s.peers } else some p
  | _ => none

def syncReply (s : Settings) (p : Process) (reply : Option SyncReply) (timing : Timing) : Option Process :=
  match p.heartbeat with
  | .round term active (peer :: left) =>
      match reply with
      | none => some { p with heartbeat := .round term active left }
      | some reply =>
          if term < reply.term then some { p with node := p.node.stepDown s timing reply.term, heartbeat := .idle }
          else some { p with heartbeat := .round term (if reply.success then active.insert peer else active) left }
  | _ => none

def evaluate (s : Settings) (p : Process) (now : ℚ) (timing : Timing) : Option Process :=
  match p.heartbeat with
  | .round _ active [] =>
      if p.node.role = .leader then some { p with node := p.node.evaluateQuorum s now timing active, heartbeat := .idle }
      else some { p with heartbeat := .idle }
  | _ => none

def voteRequest (s : Settings) (p : Process) (candidateId : String) (candidateTerm : Int) (timing : Timing) : VoteReply × Process :=
  let answer := p.node.handleVoteRequest s timing candidateId candidateTerm
  (answer.1, { p with
    node := answer.2
    grants := if answer.1.voteGranted then p.grants ++ [(answer.2.term, candidateId)] else p.grants })

-- Only a node with a state file is started again.
def restart (s : Settings) (p : Process) (interrupted : Option Int) (quorumNow : ℚ) (timing : Timing) : Option Process :=
  if s.stateFile then
    match interrupted with
    | none => some { node := .boot quorumNow s timing p.node.stored, grants := p.grants }
    | some term =>
        if p.node.term < term then
          some { node := .boot quorumNow s timing (p.node.stepDown s timing term).stored, grants := p.grants }
        else none
  else none

def next (s : Settings) (p : Process) : Event → Option Process
  | .attach timing => some (p.attach s timing)
  | .checkElection now => p.checkElection now
  | .startElection timing => p.startElection s timing
  | .voteReply reply timing => p.voteReply s reply timing
  | .decide timing => p.decide s timing
  | .announced => p.announced
  | .beginRound => p.beginRound s
  | .syncReply reply timing => p.syncReply s reply timing
  | .evaluate now timing => p.evaluate s now timing
  | .voteRequest candidateId candidateTerm timing => some (p.voteRequest s candidateId candidateTerm timing).2
  | .appendEntries leaderId leaderUrl term timing =>
      some { p with node := (p.node.acceptAppend s timing leaderId leaderUrl term).2 }
  | .enterReadonlyMode reason timing => some { p with node := p.node.enterReadonlyMode s timing reason }
  | .exitReadonlyMode => some { p with node := p.node.exitReadonlyMode }
  | .autoHeal now => some { p with node := (p.node.autoHeal s now).2 }
  | .restart interrupted quorumNow timing => p.restart s interrupted quorumNow timing

def fresh (quorumNow : ℚ) (s : Settings) (timing : Timing) : Process := { node := .boot quorumNow s timing none }

theorem attach_cases (s : Settings) (p : Process) (timing : Timing) : p.attach s timing = p ∨
    s.peers = [] ∧ p.attach s timing = { p with node := p.node.becomeLeader s timing } := by
  unfold attach
  split
  · rename_i alone
    exact Or.inr ⟨List.isEmpty_iff.mp alone, rfl⟩
  · exact Or.inl rfl

theorem vote_reply_cases (s : Settings) (p q : Process) (reply : Option VoteReply) (timing : Timing)
    (taken : p.voteReply s reply timing = some q) : ∃ term votes peer left, p.election = .campaign term votes (peer :: left) ∧
      ((∃ more, q = { p with election := .campaign term more left }) ∨
        ∃ answer ∈ reply, term < answer.term ∧ q = { p with node := p.node.stepDown s timing answer.term, election := .idle }) := by
  unfold voteReply at taken
  split at taken
  · rename_i term votes peer left campaign
    refine ⟨term, votes, peer, left, campaign, ?_⟩
    cases reply with
    | none =>
        cases taken
        exact Or.inl ⟨votes, rfl⟩
    | some answer =>
        simp only at taken
        split at taken
        · rename_i higher
          cases taken
          exact Or.inr ⟨answer, rfl, higher, rfl⟩
        · cases taken
          exact Or.inl ⟨_, rfl⟩
  · cases taken

theorem sync_reply_cases (s : Settings) (p q : Process) (reply : Option SyncReply) (timing : Timing)
    (taken : p.syncReply s reply timing = some q) : ∃ term active peer left, p.heartbeat = .round term active (peer :: left) ∧
      ((∃ more, q = { p with heartbeat := .round term more left }) ∨
        ∃ answer ∈ reply, term < answer.term ∧ q = { p with node := p.node.stepDown s timing answer.term, heartbeat := .idle }) := by
  unfold syncReply at taken
  split at taken
  · rename_i term active peer left round
    refine ⟨term, active, peer, left, round, ?_⟩
    cases reply with
    | none =>
        cases taken
        exact Or.inl ⟨active, rfl⟩
    | some answer =>
        simp only at taken
        split at taken
        · rename_i higher
          cases taken
          exact Or.inr ⟨answer, rfl, higher, rfl⟩
        · cases taken
          exact Or.inl ⟨_, rfl⟩
  · cases taken

theorem begin_round_cases (s : Settings) (p q : Process) (taken : p.beginRound s = some q) :
    ∃ heartbeat, q = { p with heartbeat := heartbeat } := by
  unfold beginRound at taken
  split at taken
  · split at taken <;> cases taken <;> exact ⟨_, rfl⟩
  · cases taken

theorem announced_cases (p q : Process) (taken : p.announced = some q) : ∃ term left election,
    p.election = .announcing term left ∧ q = { p with election := election } ∧
      ∀ term votes left, election ≠ .campaign term votes left := by
  unfold announced at taken
  split at taken
  · rename_i term peer left announcing
    cases taken
    exact ⟨term, peer :: left, _, announcing, rfl, by simp⟩
  · rename_i term announcing
    cases taken
    exact ⟨term, [], _, announcing, rfl, by simp⟩
  · cases taken

-- A node comes back with what it had on disk, or with the step-down it had just
-- written there.
theorem restart_cases (s : Settings) (p q : Process) (interrupted : Option Int) (quorumNow : ℚ) (timing : Timing)
    (taken : p.restart s interrupted quorumNow timing = some q) : s.stateFile = true ∧ ∃ stored : Option Durable,
      q = { node := .boot quorumNow s timing stored, grants := p.grants } ∧ (stored = p.node.stored ∨
        ∃ term ∈ interrupted, p.node.term < term ∧ stored = (p.node.stepDown s timing term).stored) := by
  unfold restart at taken
  split at taken
  · rename_i file
    refine ⟨file, ?_⟩
    cases interrupted with
    | none =>
        cases taken
        exact ⟨p.node.stored, rfl, Or.inl rfl⟩
    | some term =>
        simp only at taken
        split at taken
        · rename_i later
          cases taken
          exact ⟨_, rfl, Or.inr ⟨term, rfl, later, rfl⟩⟩
        · cases taken
  · cases taken

end Process

abbrev ProcessRun (s : Settings) (allowed : Process → Event → Prop) := Runs.Run (Process.next s) allowed

end HuddleCluster.HA
