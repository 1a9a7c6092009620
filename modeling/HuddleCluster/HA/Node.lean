import HuddleCluster.Lib.Runs

set_option autoImplicit false

namespace HuddleCluster.HA

inductive Role where
  | follower
  | candidate
  | leader
deriving DecidableEq, Repr

inductive PartitionState where
  | healthy
  | majorityActive
  | isolatedMinority
  | healing
deriving DecidableEq, Repr

def PartitionState.text : PartitionState → String
  | .healthy => "healthy"
  | .majorityActive => "majority_active"
  | .isolatedMinority => "isolated_minority"
  | .healing => "healing"

structure Settings where
  id : String
  peers : List String := []
  baseTimeout : ℚ := 2
  quorumTimeout : ℚ := baseTimeout * (3 / 2)
  autoHealEnabled : Bool := true
  stateFile : Bool := false
  selfUrl : Option String := none

def Settings.needed (s : Settings) : Nat := (s.peers.length + 1) / 2 + 1

structure Durable where
  term : Int
  votedFor : Option String
deriving DecidableEq, Repr

-- The clock reading and the random draw of a reset of the election timeout.
structure Timing where
  now : ℚ
  draw : ℚ

structure VoteReply where
  voteGranted : Bool
  term : Int
deriving DecidableEq, Repr

structure SyncReply where
  success : Bool
  term : Int
deriving DecidableEq, Repr

structure Node where
  term : Int := 0
  votedFor : Option String := none
  role : Role := .follower
  leaderId : Option String := none
  leaderUrl : Option String := none
  readonly : Bool := false
  readonlyReason : Option String := none
  splitBrainDetected : Bool := false
  lastQuorumTime : ℚ
  activePeers : List String := []
  partitionState : PartitionState := .healthy
  splitBrainCount : Nat := 0
  healCount : Nat := 0
  lastHb : ℚ
  electionTimeout : ℚ
  stored : Option Durable := none
deriving DecidableEq

namespace Node

def isReadonly (n : Node) : Bool := n.readonly

def isLeader (n : Node) : Bool := !(n.readonly || n.splitBrainDetected) && decide (n.role = .leader)

def resetTimeout (s : Settings) (timing : Timing) (n : Node) : Node :=
  { n with lastHb := timing.now, electionTimeout := s.baseTimeout * (1 + timing.draw) }

def persist (s : Settings) (n : Node) : Node :=
  if s.stateFile then { n with stored := some ⟨n.term, n.votedFor⟩ } else n

-- The new term is written whatever the present one is.
def stepDown (s : Settings) (timing : Timing) (newTerm : Int) (n : Node) : Node :=
  let n := persist s { n with term := newTerm, role := .follower, votedFor := none }
  resetTimeout s timing { n with leaderId := none, leaderUrl := none }

def triggerAutoHeal (n : Node) : Node :=
  { n with
    readonly := false
    readonlyReason := none
    splitBrainDetected := false
    partitionState := .healthy
    healCount := n.healCount + 1 }

def enterReadonlyMode (s : Settings) (timing : Timing) (reason : String) (n : Node) : Node :=
  let n := { n with
    readonly := true
    readonlyReason := some reason
    splitBrainDetected := true
    partitionState := .isolatedMinority }
  if n.role = .leader then
    resetTimeout s timing { n with role := .follower, leaderId := none, leaderUrl := none }
  else n

def exitReadonlyMode (n : Node) : Node :=
  { n with readonly := false, readonlyReason := none, splitBrainDetected := false, partitionState := .healthy }

def autoHeal (s : Settings) (now : ℚ) (n : Node) : Bool × Node :=
  if !s.autoHealEnabled then (false, n)
  else if !(n.readonly || n.splitBrainDetected) then (true, n)
  else if s.peers.isEmpty || n.leaderId.isSome && decide (now - n.lastHb ≤ s.baseTimeout * 2) then (true, n.triggerAutoHeal)
  else (false, n)

def handleVoteRequest (s : Settings) (timing : Timing) (candidateId : String) (candidateTerm : Int) (n : Node) :
    VoteReply × Node :=
  if candidateTerm < n.term then (⟨false, n.term⟩, n)
  else
    let n := if n.term < candidateTerm then n.stepDown s timing candidateTerm else n
    if n.votedFor = none ∨ n.votedFor = some candidateId then
      let n := resetTimeout s timing (persist s { n with votedFor := some candidateId })
      (⟨true, n.term⟩, n)
    else (⟨false, n.term⟩, n)

-- The part of handle_append_entries that holds the lock. The snapshot is
-- applied after it.
def acceptAppend (s : Settings) (timing : Timing) (leaderId leaderUrl : String) (term : Int) (n : Node) : SyncReply × Node :=
  if term < n.term then (⟨false, n.term⟩, n)
  else
    let n := if n.term < term then n.stepDown s timing term else n
    let n := resetTimeout s timing { n with leaderId := some leaderId, leaderUrl := some leaderUrl, role := .follower }
    (⟨true, term⟩, if s.autoHealEnabled && (n.readonly || n.splitBrainDetected) then n.triggerAutoHeal else n)

def electionDue (now : ℚ) (n : Node) : Bool :=
  (decide (n.role = .follower) || decide (n.role = .candidate)) && decide (n.electionTimeout < now - n.lastHb)

def beginElection (s : Settings) (timing : Timing) (n : Node) : Node :=
  let n := persist s { n with term := n.term + 1, role := .candidate, votedFor := some s.id }
  resetTimeout s timing { n with leaderId := none, leaderUrl := none }

-- Neither the role nor the term is looked at again.
def becomeLeader (s : Settings) (timing : Timing) (n : Node) : Node :=
  resetTimeout s timing { n with role := .leader, leaderId := some s.id, leaderUrl := s.selfUrl }

def evaluateQuorum (s : Settings) (now : ℚ) (timing : Timing) (active : List String) (n : Node) : Node :=
  let n := { n with activePeers := active }
  let reachable := active.length + 1
  if s.needed ≤ reachable then
    let n := { n with lastQuorumTime := now }
    if n.splitBrainDetected || n.readonly then n.triggerAutoHeal
    else { n with partitionState := if active.length = s.peers.length then .healthy else .majorityActive }
  else if s.quorumTimeout ≤ now - n.lastQuorumTime then
    let needed := s.needed
    let reason := s!"quorum_lost_{reachable}_of_{needed}_nodes_reachable"
    { n with splitBrainCount := n.splitBrainCount + 1 }.enterReadonlyMode s timing reason
  else n

-- A node that starts: its term and vote come from the state file, if there is
-- one, and nothing else survives.
def boot (quorumNow : ℚ) (s : Settings) (timing : Timing) (stored : Option Durable) : Node where
  term := match stored with
    | none => 0
    | some durable => durable.term
  votedFor := stored.bind Durable.votedFor
  lastQuorumTime := quorumNow
  lastHb := timing.now
  electionTimeout := s.baseTimeout * (1 + timing.draw)
  stored := stored

end Node

end HuddleCluster.HA
