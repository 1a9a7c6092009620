import HuddleCluster.HA.Process

set_option autoImplicit false

namespace HuddleCluster.HA

-- The term, the vote and the state file after one of the writers of the pair.
structure Written (s : Settings) (n : Node) (newTerm : Int) (vote : Option String) : Prop where
  term : n.term = newTerm
  votedFor : n.votedFor = vote
  stored : s.stateFile = true → n.stored = some ⟨newTerm, vote⟩

structure SameVote (n m : Node) : Prop where
  term : m.term = n.term
  votedFor : m.votedFor = n.votedFor
  stored : m.stored = n.stored

theorem persist_written (s : Settings) (n : Node) : Written s (n.persist s) n.term n.votedFor := by
  simp only [Node.persist]
  split
  · exact ⟨rfl, rfl, fun _ => rfl⟩
  · rename_i off
    exact ⟨rfl, rfl, fun on => absurd on off⟩

theorem step_down_written (s : Settings) (timing : Timing) (newTerm : Int) (n : Node) :
    Written s (n.stepDown s timing newTerm) newTerm none := by
  obtain ⟨term, votedFor, stored⟩ := persist_written s { n with term := newTerm, role := .follower, votedFor := none }
  exact ⟨term, votedFor, stored⟩

theorem step_down_role (s : Settings) (timing : Timing) (newTerm : Int) (n : Node) :
    (n.stepDown s timing newTerm).role = .follower := by
  simp only [Node.stepDown, Node.persist]
  split <;> rfl

theorem begin_election_written (s : Settings) (timing : Timing) (n : Node) :
    Written s (n.beginElection s timing) (n.term + 1) (some s.id) := by
  obtain ⟨term, votedFor, stored⟩ :=
    persist_written s { n with term := n.term + 1, role := .candidate, votedFor := some s.id }
  exact ⟨term, votedFor, stored⟩

theorem same_vote_readonly (s : Settings) (timing : Timing) (reason : String) (n : Node) :
    SameVote n (n.enterReadonlyMode s timing reason) := by
  simp only [Node.enterReadonlyMode]
  split <;> exact ⟨rfl, rfl, rfl⟩

theorem same_vote_evaluate (s : Settings) (now : ℚ) (timing : Timing) (active : List String) (n : Node) :
    SameVote n (n.evaluateQuorum s now timing active) := by
  simp only [Node.evaluateQuorum]
  split
  · split <;> exact ⟨rfl, rfl, rfl⟩
  · split
    · obtain ⟨term, votedFor, stored⟩ := same_vote_readonly s timing
        s!"quorum_lost_{active.length + 1}_of_{s.needed}_nodes_reachable"
        { n with activePeers := active, splitBrainCount := n.splitBrainCount + 1 }
      exact ⟨term, votedFor, stored⟩
    · exact ⟨rfl, rfl, rfl⟩

theorem same_vote_auto_heal (s : Settings) (now : ℚ) (n : Node) : SameVote n (n.autoHeal s now).2 := by
  simp only [Node.autoHeal]
  split
  · exact ⟨rfl, rfl, rfl⟩
  · split
    · exact ⟨rfl, rfl, rfl⟩
    · split <;> exact ⟨rfl, rfl, rfl⟩

-- A request is refused by a vote already given in its term or a later term, and
-- a refusal in its own term changes nothing.
theorem vote_request_cases (s : Settings) (timing : Timing) (candidateId : String) (candidateTerm : Int) (n : Node) :
    ((n.handleVoteRequest s timing candidateId candidateTerm).1.voteGranted = false ∧
        SameVote n (n.handleVoteRequest s timing candidateId candidateTerm).2 ∧
        (n.handleVoteRequest s timing candidateId candidateTerm).2.role = n.role) ∨
      ((n.handleVoteRequest s timing candidateId candidateTerm).1 = ⟨true, candidateTerm⟩ ∧
        Written s (n.handleVoteRequest s timing candidateId candidateTerm).2 candidateTerm (some candidateId) ∧
        (n.term < candidateTerm ∧ (n.handleVoteRequest s timing candidateId candidateTerm).2.role = .follower ∨
          n.term = candidateTerm ∧ (n.votedFor = none ∨ n.votedFor = some candidateId) ∧
            (n.handleVoteRequest s timing candidateId candidateTerm).2.role = n.role)) := by
  have granted : ∀ m : Node, m.term = candidateTerm →
      Written s (Node.resetTimeout s timing (Node.persist s { m with votedFor := some candidateId })) candidateTerm (some candidateId) ∧
      (Node.resetTimeout s timing (Node.persist s { m with votedFor := some candidateId })).role = m.role := by
    intro m current
    obtain ⟨term, votedFor, stored⟩ := persist_written s { m with votedFor := some candidateId }
    refine ⟨⟨term.trans current, votedFor, fun on => ?_⟩, ?_⟩
    · exact (stored on).trans (by rw [current])
    · unfold Node.persist Node.resetTimeout
      split <;> rfl
  unfold Node.handleVoteRequest
  split
  · exact Or.inl ⟨rfl, ⟨rfl, rfl, rfl⟩, rfl⟩
  · rename_i reached
    dsimp only
    by_cases later : n.term < candidateTerm
    · obtain ⟨term, votedFor, _⟩ := step_down_written s timing candidateTerm n
      obtain ⟨written, role⟩ := granted (n.stepDown s timing candidateTerm) term
      rw [if_pos later, if_pos (Or.inl votedFor)]
      refine Or.inr ⟨?_, written, Or.inl ⟨later, role.trans (step_down_role s timing candidateTerm n)⟩⟩
      rw [written.term]
    · have current : n.term = candidateTerm := by omega
      rw [if_neg later]
      by_cases canVote : n.votedFor = none ∨ n.votedFor = some candidateId
      · obtain ⟨written, role⟩ := granted n current
        rw [if_pos canVote]
        refine Or.inr ⟨?_, written, Or.inr ⟨current, canVote, role⟩⟩
        rw [written.term]
      · rw [if_neg canVote]
        exact Or.inl ⟨rfl, ⟨rfl, rfl, rfl⟩, rfl⟩

theorem accept_append_cases (s : Settings) (timing : Timing) (leaderId leaderUrl : String) (term : Int) (n : Node) :
    ((n.acceptAppend s timing leaderId leaderUrl term).1.success = false ∧ (n.acceptAppend s timing leaderId leaderUrl term).2 = n) ∨
      ((n.acceptAppend s timing leaderId leaderUrl term).1 = ⟨true, term⟩ ∧
        (n.acceptAppend s timing leaderId leaderUrl term).2.role = .follower ∧
        (n.term < term ∧ Written s (n.acceptAppend s timing leaderId leaderUrl term).2 term none ∨
          n.term = term ∧ SameVote n (n.acceptAppend s timing leaderId leaderUrl term).2)) := by
  simp only [Node.acceptAppend]
  split
  · exact Or.inl ⟨rfl, rfl⟩
  · rename_i reached
    dsimp only
    by_cases later : n.term < term
    · have written := step_down_written s timing term n
      rw [if_pos later]
      refine Or.inr ⟨rfl, ?_, Or.inl ⟨later, ?_⟩⟩
      · split <;> rfl
      · split <;> exact ⟨written.term, written.votedFor, written.stored⟩
    · have current : n.term = term := by omega
      rw [if_neg later]
      refine Or.inr ⟨rfl, ?_, Or.inr ⟨current, ?_⟩⟩
      · split <;> rfl
      · split <;> exact ⟨rfl, rfl, rfl⟩

end HuddleCluster.HA
