import HuddleCluster.HA.SingleVote

set_option autoImplicit false

namespace HuddleCluster.HA

def Process.won (s : Settings) (p : Process) : Bool :=
  match p.election with
  | .campaign _ votes [] => Decidable.decide (s.needed ≤ votes)
  | _ => false

def Event.isVoteReply : Event → Bool
  | .voteReply _ _ => true
  | _ => false

def Event.restarts : Event → Bool
  | .restart _ _ _ => true
  | _ => false

def Event.attaches : Event → Bool
  | .attach _ => true
  | _ => false

-- The steps that make a leader: a campaign that is won, and the attach of a node that has
-- nobody to ask.
def Process.elects (s : Settings) (p : Process) : Event → Bool
  | .decide _ => p.won s
  | .attach _ => s.peers.isEmpty
  | _ => false

def ElectionThread.campaignTerm : ElectionThread → Option Int
  | .campaign term _ _ => some term
  | _ => none

theorem grants_grow (s : Settings) (p q : Process) (change : Change s p q) : p.grants ⊆ q.grants := by
  cases change with
  | kept _ grants => exact grants ▸ List.Subset.refl _
  | down _ _ _ grants => exact grants ▸ List.Subset.refl _
  | voted candidateId term _ _ grants =>
      rw [grants]
      exact List.subset_append_left _ _

-- What the steps of a node that are not replies to its own vote requests do to
-- its election thread: leave it, end it, or start a new campaign.
inductive ElectionMove (s : Settings) (p q : Process) (event : Event) : Prop where
  | kept (same : q.election = p.election)
  | started (term : Int) (campaign : q.election = .campaign term 1 s.peers) (own : (term, s.id) ∈ q.grants)
      (before : p.election = .armed)
  | other (quiet : ∀ term votes left, q.election ≠ .campaign term votes left)
      (before : ∀ term votes peer left, p.election ≠ .campaign term votes (peer :: left))
  | restarted (idle : q.election = .idle) (restart : event.restarts = true)

theorem election_move (s : Settings) (p q : Process) (event : Event) (foreign : event.isVoteReply = false)
    (taken : p.next s event = some q) : ElectionMove s p q event := by
  cases event with
  | voteReply reply timing => cases foreign
  | attach timing =>
      cases taken
      obtain same | ⟨_, same⟩ := Process.attach_cases s p timing <;> rw [same] <;> exact .kept rfl
  | checkElection now =>
      simp only [Process.next, Process.checkElection] at taken
      split at taken
      · rename_i idle
        cases taken
        refine .other ?_ (by simp [idle])
        intro term votes left
        simp only
        split <;> simp
      · cases taken
  | startElection timing =>
      simp only [Process.next, Process.startElection] at taken
      split at taken
      · rename_i armed
        cases taken
        exact .started _ rfl (by simp) armed
      · cases taken
  | decide timing =>
      simp only [Process.next, Process.decide] at taken
      split at taken
      · rename_i campaign
        split at taken <;> cases taken <;> exact .other (by simp) (by simp [campaign])
      · cases taken
  | announced =>
      obtain ⟨term, left, election, announcing, rfl, quiet⟩ := Process.announced_cases p q taken
      exact .other quiet (by simp [announcing])
  | beginRound =>
      obtain ⟨heartbeat, rfl⟩ := Process.begin_round_cases s p q taken
      exact .kept rfl
  | syncReply reply timing =>
      obtain ⟨_, _, _, _, _, ⟨_, rfl⟩ | ⟨_, _, _, rfl⟩⟩ := Process.sync_reply_cases s p q reply timing taken
      · exact .kept rfl
      · exact .kept rfl
  | evaluate now timing =>
      simp only [Process.next, Process.evaluate] at taken
      split at taken
      · split at taken <;> cases taken <;> exact .kept rfl
      · cases taken
  | voteRequest candidateId candidateTerm timing =>
      cases taken
      exact .kept rfl
  | appendEntries leaderId leaderUrl term timing =>
      cases taken
      exact .kept rfl
  | enterReadonlyMode reason timing =>
      cases taken
      exact .kept rfl
  | exitReadonlyMode =>
      cases taken
      exact .kept rfl
  | autoHeal now =>
      cases taken
      exact .kept rfl
  | restart interrupted quorumNow timing =>
      obtain ⟨_, stored, rfl, _⟩ := Process.restart_cases s p q interrupted quorumNow timing taken
      exact .restarted rfl rfl

theorem elects_spec (s : Settings) (p q : Process) (event : Event) (elects : p.elects s event = true)
    (accompanied : event.attaches = true → s.peers ≠ []) (taken : p.next s event = some q) :
    ∃ term votes, p.election = .campaign term votes [] ∧ s.needed ≤ votes ∧ q.node.term = p.node.term := by
  cases event with
  | attach timing => exact absurd (List.isEmpty_iff.mp elects) (accompanied rfl)
  | decide timing =>
      simp only [Process.next, Process.decide] at taken
      simp only [Process.elects, Process.won] at elects
      split at taken
      · rename_i term votes campaign
        simp only [campaign, decide_eq_true_eq] at elects
        rw [if_pos elects] at taken
        cases taken
        exact ⟨term, votes, campaign, elects, rfl⟩
      · cases taken
  | _ => cases elects

theorem readonly_role (s : Settings) (timing : Timing) (reason : String) (n : Node)
    (leads : (n.enterReadonlyMode s timing reason).role = .leader) : n.role = .leader := by
  unfold Node.enterReadonlyMode at leads
  dsimp only at leads
  split at leads
  · cases leads
  · exact leads

theorem evaluate_role (s : Settings) (now : ℚ) (timing : Timing) (active : List String) (n : Node)
    (leads : (n.evaluateQuorum s now timing active).role = .leader) : n.role = .leader := by
  unfold Node.evaluateQuorum at leads
  dsimp only at leads
  split at leads
  · split at leads <;> exact leads
  · split at leads
    · exact readonly_role s timing _ { n with activePeers := active, splitBrainCount := n.splitBrainCount + 1 } leads
    · exact leads

theorem auto_heal_role (s : Settings) (now : ℚ) (n : Node) : (n.autoHeal s now).2.role = n.role := by
  simp only [Node.autoHeal]
  split
  · rfl
  · split
    · rfl
    · split <;> rfl

theorem begin_election_role (s : Settings) (timing : Timing) (n : Node) : (n.beginElection s timing).role = .candidate := by
  simp only [Node.beginElection, Node.persist]
  split <;> rfl

theorem leader_before (s : Settings) (p q : Process) (event : Event) (taken : p.next s event = some q)
    (leads : q.node.role = .leader) : q.node.term = p.node.term ∧ (p.node.role = .leader ∨ p.elects s event = true) := by
  cases event with
  | attach timing =>
      cases taken
      obtain same | ⟨alone, same⟩ := Process.attach_cases s p timing
      · rw [same] at leads ⊢
        exact ⟨rfl, Or.inl leads⟩
      · rw [same]
        exact ⟨rfl, Or.inr (List.isEmpty_iff.mpr alone)⟩
  | checkElection now =>
      simp only [Process.next, Process.checkElection] at taken
      split at taken <;> cases taken
      exact ⟨rfl, Or.inl leads⟩
  | startElection timing =>
      simp only [Process.next, Process.startElection] at taken
      split at taken <;> cases taken
      rw [begin_election_role] at leads
      cases leads
  | voteReply reply timing =>
      obtain ⟨_, _, _, _, _, ⟨_, rfl⟩ | ⟨answer, _, _, rfl⟩⟩ := Process.vote_reply_cases s p q reply timing taken
      · exact ⟨rfl, Or.inl leads⟩
      · rw [step_down_role] at leads
        cases leads
  | decide timing =>
      simp only [Process.next, Process.decide] at taken
      split at taken
      · rename_i term votes campaign
        split at taken
        · rename_i enough
          cases taken
          exact ⟨rfl, Or.inr (by simpa [Process.elects, Process.won, campaign] using enough)⟩
        · cases taken
          exact ⟨rfl, Or.inl leads⟩
      · cases taken
  | announced =>
      obtain ⟨_, _, _, _, rfl, _⟩ := Process.announced_cases p q taken
      exact ⟨rfl, Or.inl leads⟩
  | beginRound =>
      obtain ⟨_, rfl⟩ := Process.begin_round_cases s p q taken
      exact ⟨rfl, Or.inl leads⟩
  | syncReply reply timing =>
      obtain ⟨_, _, _, _, _, ⟨_, rfl⟩ | ⟨answer, _, _, rfl⟩⟩ := Process.sync_reply_cases s p q reply timing taken
      · exact ⟨rfl, Or.inl leads⟩
      · rw [step_down_role] at leads
        cases leads
  | evaluate now timing =>
      simp only [Process.next, Process.evaluate] at taken
      split at taken
      · split at taken
        · cases taken
          exact ⟨(same_vote_evaluate s now timing _ p.node).term, Or.inl (evaluate_role s now timing _ p.node leads)⟩
        · cases taken
          exact ⟨rfl, Or.inl leads⟩
      · cases taken
  | voteRequest candidateId candidateTerm timing =>
      cases taken
      change (p.node.handleVoteRequest s timing candidateId candidateTerm).2.role = .leader at leads
      rcases vote_request_cases s timing candidateId candidateTerm p.node with
        ⟨_, same, role⟩ | ⟨_, written, ⟨_, role⟩ | ⟨current, _, role⟩⟩
      · exact ⟨same.term, Or.inl (role ▸ leads)⟩
      · rw [role] at leads
        cases leads
      · exact ⟨written.term.trans current.symm, Or.inl (role ▸ leads)⟩
  | appendEntries leaderId leaderUrl term timing =>
      cases taken
      change (p.node.acceptAppend s timing leaderId leaderUrl term).2.role = .leader at leads
      rcases accept_append_cases s timing leaderId leaderUrl term p.node with ⟨_, same⟩ | ⟨_, role, _⟩
      · rw [same] at leads
        exact ⟨congrArg Node.term same, Or.inl leads⟩
      · rw [role] at leads
        cases leads
  | enterReadonlyMode reason timing =>
      cases taken
      exact ⟨(same_vote_readonly s timing reason p.node).term, Or.inl (readonly_role s timing reason p.node leads)⟩
  | exitReadonlyMode =>
      cases taken
      exact ⟨rfl, Or.inl leads⟩
  | autoHeal now =>
      cases taken
      exact ⟨(same_vote_auto_heal s now p.node).term, Or.inl ((auto_heal_role s now p.node).symm.trans leads)⟩
  | restart interrupted quorumNow timing =>
      obtain ⟨_, stored, rfl, _⟩ := Process.restart_cases s p q interrupted quorumNow timing taken
      cases leads

end HuddleCluster.HA
