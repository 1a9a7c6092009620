import HuddleCluster.HA.Voting

set_option autoImplicit false

namespace HuddleCluster.HA

inductive Change (s : Settings) (p q : Process) : Prop where
  | kept (same : SameVote p.node q.node) (grants : q.grants = p.grants)
  | down (term : Int) (fresh : p.node.term < term ∨ p.node.term = term ∧ p.node.votedFor = none)
      (written : Written s q.node term none) (grants : q.grants = p.grants)
  | voted (candidateId : String) (term : Int)
      (fresh : p.node.term < term ∨ p.node.term = term ∧ (p.node.votedFor = none ∨ p.node.votedFor = some candidateId))
      (written : Written s q.node term (some candidateId)) (grants : q.grants = p.grants ++ [(term, candidateId)])

-- The term a reply makes the node step down to, in either of its loops. Only
-- the term the loop started with is compared with it.
def Process.replyTerm (p : Process) : Event → Option Int
  | .voteReply (some reply) _ =>
      match p.election with
      | .campaign term _ (_ :: _) => if term < reply.term then some reply.term else none
      | _ => none
  | .syncReply (some reply) _ =>
      match p.heartbeat with
      | .round term _ (_ :: _) => if term < reply.term then some reply.term else none
      | _ => none
  | _ => none

-- No reply takes the node to a term it has left behind, or makes it forget the
-- vote of its present term.
def Process.Guarded (p : Process) (event : Event) : Prop :=
  ∀ term ∈ p.replyTerm event, p.node.term < term ∨ p.node.term = term ∧ p.node.votedFor = none

instance (p : Process) (event : Event) : Decidable (p.Guarded event) := by
  simp only [Process.Guarded]
  infer_instance

structure Honest (s : Settings) (p : Process) : Prop where
  backed : ∀ grant ∈ p.grants, grant.1 < p.node.term ∨ grant.1 = p.node.term ∧ p.node.votedFor = some grant.2
  single : ∀ term x y, (term, x) ∈ p.grants → (term, y) ∈ p.grants → x = y
  stored : s.stateFile = true → p.node.stored = some ⟨p.node.term, p.node.votedFor⟩ ∨
    p.node.stored = none ∧ p.node.term = 0 ∧ p.node.votedFor = none

theorem start_election_change (s : Settings) (p q : Process) (timing : Timing) (taken : p.startElection s timing = some q) :
    Change s p q := by
  have written := begin_election_written s timing p.node
  simp only [Process.startElection] at taken
  split at taken
  · cases taken
    rw [written.term]
    exact .voted s.id (p.node.term + 1) (Or.inl (by omega)) written rfl
  · cases taken

theorem vote_reply_change (s : Settings) (p q : Process) (reply : Option VoteReply) (timing : Timing)
    (guarded : p.Guarded (.voteReply reply timing)) (taken : p.voteReply s reply timing = some q) : Change s p q := by
  obtain ⟨term, votes, peer, left, campaign, ⟨_, rfl⟩ | ⟨answer, given, higher, rfl⟩⟩ :=
    Process.vote_reply_cases s p q reply timing taken
  · exact .kept ⟨rfl, rfl, rfl⟩ rfl
  · cases given
    have fresh := guarded answer.term (by simp [Process.replyTerm, campaign, higher])
    exact .down answer.term fresh (step_down_written s timing answer.term p.node) rfl

theorem sync_reply_change (s : Settings) (p q : Process) (reply : Option SyncReply) (timing : Timing)
    (guarded : p.Guarded (.syncReply reply timing)) (taken : p.syncReply s reply timing = some q) : Change s p q := by
  obtain ⟨term, active, peer, left, round, ⟨_, rfl⟩ | ⟨answer, given, higher, rfl⟩⟩ :=
    Process.sync_reply_cases s p q reply timing taken
  · exact .kept ⟨rfl, rfl, rfl⟩ rfl
  · cases given
    have fresh := guarded answer.term (by simp [Process.replyTerm, round, higher])
    exact .down answer.term fresh (step_down_written s timing answer.term p.node) rfl

theorem vote_request_change (s : Settings) (p : Process) (candidateId : String) (candidateTerm : Int) (timing : Timing) :
    Change s p (p.voteRequest s candidateId candidateTerm timing).2 := by
  simp only [Process.voteRequest]
  rcases vote_request_cases s timing candidateId candidateTerm p.node with ⟨refused, same, _⟩ | ⟨granted, written, way⟩
  · refine .kept same ?_
    simp [refused]
  · refine .voted candidateId candidateTerm ?_ written ?_
    · rcases way with ⟨later, _⟩ | ⟨current, canVote, _⟩
      · exact Or.inl later
      · exact Or.inr ⟨current, canVote⟩
    · simp [granted, written.term]

theorem append_change (s : Settings) (p : Process) (leaderId leaderUrl : String) (term : Int) (timing : Timing) :
    Change s p { p with node := (p.node.acceptAppend s timing leaderId leaderUrl term).2 } := by
  rcases accept_append_cases s timing leaderId leaderUrl term p.node with ⟨_, same⟩ | ⟨_, _, ⟨later, written⟩ | ⟨_, same⟩⟩
  · refine .kept ?_ rfl
    rw [same]
    exact ⟨rfl, rfl, rfl⟩
  · exact .down term (Or.inl later) written rfl
  · exact .kept same rfl

theorem restart_change (s : Settings) (p q : Process) (interrupted : Option Int) (quorumNow : ℚ) (timing : Timing)
    (honest : Honest s p) (taken : p.restart s interrupted quorumNow timing = some q) : Change s p q := by
  obtain ⟨file, stored, rfl, same | ⟨term, _, later, written⟩⟩ := Process.restart_cases s p q interrupted quorumNow timing taken
  · refine .kept ?_ rfl
    subst same
    rcases honest.stored file with stored | ⟨stored, term, votedFor⟩
    · exact ⟨by simp [Node.boot, stored], by simp [Node.boot, stored], rfl⟩
    · exact ⟨by simp [Node.boot, stored, term], by simp [Node.boot, stored, votedFor], rfl⟩
  · subst written
    have stored := (step_down_written s timing term p.node).stored file
    exact .down term (Or.inl later) ⟨by simp [Node.boot, stored], by simp [Node.boot, stored], fun _ => stored⟩ rfl

theorem event_change (s : Settings) (p q : Process) (event : Event) (honest : Honest s p) (guarded : p.Guarded event)
    (taken : p.next s event = some q) : Change s p q := by
  cases event with
  | attach timing =>
      cases taken
      obtain same | ⟨_, same⟩ := Process.attach_cases s p timing <;> rw [same] <;> exact .kept ⟨rfl, rfl, rfl⟩ rfl
  | checkElection now =>
      simp only [Process.next, Process.checkElection] at taken
      split at taken
      · cases taken
        exact .kept ⟨rfl, rfl, rfl⟩ rfl
      · cases taken
  | startElection timing => exact start_election_change s p q timing taken
  | voteReply reply timing => exact vote_reply_change s p q reply timing guarded taken
  | decide timing =>
      simp only [Process.next, Process.decide] at taken
      split at taken
      · split at taken <;> cases taken <;> exact .kept ⟨rfl, rfl, rfl⟩ rfl
      · cases taken
  | announced =>
      obtain ⟨_, _, _, _, rfl, _⟩ := Process.announced_cases p q taken
      exact .kept ⟨rfl, rfl, rfl⟩ rfl
  | beginRound =>
      obtain ⟨_, rfl⟩ := Process.begin_round_cases s p q taken
      exact .kept ⟨rfl, rfl, rfl⟩ rfl
  | syncReply reply timing => exact sync_reply_change s p q reply timing guarded taken
  | evaluate now timing =>
      simp only [Process.next, Process.evaluate] at taken
      split at taken
      · split at taken
        · cases taken
          exact .kept (same_vote_evaluate s now timing _ p.node) rfl
        · cases taken
          exact .kept ⟨rfl, rfl, rfl⟩ rfl
      · cases taken
  | voteRequest candidateId candidateTerm timing =>
      cases taken
      exact vote_request_change s p candidateId candidateTerm timing
  | appendEntries leaderId leaderUrl term timing =>
      cases taken
      exact append_change s p leaderId leaderUrl term timing
  | enterReadonlyMode reason timing =>
      cases taken
      exact .kept (same_vote_readonly s timing reason p.node) rfl
  | exitReadonlyMode =>
      cases taken
      exact .kept ⟨rfl, rfl, rfl⟩ rfl
  | autoHeal now =>
      cases taken
      exact .kept (same_vote_auto_heal s now p.node) rfl
  | restart interrupted quorumNow timing => exact restart_change s p q interrupted quorumNow timing honest taken

theorem change_monotone (s : Settings) (p q : Process) (change : Change s p q) : p.node.term ≤ q.node.term := by
  cases change with
  | kept same _ => exact same.term.ge
  | down term fresh written _ =>
      rw [written.term]
      rcases fresh with later | ⟨current, _⟩ <;> omega
  | voted candidateId term fresh written _ =>
      rw [written.term]
      rcases fresh with later | ⟨current, _⟩ <;> omega

theorem change_honest (s : Settings) (p q : Process) (honest : Honest s p) (change : Change s p q) : Honest s q := by
  cases change with
  | kept same grants =>
      refine ⟨?_, ?_, ?_⟩
      · rw [grants, same.term, same.votedFor]
        exact honest.backed
      · rw [grants]
        exact honest.single
      · rw [same.stored, same.term, same.votedFor]
        exact honest.stored
  | down term fresh written grants =>
      refine ⟨?_, ?_, fun file => Or.inl ?_⟩
      · rw [grants, written.term]
        intro grant member
        rcases honest.backed grant member with before | ⟨current, vote⟩
        · rcases fresh with later | ⟨same, _⟩ <;> exact Or.inl (by omega)
        · rcases fresh with later | ⟨_, unvoted⟩
          · exact Or.inl (by omega)
          · rw [unvoted] at vote
            cases vote
      · rw [grants]
        exact honest.single
      · rw [written.stored file, written.term, written.votedFor]
  | voted candidateId term fresh written grants =>
      -- an earlier grant in this term can only be one to the same candidate
      have agrees : ∀ x, (term, x) ∈ p.grants → x = candidateId := by
        intro x member
        rcases honest.backed (term, x) member with before | ⟨current, vote⟩
        · rcases fresh with later | ⟨same, _⟩
          · simp only at before
            omega
          · simp only at before
            omega
        · rcases fresh with later | ⟨_, unvoted | voted⟩
          · simp only at current
            omega
          · rw [unvoted] at vote
            cases vote
          · rw [voted] at vote
            exact (Option.some.inj vote).symm
      refine ⟨?_, ?_, fun file => Or.inl ?_⟩
      · rw [grants, written.term, written.votedFor]
        intro grant member
        rcases List.mem_append.mp member with old | new
        · rcases lt_trichotomy grant.1 term with before | same | after
          · exact Or.inl before
          · exact Or.inr ⟨same, by rw [agrees grant.2 (by rw [← same]; exact old)]⟩
          · rcases honest.backed grant old with before | ⟨current, _⟩ <;> rcases fresh with later | ⟨reached, _⟩ <;> omega
        · rw [List.mem_singleton] at new
          rw [new]
          exact Or.inr ⟨rfl, rfl⟩
      · rw [grants]
        intro other x y memberX memberY
        rcases List.mem_append.mp memberX with oldX | newX <;> rcases List.mem_append.mp memberY with oldY | newY
        · exact honest.single other x y oldX oldY
        · rw [List.mem_singleton, Prod.mk.injEq] at newY
          rw [newY.2]
          exact agrees x (by rw [← newY.1]; exact oldX)
        · rw [List.mem_singleton, Prod.mk.injEq] at newX
          rw [newX.2]
          exact (agrees y (by rw [← newX.1]; exact oldY)).symm
        · rw [List.mem_singleton, Prod.mk.injEq] at newX newY
          rw [newX.2, newY.2]
      · rw [written.stored file, written.term, written.votedFor]

theorem fresh_honest (quorumNow : ℚ) (s : Settings) (timing : Timing) : Honest s (.fresh quorumNow s timing) := by
  refine ⟨?_, ?_, fun _ => Or.inr ⟨rfl, rfl, rfl⟩⟩
  · intro grant member
    simp [Process.fresh] at member
  · intro term x y member
    simp [Process.fresh] at member

theorem event_honest (s : Settings) (p : Process) (event : Event) (q : Process) (honest : Honest s p)
    (guarded : p.Guarded event) (taken : p.next s event = some q) : Honest s q :=
  change_honest s p q honest (event_change s p q event honest guarded taken)

-- As long as replies are not acted on late, the term never falls and every
-- term has at most one vote, across all restarts.
theorem term_grows_single_vote (quorumNow : ℚ) (s : Settings) (timing : Timing) (earlier later : List Event) (p q : Process)
    (before : ProcessRun s Process.Guarded (.fresh quorumNow s timing) earlier p)
    (after : ProcessRun s Process.Guarded p later q) :
    p.node.term ≤ q.node.term ∧ ∀ term x y, (term, x) ∈ q.grants → (term, y) ∈ q.grants → x = y := by
  have held := Runs.run_invariant (Process.next s) Process.Guarded (Honest s) (event_honest s) _ p earlier
    (fresh_honest quorumNow s timing) before
  refine ⟨?_, ?_⟩
  · refine Runs.run_monotone (Process.next s) Process.Guarded (Honest s) (fun p => p.node.term) (event_honest s) ?_ p q later held after
    intro p event q honest guarded taken
    exact change_monotone s p q (event_change s p q event honest guarded taken)
  · exact (Runs.run_invariant (Process.next s) Process.Guarded (Honest s) (event_honest s) p q later held after).single

def masterA : Settings := { id := "a", peers := ["b", "c"], stateFile := true }

def freshA : Process := .fresh 0 masterA ⟨0, 0⟩

theorem term_grows_across_restart :
    ∃ p ∈ Runs.follow (Process.next masterA) Process.Guarded freshA
        [.checkElection 10, .startElection ⟨10, 0⟩, .voteReply (some ⟨true, 1⟩) ⟨11, 0⟩, .voteReply none ⟨12, 0⟩,
        .decide ⟨12, 0⟩],
      ∃ q ∈ Runs.follow (Process.next masterA) Process.Guarded p
          [.restart none 20 ⟨20, 0⟩, .voteRequest "c" 1 ⟨21, 0⟩, .voteRequest "c" 5 ⟨22, 0⟩],
        p.node.term ≤ q.node.term ∧ ∀ term x y, (term, x) ∈ q.grants → (term, y) ∈ q.grants → x = y := by
  have taken : ∃ p ∈ Runs.follow (Process.next masterA) Process.Guarded freshA
      [.checkElection 10, .startElection ⟨10, 0⟩, .voteReply (some ⟨true, 1⟩) ⟨11, 0⟩, .voteReply none ⟨12, 0⟩,
        .decide ⟨12, 0⟩],
      ∃ q, q ∈ Runs.follow (Process.next masterA) Process.Guarded p
        [.restart none 20 ⟨20, 0⟩, .voteRequest "c" 1 ⟨21, 0⟩, .voteRequest "c" 5 ⟨22, 0⟩] := by
    simp only [Option.mem_def, ← Option.isSome_iff_exists]
    decide +kernel
  obtain ⟨p, reached, q, later⟩ := taken
  exact ⟨p, reached, q, later, term_grows_single_vote 0 masterA ⟨0, 0⟩ _ _ p q (Runs.follow_run _ _ _ p _ reached)
    (Runs.follow_run _ _ p q _ later)⟩

-- The node is asked to vote in term 5 while it waits for an answer in its own
-- election of term 1. The answer is from term 3: the node goes back to it, and
-- votes in term 5 again.
theorem late_reply_forgets_vote : ∃ p q r,
    ProcessRun masterA (fun _ _ => True) freshA [.checkElection 10, .startElection ⟨10, 0⟩, .voteRequest "c" 5 ⟨11, 0⟩] p ∧
      ProcessRun masterA (fun _ _ => True) p [.voteReply (some ⟨false, 3⟩) ⟨12, 0⟩] q ∧
        ProcessRun masterA (fun _ _ => True) q [.voteRequest "d" 5 ⟨13, 0⟩] r ∧
          q.node.term < p.node.term ∧ (5, "c") ∈ r.grants ∧ (5, "d") ∈ r.grants := by
  have taken : ∃ p ∈ Runs.follow (Process.next masterA) (fun _ _ => True) freshA
      [.checkElection 10, .startElection ⟨10, 0⟩, .voteRequest "c" 5 ⟨11, 0⟩],
      ∃ q ∈ Runs.follow (Process.next masterA) (fun _ _ => True) p [.voteReply (some ⟨false, 3⟩) ⟨12, 0⟩],
        ∃ r ∈ Runs.follow (Process.next masterA) (fun _ _ => True) q [.voteRequest "d" 5 ⟨13, 0⟩],
          q.node.term < p.node.term ∧ (5, "c") ∈ r.grants ∧ (5, "d") ∈ r.grants := by decide +kernel
  obtain ⟨p, first, q, second, r, third, outcome⟩ := taken
  exact ⟨p, q, r, Runs.follow_run _ _ _ p _ first, Runs.follow_run _ _ p q _ second, Runs.follow_run _ _ q r _ third, outcome⟩

end HuddleCluster.HA
