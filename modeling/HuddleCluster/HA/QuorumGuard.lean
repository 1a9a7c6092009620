import HuddleCluster.HA.Campaign

set_option autoImplicit false

namespace HuddleCluster.HA

-- The readings of the clock that an event makes, in their order.
def Event.readings : Event → List ℚ
  | .checkElection now | .autoHeal now => [now]
  | .attach timing | .startElection timing | .decide timing | .enterReadonlyMode _ timing => [timing.now]
  | .voteReply _ timing | .syncReply _ timing => [timing.now]
  | .voteRequest _ _ timing | .appendEntries _ _ _ timing => [timing.now]
  | .evaluate now timing => [now, timing.now]
  | .restart _ quorumNow timing => [quorumNow, timing.now]
  | .announced | .beginRound | .exitReadonlyMode => []

def advance (clock : ℚ) : List ℚ → Option ℚ
  | [] => some clock
  | now :: later => if clock ≤ now then advance now later else none

-- A loss of the quorum that made a node read-only: when, and what was then known
-- of the last time it became leader and of its last round with a quorum.
structure QuorumLoss where
  time : ℚ
  ledSince : Option ℚ
  lastQuorum : Option ℚ
deriving DecidableEq

structure QuorumWatch where
  process : Process
  clock : ℚ
  ledSince : Option ℚ
  lastQuorum : Option ℚ
  losses : List QuorumLoss

namespace QuorumWatch

def fresh (quorumNow : ℚ) (s : Settings) (timing : Timing) : QuorumWatch := ⟨.fresh quorumNow s timing, quorumNow, none, none, []⟩

-- A leader has asked every peer and heard from so many of them.
def answered (s : QuorumWatch) : Option (List String) :=
  match s.process.heartbeat with
  | .round _ active [] => if s.process.node.role = .leader then some active else none
  | _ => none

def ledAfter (cfg : Settings) (s : QuorumWatch) : Event → Option ℚ
  | .attach timing => if cfg.peers.isEmpty then some timing.now else s.ledSince
  | .decide timing => if s.process.won cfg then some timing.now else s.ledSince
  | _ => s.ledSince

def quorumAfter (cfg : Settings) (s : QuorumWatch) : Event → Option ℚ
  | .evaluate now _ => if s.answered.any fun active => decide (cfg.needed ≤ active.length + 1) then some now else s.lastQuorum
  | _ => s.lastQuorum

-- Only a lost quorum raises the counter.
def lossesAfter (s : QuorumWatch) (after : Process) : Event → List QuorumLoss
  | .evaluate now _ =>
      if s.process.node.splitBrainCount < after.node.splitBrainCount then s.losses ++ [⟨now, s.ledSince, s.lastQuorum⟩]
      else s.losses
  | _ => s.losses

end QuorumWatch

def quorumStep (cfg : Settings) (s : QuorumWatch) (event : Event) : Option QuorumWatch :=
  match advance s.clock event.readings, s.process.next cfg event with
  | some clock, some after => some ⟨after, clock, s.ledAfter cfg event, s.quorumAfter cfg event, s.lossesAfter after event⟩
  | _, _ => none

abbrev QuorumRun (cfg : Settings) (allowed : QuorumWatch → Event → Prop) := Runs.Run (quorumStep cfg) allowed

structure Waited (cfg : Settings) (loss : QuorumLoss) : Prop where
  leading : ∀ since ∈ loss.ledSince, cfg.quorumTimeout ≤ loss.time - since
  quorum : ∀ last ∈ loss.lastQuorum, cfg.quorumTimeout ≤ loss.time - last

-- A round without a quorum is looked at: the node has led for the quorum timeout,
-- or its timer, which an election does not touch, has not run out.
def Seasoned (cfg : Settings) (s : QuorumWatch) : Event → Prop
  | .evaluate now _ => ∀ active ∈ s.answered, active.length + 1 < cfg.needed →
      (∀ since ∈ s.ledSince, cfg.quorumTimeout ≤ now - since) ∨ now - s.process.node.lastQuorumTime < cfg.quorumTimeout
  | _ => True

theorem advance_le (clock later : ℚ) (readings : List ℚ) (forward : advance clock readings = some later) :
    clock ≤ later ∧ ∀ now ∈ readings, clock ≤ now ∧ now ≤ later := by
  induction readings generalizing clock with
  | nil =>
      cases forward
      exact ⟨le_refl _, by simp⟩
  | cons now rest ih =>
      by_cases ahead : clock ≤ now
      · rw [advance, if_pos ahead] at forward
        obtain ⟨reached, others⟩ := ih now forward
        refine ⟨ahead.trans reached, ?_⟩
        intro time member
        rcases List.mem_cons.mp member with rfl | member
        · exact ⟨ahead, reached⟩
        · exact ⟨ahead.trans (others time member).1, (others time member).2⟩
      · rw [advance, if_neg ahead] at forward
        cases forward

structure SameQuorum (n m : Node) : Prop where
  time : m.lastQuorumTime = n.lastQuorumTime
  losses : m.splitBrainCount = n.splitBrainCount

theorem same_quorum_persist (s : Settings) (n : Node) : SameQuorum n (n.persist s) := by
  simp only [Node.persist]
  split <;> exact ⟨rfl, rfl⟩

theorem same_quorum_step_down (s : Settings) (timing : Timing) (newTerm : Int) (n : Node) :
    SameQuorum n (n.stepDown s timing newTerm) := by
  obtain ⟨time, losses⟩ := same_quorum_persist s { n with term := newTerm, role := .follower, votedFor := none }
  exact ⟨time, losses⟩

theorem same_quorum_begin_election (s : Settings) (timing : Timing) (n : Node) : SameQuorum n (n.beginElection s timing) := by
  obtain ⟨time, losses⟩ := same_quorum_persist s { n with term := n.term + 1, role := .candidate, votedFor := some s.id }
  exact ⟨time, losses⟩

theorem same_quorum_readonly (s : Settings) (timing : Timing) (reason : String) (n : Node) :
    SameQuorum n (n.enterReadonlyMode s timing reason) := by
  simp only [Node.enterReadonlyMode]
  split <;> exact ⟨rfl, rfl⟩

theorem same_quorum_auto_heal (s : Settings) (now : ℚ) (n : Node) : SameQuorum n (n.autoHeal s now).2 := by
  simp only [Node.autoHeal]
  split
  · exact ⟨rfl, rfl⟩
  · split
    · exact ⟨rfl, rfl⟩
    · split <;> exact ⟨rfl, rfl⟩

theorem same_quorum_vote_request (s : Settings) (timing : Timing) (candidateId : String) (candidateTerm : Int) (n : Node) :
    SameQuorum n (n.handleVoteRequest s timing candidateId candidateTerm).2 := by
  have granted : ∀ m : Node, SameQuorum m (Node.resetTimeout s timing (Node.persist s { m with votedFor := some candidateId })) := by
    intro m
    obtain ⟨time, losses⟩ := same_quorum_persist s { m with votedFor := some candidateId }
    exact ⟨time, losses⟩
  simp only [Node.handleVoteRequest]
  by_cases stale : candidateTerm < n.term
  · rw [if_pos stale]
    exact ⟨rfl, rfl⟩
  · rw [if_neg stale]
    by_cases later : n.term < candidateTerm
    · have down := same_quorum_step_down s timing candidateTerm n
      simp only [if_pos later]
      split
      · have vote := granted (n.stepDown s timing candidateTerm)
        exact ⟨vote.time.trans down.time, vote.losses.trans down.losses⟩
      · exact down
    · simp only [if_neg later]
      split
      · exact granted n
      · exact ⟨rfl, rfl⟩

theorem same_quorum_append (s : Settings) (timing : Timing) (leaderId leaderUrl : String) (term : Int) (n : Node) :
    SameQuorum n (n.acceptAppend s timing leaderId leaderUrl term).2 := by
  simp only [Node.acceptAppend]
  by_cases stale : term < n.term
  · rw [if_pos stale]
    exact ⟨rfl, rfl⟩
  · rw [if_neg stale]
    by_cases later : n.term < term
    · have down := same_quorum_step_down s timing term n
      simp only [if_pos later]
      split <;> exact ⟨down.time, down.losses⟩
    · simp only [if_neg later]
      split <;> exact ⟨rfl, rfl⟩

inductive QuorumMove (cfg : Settings) (s : QuorumWatch) (event : Event) (after : Process) : Prop where
  | same (foreign : ∀ now timing, event = .evaluate now timing → s.answered = none)
      (quorum : SameQuorum s.process.node after.node)
  | booted (quorumNow : ℚ) (interrupted : Option Int) (timing : Timing) (restart : event = .restart interrupted quorumNow timing)
      (time : after.node.lastQuorumTime = quorumNow)
  | reached (now : ℚ) (timing : Timing) (active : List String) (evaluates : event = .evaluate now timing)
      (answered : s.answered = some active) (enough : cfg.needed ≤ active.length + 1) (time : after.node.lastQuorumTime = now)
      (losses : after.node.splitBrainCount = s.process.node.splitBrainCount)
  | missed (now : ℚ) (timing : Timing) (active : List String) (evaluates : event = .evaluate now timing)
      (answered : s.answered = some active) (few : active.length + 1 < cfg.needed)
      (time : after.node.lastQuorumTime = s.process.node.lastQuorumTime)
      (losses : after.node.splitBrainCount = s.process.node.splitBrainCount +
        if cfg.quorumTimeout ≤ now - s.process.node.lastQuorumTime then 1 else 0)

theorem evaluate_quorum_move (cfg : Settings) (now : ℚ) (timing : Timing) (active : List String) (n : Node) :
    (n.evaluateQuorum cfg now timing active).lastQuorumTime =
        (if cfg.needed ≤ active.length + 1 then now else n.lastQuorumTime) ∧
      (n.evaluateQuorum cfg now timing active).splitBrainCount = n.splitBrainCount +
        if cfg.needed ≤ active.length + 1 then 0 else if cfg.quorumTimeout ≤ now - n.lastQuorumTime then 1 else 0 := by
  simp only [Node.evaluateQuorum]
  by_cases enough : cfg.needed ≤ active.length + 1
  · simp only [if_pos enough]
    split <;> exact ⟨rfl, rfl⟩
  · simp only [if_neg enough]
    by_cases late : cfg.quorumTimeout ≤ now - n.lastQuorumTime
    · simp only [if_pos late]
      have entered := same_quorum_readonly cfg timing
        s!"quorum_lost_{active.length + 1}_of_{cfg.needed}_nodes_reachable"
        { n with activePeers := active, splitBrainCount := n.splitBrainCount + 1 }
      exact ⟨entered.time, entered.losses⟩
    · simp only [if_neg late, Nat.add_zero, and_self]

theorem evaluated_move (cfg : Settings) (s : QuorumWatch) (after : Process) (now : ℚ) (timing : Timing)
    (taken : s.process.evaluate cfg now timing = some after) : QuorumMove cfg s (.evaluate now timing) after := by
  simp only [Process.evaluate] at taken
  split at taken
  · rename_i term active round
    by_cases leads : s.process.node.role = .leader
    · rw [if_pos leads] at taken
      cases taken
      have answered : s.answered = some active := by simp only [QuorumWatch.answered, round, if_pos leads]
      obtain ⟨time, losses⟩ := evaluate_quorum_move cfg now timing active s.process.node
      by_cases enough : cfg.needed ≤ active.length + 1
      · rw [if_pos enough] at time losses
        exact .reached now timing active rfl answered enough time losses
      · rw [if_neg enough] at time losses
        exact .missed now timing active rfl answered (by omega) time losses
    · rw [if_neg leads] at taken
      cases taken
      exact .same (fun _ _ _ => by simp only [QuorumWatch.answered, round, if_neg leads]) ⟨rfl, rfl⟩
  · cases taken

theorem quorum_move (cfg : Settings) (s : QuorumWatch) (event : Event) (after : Process)
    (taken : s.process.next cfg event = some after) : QuorumMove cfg s event after := by
  have kept : (∀ now timing, event ≠ .evaluate now timing) → SameQuorum s.process.node after.node →
      QuorumMove cfg s event after := fun foreign quorum =>
    .same (fun now timing evaluates => absurd evaluates (foreign now timing)) quorum
  cases event with
  | attach timing =>
      cases taken
      refine kept (by simp) ?_
      obtain same | ⟨_, same⟩ := Process.attach_cases cfg s.process timing <;> rw [same] <;> exact ⟨rfl, rfl⟩
  | checkElection now =>
      simp only [Process.next, Process.checkElection] at taken
      split at taken
      · cases taken
        exact kept (by simp) ⟨rfl, rfl⟩
      · cases taken
  | startElection timing =>
      simp only [Process.next, Process.startElection] at taken
      split at taken
      · cases taken
        exact kept (by simp) (same_quorum_begin_election cfg timing s.process.node)
      · cases taken
  | voteReply reply timing =>
      obtain ⟨_, _, _, _, _, ⟨_, rfl⟩ | ⟨answer, _, _, rfl⟩⟩ := Process.vote_reply_cases cfg s.process after reply timing taken
      · exact kept (by simp) ⟨rfl, rfl⟩
      · exact kept (by simp) (same_quorum_step_down cfg timing answer.term s.process.node)
  | decide timing =>
      simp only [Process.next, Process.decide] at taken
      split at taken
      · split at taken <;> cases taken <;> exact kept (by simp) ⟨rfl, rfl⟩
      · cases taken
  | announced =>
      obtain ⟨_, _, _, _, rfl, _⟩ := Process.announced_cases s.process after taken
      exact kept (by simp) ⟨rfl, rfl⟩
  | beginRound =>
      obtain ⟨_, rfl⟩ := Process.begin_round_cases cfg s.process after taken
      exact kept (by simp) ⟨rfl, rfl⟩
  | syncReply reply timing =>
      obtain ⟨_, _, _, _, _, ⟨_, rfl⟩ | ⟨answer, _, _, rfl⟩⟩ := Process.sync_reply_cases cfg s.process after reply timing taken
      · exact kept (by simp) ⟨rfl, rfl⟩
      · exact kept (by simp) (same_quorum_step_down cfg timing answer.term s.process.node)
  | evaluate now timing =>
      exact evaluated_move cfg s after now timing taken
  | voteRequest candidateId candidateTerm timing =>
      cases taken
      exact kept (by simp) (same_quorum_vote_request cfg timing candidateId candidateTerm s.process.node)
  | appendEntries leaderId leaderUrl term timing =>
      cases taken
      exact kept (by simp) (same_quorum_append cfg timing leaderId leaderUrl term s.process.node)
  | enterReadonlyMode reason timing =>
      cases taken
      exact kept (by simp) (same_quorum_readonly cfg timing reason s.process.node)
  | exitReadonlyMode =>
      cases taken
      exact kept (by simp) ⟨rfl, rfl⟩
  | autoHeal now =>
      cases taken
      exact kept (by simp) (same_quorum_auto_heal cfg now s.process.node)
  | restart interrupted quorumNow timing =>
      obtain ⟨_, stored, rfl, _⟩ := Process.restart_cases cfg s.process after interrupted quorumNow timing taken
      exact .booted quorumNow interrupted timing rfl rfl

-- No round with a quorum is later than the timer or than the clock.
structure Timed (s : QuorumWatch) : Prop where
  timer : ∀ last ∈ s.lastQuorum, last ≤ s.process.node.lastQuorumTime
  clock : ∀ last ∈ s.lastQuorum, last ≤ s.clock

theorem quorum_step_spec (cfg : Settings) (s after : QuorumWatch) (event : Event) (taken : quorumStep cfg s event = some after) :
    advance s.clock event.readings = some after.clock ∧ s.process.next cfg event = some after.process ∧
      after.ledSince = s.ledAfter cfg event ∧ after.lastQuorum = s.quorumAfter cfg event ∧
        after.losses = s.lossesAfter after.process event := by
  simp only [quorumStep] at taken
  split at taken
  · rename_i forward stepped
    cases taken
    exact ⟨forward, stepped, rfl, rfl, rfl⟩
  · cases taken

def AllWaited (cfg : Settings) (s : QuorumWatch) : Prop := ∀ loss ∈ s.losses, Waited cfg loss

theorem losses_quiet (s : QuorumWatch) (after : Process) (event : Event)
    (fewer : after.node.splitBrainCount ≤ s.process.node.splitBrainCount) : s.lossesAfter after event = s.losses := by
  cases event with
  | evaluate now timing => exact if_neg (not_lt.mpr fewer)
  | _ => rfl

theorem timed_next (s after : QuorumWatch) (timed : Timed s) (forward : s.clock ≤ after.clock)
    (quorum : after.lastQuorum = s.lastQuorum)
    (timer : s.process.node.lastQuorumTime ≤ after.process.node.lastQuorumTime ∨ s.clock ≤ after.process.node.lastQuorumTime) :
    Timed after := by
  constructor
  · intro last noted
    rw [quorum] at noted
    rcases timer with kept | booted
    · exact (timed.timer last noted).trans kept
    · exact (timed.clock last noted).trans booted
  · intro last noted
    rw [quorum] at noted
    exact (timed.clock last noted).trans forward

theorem waited_step (cfg : Settings) (s after : QuorumWatch) (event : Event) (timed : Timed s)
    (taken : quorumStep cfg s event = some after) :
    Timed after ∧ (AllWaited cfg after ↔ AllWaited cfg s ∧ Seasoned cfg s event) := by
  obtain ⟨forward, stepped, _, quorum, losses⟩ := quorum_step_spec cfg s after event taken
  obtain ⟨clock, readings⟩ := advance_le s.clock after.clock event.readings forward
  have quiet (noted : s.lossesAfter after.process event = s.losses) (seasoned : Seasoned cfg s event) :
      AllWaited cfg after ↔ AllWaited cfg s ∧ Seasoned cfg s event := by
    rw [AllWaited, losses, noted]
    exact (and_iff_left seasoned).symm
  cases quorum_move cfg s event after.process stepped with
  | same foreign kept =>
      have unheard : s.quorumAfter cfg event = s.lastQuorum := by
        cases event with
        | evaluate now timing => simp [QuorumWatch.quorumAfter, foreign now timing rfl]
        | _ => rfl
      have seasoned : Seasoned cfg s event := by
        cases event with
        | evaluate now timing => simp [Seasoned, foreign now timing rfl]
        | _ => trivial
      exact ⟨timed_next s after timed clock (quorum.trans unheard) (Or.inl kept.time.ge),
        quiet (losses_quiet s after.process event kept.losses.le) seasoned⟩
  | booted quorumNow interrupted timing restart time =>
      subst restart
      have later : s.clock ≤ after.process.node.lastQuorumTime := time ▸ (readings quorumNow (by simp [Event.readings])).1
      exact ⟨timed_next s after timed clock quorum (Or.inr later), quiet rfl trivial⟩
  | reached now timing active evaluates answered enough time kept =>
      subst evaluates
      have heard : after.lastQuorum = some now := by simp [quorum, QuorumWatch.quorumAfter, answered, enough]
      have read := readings now (by simp [Event.readings])
      refine ⟨⟨?_, ?_⟩, quiet (losses_quiet s after.process _ kept.le) ?_⟩
      · intro last noted
        rw [heard, Option.mem_some_iff] at noted
        rw [time, noted]
      · intro last noted
        rw [heard, Option.mem_some_iff] at noted
        exact noted ▸ read.2
      · intro others found few
        rw [answered, Option.mem_some_iff] at found
        subst found
        omega
  | missed now timing active evaluates answered few time count =>
      subst evaluates
      have unheard : after.lastQuorum = s.lastQuorum := by
        simp [quorum, QuorumWatch.quorumAfter, answered, not_le.mpr few]
      refine ⟨timed_next s after timed clock unheard (Or.inl time.ge), ?_⟩
      by_cases late : cfg.quorumTimeout ≤ now - s.process.node.lastQuorumTime
      · rw [if_pos late] at count
        have noted : after.losses = s.losses ++ [⟨now, s.ledSince, s.lastQuorum⟩] := by
          rw [losses]
          exact if_pos (by omega)
        have seasoned : Seasoned cfg s (.evaluate now timing) ↔ Waited cfg ⟨now, s.ledSince, s.lastQuorum⟩ := by
          constructor
          · intro seasoned
            refine ⟨(seasoned active answered few).resolve_right (not_lt.mpr late), ?_⟩
            intro last noted
            have before := timed.timer last noted
            simp only
            linarith
          · intro waited others _ _
            exact Or.inl waited.leading
        rw [AllWaited, noted, List.forall_mem_append, List.forall_mem_singleton, seasoned]
        exact Iff.rfl
      · rw [if_neg late] at count
        apply quiet (losses_quiet s after.process _ count.le)
        exact fun _ _ _ => Or.inr (not_le.mp late)

theorem readonly_guard_iff (cfg : Settings) (quorumNow : ℚ) (timing : Timing) (events : List Event) (last : QuorumWatch)
    (run : QuorumRun cfg (fun _ _ => True) (.fresh quorumNow cfg timing) events last) :
    AllWaited cfg last ↔ QuorumRun cfg (Seasoned cfg) (.fresh quorumNow cfg timing) events last := by
  apply Runs.run_characterised (quorumStep cfg) (Seasoned cfg) Timed (AllWaited cfg)
  · exact fun s after event timed taken => waited_step cfg s after event timed taken
  · exact ⟨by simp [QuorumWatch.fresh], by simp [QuorumWatch.fresh]⟩
  · exact fun loss member => absurd member (List.not_mem_nil)
  · exact run

instance (cfg : Settings) (s : QuorumWatch) (event : Event) : Decidable (Seasoned cfg s event) := by
  cases event <;> simp only [Seasoned] <;> infer_instance

def trio : Settings := { id := "a", peers := ["b", "c"] }

def elected (now : ℚ) : List Event :=
  [.checkElection now, .startElection ⟨now, 0⟩, .voteReply (some ⟨true, 1⟩) ⟨now, 0⟩, .voteReply none ⟨now, 0⟩,
    .decide ⟨now, 0⟩]

def heartbeatRound (now : ℚ) (reply : Option SyncReply) : List Event :=
  [.beginRound, .syncReply reply ⟨now, 0⟩, .syncReply none ⟨now, 0⟩, .evaluate now ⟨now, 0⟩]

-- A leader that loses its peers after a round with both a quorum and time to spare.
def loneAfterQuorum : List Event :=
  elected 10 ++ heartbeatRound 11 (some ⟨true, 1⟩) ++ heartbeatRound 12 none ++ heartbeatRound 14 none

-- A follower of ten seconds that is elected and loses its peers at once.
def loneAfterElection : List Event := elected 10 ++ heartbeatRound 11 none

theorem readonly_after_timeout : ∃ last, QuorumRun trio (fun _ _ => True) (.fresh 0 trio ⟨0, 0⟩) loneAfterQuorum last ∧
    last.losses = [⟨14, some 10, some 11⟩] ∧ AllWaited trio last := by
  have reached : ∃ last ∈ Runs.follow (quorumStep trio) (Seasoned trio) (.fresh 0 trio ⟨0, 0⟩) loneAfterQuorum,
      last.losses = [⟨14, some 10, some 11⟩] := by decide +kernel
  obtain ⟨last, followed, losses⟩ := reached
  have permitted := Runs.follow_run _ _ _ last _ followed
  have run := Runs.run_free _ _ _ last _ permitted
  exact ⟨last, run, losses, (readonly_guard_iff trio 0 ⟨0, 0⟩ _ last run).mpr permitted⟩

theorem readonly_after_election : ∃ last, QuorumRun trio (fun _ _ => True) (.fresh 0 trio ⟨0, 0⟩) loneAfterElection last ∧
    last.losses = [⟨11, some 10, none⟩] ∧ last.process.node.readonly = true ∧ ¬ AllWaited trio last := by
  have reached : ∃ last ∈ Runs.follow (quorumStep trio) (fun _ _ => True) (.fresh 0 trio ⟨0, 0⟩) loneAfterElection,
      last.losses = [⟨11, some 10, none⟩] ∧ last.process.node.readonly = true := by decide +kernel
  obtain ⟨last, followed, losses, readonly⟩ := reached
  refine ⟨last, Runs.follow_run _ _ _ last _ followed, losses, readonly, ?_⟩
  intro waited
  have early := (waited ⟨11, some 10, none⟩ (by simp [losses])).leading 10 rfl
  norm_num [trio] at early

end HuddleCluster.HA
