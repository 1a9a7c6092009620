import HuddleCluster.HA.Campaign

set_option autoImplicit false

namespace HuddleCluster.HA

namespace Node

-- running is the flag of the component, which stop clears.
def isReady (s : Settings) (running : Bool) (n : Node) : Bool :=
  if !running then false
  else if n.readonly || decide (n.partitionState = .isolatedMinority) then false
  else match n.role with
    | .leader => true
    | .follower => s.peers.isEmpty || n.leaderId.isSome
    | .candidate => false

end Node

-- The two ways in which the flags, the state and the reason agree.
structure Node.Open (n : Node) : Prop where
  writable : n.readonly = false
  whole : n.splitBrainDetected = false
  reason : n.readonlyReason = none
  partition : n.partitionState ≠ .isolatedMinority

structure Node.Locked (n : Node) : Prop where
  readonly : n.readonly = true
  split : n.splitBrainDetected = true
  reason : n.readonlyReason.isSome = true
  partition : n.partitionState = .isolatedMinority

structure SameMode (n m : Node) : Prop where
  readonly : m.readonly = n.readonly
  split : m.splitBrainDetected = n.splitBrainDetected
  reason : m.readonlyReason = n.readonlyReason
  partition : m.partitionState = n.partitionState ∨ n.readonly = false ∧ m.partitionState ≠ .isolatedMinority
  heals : m.healCount = n.healCount

structure SameLeader (n m : Node) : Prop where
  role : m.role = n.role
  leaderId : m.leaderId = n.leaderId
  leaderUrl : m.leaderUrl = n.leaderUrl
  term : m.term = n.term

def Event.exits : Event → Bool
  | .exitReadonlyMode => true
  | _ => false

inductive ModeMove (event : Event) (n m : Node) : Prop where
  | same (mode : SameMode n m) (plain : event.exits = false ∧ event.restarts = false)
  | entered (mode : m.Locked) (heals : m.healCount = n.healCount) (plain : event.exits = false ∧ event.restarts = false)
  | healed (before : n.readonly = true ∨ n.splitBrainDetected = true) (mode : m.Open) (heals : m.healCount = n.healCount + 1)
      (plain : event.exits = false ∧ event.restarts = false)
  | lifted (mode : m.Open) (heals : m.healCount = n.healCount) (exits : event.exits = true ∧ event.restarts = false)
  | booted (mode : m.Open) (heals : m.healCount = 0) (restarts : event.restarts = true)

inductive LeaderMove (s : Settings) (p : Process) (event : Event) (m : Node) : Prop where
  | same (leader : SameLeader p.node m)
  | unknown (role : m.role ≠ .leader) (leaderId : m.leaderId = none) (leaderUrl : m.leaderUrl = none)
  | won (elects : p.elects s event = true) (role : m.role = .leader) (leaderId : m.leaderId = some s.id)
    (leaderUrl : m.leaderUrl = s.selfUrl)
      (term : m.term = p.node.term)
  | heard (id url : String) (term : Int) (timing : Timing) (append : event = .appendEntries id url term timing)
      (role : m.role = .follower) (leaderId : m.leaderId = some id) (leaderUrl : m.leaderUrl = some url) (here : m.term = term)

theorem persist_stored (s : Settings) (n : Node) : ∃ stored, n.persist s = { n with stored := stored } := by
  unfold Node.persist
  split
  · exact ⟨_, rfl⟩
  · exact ⟨n.stored, rfl⟩

theorem same_mode (n : Node) : SameMode n n := ⟨rfl, rfl, rfl, Or.inl rfl, rfl⟩

theorem same_mode_trans (n m k : Node) (first : SameMode n m) (second : SameMode m k) : SameMode n k := by
  refine ⟨second.readonly.trans first.readonly, second.split.trans first.split, second.reason.trans first.reason, ?_,
    second.heals.trans first.heals⟩
  rcases second.partition with same | ⟨writable, whole⟩
  · rw [same]
    exact first.partition
  · exact Or.inr ⟨first.readonly.symm.trans writable, whole⟩

theorem same_leader (n : Node) : SameLeader n n := ⟨rfl, rfl, rfl, rfl⟩

theorem step_down_mode (s : Settings) (timing : Timing) (newTerm : Int) (n : Node) : SameMode n (n.stepDown s timing newTerm) := by
  obtain ⟨stored, same⟩ := persist_stored s { n with term := newTerm, role := .follower, votedFor := none }
  unfold Node.stepDown
  rw [same]
  exact ⟨rfl, rfl, rfl, Or.inl rfl, rfl⟩

theorem step_down_unknown (s : Settings) (timing : Timing) (newTerm : Int) (n : Node) :
    (n.stepDown s timing newTerm).leaderId = none ∧ (n.stepDown s timing newTerm).leaderUrl = none := by
  unfold Node.stepDown
  exact ⟨rfl, rfl⟩

theorem grant_same (s : Settings) (timing : Timing) (candidateId : String) (n : Node) :
    SameMode n (Node.resetTimeout s timing (Node.persist s { n with votedFor := some candidateId })) ∧
      SameLeader n (Node.resetTimeout s timing (Node.persist s { n with votedFor := some candidateId })) := by
  obtain ⟨stored, same⟩ := persist_stored s { n with votedFor := some candidateId }
  rw [same]
  exact ⟨⟨rfl, rfl, rfl, Or.inl rfl, rfl⟩, ⟨rfl, rfl, rfl, rfl⟩⟩

theorem healed_open (n : Node) : n.triggerAutoHeal.Open := ⟨rfl, rfl, rfl, by simp [Node.triggerAutoHeal]⟩

theorem enter_locked (s : Settings) (timing : Timing) (reason : String) (n : Node) :
    (n.enterReadonlyMode s timing reason).Locked ∧ (n.enterReadonlyMode s timing reason).healCount = n.healCount := by
  unfold Node.enterReadonlyMode
  dsimp only
  split <;> exact ⟨⟨rfl, rfl, rfl, rfl⟩, rfl⟩

theorem enter_leader (s : Settings) (p : Process) (event : Event) (timing : Timing) (reason : String) (n : Node)
    (leader : SameLeader p.node n) : LeaderMove s p event (n.enterReadonlyMode s timing reason) := by
  unfold Node.enterReadonlyMode
  dsimp only
  split
  · exact .unknown (by simp [Node.resetTimeout]) rfl rfl
  · exact .same ⟨leader.role, leader.leaderId, leader.leaderUrl, leader.term⟩

theorem vote_request_moves (s : Settings) (p : Process) (candidateId : String) (candidateTerm : Int) (timing : Timing) :
    ModeMove (.voteRequest candidateId candidateTerm timing) p.node (p.node.handleVoteRequest s timing candidateId candidateTerm).2 ∧
      LeaderMove s p (.voteRequest candidateId candidateTerm timing) (p.node.handleVoteRequest s timing candidateId candidateTerm).2 := by
  unfold Node.handleVoteRequest
  split
  · exact ⟨.same (same_mode _) ⟨rfl, rfl⟩, .same (same_leader _)⟩
  · dsimp only
    split
    · have mode := step_down_mode s timing candidateTerm p.node
      have role := step_down_role s timing candidateTerm p.node
      obtain ⟨leaderId, leaderUrl⟩ := step_down_unknown s timing candidateTerm p.node
      obtain ⟨granted, leader⟩ := grant_same s timing candidateId (p.node.stepDown s timing candidateTerm)
      split
      · have follower := leader.role.trans role
        exact ⟨.same (same_mode_trans _ _ _ mode granted) ⟨rfl, rfl⟩,
          .unknown (fun leads => by cases follower.symm.trans leads) (leader.leaderId.trans leaderId) (leader.leaderUrl.trans leaderUrl)⟩
      · exact ⟨.same mode ⟨rfl, rfl⟩, .unknown (by simp [role]) leaderId leaderUrl⟩
    · obtain ⟨mode, leader⟩ := grant_same s timing candidateId p.node
      split
      · exact ⟨.same mode ⟨rfl, rfl⟩, .same leader⟩
      · exact ⟨.same (same_mode _) ⟨rfl, rfl⟩, .same (same_leader _)⟩

theorem append_moves (s : Settings) (p : Process) (leaderId leaderUrl : String) (term : Int) (timing : Timing) :
    ModeMove (.appendEntries leaderId leaderUrl term timing) p.node (p.node.acceptAppend s timing leaderId leaderUrl term).2 ∧
      LeaderMove s p (.appendEntries leaderId leaderUrl term timing) (p.node.acceptAppend s timing leaderId leaderUrl term).2 := by
  unfold Node.acceptAppend
  split
  · exact ⟨.same (same_mode _) ⟨rfl, rfl⟩, .same (same_leader _)⟩
  · rename_i reached
    dsimp only
    have down : ∃ n : Node, (if p.node.term < term then p.node.stepDown s timing term else p.node) = n ∧
      SameMode p.node n ∧ n.term = term := by
      split
      · exact ⟨_, rfl, step_down_mode s timing term p.node, (step_down_written s timing term p.node).term⟩
      · rename_i later
        exact ⟨_, rfl, same_mode _, le_antisymm (not_lt.mp reached) (not_lt.mp later)⟩
    obtain ⟨n, same, mode, here⟩ := down
    rw [same]
    split
    · rename_i heals
      have before : n.readonly = true ∨ n.splitBrainDetected = true := Bool.or_eq_true_iff.mp (Bool.and_eq_true_iff.mp heals).2
      refine ⟨.healed ?_ (healed_open _) (congrArg (· + 1) mode.heals) ⟨rfl, rfl⟩, .heard _ _ _ _ rfl rfl rfl rfl here⟩
      rwa [mode.readonly, mode.split] at before
    · exact ⟨.same ⟨mode.readonly, mode.split, mode.reason, mode.partition, mode.heals⟩ ⟨rfl, rfl⟩,
        .heard _ _ _ _ rfl rfl rfl rfl here⟩

theorem evaluate_moves (s : Settings) (p : Process) (now : ℚ) (timing : Timing) (active : List String) :
    ModeMove (.evaluate now timing) p.node (p.node.evaluateQuorum s now timing active) ∧
      LeaderMove s p (.evaluate now timing) (p.node.evaluateQuorum s now timing active) := by
  unfold Node.evaluateQuorum
  dsimp only
  split
  · split
    · rename_i readonly
      exact ⟨.healed (by simpa [or_comm] using readonly) (healed_open _) rfl ⟨rfl, rfl⟩, .same ⟨rfl, rfl, rfl, rfl⟩⟩
    · rename_i writable
      refine ⟨.same ⟨rfl, rfl, rfl, Or.inr ⟨?_, ?_⟩, rfl⟩ ⟨rfl, rfl⟩, .same ⟨rfl, rfl, rfl, rfl⟩⟩
      · simp only [Bool.or_eq_true, not_or, Bool.not_eq_true] at writable
        exact writable.2
      · dsimp only
        split <;> simp
  · split
    · obtain ⟨locked, heals⟩ := enter_locked s timing s!"quorum_lost_{active.length + 1}_of_{s.needed}_nodes_reachable"
        { p.node with activePeers := active, splitBrainCount := p.node.splitBrainCount + 1 }
      exact ⟨.entered locked heals ⟨rfl, rfl⟩, enter_leader s p _ timing _ _ ⟨rfl, rfl, rfl, rfl⟩⟩
    · exact ⟨.same ⟨rfl, rfl, rfl, Or.inl rfl, rfl⟩ ⟨rfl, rfl⟩, .same ⟨rfl, rfl, rfl, rfl⟩⟩

theorem auto_heal_moves (s : Settings) (p : Process) (now : ℚ) :
    ModeMove (.autoHeal now) p.node (p.node.autoHeal s now).2 ∧ LeaderMove s p (.autoHeal now) (p.node.autoHeal s now).2 := by
  have stays : ModeMove (.autoHeal now) p.node p.node ∧ LeaderMove s p (.autoHeal now) p.node :=
    ⟨.same (same_mode _) ⟨rfl, rfl⟩, .same (same_leader _)⟩
  unfold Node.autoHeal
  split
  · exact stays
  · split
    · exact stays
    · rename_i readonly
      split
      · refine ⟨.healed ?_ (healed_open _) rfl ⟨rfl, rfl⟩, .same ⟨rfl, rfl, rfl, rfl⟩⟩
        simpa [Classical.or_iff_not_imp_left] using readonly
      · exact stays

theorem begin_election_moves (s : Settings) (p : Process) (timing : Timing) :
    SameMode p.node (p.node.beginElection s timing) ∧ (p.node.beginElection s timing).leaderId = none ∧
      (p.node.beginElection s timing).leaderUrl = none := by
  obtain ⟨stored, same⟩ := persist_stored s { p.node with term := p.node.term + 1, role := .candidate, votedFor := some s.id }
  unfold Node.beginElection
  rw [same]
  exact ⟨⟨rfl, rfl, rfl, Or.inl rfl, rfl⟩, rfl, rfl⟩

theorem event_moves (s : Settings) (p q : Process) (event : Event) (taken : p.next s event = some q) :
    ModeMove event p.node q.node ∧ LeaderMove s p event q.node := by
  have plain (event : Event) (exits : event.exits = false) (restarts : event.restarts = false) :
      ModeMove event p.node p.node ∧ LeaderMove s p event p.node :=
    ⟨.same (same_mode _) ⟨exits, restarts⟩, .same (same_leader _)⟩
  have down (event : Event) (exits : event.exits = false) (restarts : event.restarts = false) (timing : Timing) (term : Int) :
      ModeMove event p.node (p.node.stepDown s timing term) ∧ LeaderMove s p event (p.node.stepDown s timing term) := by
    obtain ⟨leaderId, leaderUrl⟩ := step_down_unknown s timing term p.node
    exact ⟨.same (step_down_mode s timing term p.node) ⟨exits, restarts⟩,
      .unknown (by simp [step_down_role s timing term p.node]) leaderId leaderUrl⟩
  cases event with
  | attach timing =>
      cases taken
      obtain same | ⟨alone, same⟩ := Process.attach_cases s p timing
      · rw [same]
        exact plain _ rfl rfl
      · rw [same]
        exact ⟨.same ⟨rfl, rfl, rfl, Or.inl rfl, rfl⟩ ⟨rfl, rfl⟩, .won (List.isEmpty_iff.mpr alone) rfl rfl rfl rfl⟩
  | checkElection now =>
      simp only [Process.next, Process.checkElection] at taken
      split at taken <;> cases taken
      exact plain _ rfl rfl
  | startElection timing =>
      simp only [Process.next, Process.startElection] at taken
      split at taken <;> cases taken
      obtain ⟨mode, leaderId, leaderUrl⟩ := begin_election_moves s p timing
      exact ⟨.same mode ⟨rfl, rfl⟩, .unknown (by simp [begin_election_role s timing p.node]) leaderId leaderUrl⟩
  | voteReply reply timing =>
      obtain ⟨_, _, _, _, _, ⟨_, rfl⟩ | ⟨answer, _, _, rfl⟩⟩ := Process.vote_reply_cases s p q reply timing taken
      · exact plain _ rfl rfl
      · exact down _ rfl rfl timing answer.term
  | decide timing =>
      simp only [Process.next, Process.decide] at taken
      split at taken
      · rename_i campaign
        split at taken
        · rename_i enough
          cases taken
          have elects : p.elects s (.decide timing) = true := by simp [Process.elects, Process.won, campaign, enough]
          exact ⟨.same ⟨rfl, rfl, rfl, Or.inl rfl, rfl⟩ ⟨rfl, rfl⟩, .won elects rfl rfl rfl rfl⟩
        · cases taken
          exact plain _ rfl rfl
      · cases taken
  | announced =>
      obtain ⟨_, _, _, _, rfl, _⟩ := Process.announced_cases p q taken
      exact plain _ rfl rfl
  | beginRound =>
      obtain ⟨_, rfl⟩ := Process.begin_round_cases s p q taken
      exact plain _ rfl rfl
  | syncReply reply timing =>
      obtain ⟨_, _, _, _, _, ⟨_, rfl⟩ | ⟨answer, _, _, rfl⟩⟩ := Process.sync_reply_cases s p q reply timing taken
      · exact plain _ rfl rfl
      · exact down _ rfl rfl timing answer.term
  | evaluate now timing =>
      simp only [Process.next, Process.evaluate] at taken
      split at taken
      · split at taken <;> cases taken
        · exact evaluate_moves s p now timing _
        · exact plain _ rfl rfl
      · cases taken
  | voteRequest candidateId candidateTerm timing =>
      cases taken
      exact vote_request_moves s p candidateId candidateTerm timing
  | appendEntries leaderId leaderUrl term timing =>
      cases taken
      exact append_moves s p leaderId leaderUrl term timing
  | enterReadonlyMode reason timing =>
      cases taken
      obtain ⟨locked, heals⟩ := enter_locked s timing reason p.node
      exact ⟨.entered locked heals ⟨rfl, rfl⟩, enter_leader s p _ timing reason p.node (same_leader _)⟩
  | exitReadonlyMode =>
      cases taken
      exact ⟨.lifted ⟨rfl, rfl, rfl, by simp [Node.exitReadonlyMode]⟩ rfl ⟨rfl, rfl⟩, .same ⟨rfl, rfl, rfl, rfl⟩⟩
  | autoHeal now =>
      cases taken
      exact auto_heal_moves s p now
  | restart interrupted quorumNow timing =>
      obtain ⟨_, stored, rfl, _⟩ := Process.restart_cases s p q interrupted quorumNow timing taken
      exact ⟨.booted ⟨rfl, rfl, rfl, by simp [Node.boot]⟩ rfl rfl, .unknown (by simp [Node.boot]) rfl rfl⟩

-- What a node says of its leader: it leads, it knows of none, or another leads.
structure Node.Told (s : Settings) (n : Node) : Prop where
  leads : n.role = .leader → n.leaderId = some s.id ∧ n.leaderUrl = s.selfUrl
  campaigns : n.role = .candidate → n.leaderId = none
  unknown : n.leaderId = none → n.leaderUrl = none

-- A master with what it has done since it was started: how often it went from
-- read-write into read-only mode, and how often it was told to leave it.
structure ModeWatch where
  process : Process
  entered : Nat := 0
  lifted : Nat := 0

namespace ModeWatch

def after (w : ModeWatch) (event : Event) (q : Process) : ModeWatch :=
  if event.restarts then { process := q }
  else {
    process := q
    entered := w.entered + (!w.process.node.readonly && q.node.readonly).toNat
    lifted := w.lifted + (event.exits && w.process.node.readonly).toNat }

def next (s : Settings) (w : ModeWatch) (event : Event) : Option ModeWatch := (w.process.next s event).map (w.after event)

end ModeWatch

abbrev ModeRun (s : Settings) (allowed : ModeWatch → Event → Prop) := Runs.Run (ModeWatch.next s) allowed

structure ModeWatch.Sound (s : Settings) (w : ModeWatch) : Prop where
  mode : w.process.node.Open ∨ w.process.node.Locked
  told : w.process.node.Told s
  entered : w.entered = w.process.node.healCount + w.lifted + w.process.node.readonly.toNat

theorem told_move (s : Settings) (p : Process) (event : Event) (m : Node) (told : p.node.Told s) (move : LeaderMove s p event m) :
    m.Told s := by
  cases move with
  | same leader =>
      refine ⟨?_, ?_, ?_⟩
      · rw [leader.role, leader.leaderId, leader.leaderUrl]
        exact told.leads
      · rw [leader.role, leader.leaderId]
        exact told.campaigns
      · rw [leader.leaderId, leader.leaderUrl]
        exact told.unknown
  | unknown role leaderId leaderUrl => exact ⟨fun leads => absurd leads role, fun _ => leaderId, fun _ => leaderUrl⟩
  | won _ role leaderId leaderUrl _ =>
      refine ⟨fun _ => ⟨leaderId, leaderUrl⟩, fun stands => ?_, fun unknown => ?_⟩
      · cases role.symm.trans stands
      · cases leaderId.symm.trans unknown
  | heard id url term timing _ role leaderId leaderUrl _ =>
      refine ⟨fun leads => ?_, fun stands => ?_, fun unknown => ?_⟩
      · cases role.symm.trans leads
      · cases role.symm.trans stands
      · cases leaderId.symm.trans unknown

theorem mode_move (event : Event) (n m : Node) (mode : n.Open ∨ n.Locked) (move : ModeMove event n m) : m.Open ∨ m.Locked := by
  cases move with
  | same same _ =>
      rcases mode with opened | locked
      · refine Or.inl ⟨same.readonly.trans opened.writable, same.split.trans opened.whole, same.reason.trans opened.reason, ?_⟩
        rcases same.partition with kept | ⟨_, whole⟩
        · exact kept ▸ opened.partition
        · exact whole
      · refine Or.inr ⟨same.readonly.trans locked.readonly, same.split.trans locked.split, ?_, ?_⟩
        · rw [same.reason]
          exact locked.reason
        · rcases same.partition with kept | ⟨writable, _⟩
          · exact kept.trans locked.partition
          · cases writable.symm.trans locked.readonly
  | entered locked _ _ => exact Or.inr locked
  | healed _ opened _ _ => exact Or.inl opened
  | lifted opened _ _ => exact Or.inl opened
  | booted opened _ _ => exact Or.inl opened

theorem entered_move (s : Settings) (w : ModeWatch) (event : Event) (q : Process) (sound : w.Sound s)
    (move : ModeMove event w.process.node q.node) : (w.after event q).entered =
      q.node.healCount + (w.after event q).lifted + q.node.readonly.toNat := by
  have entered := sound.entered
  unfold ModeWatch.after
  cases move with
  | same mode plain =>
      rw [if_neg (by simp [plain.2]), mode.heals, mode.readonly]
      simp [plain.1, entered]
  | entered locked heals plain =>
      rw [if_neg (by simp [plain.2]), heals, locked.readonly]
      cases before : w.process.node.readonly <;> simp [before] at entered <;> simp [plain.1, entered]
  | healed before opened heals plain =>
      have readonly : w.process.node.readonly = true := by
        rcases sound.mode with writable | locked
        · simp [writable.writable, writable.whole] at before
        · exact locked.readonly
      rw [if_neg (by simp [plain.2]), heals, opened.writable]
      simp only [readonly, Bool.toNat_true] at entered
      simp [plain.1, entered]
      omega
  | lifted opened heals exits =>
      rw [if_neg (by simp [exits.2]), heals, opened.writable]
      simp [exits.1, entered, Nat.add_assoc]
  | booted opened heals restarts =>
      rw [if_pos restarts, heals, opened.writable]
      rfl

theorem sound_next (s : Settings) (w : ModeWatch) (event : Event) (v : ModeWatch) (sound : w.Sound s)
    (taken : w.next s event = some v) : v.Sound s := by
  obtain ⟨q, acted, rfl⟩ := Option.map_eq_some_iff.mp taken
  obtain ⟨mode, leader⟩ := event_moves s w.process q event acted
  have here : (w.after event q).process = q := by
    unfold ModeWatch.after
    split <;> rfl
  refine ⟨?_, ?_, ?_⟩
  · rw [here]
    exact mode_move event _ _ sound.mode mode
  · rw [here]
    exact told_move s w.process event q.node sound.told leader
  · rw [here]
    exact entered_move s w event q sound mode

theorem boot_sound (s : Settings) (quorumNow : ℚ) (timing : Timing) (stored : Option Durable) :
    ModeWatch.Sound s { process := { node := .boot quorumNow s timing stored } } := by
  refine ⟨Or.inl ⟨rfl, rfl, rfl, by simp [Node.boot]⟩, ⟨fun leads => ?_, fun _ => rfl, fun _ => rfl⟩, rfl⟩
  cases leads

-- is_ready asks for the partition state and is_leader for the split brain.
theorem ready_iff (s : Settings) (n : Node) (mode : n.Open ∨ n.Locked) : n.isReady s true = true ↔ n.isLeader = true ∨
    n.role = .follower ∧ n.isReadonly = false ∧ (s.peers = [] ∨ n.leaderId.isSome = true) := by
  unfold Node.isReady Node.isLeader Node.isReadonly
  rcases mode with opened | locked
  · simp only [opened.writable, opened.whole, opened.partition]
    cases n.role <;> simp
  · simp [locked.readonly]

-- The flags, the partition state and the reason of a master always agree, it left
-- read-only mode as often as it went into it, but for the present one, it is ready
-- exactly if it leads or is a writable follower that has no peers or knows its leader,
-- and a leader names itself.
theorem modes_agree (s : Settings) (quorumNow : ℚ) (timing : Timing) (stored : Option Durable) (w : ModeWatch)
    (events : List Event) (run : ModeRun s (fun _ _ => True) { process := { node := .boot quorumNow s timing stored } } events w) :
    (w.process.node.Open ∨ w.process.node.Locked) ∧
      w.entered = w.process.node.healCount + w.lifted + w.process.node.readonly.toNat ∧
      (w.process.node.isReady s true = true ↔ w.process.node.isLeader = true ∨
        w.process.node.role = .follower ∧ w.process.node.isReadonly = false ∧
        (s.peers = [] ∨ w.process.node.leaderId.isSome = true)) ∧
      (w.process.node.role = .leader → w.process.node.leaderId = some s.id ∧ w.process.node.leaderUrl = s.selfUrl) := by
  have sound : w.Sound s := by
    refine Runs.run_invariant (ModeWatch.next s) _ (ModeWatch.Sound s) ?_ _ w events (boot_sound s quorumNow timing stored) run
    exact fun state event after held _ taken => sound_next s state event after held taken
  exact ⟨sound.mode, sound.entered, ready_iff s w.process.node sound.mode, sound.told.leads⟩

def attachedAlone : Settings := { id := "a", selfUrl := some "http://a" }

-- A master without peers is set aside by hand, heals by itself and is elected again.
theorem modes_agree_alone : ∃ w : ModeWatch, w.entered = 1 ∧ w.process.node.healCount = 1 ∧ w.process.node.leaderId = some "a" := by
  have followed : ∃ w ∈ Runs.follow (ModeWatch.next attachedAlone) (fun _ _ => True)
      { process := { node := .boot 0 attachedAlone ⟨0, 0⟩ none } }
      [.attach ⟨0, 0⟩, .enterReadonlyMode "manual" ⟨1, 0⟩, .autoHeal 2, .checkElection 10, .startElection ⟨10, 0⟩,
        .decide ⟨10, 0⟩],
      w.entered = 1 ∧ w.process.node.healCount = 1 ∧ w.process.node.role = .leader := by
    decide +kernel
  obtain ⟨w, reached, entered, healed, leads⟩ := followed
  have agree := modes_agree attachedAlone 0 ⟨0, 0⟩ none w _ (Runs.follow_run _ _ _ w _ reached)
  exact ⟨w, entered, healed, (agree.2.2.2 leads).1⟩

end HuddleCluster.HA
