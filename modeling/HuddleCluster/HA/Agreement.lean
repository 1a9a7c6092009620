import HuddleCluster.HA.ElectionSafety
import HuddleCluster.HA.Modes

set_option autoImplicit false

namespace HuddleCluster.HA

-- An AppendEntries of a leader, in the term that its thread had read.
structure SyncCall (ι : Type) where
  caller : ι
  callee : ι
  term : Int

-- The three threads that send one to each peer: after an election, for a heartbeat, and
-- with the snapshot.
inductive Channel where
  | announce
  | beat
  | push
deriving DecidableEq

-- The masters and what their leaders have sent. pushing is where the sync loops are.
structure Deployment (ι : Type) where
  system : System ι
  syncs : List (SyncCall ι) := []
  pushing : ι → Option (Int × List String) := fun _ => none

-- What was sent may arrive at any later time, more than once, or never; the answers to
-- it are steps of the caller.
inductive DeploymentEvent (ι : Type) where
  | send (channel : Channel) (caller callee : ι)
  | beginPush (caller : ι)
  | pushed (caller : ι)
  | arrive (sync : Nat) (timing : Timing)
  | system (event : SystemEvent ι)

def ElectionThread.announces : ElectionThread → Option (Int × List String)
  | .announcing term left => some (term, left)
  | _ => none

def HeartbeatThread.beats : HeartbeatThread → Option (Int × List String)
  | .round term _ left => some (term, left)
  | .idle => none

def Event.appends : Event → Bool
  | .appendEntries _ _ _ _ => true
  | _ => false

def SystemEvent.appends {ι : Type} : SystemEvent ι → Bool
  | .step _ event => event.appends
  | _ => false

def SystemEvent.restarted {ι : Type} : SystemEvent ι → Option ι
  | .step i (.restart _ _ _) => some i
  | _ => none

namespace Deployment

variable {ι : Type} [Fintype ι] [DecidableEq ι]

def outgoing (d : Deployment ι) (caller : ι) : Channel → Option (Int × List String)
  | .announce => (d.system.nodes caller).election.announces
  | .beat => (d.system.nodes caller).heartbeat.beats
  | .push => d.pushing caller

def send (m : Membership ι) (d : Deployment ι) (channel : Channel) (caller callee : ι) : Option (Deployment ι) :=
  match d.outgoing caller channel with
  | some (term, peer :: _) => if m.url callee = peer then some { d with syncs := d.syncs ++ [⟨caller, callee, term⟩] } else none
  | _ => none

def beginPush (m : Membership ι) (d : Deployment ι) (caller : ι) : Option (Deployment ι) :=
  match d.pushing caller with
  | none =>
      let node := (d.system.nodes caller).node
      if node.role = .leader then
        some { d with pushing := Function.update d.pushing caller (some (node.term, (m.settings caller).peers)) }
      else some d
  | some _ => none

def pushed (d : Deployment ι) (caller : ι) : Option (Deployment ι) :=
  match d.pushing caller with
  | some (term, _ :: left) => some { d with pushing := Function.update d.pushing caller (some (term, left)) }
  | some (_, []) => some { d with pushing := Function.update d.pushing caller none }
  | none => none

def arrive (m : Membership ι) (d : Deployment ι) (sync : Nat) (timing : Timing) : Option (Deployment ι) :=
  match d.syncs[sync]? with
  | some ⟨caller, callee, term⟩ =>
      let leader := m.settings caller
      (d.system.step m callee (.appendEntries leader.id (leader.selfUrl.getD "") term timing)).map fun system =>
        { d with system := system }
  | none => none

-- A master that is started again has a sync loop of its own.
def advance (m : Membership ι) (d : Deployment ι) (event : SystemEvent ι) : Option (Deployment ι) :=
  (d.system.next m event).map fun system =>
    { d with
      system := system
      pushing := match event.restarted with
        | some i => Function.update d.pushing i none
        | none => d.pushing }

def next (m : Membership ι) (d : Deployment ι) : DeploymentEvent ι → Option (Deployment ι)
  | .send channel caller callee => d.send m channel caller callee
  | .beginPush caller => d.beginPush m caller
  | .pushed caller => d.pushed caller
  | .arrive sync timing => d.arrive m sync timing
  | .system event => d.advance m event

-- Replies are not acted on late, and nobody else sends AppendEntries.
def Orderly (m : Membership ι) (d : Deployment ι) : DeploymentEvent ι → Prop
  | .system event => d.system.Timely m event ∧ event.appends = false
  | _ => True

instance (m : Membership ι) (d : Deployment ι) (event : DeploymentEvent ι) : Decidable (d.Orderly m event) := by
  cases event <;> (unfold Orderly; infer_instance)

end Deployment

abbrev DeploymentRun {ι : Type} [Fintype ι] [DecidableEq ι] (m : Membership ι) :=
  Runs.Run (Deployment.next m) (Deployment.Orderly m)

theorem announcing_before (s : Settings) (p q : Process) (event : Event) (taken : p.next s event = some q) (term : Int)
    (left : List String) (announcing : q.election = .announcing term left) :
    (∃ rest, p.election = .announcing term rest ∧ left ⊆ rest) ∨
      p.elects s event = true ∧ term = q.node.term ∧ left = s.peers := by
  cases event with
  | attach timing =>
      cases taken
      obtain same | ⟨_, same⟩ := Process.attach_cases s p timing <;> rw [same] at announcing <;>
        exact Or.inl ⟨left, announcing, List.Subset.refl _⟩
  | checkElection now =>
      simp only [Process.next, Process.checkElection] at taken
      split at taken
      · cases taken
        dsimp only at announcing
        split at announcing <;> cases announcing
      · cases taken
  | startElection timing =>
      simp only [Process.next, Process.startElection] at taken
      split at taken <;> cases taken
      cases announcing
  | voteReply reply timing =>
      obtain ⟨_, _, _, _, _, ⟨_, rfl⟩ | ⟨_, _, _, rfl⟩⟩ :=
        Process.vote_reply_cases s p q reply timing taken <;> cases announcing
  | decide timing =>
      simp only [Process.next, Process.decide] at taken
      split at taken
      · rename_i campaign
        split at taken
        · rename_i enough
          cases taken
          cases announcing
          exact Or.inr ⟨by simp [Process.elects, Process.won, campaign, enough], rfl, rfl⟩
        · cases taken
          cases announcing
      · cases taken
  | announced =>
      simp only [Process.next, Process.announced] at taken
      split at taken
      · rename_i before
        cases taken
        cases announcing
        exact Or.inl ⟨_, before, List.subset_cons_self _ _⟩
      · cases taken
        cases announcing
      · cases taken
  | beginRound =>
      obtain ⟨_, rfl⟩ := Process.begin_round_cases s p q taken
      exact Or.inl ⟨left, announcing, List.Subset.refl _⟩
  | syncReply reply timing =>
      obtain ⟨_, _, _, _, _, ⟨_, rfl⟩ | ⟨_, _, _, rfl⟩⟩ := Process.sync_reply_cases s p q reply timing taken <;>
        exact Or.inl ⟨left, announcing, List.Subset.refl _⟩
  | evaluate now timing =>
      simp only [Process.next, Process.evaluate] at taken
      split at taken
      · split at taken <;> cases taken <;> exact Or.inl ⟨left, announcing, List.Subset.refl _⟩
      · cases taken
  | restart interrupted quorumNow timing =>
      obtain ⟨_, stored, rfl, _⟩ := Process.restart_cases s p q interrupted quorumNow timing taken
      cases announcing
  | voteRequest candidateId candidateTerm timing =>
      cases taken
      exact Or.inl ⟨left, announcing, List.Subset.refl _⟩
  | appendEntries leaderId leaderUrl term timing =>
      cases taken
      exact Or.inl ⟨left, announcing, List.Subset.refl _⟩
  | enterReadonlyMode reason timing =>
      cases taken
      exact Or.inl ⟨left, announcing, List.Subset.refl _⟩
  | exitReadonlyMode =>
      cases taken
      exact Or.inl ⟨left, announcing, List.Subset.refl _⟩
  | autoHeal now =>
      cases taken
      exact Or.inl ⟨left, announcing, List.Subset.refl _⟩

theorem round_before (s : Settings) (p q : Process) (event : Event) (taken : p.next s event = some q) (term : Int)
    (active left : List String) (round : q.heartbeat = .round term active left) :
    (∃ others rest, p.heartbeat = .round term others rest ∧ left ⊆ rest) ∨
      q.node.role = .leader ∧ term = q.node.term ∧ left = s.peers := by
  cases event with
  | attach timing =>
      cases taken
      obtain same | ⟨_, same⟩ := Process.attach_cases s p timing <;> rw [same] at round <;>
        exact Or.inl ⟨active, left, round, List.Subset.refl _⟩
  | checkElection now =>
      simp only [Process.next, Process.checkElection] at taken
      split at taken <;> cases taken
      exact Or.inl ⟨active, left, round, List.Subset.refl _⟩
  | startElection timing =>
      simp only [Process.next, Process.startElection] at taken
      split at taken <;> cases taken
      exact Or.inl ⟨active, left, round, List.Subset.refl _⟩
  | voteReply reply timing =>
      obtain ⟨_, _, _, _, _, ⟨_, rfl⟩ | ⟨_, _, _, rfl⟩⟩ := Process.vote_reply_cases s p q reply timing taken <;>
        exact Or.inl ⟨active, left, round, List.Subset.refl _⟩
  | decide timing =>
      simp only [Process.next, Process.decide] at taken
      split at taken
      · split at taken <;> cases taken <;> exact Or.inl ⟨active, left, round, List.Subset.refl _⟩
      · cases taken
  | announced =>
      obtain ⟨_, _, _, _, rfl, _⟩ := Process.announced_cases p q taken
      exact Or.inl ⟨active, left, round, List.Subset.refl _⟩
  | beginRound =>
      simp only [Process.next, Process.beginRound] at taken
      split at taken
      · rename_i idle
        split at taken
        · rename_i leads
          cases taken
          cases round
          exact Or.inr ⟨leads, rfl, rfl⟩
        · cases taken
          cases idle.symm.trans round
      · cases taken
  | syncReply reply timing =>
      obtain ⟨_, _, _, _, before, ⟨_, rfl⟩ | ⟨_, _, _, rfl⟩⟩ := Process.sync_reply_cases s p q reply timing taken
      · cases round
        exact Or.inl ⟨_, _, before, List.subset_cons_self _ _⟩
      · cases round
  | evaluate now timing =>
      simp only [Process.next, Process.evaluate] at taken
      split at taken
      · split at taken <;> cases taken <;> cases round
      · cases taken
  | restart interrupted quorumNow timing =>
      obtain ⟨_, stored, rfl, _⟩ := Process.restart_cases s p q interrupted quorumNow timing taken
      cases round
  | voteRequest candidateId candidateTerm timing =>
      cases taken
      exact Or.inl ⟨active, left, round, List.Subset.refl _⟩
  | appendEntries leaderId leaderUrl term timing =>
      cases taken
      exact Or.inl ⟨active, left, round, List.Subset.refl _⟩
  | enterReadonlyMode reason timing =>
      cases taken
      exact Or.inl ⟨active, left, round, List.Subset.refl _⟩
  | exitReadonlyMode =>
      cases taken
      exact Or.inl ⟨active, left, round, List.Subset.refl _⟩
  | autoHeal now =>
      cases taken
      exact Or.inl ⟨active, left, round, List.Subset.refl _⟩

variable {ι : Type} [Fintype ι] [DecidableEq ι]

-- own are the urls the masters have for themselves.
structure Vouched (m : Membership ι) (own : ι → String) (elected : List (ι × Int)) (i : ι) (p : Process) : Prop where
  mode : p.node.Open ∨ p.node.Locked
  told : p.node.Told (m.settings i)
  other : p.node.leaderId = some (m.settings i).id → p.node.role = .leader
  known : ∀ id, p.node.leaderId = some id →
    ∃ k, (m.settings k).id = id ∧ p.node.leaderUrl = some (own k) ∧ (k, p.node.term) ∈ elected
  announcing : ∀ term left, p.election = .announcing term left → (i, term) ∈ elected ∧ left ⊆ (m.settings i).peers
  round : ∀ term active left, p.heartbeat = .round term active left → (i, term) ∈ elected ∧ left ⊆ (m.settings i).peers

theorem vouched_grown (m : Membership ι) (own : ι → String) (before after : List (ι × Int)) (grown : before ⊆ after) (i : ι)
    (p : Process) (vouched : Vouched m own before i p) : Vouched m own after i p := by
  refine ⟨vouched.mode, vouched.told, vouched.other, fun id known => ?_,
    fun term left busy => (vouched.announcing term left busy).imp_left (grown ·),
    fun term active left busy => (vouched.round term active left busy).imp_left (grown ·)⟩
  obtain ⟨k, named, url, backed⟩ := vouched.known id known
  exact ⟨k, named, url, grown backed⟩

-- An AppendEntries comes from another master, which was elected in its term.
def Vouches (m : Membership ι) (own : ι → String) (elected : List (ι × Int)) (i : ι) : Event → Prop
  | .appendEntries id url term _ => ∃ k, k ≠ i ∧ (m.settings k).id = id ∧ own k = url ∧ (k, term) ∈ elected
  | _ => True

theorem vouches_plain (m : Membership ι) (own : ι → String) (elected : List (ι × Int)) (i : ι) (event : Event)
    (plain : event.appends = false) : Vouches m own elected i event := by
  cases event with
  | appendEntries id url term timing => cases plain
  | _ => trivial

theorem vouched_next (m : Membership ι) (own : ι → String) (attached : ∀ i, (m.settings i).selfUrl = some (own i))
    (elected after : List (ι × Int)) (grown : elected ⊆ after) (i : ι) (p q : Process) (event : Event)
    (taken : p.next (m.settings i) event = some q) (won : p.elects (m.settings i) event = true → (i, q.node.term) ∈ after)
    (leads : q.node.role = .leader → (i, q.node.term) ∈ after) (vouches : Vouches m own elected i event)
    (vouched : Vouched m own elected i p) : Vouched m own after i q := by
  obtain ⟨mode, leader⟩ := event_moves (m.settings i) p q event taken
  refine ⟨mode_move event _ _ vouched.mode mode, told_move _ p event q.node vouched.told leader, ?_, ?_, ?_, ?_⟩
  · intro itself
    cases leader with
    | same leader => exact leader.role.trans (vouched.other (leader.leaderId.symm.trans itself))
    | unknown _ leaderId _ => cases leaderId.symm.trans itself
    | won _ role _ _ _ => exact role
    | heard id url term timing append _ leaderId _ _ =>
        subst append
        obtain ⟨k, apart, named, _, _⟩ := vouches
        exact absurd (m.ids (named.trans (Option.some.inj (leaderId.symm.trans itself)))) apart
  · intro id known
    cases leader with
    | same leader =>
        obtain ⟨k, named, url, backed⟩ := vouched.known id (leader.leaderId.symm.trans known)
        exact ⟨k, named, leader.leaderUrl.trans url, grown (leader.term ▸ backed)⟩
    | unknown _ leaderId _ => cases leaderId.symm.trans known
    | won elects _ leaderId leaderUrl term =>
        exact ⟨i, Option.some.inj (leaderId.symm.trans known), leaderUrl.trans (attached i), won elects⟩
    | heard id url term timing append _ leaderId leaderUrl here =>
        subst append
        obtain ⟨k, _, named, url, backed⟩ := vouches
        refine ⟨k, named.trans (Option.some.inj (leaderId.symm.trans known)), leaderUrl.trans (congrArg some url.symm), grown ?_⟩
        rwa [here]
  · intro term left busy
    rcases announcing_before _ p q event taken term left busy with ⟨rest, before, fewer⟩ | ⟨elects, rfl, rfl⟩
    · obtain ⟨backed, inside⟩ := vouched.announcing term rest before
      exact ⟨grown backed, List.Subset.trans fewer inside⟩
    · exact ⟨won elects, List.Subset.refl _⟩
  · intro term active left busy
    rcases round_before _ p q event taken term active left busy with ⟨others, rest, before, fewer⟩ | ⟨leading, rfl, rfl⟩
    · obtain ⟨backed, inside⟩ := vouched.round term others rest before
      exact ⟨grown backed, List.Subset.trans fewer inside⟩
    · exact ⟨leads leading, List.Subset.refl _⟩

inductive SystemMove (m : Membership ι) (c : System ι) (event : SystemEvent ι) (d : System ι) : Prop where
  | still (nodes : d.nodes = c.nodes) (elected : d.elected = c.elected)
  | moved (i : ι) (q : Process) (act : Event) (taken : (c.nodes i).next (m.settings i) act = some q)
      (nodes : d.nodes = Function.update c.nodes i q)
      (elected : d.elected = if (c.nodes i).elects (m.settings i) act then c.elected ++ [(i, q.node.term)] else c.elected)
      (source : event = .step i act ∨ act.appends = false)

theorem system_move (m : Membership ι) (c : System ι) (event : SystemEvent ι) (d : System ι) (taken : c.next m event = some d) :
    SystemMove m c event d := by
  have received (caller : ι) (reply : Option VoteReply) (timing : Timing) (taken : c.receive m caller reply timing = some d) :
      SystemMove m c event d := by
    obtain ⟨q, answered, rfl⟩ := Option.map_eq_some_iff.mp taken
    exact .moved caller q (.voteReply reply timing) answered rfl rfl (Or.inr rfl)
  cases event with
  | ask caller callee =>
      simp only [System.next, System.ask] at taken
      split at taken
      · split at taken <;> cases taken
        exact .still rfl rfl
      · cases taken
  | deliver call timing =>
      simp only [System.next, System.deliver] at taken
      split at taken
      · rename_i caller callee term found
        cases taken
        exact .moved callee _ (.voteRequest (m.settings caller).id term timing) rfl rfl rfl (Or.inr rfl)
      · cases taken
  | answer caller timing =>
      simp only [System.next, System.answer] at taken
      split at taken
      · exact received caller _ timing taken
      · cases taken
  | giveUp caller => exact received caller none ⟨0, 0⟩ taken
  | step i act =>
      simp only [System.next, System.step] at taken
      split at taken
      · cases taken
      · obtain ⟨q, stepped, rfl⟩ := Option.map_eq_some_iff.mp taken
        exact .moved i q act stepped rfl rfl (Or.inl rfl)

theorem elected_step (m : Membership ι) (c : System ι) (event : SystemEvent ι) (d : System ι) (taken : c.next m event = some d) :
    c.elected ⊆ d.elected := by
  cases system_move m c event d taken with
  | still _ elected => exact elected ▸ List.Subset.refl _
  | moved i q act _ _ elected _ =>
      rw [elected]
      split
      · exact List.subset_append_left _ _
      · exact List.Subset.refl _

theorem elected_unique (m : Membership ι) (c : System ι) (safe : Safe m c) (i j : ι) (term : Int) (first : (i, term) ∈ c.elected)
    (second : (j, term) ∈ c.elected) : i = j := by
  obtain ⟨left, leftMajority, leftGave⟩ := safe.elected i term first
  obtain ⟨right, rightMajority, rightGave⟩ := safe.elected j term second
  refine m.ids (Quorum.backed_value_unique (fun voter id => (term, id) ∈ (c.nodes voter).grants) ?_ _ _ left right
    leftMajority rightMajority leftGave rightGave)
  exact fun voter x y => (safe.honest voter).single term x y

theorem vouched_system (m : Membership ι) (own : ι → String) (attached : ∀ i, (m.settings i).selfUrl = some (own i))
    (c : System ι) (event : SystemEvent ι) (d : System ι) (taken : c.next m event = some d) (after : Safe m d)
    (vouches : ∀ i act, event = .step i act → Vouches m own c.elected i act)
    (vouched : ∀ i, Vouched m own c.elected i (c.nodes i)) (i : ι) : Vouched m own d.elected i (d.nodes i) := by
  have grown := elected_step m c event d taken
  cases system_move m c event d taken with
  | still nodes _ =>
      rw [nodes]
      exact vouched_grown m own _ _ grown i _ (vouched i)
  | moved j q act stepped nodes elected source =>
      by_cases here : i = j
      · subst here
        have now : d.nodes i = q := by rw [nodes, Function.update_self]
        rw [now]
        refine vouched_next m own attached c.elected d.elected grown i (c.nodes i) q act stepped ?_ ?_ ?_ (vouched i)
        · intro elects
          rw [elected, if_pos elects]
          exact List.mem_append_right _ List.mem_cons_self
        · intro leads
          rw [← now] at leads ⊢
          exact after.leading i leads
        · rcases source with same | plain
          · exact vouches i act same
          · exact vouches_plain m own _ i act plain
      · rw [nodes, Function.update_of_ne here]
        exact vouched_grown m own _ _ grown i _ (vouched i)

namespace Deployment

structure Led (m : Membership ι) (own : ι → String) (d : Deployment ι) : Prop where
  safe : Safe m d.system
  vouched : ∀ i, Vouched m own d.system.elected i (d.system.nodes i)
  syncs : ∀ sync ∈ d.syncs, sync.caller ≠ sync.callee ∧ (sync.caller, sync.term) ∈ d.system.elected
  pushing : ∀ i term left, d.pushing i = some (term, left) → (i, term) ∈ d.system.elected ∧ left ⊆ (m.settings i).peers

theorem outgoing_elected (m : Membership ι) (own : ι → String) (d : Deployment ι) (led : d.Led m own) (channel : Channel) (caller : ι)
    (term : Int) (left : List String) (busy : d.outgoing caller channel = some (term, left)) :
    (caller, term) ∈ d.system.elected ∧ left ⊆ (m.settings caller).peers := by
  cases channel with
  | announce =>
      simp only [outgoing, ElectionThread.announces] at busy
      split at busy
      · rename_i announcing
        cases busy
        exact (led.vouched caller).announcing _ _ announcing
      · cases busy
  | beat =>
      simp only [outgoing, HeartbeatThread.beats] at busy
      split at busy
      · rename_i round
        cases busy
        exact (led.vouched caller).round _ _ _ round
      · cases busy
  | push => exact led.pushing caller term left busy

omit [Fintype ι] in
theorem pushing_update (d : Deployment ι) (i : ι) (busy : Option (Int × List String)) (property : ι → Int → List String → Prop)
    (before : ∀ i term left, d.pushing i = some (term, left) → property i term left)
    (now : ∀ term left, busy = some (term, left) → property i term left) :
    ∀ j term left, Function.update d.pushing i busy j = some (term, left) → property j term left := by
  intro j term left same
  by_cases here : j = i
  · subst here
    rw [Function.update_self] at same
    exact now term left same
  · rw [Function.update_of_ne here] at same
    exact before j term left same

theorem led_system (m : Membership ι) (own : ι → String) (attached : ∀ i, (m.settings i).selfUrl = some (own i)) (d : Deployment ι)
    (event : SystemEvent ι) (c : System ι) (pushing : ι → Option (Int × List String)) (led : d.Led m own)
    (timely : d.system.Timely m event) (taken : d.system.next m event = some c)
    (vouches : ∀ i act, event = .step i act → Vouches m own d.system.elected i act)
    (busy : ∀ i term left, pushing i = some (term, left) → (i, term) ∈ d.system.elected ∧ left ⊆ (m.settings i).peers) :
    Led m own { d with system := c, pushing := pushing } := by
  have safe := next_safe m d.system event c led.safe timely taken
  have grown := elected_step m d.system event c taken
  exact ⟨safe, vouched_system m own attached d.system event c taken safe vouches led.vouched,
    fun sync member => (led.syncs sync member).imp_right (grown ·), fun i term left same => (busy i term left same).imp_left (grown ·)⟩

theorem led_next (m : Membership ι) (own : ι → String) (attached : ∀ i, (m.settings i).selfUrl = some (own i)) (d : Deployment ι)
    (event : DeploymentEvent ι) (e : Deployment ι) (led : d.Led m own) (orderly : d.Orderly m event) (taken : d.next m event = some e) :
    e.Led m own := by
  cases event with
  | send channel caller callee =>
      simp only [next, send] at taken
      split at taken
      · rename_i term peer left busy
        split at taken
        · rename_i named
          cases taken
          refine ⟨led.safe, led.vouched, fun sync member => ?_, led.pushing⟩
          rcases List.mem_append.mp member with old | new
          · exact led.syncs sync old
          · rw [List.mem_singleton.mp new]
            obtain ⟨backed, inside⟩ := outgoing_elected m own d led channel caller term _ busy
            refine ⟨fun itself => url_not_own_peer m caller (inside ?_), backed⟩
            rw [show m.url caller = peer from (congrArg m.url itself).trans named]
            exact List.mem_cons_self
        · cases taken
      · cases taken
  | beginPush caller =>
      simp only [next, beginPush] at taken
      split at taken
      · split at taken <;> cases taken
        · rename_i leads
          refine ⟨led.safe, led.vouched, led.syncs, pushing_update d caller _ _ led.pushing ?_⟩
          intro term left same
          cases same
          exact ⟨led.safe.leading caller leads, List.Subset.refl _⟩
        · exact led
      · cases taken
  | pushed caller =>
      simp only [next, pushed] at taken
      split at taken
      · rename_i busy
        cases taken
        refine ⟨led.safe, led.vouched, led.syncs, pushing_update d caller _ _ led.pushing ?_⟩
        intro term left same
        cases same
        exact (led.pushing caller _ _ busy).imp_right (List.Subset.trans (List.subset_cons_self _ _))
      · cases taken
        exact ⟨led.safe, led.vouched, led.syncs, pushing_update d caller _ _ led.pushing (by simp)⟩
      · cases taken
  | arrive sync timing =>
      simp only [next, arrive] at taken
      split at taken
      · rename_i caller callee term found
        obtain ⟨c, stepped, rfl⟩ := Option.map_eq_some_iff.mp taken
        refine led_system m own attached d (.step callee _) c d.pushing led ⟨?_, ?_, ?_⟩ stepped ?_ led.pushing
        · intro old member
          cases member
        · intro attaches
          cases attaches
        · intro elects
          cases elects
        · intro i act same
          cases same
          obtain ⟨apart, backed⟩ := led.syncs _ (List.mem_of_getElem? found)
          exact ⟨caller, apart, rfl, by simp [attached caller], backed⟩
      · cases taken
  | system event =>
      obtain ⟨c, moved, rfl⟩ := Option.map_eq_some_iff.mp taken
      refine led_system m own attached d event c _ led orderly.1 moved ?_ ?_
      · intro i act same
        subst same
        exact vouches_plain m own _ i act orderly.2
      · cases event.restarted with
        | some i => exact pushing_update d i none _ led.pushing (by simp)
        | none => exact led.pushing

theorem led_start (m : Membership ι) (own : ι → String) (boots : ι → ℚ × Timing) : Led m own { system := .start m boots } := by
  refine ⟨start_safe m boots, fun i => ⟨Or.inl ⟨rfl, rfl, rfl, ?_⟩, ⟨?_, fun _ => rfl, fun _ => rfl⟩, ?_, ?_, ?_,
    ?_⟩, by simp, by simp⟩
  · simp [System.start, Process.fresh, Node.boot]
  · intro leads
    cases leads
  · intro itself
    cases itself
  · intro id known
    cases known
  · intro term left busy
    cases busy
  · intro term active left busy
    cases busy

theorem elected_next (m : Membership ι) (d : Deployment ι) (event : DeploymentEvent ι) (e : Deployment ι)
    (taken : d.next m event = some e) : d.system.elected ⊆ e.system.elected := by
  cases event with
  | send channel caller callee =>
      simp only [next, send] at taken
      split at taken
      · split at taken <;> cases taken
        exact List.Subset.refl _
      · cases taken
  | beginPush caller =>
      simp only [next, beginPush] at taken
      split at taken
      · split at taken <;> cases taken <;> exact List.Subset.refl _
      · cases taken
  | pushed caller =>
      simp only [next, pushed] at taken
      split at taken <;> cases taken <;> exact List.Subset.refl _
  | arrive sync timing =>
      simp only [next, arrive] at taken
      split at taken
      · obtain ⟨c, stepped, rfl⟩ := Option.map_eq_some_iff.mp taken
        exact elected_step m d.system (.step _ _) c stepped
      · cases taken
  | system event =>
      obtain ⟨c, moved, rfl⟩ := Option.map_eq_some_iff.mp taken
      exact elected_step m d.system event c moved

theorem led_run (m : Membership ι) (own : ι → String) (attached : ∀ i, (m.settings i).selfUrl = some (own i)) (d e : Deployment ι)
    (events : List (DeploymentEvent ι)) (led : d.Led m own) (run : DeploymentRun m d events e) : e.Led m own := by
  refine Runs.run_invariant (next m) (Orderly m) (Led m own) ?_ d e events led run
  exact fun state event after held orderly taken => led_next m own attached state event after held orderly taken

end Deployment

open Deployment

-- The leader that a master names, by its id and its url, was elected in the present term
-- of the master; two masters that ever name a leader in one term name the same one.
theorem leaders_agree (m : Membership ι) (own : ι → String) (attached : ∀ i, (m.settings i).selfUrl = some (own i))
    (boots : ι → ℚ × Timing) (d e : Deployment ι) (head tail : List (DeploymentEvent ι))
    (before : DeploymentRun m { system := .start m boots } head d) (after : DeploymentRun m d tail e) :
    (∀ i id, (e.system.nodes i).node.leaderId = some id → ∃ k, (m.settings k).id = id ∧
      (e.system.nodes i).node.leaderUrl = some (own k) ∧ (k, (e.system.nodes i).node.term) ∈ e.system.elected) ∧
      ∀ i j, (d.system.nodes i).node.term = (e.system.nodes j).node.term → (d.system.nodes i).node.leaderId.isSome = true →
        (e.system.nodes j).node.leaderId.isSome = true →
          (d.system.nodes i).node.leaderId = (e.system.nodes j).node.leaderId ∧
            (d.system.nodes i).node.leaderUrl = (e.system.nodes j).node.leaderUrl := by
  have early := led_run m own attached _ d head (led_start m own boots) before
  have late := led_run m own attached d e tail early after
  have grown : d.system.elected ⊆ e.system.elected := by
    refine Runs.run_invariant (next m) (Orderly m) (fun state => d.system.elected ⊆ state.system.elected) ?_ d e tail
      (List.Subset.refl _) after
    exact fun state event last held _ taken => List.Subset.trans held (elected_next m state event last taken)
  refine ⟨fun i => (late.vouched i).known, fun i j sameTerm first second => ?_⟩
  obtain ⟨id, known⟩ := Option.isSome_iff_exists.mp first
  obtain ⟨other, alsoKnown⟩ := Option.isSome_iff_exists.mp second
  obtain ⟨k, named, url, backed⟩ := (early.vouched i).known id known
  obtain ⟨l, alsoNamed, alsoUrl, alsoBacked⟩ := (late.vouched j).known other alsoKnown
  have same : k = l := elected_unique m e.system late.safe k l _ (grown backed) (sameTerm ▸ alsoBacked)
  subst same
  exact ⟨by rw [known, alsoKnown, ← named, ← alsoNamed], url.trans alsoUrl.symm⟩

def threeAttached : Membership (Fin 3) where
  settings := fun i => { threeMasters.settings i with selfUrl := some (toString i) }
  url := threeMasters.url
  ids := threeMasters.ids
  urls := threeMasters.urls
  distinct := threeMasters.distinct
  others := threeMasters.others

-- A master wins its term, announces itself to the next, and a third one hears of it from
-- the sync loop.
def toldOfLeader (first second third : ι) : List (DeploymentEvent ι) :=
  [.system (.step first (.checkElection 10)), .system (.step first (.startElection ⟨10, 0⟩)), .system (.ask first second),
    .system (.deliver 0 ⟨10, 0⟩), .system (.answer first ⟨11, 0⟩), .system (.ask first third), .system (.giveUp first),
    .system (.step first (.decide ⟨12, 0⟩)), .send .announce first second, .arrive 0 ⟨13, 0⟩, .beginPush first, .pushed first,
    .send .push first third, .arrive 1 ⟨14, 0⟩]

theorem leaders_agree_told : ∃ d : Deployment (Fin 3), (d.system.nodes 1).node.leaderId = some "0" ∧
    (d.system.nodes 2).node.leaderId = (d.system.nodes 1).node.leaderId := by
  have followed : ∃ d ∈ Runs.follow (Deployment.next threeAttached) (Orderly threeAttached)
      { system := .start threeAttached fun _ => (0, ⟨0, 0⟩) } (toldOfLeader 0 1 2),
        (d.system.nodes 1).node.leaderId = some "0" ∧ (d.system.nodes 2).node.leaderId.isSome = true ∧
          (d.system.nodes 2).node.term = (d.system.nodes 1).node.term := by
    decide +kernel
  obtain ⟨d, reached, one, two, same⟩ := followed
  have agree := leaders_agree threeAttached toString (fun _ => rfl) _ d d _ [] (Runs.follow_run _ _ _ d _ reached) .nil
  exact ⟨d, one, (agree.2 2 1 same two (by simp [one])).1⟩

end HuddleCluster.HA
