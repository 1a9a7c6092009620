import HuddleCluster.HA.Snapshot
import HuddleCluster.HA.Voting

set_option autoImplicit false

namespace HuddleCluster.HA

-- A call of handle_append_entries that passed the term check and has not
-- returned. Its snapshot is applied outside the lock.
structure AppendCall where
  term : Int
  snapshot : Option Json

-- What happened on a follower, in order: terms that were accepted, and calls
-- that replied success, with the nodes each of them assigned.
inductive Mark where
  | accepted (term : Int)
  | replied (call : AppendCall) (assigned : Option ReplicaNodes)

-- A node with its master's registry, if one is attached, and the calls in
-- flight. The log is not part of the program.
structure Follower where
  node : Node
  registry : Option ReplicaNodes
  calls : List AppendCall := []
  log : List Mark := []

-- The two critical sections of a call. Any calls may be between them.
inductive FollowerEvent where
  | appendEntries (leaderId leaderUrl : String) (term : Int) (snapshot : Option Json) (timing : Timing)
  | finish (index : Nat) (clock : String → Readings)

namespace Follower

def appendEntries (s : Settings) (f : Follower) (leaderId leaderUrl : String) (term : Int) (snapshot : Option Json)
    (timing : Timing) : Follower :=
  let answer := f.node.acceptAppend s timing leaderId leaderUrl term
  if answer.1.success then
    { f with node := answer.2, calls := f.calls ++ [⟨term, snapshot⟩], log := f.log ++ [.accepted term] }
  else { f with node := answer.2 }

def finish (f : Follower) (index : Nat) (clock : String → Readings) : Option Follower :=
  match f.calls[index]? with
  | none => none
  | some call => some { f with
      registry := match call.snapshot with
        | none => f.registry
        | some snapshot => applySnapshot clock snapshot f.registry
      calls := f.calls.eraseIdx index
      log := f.log ++ [.replied call (call.snapshot.bind fun snapshot => newNodes clock snapshot f.registry)] }

def next (s : Settings) (f : Follower) : FollowerEvent → Option Follower
  | .appendEntries leaderId leaderUrl term snapshot timing => some (f.appendEntries s leaderId leaderUrl term snapshot timing)
  | .finish index clock => f.finish index clock

-- A snapshot that is applied finds a master, can be decoded, says nothing that is not
-- read, and comes from the term the node is still in.
def Fitting (f : Follower) : FollowerEvent → Prop
  | .appendEntries .. => True
  | .finish index _ => ∀ call ∈ f.calls[index]?, ∀ snapshot ∈ call.snapshot,
      f.node.term ≤ call.term ∧ f.registry.isSome = true ∧ wellFormed snapshot = true ∧ AllRead snapshot

end Follower

abbrev FollowerRun (s : Settings) (allowed : Follower → FollowerEvent → Prop) := Runs.Run (Follower.next s) allowed

-- No nodes are assigned from a term below one that was accepted before.
def Mark.InOrder (earlier later : Mark) : Prop :=
  ∀ term call nodes, earlier = .accepted term → later = .replied call (some nodes) → term ≤ call.term

-- A call that replied success has assigned the whole of its snapshot.
def Mark.Whole (mark : Mark) : Prop :=
  ∀ call assigned snapshot, mark = .replied call assigned → call.snapshot = some snapshot →
    ∃ nodes, assigned = some nodes ∧ AppliedInFull snapshot nodes

structure Orderly (log : List Mark) : Prop where
  inOrder : log.Pairwise Mark.InOrder
  whole : ∀ mark ∈ log, mark.Whole

structure Settled (f : Follower) : Prop where
  accepted : ∀ term, .accepted term ∈ f.log → term ≤ f.node.term
  current : f.calls ≠ [] → .accepted f.node.term ∈ f.log

theorem orderly_snoc (log : List Mark) (mark : Mark) :
    Orderly (log ++ [mark]) ↔ Orderly log ∧ (∀ earlier ∈ log, earlier.InOrder mark) ∧ mark.Whole := by
  constructor
  · rintro ⟨inOrder, whole⟩
    rw [List.pairwise_append] at inOrder
    exact ⟨⟨inOrder.1, fun old member => whole old (List.mem_append_left _ member)⟩,
      fun earlier member => inOrder.2.2 earlier member mark (by simp), whole mark (by simp)⟩
  · rintro ⟨⟨inOrder, whole⟩, later, last⟩
    constructor
    · rw [List.pairwise_append]
      refine ⟨inOrder, by simp, ?_⟩
      intro earlier member final single
      rw [List.mem_singleton.mp single]
      exact later earlier member
    · intro old member
      rcases List.mem_append.mp member with before | new
      · exact whole old before
      · rw [List.mem_singleton.mp new]
        exact last

theorem append_settled (s : Settings) (f : Follower) (leaderId leaderUrl : String) (term : Int) (snapshot : Option Json)
    (timing : Timing) (settled : Settled f) : Settled (f.appendEntries s leaderId leaderUrl term snapshot timing) := by
  obtain ⟨accepted, current⟩ := settled
  simp only [Follower.appendEntries]
  rcases accept_append_cases s timing leaderId leaderUrl term f.node with ⟨refused, same⟩ | ⟨answer, _, change⟩
  · simp only [refused, same]
    exact ⟨accepted, current⟩
  · have reached : f.node.term ≤ term ∧ (f.node.acceptAppend s timing leaderId leaderUrl term).2.term = term := by
      rcases change with ⟨later, written⟩ | ⟨equal, same⟩
      · exact ⟨le_of_lt later, written.term⟩
      · exact ⟨le_of_eq equal, same.term.trans equal⟩
    simp only [answer, if_true]
    constructor
    · intro old member
      rw [reached.2]
      simp only [List.mem_append, List.mem_singleton, Mark.accepted.injEq] at member
      rcases member with before | new
      · exact le_trans (accepted old before) reached.1
      · exact le_of_eq new
    · intro _
      rw [reached.2]
      simp

theorem append_orderly (s : Settings) (f : Follower) (leaderId leaderUrl : String) (term : Int) (snapshot : Option Json)
    (timing : Timing) : Orderly (f.appendEntries s leaderId leaderUrl term snapshot timing).log ↔ Orderly f.log := by
  simp only [Follower.appendEntries]
  split
  · rw [orderly_snoc]
    constructor
    · exact fun orderly => orderly.1
    · refine fun orderly => ⟨orderly, ?_, ?_⟩
      · intro earlier _ accepted call nodes _ impossible
        cases impossible
      · intro call assigned snapshot impossible
        cases impossible
  · exact Iff.rfl

theorem reply_orderly (f : Follower) (call : AppendCall) (clock : String → Readings) (settled : Settled f)
    (current : .accepted f.node.term ∈ f.log) :
    Orderly (f.log ++ [.replied call (call.snapshot.bind fun snapshot => newNodes clock snapshot f.registry)]) ↔
      Orderly f.log ∧ ∀ snapshot ∈ call.snapshot,
        f.node.term ≤ call.term ∧ f.registry.isSome = true ∧ wellFormed snapshot = true ∧ AllRead snapshot := by
  rw [orderly_snoc]
  refine and_congr_right fun _ => ?_
  constructor
  · rintro ⟨ordered, whole⟩ snapshot carried
    obtain ⟨nodes, assigned, full⟩ := whole call _ snapshot rfl carried
    have last := ordered _ current f.node.term call nodes rfl (by rw [assigned])
    simp only [Option.mem_def.mp carried, Option.bind_some, newNodes, Option.bind_eq_some_iff] at assigned
    obtain ⟨old, attached, decoded⟩ := assigned
    refine ⟨last, by simp [attached], ?_, (decode_snapshot_full clock snapshot nodes decoded).mp full⟩
    rw [← decode_snapshot_well_formed clock snapshot, decoded]
    rfl
  · intro fitting
    constructor
    · intro earlier member term other nodes accepted reply
      simp only [Mark.replied.injEq] at reply
      obtain ⟨same, assigned⟩ := reply
      obtain ⟨snapshot, carried, _⟩ := Option.bind_eq_some_iff.mp assigned
      rw [← same]
      exact le_trans (settled.accepted term (accepted ▸ member)) (fitting snapshot carried).1
    · intro other assigned snapshot reply carried
      simp only [Mark.replied.injEq] at reply
      obtain ⟨same, produced⟩ := reply
      rw [← same] at carried
      obtain ⟨_, attached, formed, read⟩ := fitting snapshot carried
      obtain ⟨old, registry⟩ := Option.isSome_iff_exists.mp attached
      rw [← decode_snapshot_well_formed clock snapshot] at formed
      obtain ⟨nodes, decoded⟩ := Option.isSome_iff_exists.mp formed
      refine ⟨nodes, ?_, (decode_snapshot_full clock snapshot nodes decoded).mpr read⟩
      rw [← produced, carried]
      simp [newNodes, registry, decoded]

theorem follower_step (s : Settings) (f g : Follower) (event : FollowerEvent) (settled : Settled f)
    (taken : f.next s event = some g) : Settled g ∧ (Orderly g.log ↔ Orderly f.log ∧ f.Fitting event) := by
  cases event with
  | appendEntries leaderId leaderUrl term snapshot timing =>
      cases taken
      refine ⟨append_settled s f leaderId leaderUrl term snapshot timing settled, ?_⟩
      rw [append_orderly]
      exact (and_iff_left trivial).symm
  | finish index clock =>
      simp only [Follower.next, Follower.finish] at taken
      cases found : f.calls[index]? with
      | none => simp [found] at taken
      | some call =>
          simp only [found, Option.some.injEq] at taken
          have current : .accepted f.node.term ∈ f.log := settled.current fun absent => by simp [absent] at found
          rw [← taken]
          refine ⟨⟨?_, ?_⟩, ?_⟩
          · intro term member
            simp only [List.mem_append, List.mem_singleton, reduceCtorEq, or_false] at member
            exact settled.accepted term member
          · exact fun _ => List.mem_append_left _ current
          · rw [reply_orderly f call clock settled current]
            simp [Follower.Fitting, found]

def oneNode (id : String) : Json :=
  .obj [(id, .obj [("node_id", .str id), ("address", .str "10.0.0.1"), ("port", .int 8080)])]

def brokenNode (id : String) : Json := .obj [(id, .obj [])]

def masterB : Settings := { id := "b" }

def followerB : Follower := { node := .boot 0 masterB ⟨0, 0⟩ none, registry := some .empty }

def appendA (term : Int) (snapshot : Json) : FollowerEvent := .appendEntries "a" "http://a" term (some snapshot) ⟨1, 0⟩

def inTurn : List FollowerEvent :=
  [appendA 1 (oneNode "x"), .finish 0 fun _ => ⟨2, 2⟩, appendA 2 (oneNode "y"), .finish 0 fun _ => ⟨3, 3⟩]

def overtaken : List FollowerEvent :=
  [appendA 1 (oneNode "old"), appendA 2 (oneNode "new"), .finish 1 fun _ => ⟨2, 2⟩, .finish 0 fun _ => ⟨3, 3⟩]

def loadedNode (id : String) : Json :=
  .obj [(id, .obj [("node_id", .str id), ("address", .str "10.0.0.1"), ("port", .int 8080), ("metrics", .obj [("cpu", .int 1)])])]

end HuddleCluster.HA
