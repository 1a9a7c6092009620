import HuddleCluster.Master.Behaviour

set_option autoImplicit false

namespace HuddleCluster.Master

def probeJoin (who : NodeRecord) (now : ℚ) : RegistryEvent :=
  .join now (.obj [("node_id", .str who.nodeId), ("address", .str who.address), ("port", who.port)]) none

def probeBeat (who : NodeRecord) : RegistryEvent := .heartbeat 0 who.nodeId (.obj [])

-- One life of a node: it joins, a tick finds it dead, and it joins again. The
-- first join is early enough for the tick, and the second one late enough to
-- keep what happened since start.
def life (m : Settings) (who : NodeRecord) (start died : ℚ) : List RegistryEvent :=
  [probeJoin who (min (start + m.flapWindow) (died - m.timeout - 1)), .tick died, probeJoin who (start + m.flapWindow)]

def lives (m : Settings) (who : NodeRecord) (start : ℚ) : Nat → List RegistryEvent
  | 0 => []
  | count + 1 => lives m who start count ++ life m who start start

-- A life that leaves no death, and then lives that leave one each.
def probe (m : Settings) (who : NodeRecord) (start : ℚ) (count : Nat) : List RegistryEvent :=
  life m who start (min (start - 1) (start + m.flapWindow)) ++ lives m who start count

def verdict (m : Settings) (deaths : Nat) : Status := if m.flapThreshold ≤ deaths then .quarantined else .alive

theorem node_run_append (m : Settings) (id : String) (node : Option NodeRecord) (first second : List RegistryEvent) :
    nodeRun m id node (first ++ second) = nodeRun m id (nodeRun m id node first) second := List.foldl_append

theorem probe_join (m : Settings) (who node : NodeRecord) (now : ℚ) :
    ∃ request, nodeStep m who.nodeId (some node) (probeJoin who now) = some (node.rejoin m now none request) := by
  have named : JoinRequest.stripped (Json.str who.nodeId) = some ⟨who.nodeId, who.named.2⟩ := by
    simp [JoinRequest.stripped, Json.orElse, Json.truthy, who.named.1, who.named.2]
  have addressed : JoinRequest.stripped (Json.str who.address) = some ⟨who.address, who.addressed.2⟩ := by
    simp [JoinRequest.stripped, Json.orElse, Json.truthy, who.addressed.1, who.addressed.2]
  refine ⟨⟨who.nodeId, who.address, who.port, .obj [], who.named, who.addressed, who.routable⟩, ?_⟩
  simp [probeJoin, nodeStep, JoinRequest.read, Json.get, Json.find?, Dict.last?, named, addressed, who.named.1, who.addressed.1,
    who.routable, NodeRecord.arrive, Json.orElse, Json.truthy]

theorem recent_all (m : Settings) (now : ℚ) (deaths : List ℚ) (later : ∀ death ∈ deaths, now - m.flapWindow ≤ death) :
    NodeRecord.recent m now deaths = deaths := by
  simpa [NodeRecord.recent, List.filter_eq_self] using later

theorem recent_append (m : Settings) (now : ℚ) (deaths more : List ℚ) :
    NodeRecord.recent m now (deaths ++ more) = NodeRecord.recent m now deaths ++ NodeRecord.recent m now more :=
  List.filter_append deaths more

structure Rejoined (m : Settings) (now : ℚ) (node after : NodeRecord) : Prop where
  time : after.lastHeartbeat = now
  live : after.live = true
  deaths : after.recentDeaths = if node.status = .dead then NodeRecord.recent m now node.recentDeaths else node.recentDeaths
  judged : node.status = .dead → after.status = verdict m after.recentDeaths.length

theorem rejoin_rejoined (m : Settings) (now : ℚ) (tlsClientCn : Option String) (request : JoinRequest) (node : NodeRecord) :
    Rejoined m now node (node.rejoin m now tlsClientCn request) := by
  simp only [NodeRecord.rejoin]
  cases before : node.status with
  | dead =>
      dsimp only
      simp only [NodeRecord.revive]
      split
      · rename_i reached
        exact ⟨rfl, rfl, by simp [before], fun _ => by simp [verdict, reached]⟩
      · rename_i below
        exact ⟨rfl, rfl, by simp [before], fun _ => by simp [verdict, below]⟩
  | leaving => exact ⟨rfl, rfl, by simp [before], by simp [before]⟩
  | alive => exact ⟨rfl, by simp [NodeRecord.live], by simp [before], by simp [before]⟩
  | quarantined => exact ⟨rfl, by simp [NodeRecord.live], by simp [before], by simp [before]⟩

theorem monitor_dies (m : Settings) (now : ℚ) (node : NodeRecord) (live : node.live = true)
    (late : m.timeout < now - node.lastHeartbeat) :
    ∃ after, node.monitor m now = some after ∧ after.status = .dead ∧
      after.recentDeaths = NodeRecord.recent m now (node.recentDeaths ++ [now]) := by
  have notDead : node.status ≠ .dead := fun dead => by simp [NodeRecord.live, dead] at live
  have stays : node.purgeDue m now = false := by simp [NodeRecord.purgeDue, notDead]
  have dies : node.timedOut m now = true := by simpa [NodeRecord.timedOut] using late
  refine ⟨{ node with status := .dead }.recordDeath m now, ?_, rfl, rfl⟩
  simp [NodeRecord.monitor, stays, NodeRecord.check, live, dies]

-- A life adds its death if it falls into the window of the last join, and the
-- flap detector then sees all the deaths there are.
theorem life_judged (m : Settings) (who node : NodeRecord) (start died : ℚ) (early : died ≤ start + m.flapWindow)
    (later : ∀ death ∈ node.recentDeaths, start ≤ death) :
    ∃ after, nodeRun m who.nodeId (some node) (life m who start died) = some after ∧
      after.recentDeaths = node.recentDeaths ++ (if start ≤ died then [died] else []) ∧
      after.status = verdict m after.recentDeaths.length := by
  have window : min (start + m.flapWindow) (died - m.timeout - 1) ≤ start + m.flapWindow := min_le_left _ _
  have timeout : min (start + m.flapWindow) (died - m.timeout - 1) ≤ died - m.timeout - 1 := min_le_right _ _
  obtain ⟨first, joined⟩ := probe_join m who node (min (start + m.flapWindow) (died - m.timeout - 1))
  obtain ⟨time, live, deaths, _⟩ := rejoin_rejoined m (min (start + m.flapWindow) (died - m.timeout - 1)) none first node
  have kept : (node.rejoin m (min (start + m.flapWindow) (died - m.timeout - 1)) none first).recentDeaths = node.recentDeaths := by
    rw [deaths]
    split
    · exact recent_all m _ node.recentDeaths fun death member => by linarith [later death member]
    · rfl
  obtain ⟨dead, ticked, status, recorded⟩ := monitor_dies m died _ live (by rw [time]; linarith)
  obtain ⟨second, back⟩ := probe_join m who dead (start + m.flapWindow)
  obtain ⟨_, _, final, judged⟩ := rejoin_rejoined m (start + m.flapWindow) none second dead
  refine ⟨dead.rejoin m (start + m.flapWindow) none second, ?_, ?_, judged status⟩
  · rw [life, nodeRun, List.foldl_cons, joined, List.foldl_cons, nodeStep, Option.bind_some, ticked, List.foldl_cons, back]
    rfl
  · have all : NodeRecord.recent m died node.recentDeaths = node.recentDeaths :=
      recent_all m died node.recentDeaths fun death member => by linarith [later death member]
    have allAgain : NodeRecord.recent m (start + m.flapWindow) node.recentDeaths = node.recentDeaths :=
      recent_all m _ node.recentDeaths fun death member => by linarith [later death member]
    rw [final, if_pos status, recorded, kept, recent_record, all, recent_append, allAgain]
    congr 1
    by_cases wide : 0 ≤ m.flapWindow
    · by_cases inside : start ≤ died <;> simp [NodeRecord.recent, wide, inside]
    · have outside : ¬ start ≤ died := by linarith
      simp [NodeRecord.recent, wide, outside]

theorem lives_judged (m : Settings) (who node : NodeRecord) (start : ℚ) (wide : 0 ≤ m.flapWindow) (count : Nat)
    (later : ∀ death ∈ node.recentDeaths, start ≤ death) (judged : node.status = verdict m node.recentDeaths.length) :
    ∃ after, nodeRun m who.nodeId (some node) (lives m who start count) = some after ∧
      after.recentDeaths = node.recentDeaths ++ List.replicate count start ∧
      after.status = verdict m after.recentDeaths.length := by
  induction count with
  | zero => exact ⟨node, rfl, by simp, judged⟩
  | succ count ih =>
      obtain ⟨before, reached, deaths, _⟩ := ih
      have laterStill : ∀ death ∈ before.recentDeaths, start ≤ death := by
        intro death member
        rw [deaths, List.mem_append] at member
        rcases member with old | new
        · exact later death old
        · exact le_of_eq (List.eq_of_mem_replicate new).symm
      obtain ⟨after, lived, grown, status⟩ := life_judged m who before start start (by linarith) laterStill
      refine ⟨after, ?_, ?_, status⟩
      · rw [lives, node_run_append, reached, lived]
      · rw [grown, deaths, if_pos (le_refl start), List.append_assoc, List.replicate_succ']

theorem probe_judged (m : Settings) (who node : NodeRecord) (start : ℚ) (count : Nat) (wide : count = 0 ∨ 0 ≤ m.flapWindow)
    (later : ∀ death ∈ node.recentDeaths, start ≤ death) :
    ∃ after, nodeRun m who.nodeId (some node) (probe m who start count) = some after ∧
      after.status = verdict m (node.recentDeaths.length + count) := by
  have before : ¬ start ≤ min (start - 1) (start + m.flapWindow) := by
    intro reached
    linarith [min_le_left (start - 1) (start + m.flapWindow)]
  obtain ⟨fresh, lived, deaths, judged⟩ := life_judged m who node start (min (start - 1) (start + m.flapWindow))
    (min_le_right _ _) later
  rw [if_neg before, List.append_nil] at deaths
  rw [probe, node_run_append, lived]
  rcases wide with empty | wide
  · subst empty
    exact ⟨fresh, rfl, by rw [judged, deaths, Nat.add_zero]⟩
  · obtain ⟨after, reached, grown, status⟩ := lives_judged m who fresh start wide count (by rwa [deaths]) judged
    exact ⟨after, reached, by rw [status, grown, deaths, List.length_append, List.length_replicate]⟩

theorem same_behaviour_deaths (m : Settings) (r other : Registry) (id : String) (a b : NodeRecord)
    (same : SameBehaviour m r other) (found : r.nodes.get? id = some a) (foundOther : other.nodes.get? id = some b)
    (forgotten : b.recentDeaths = []) :
    a.recentDeaths = [] ∨ m.flapThreshold ≤ 0 ∨ m.flapWindow < 0 ∧ a.recentDeaths.length < m.flapThreshold := by
  by_contra different
  push Not at different
  obtain ⟨nonempty, positive, reachable⟩ := different
  have name : a.nodeId = id := r.keyed id a found
  have counts : ∃ count : Nat, (count = 0 ∨ 0 ≤ m.flapWindow) ∧
    m.flapThreshold ≤ ((a.recentDeaths.length + count : Nat) : Int) ∧
      ((0 + count : Nat) : Int) < m.flapThreshold := by
    have one := List.length_pos_iff.mpr nonempty
    rcases lt_or_ge m.flapWindow 0 with negative | wide
    · have many := reachable negative
      exact ⟨0, Or.inl rfl, by omega, by omega⟩
    · exact ⟨(m.flapThreshold - 1).toNat, Or.inr wide, by omega, by omega⟩
  obtain ⟨count, wide, reached, below⟩ := counts
  obtain ⟨start, later⟩ := (List.finite_toSet a.recentDeaths).bddBelow
  obtain ⟨afterA, runA, statusA⟩ := probe_judged m a a start count wide fun death member => later member
  obtain ⟨afterB, runB, statusB⟩ := probe_judged m a b start count wide (by simp [forgotten])
  have observed := same (probe m a start count) id
  rw [Registry.run_node, Registry.run_node, found, foundOther, ← name, runA, runB] at observed
  simp only [observe, Option.map_some, Option.some.injEq, Prod.mk.injEq] at observed
  rw [forgotten, List.length_nil] at statusB
  rw [statusA, statusB, verdict, verdict, if_pos reached, if_neg (by omega)] at observed
  exact absurd observed.1 (by decide)

theorem beat_quarantined (m : Settings) (who node : NodeRecord) (status : node.status = .quarantined) :
    ∃ after, nodeStep m who.nodeId (some node) (probeBeat who) = some after ∧
      (m.quarantineRecovery ≤ ((node.consecutiveAliveHeartbeats + 1 : Nat) : Int) → after.status = .alive) ∧
        (((node.consecutiveAliveHeartbeats + 1 : Nat) : Int) < m.quarantineRecovery →
          after.status = .quarantined ∧ after.consecutiveAliveHeartbeats = node.consecutiveAliveHeartbeats + 1) := by
  refine ⟨node.heartbeat m 0 [], by simp [nodeStep, probeBeat, NodeRecord.receive], ?_⟩
  unfold NodeRecord.heartbeat
  dsimp only [NodeRecord.beat]
  rw [status]
  dsimp only
  constructor
  · intro enough
    rw [if_pos enough]
  · intro below
    rw [if_neg (not_le.mpr below)]
    exact ⟨rfl, rfl⟩

theorem beats_counted (m : Settings) (who node : NodeRecord) (count : Nat) (status : node.status = .quarantined)
    (below : count = 0 ∨ ((node.consecutiveAliveHeartbeats + count : Nat) : Int) < m.quarantineRecovery) :
    ∃ after, nodeRun m who.nodeId (some node) (List.replicate count (probeBeat who)) = some after ∧
      after.status = .quarantined ∧ after.consecutiveAliveHeartbeats = node.consecutiveAliveHeartbeats + count := by
  induction count generalizing node with
  | zero => exact ⟨node, rfl, status, rfl⟩
  | succ count ih =>
      have bound : ((node.consecutiveAliveHeartbeats + (count + 1) : Nat) : Int) < m.quarantineRecovery := by omega
      obtain ⟨next, taken, _, stays⟩ := beat_quarantined m who node status
      obtain ⟨still, counted⟩ := stays (by omega)
      obtain ⟨after, reached, quarantined, total⟩ := ih next still (by omega)
      refine ⟨after, ?_, quarantined, by omega⟩
      rw [List.replicate_succ, nodeRun, List.foldl_cons, taken]
      exact reached

theorem same_behaviour_counted (m : Settings) (r other : Registry) (id : String) (a b : NodeRecord)
    (same : SameBehaviour m r other) (found : r.nodes.get? id = some a) (foundOther : other.nodes.get? id = some b)
    (quarantined : a.status = .quarantined) (alike : b.status = a.status) (restarted : b.consecutiveAliveHeartbeats = 0) :
    a.consecutiveAliveHeartbeats = 0 ∨ m.quarantineRecovery ≤ 1 := by
  by_contra different
  push Not at different
  obtain ⟨counted, several⟩ := different
  have name : a.nodeId = id := r.keyed id a found
  have chosen : ∃ count : Nat, (count = 0 ∨ ((a.consecutiveAliveHeartbeats + count : Nat) : Int) < m.quarantineRecovery) ∧
      m.quarantineRecovery ≤ ((a.consecutiveAliveHeartbeats + count + 1 : Nat) : Int) ∧
        ((0 + count + 1 : Nat) : Int) < m.quarantineRecovery :=
    ⟨(m.quarantineRecovery - 1 - a.consecutiveAliveHeartbeats).toNat, by omega, by omega, by omega⟩
  obtain ⟨count, below, enough, short⟩ := chosen
  obtain ⟨midA, runA, statusA, countA⟩ := beats_counted m a a count quarantined below
  obtain ⟨midB, runB, statusB, countB⟩ := beats_counted m a b count (alike.trans quarantined) (by omega)
  obtain ⟨lastA, stepA, promoted, _⟩ := beat_quarantined m a midA statusA
  obtain ⟨lastB, stepB, _, stays⟩ := beat_quarantined m a midB statusB
  have alive := promoted (by rw [countA]; exact enough)
  have waiting := (stays (by rw [countB, restarted]; exact short)).1
  have observed := same (List.replicate count (probeBeat a) ++ [probeBeat a]) id
  rw [Registry.run_node, Registry.run_node, found, foundOther, ← name, node_run_append, node_run_append, runA, runB] at observed
  simp [nodeRun, stepA, stepB, observe, alive, waiting] at observed

end HuddleCluster.Master
