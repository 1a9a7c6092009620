import HuddleCluster.Lib.Runs
import HuddleCluster.Master.NodeMachine

set_option autoImplicit false

namespace HuddleCluster.Master

namespace RegistryEvent

def time : RegistryEvent → ℚ
  | .heartbeat now _ _ => now
  | .join now _ _ => now
  | .tick now => now

def isJoin : RegistryEvent → Bool
  | .join _ _ _ => true
  | _ => false

-- A heartbeat of the node that the master answers with ok.
def heard (m : Settings) (r : Registry) (id : String) : RegistryEvent → Bool
  | .heartbeat now nodeId data =>
      decide (nodeId = id) &&
        match (r.handleHeartbeat m now nodeId data).1 with
        | .ok _ => true
        | _ => false
  | _ => false

def purges (m : Settings) (r : Registry) (id : String) : RegistryEvent → Bool
  | .tick now => (r.nodes.get? id).any fun node => node.purgeDue m now
  | _ => false

end RegistryEvent

-- A registry and what a watcher of one node writes down: the last reading of the
-- clock, the deaths since the last promotion, the heartbeats since the last death,
-- and whether the quarantine was entered by a join. For every step from dead to
-- alive it logs the deaths in the window, for every promotion the heartbeats.
structure FlapWatch where
  registry : Registry
  clock : ℚ
  deaths : List ℚ
  heard : Nat
  rejoined : Bool
  revivals : List Nat
  promotions : List Nat

def FlapWatch.status (s : FlapWatch) (id : String) : Option Status := (s.registry.nodes.get? id).map NodeRecord.status

def FlapWatch.noted (m : Settings) (event : RegistryEvent) (s : FlapWatch) : Option Status → Option Status → FlapWatch
  | some .dead, some .alive => { s with revivals := s.revivals ++ [(NodeRecord.recent m event.time s.deaths).length] }
  | some .dead, some .quarantined => { s with rejoined := event.isJoin }
  | some .quarantined, some .alive => { s with deaths := [], promotions := s.promotions ++ [s.heard] }
  | some .alive, some .dead | some .quarantined, some .dead => { s with deaths := s.deaths ++ [event.time], heard := 0 }
  | _, _ => s

-- The clock does not go back and the node is not purged.
def watchStep (m : Settings) (id : String) (s : FlapWatch) (event : RegistryEvent) : Option FlapWatch :=
  if event.time < s.clock ∨ event.purges m s.registry id = true then none
  else
    let heard := s.heard + if event.heard m s.registry id then 1 else 0
    let moved := { s with registry := s.registry.step m event, clock := event.time, heard := heard }
    some (moved.noted m event (s.status id) (moved.status id))

abbrev FlapRun (m : Settings) (id : String) (allowed : FlapWatch → RegistryEvent → Prop) := Runs.Run (watchStep m id) allowed

def FlapWatch.start (r : Registry) (clock : ℚ) : FlapWatch := ⟨r, clock, [], 0, false, [], []⟩

structure FlapLaw (m : Settings) (s : FlapWatch) : Prop where
  revivals : ∀ deaths ∈ s.revivals, (deaths : Int) < m.flapThreshold
  promotions : ∀ heartbeats ∈ s.promotions, m.quarantineRecovery ≤ (heartbeats : Int)

-- The heartbeat that promotes a node ends a quarantine entered by a heartbeat. A
-- quarantine entered by a join counts the join as a heartbeat.
def Earned (m : Settings) (id : String) (s : FlapWatch) (event : RegistryEvent) : Prop :=
  event.heard m s.registry id = true → ∀ node ∈ s.registry.nodes.get? id, node.status = .quarantined →
    m.quarantineRecovery ≤ ((node.consecutiveAliveHeartbeats + 1 : Nat) : Int) → s.rejoined = false ∨ m.quarantineRecovery ≤ 1

inductive Turned (m : Settings) (now : ℚ) (join heard : Bool) (node after : NodeRecord) : Prop where
  | kept (status : after.status = node.status) (deaths : after.recentDeaths = node.recentDeaths)
      (count : after.consecutiveAliveHeartbeats = node.consecutiveAliveHeartbeats)
      (quiet : node.status = .quarantined ∨ node.status = .dead → heard = false)
  | trusted (was : node.status = .dead) (status : after.status = .alive)
      (deaths : after.recentDeaths = NodeRecord.recent m now node.recentDeaths)
      (few : (after.recentDeaths.length : Int) < m.flapThreshold)
  | quarantined (was : node.status = .dead) (status : after.status = .quarantined)
      (deaths : after.recentDeaths = NodeRecord.recent m now node.recentDeaths)
      (count : after.consecutiveAliveHeartbeats = 1) (how : heard = !join)
  | counted (was : node.status = .quarantined) (status : after.status = .quarantined) (listened : heard = true)
      (deaths : after.recentDeaths = node.recentDeaths)
      (count : after.consecutiveAliveHeartbeats = node.consecutiveAliveHeartbeats + 1)
      (few : ((node.consecutiveAliveHeartbeats + 1 : Nat) : Int) < m.quarantineRecovery)
  | promoted (was : node.status = .quarantined) (status : after.status = .alive) (listened : heard = true)
      (deaths : after.recentDeaths = []) (enough : m.quarantineRecovery ≤ ((node.consecutiveAliveHeartbeats + 1 : Nat) : Int))
  | died (was : node.live = true) (status : after.status = .dead) (silence : heard = false)
      (deaths : after.recentDeaths = NodeRecord.recent m now (node.recentDeaths ++ [now]))

theorem revive_turned (m : Settings) (now : ℚ) (join heard : Bool) (node fresh : NodeRecord) (was : node.status = .dead)
    (deaths : fresh.recentDeaths = node.recentDeaths) (how : heard = !join) :
    Turned m now join heard node (fresh.revive m now) := by
  simp only [NodeRecord.revive, deaths]
  split
  · exact .quarantined was rfl rfl rfl how
  · rename_i few
    exact .trusted was rfl rfl (not_le.mp few)

theorem heartbeat_turned (m : Settings) (now : ℚ) (fields : List (String × Json)) (node : NodeRecord) :
    Turned m now false true node (node.heartbeat m now fields) := by
  simp only [NodeRecord.heartbeat]
  cases was : node.status with
  | dead =>
      simp only [NodeRecord.beat, was]
      exact revive_turned m now false true node _ was rfl rfl
  | quarantined =>
      simp only [NodeRecord.beat, was]
      split
      · rename_i enough
        exact .promoted was rfl rfl rfl enough
      · rename_i few
        exact .counted was rfl rfl rfl rfl (not_le.mp few)
  | alive | leaving =>
      simp only [NodeRecord.beat, was]
      exact .kept was.symm rfl rfl (by simp [was])

theorem rejoin_turned (m : Settings) (now : ℚ) (tlsClientCn : Option String) (request : JoinRequest) (node : NodeRecord)
    (staying : node.status ≠ .leaving) : Turned m now true false node (node.rejoin m now tlsClientCn request) := by
  simp only [NodeRecord.rejoin]
  cases was : node.status with
  | dead => exact revive_turned m now true false node _ was rfl rfl
  | leaving => exact absurd was staying
  | alive | quarantined => exact .kept was.symm rfl rfl fun _ => rfl

theorem check_turned (m : Settings) (now : ℚ) (node : NodeRecord) : Turned m now false false node (node.check m now) := by
  simp only [NodeRecord.check]
  split
  · rename_i late
    exact .died (Bool.and_eq_true _ _ ▸ late).1 rfl rfl rfl
  · exact .kept rfl rfl rfl fun _ => rfl

theorem node_turned (m : Settings) (r : Registry) (id : String) (event : RegistryEvent) (node : NodeRecord)
    (found : r.nodes.get? id = some node) (staying : node.status ≠ .leaving) (unpurged : event.purges m r id = false) :
    ∃ after, (r.step m event).nodes.get? id = some after ∧ Turned m event.time event.isJoin (event.heard m r id) node after := by
  rw [Registry.step_node, found]
  cases event with
  | heartbeat now nodeId data =>
      by_cases same : nodeId = id
      · refine ⟨node.receive m now data, by simp [nodeStep, same], ?_⟩
        cases data with
        | obj fields =>
            have heard : RegistryEvent.heard m r id (.heartbeat now nodeId (.obj fields)) = true := by
              simp [RegistryEvent.heard, same, Registry.handleHeartbeat, found]
            rw [heard]
            exact heartbeat_turned m now fields node
        | _ => exact .kept rfl rfl rfl fun _ => by simp [RegistryEvent.heard, Registry.handleHeartbeat, same, found]
      · exact ⟨node, by simp [nodeStep, same], .kept rfl rfl rfl fun _ => by simp [RegistryEvent.heard, same]⟩
  | join now data tlsClientCn =>
      cases read : JoinRequest.read data with
      | error reply => exact ⟨node, by simp [nodeStep, read], .kept rfl rfl rfl fun _ => rfl⟩
      | ok request =>
          by_cases same : request.nodeId = id
          · refine ⟨node.rejoin m now tlsClientCn request, by simp [nodeStep, read, same, NodeRecord.arrive], ?_⟩
            exact rejoin_turned m now tlsClientCn request node staying
          · exact ⟨node, by simp [nodeStep, read, same], .kept rfl rfl rfl fun _ => rfl⟩
  | tick now =>
      have stays : node.purgeDue m now = false := by simpa [RegistryEvent.purges, found] using unpurged
      exact ⟨node.check m now, by simp [nodeStep, NodeRecord.monitor, stays], check_turned m now node⟩

theorem node_arrives (m : Settings) (r : Registry) (id : String) (event : RegistryEvent) (after : NodeRecord)
    (absent : r.nodes.get? id = none) (found : (r.step m event).nodes.get? id = some after) :
    after.status = .alive ∧ after.recentDeaths = [] := by
  rw [Registry.step_node, absent] at found
  cases event with
  | heartbeat now nodeId data => simp [nodeStep] at found
  | join now data tlsClientCn =>
      simp only [nodeStep] at found
      split at found
      · cases found
      · split at found
        · rw [← Option.some.inj found]
          exact ⟨rfl, rfl⟩
        · cases found
  | tick now => simp [nodeStep] at found

theorem recent_later (m : Settings) (now later : ℚ) (deaths : List ℚ) (order : now ≤ later) :
    NodeRecord.recent m later (NodeRecord.recent m now deaths) = NodeRecord.recent m later deaths := by
  simp only [NodeRecord.recent, List.filter_filter]
  apply List.filter_congr
  intro death _
  rw [Bool.eq_iff_iff]
  simp only [Bool.and_eq_true, decide_eq_true_eq]
  constructor
  · exact And.left
  · intro inside
    exact ⟨inside, by linarith⟩

-- The record has pruned only deaths that no later window contains, and its counter
-- is one ahead of the heartbeats if a join entered the quarantine.
structure Flapping (m : Settings) (s : FlapWatch) (node : NodeRecord) : Prop where
  staying : node.status ≠ .leaving
  recent : ∀ now, s.clock ≤ now → NodeRecord.recent m now node.recentDeaths = NodeRecord.recent m now s.deaths
  silent : node.status = .dead → s.heard = 0
  counted : node.status = .quarantined → node.consecutiveAliveHeartbeats = s.heard + if s.rejoined then 1 else 0
  started : node.status = .quarantined → node.consecutiveAliveHeartbeats = 1 ∨
    1 < node.consecutiveAliveHeartbeats ∧ (node.consecutiveAliveHeartbeats : Int) < m.quarantineRecovery

def Watched (m : Settings) (id : String) (s : FlapWatch) : Prop :=
  match s.registry.nodes.get? id with
  | none => s.deaths = []
  | some node => Flapping m s node

theorem flap_law_same (m : Settings) (s after : FlapWatch) (revivals : after.revivals = s.revivals)
    (promotions : after.promotions = s.promotions) : FlapLaw m after ↔ FlapLaw m s := by
  constructor <;> rintro ⟨first, second⟩
  · exact ⟨revivals ▸ first, promotions ▸ second⟩
  · exact ⟨revivals ▸ first, promotions ▸ second⟩

theorem flap_law_revived (m : Settings) (s after : FlapWatch) (deaths : Nat) (below : (deaths : Int) < m.flapThreshold)
    (revivals : after.revivals = s.revivals ++ [deaths]) (promotions : after.promotions = s.promotions) :
    FlapLaw m after ↔ FlapLaw m s := by
  constructor
  · rintro ⟨first, second⟩
    rw [revivals, List.forall_mem_append] at first
    exact ⟨first.1, promotions ▸ second⟩
  · rintro ⟨first, second⟩
    refine ⟨?_, promotions ▸ second⟩
    rw [revivals, List.forall_mem_append]
    exact ⟨first, by simpa using below⟩

theorem flap_law_promoted (m : Settings) (s after : FlapWatch) (heartbeats : Nat) (revivals : after.revivals = s.revivals)
    (promotions : after.promotions = s.promotions ++ [heartbeats]) :
    FlapLaw m after ↔ FlapLaw m s ∧ m.quarantineRecovery ≤ (heartbeats : Int) := by
  constructor
  · rintro ⟨first, second⟩
    rw [promotions, List.forall_mem_append, List.forall_mem_singleton] at second
    exact ⟨⟨revivals ▸ first, second.1⟩, second.2⟩
  · rintro ⟨⟨first, second⟩, enough⟩
    refine ⟨revivals ▸ first, ?_⟩
    rw [promotions, List.forall_mem_append, List.forall_mem_singleton]
    exact ⟨second, enough⟩

-- A promotion has its heartbeats unless the join that entered the quarantine was
-- counted as one.
theorem promotion_heartbeats (m : Settings) (s : FlapWatch) (node : NodeRecord) (flapping : Flapping m s node)
    (was : node.status = .quarantined) (enough : m.quarantineRecovery ≤ ((node.consecutiveAliveHeartbeats + 1 : Nat) : Int)) :
    m.quarantineRecovery ≤ ((s.heard + 1 : Nat) : Int) ↔ s.rejoined = false ∨ m.quarantineRecovery ≤ 1 := by
  have counted := flapping.counted was
  cases rejoined : s.rejoined with
  | false =>
      rw [rejoined, if_neg Bool.false_ne_true, Nat.add_zero] at counted
      rw [← counted]
      exact iff_of_true enough (Or.inl rfl)
  | true =>
      rw [rejoined, if_pos rfl] at counted
      rw [← counted]
      rcases flapping.started was with one | ⟨more, below⟩
      · simp [one]
      · constructor
        · intro reached
          omega
        · rintro (never | small)
          · cases never
          · omega

theorem flapping_turned (m : Settings) (s : FlapWatch) (registry : Registry) (event : RegistryEvent) (heard : Bool)
    (node next : NodeRecord) (order : s.clock ≤ event.time) (flapping : Flapping m s node)
    (turned : Turned m event.time event.isJoin heard node next) :
    let moved := { s with registry := registry, clock := event.time, heard := s.heard + if heard then 1 else 0 }
    let after := moved.noted m event (some node.status) (some next.status)
    Flapping m after next ∧ (FlapLaw m after ↔ FlapLaw m s ∧ (heard = true → node.status = .quarantined →
      m.quarantineRecovery ≤ ((node.consecutiveAliveHeartbeats + 1 : Nat) : Int) → s.rejoined = false ∨
      m.quarantineRecovery ≤ 1)) := by
  intro moved after
  have window : ∀ now, event.time ≤ now → NodeRecord.recent m now node.recentDeaths = NodeRecord.recent m now s.deaths :=
    fun now later => flapping.recent now (le_trans order later)
  have pruned : ∀ now, event.time ≤ now →
      NodeRecord.recent m now (NodeRecord.recent m event.time node.recentDeaths) = NodeRecord.recent m now s.deaths := by
    intro now later
    rw [recent_later m event.time now _ later, window now later]
  cases turned with
  | kept status deaths count quiet =>
      have same : after = moved := by
        simp only [after, status]
        cases node.status <;> rfl
      rw [same]
      refine ⟨⟨?_, ?_, ?_, ?_, ?_⟩, ?_⟩
      · rw [status]
        exact flapping.staying
      · rw [deaths]
        exact window
      · intro dead
        rw [status] at dead
        simp [moved, quiet (Or.inr dead), flapping.silent dead]
      · intro held
        rw [status] at held
        simp [moved, quiet (Or.inl held), count, flapping.counted held]
      · intro held
        rw [status] at held
        rw [count]
        exact flapping.started held
      · rw [flap_law_same m s moved rfl rfl, iff_self_and]
        intro _ listened held
        rw [quiet (Or.inl held)] at listened
        cases listened
  | trusted was status deaths few =>
      have changed : after = { moved with revivals := s.revivals ++ [(NodeRecord.recent m event.time s.deaths).length] } := by
        simp only [after, was, status, FlapWatch.noted, moved]
      rw [changed]
      refine ⟨⟨by simp [status], ?_, by simp [status], by simp [status], by simp [status]⟩, ?_⟩
      · rw [deaths]
        exact pruned
      · rw [deaths, window event.time (le_refl _)] at few
        have law := flap_law_revived m s { moved with revivals := s.revivals ++ [(NodeRecord.recent m event.time s.deaths).length] }
          _ few rfl rfl
        rw [law, iff_self_and]
        intro _ _ held
        rw [was] at held
        cases held
  | quarantined was status deaths count how =>
      have changed : after = { moved with rejoined := event.isJoin } := by
        simp only [after, was, status, FlapWatch.noted]
      rw [changed]
      refine ⟨⟨by simp [status], ?_, by simp [status], ?_, fun _ => Or.inl count⟩, ?_⟩
      · rw [deaths]
        exact pruned
      · intro _
        simp only [moved, count, flapping.silent was, how]
        cases event.isJoin <;> rfl
      · rw [flap_law_same m s { moved with rejoined := event.isJoin } rfl rfl, iff_self_and]
        intro _ _ held
        rw [was] at held
        cases held
  | counted was status listened deaths count few =>
      have same : after = moved := by
        simp only [after, was, status, FlapWatch.noted]
      rw [same]
      refine ⟨⟨by simp [status], ?_, by simp [status], ?_, ?_⟩, ?_⟩
      · rw [deaths]
        exact window
      · intro _
        simp only [moved, count, flapping.counted was, listened, if_true]
        omega
      · intro _
        have positive : 1 ≤ node.consecutiveAliveHeartbeats := by
          rcases flapping.started was with one | ⟨more, _⟩ <;> omega
        exact Or.inr ⟨by omega, by rw [count]; exact few⟩
      · rw [flap_law_same m s moved rfl rfl, iff_self_and]
        intro _ _ _ enough
        exact absurd few (not_lt.mpr enough)
  | promoted was status listened deaths enough =>
      have changed : after = { moved with deaths := [], promotions := s.promotions ++ [s.heard + 1] } := by
        simp only [after, was, status, FlapWatch.noted, moved, listened, if_true]
      rw [changed]
      refine ⟨⟨by simp [status], ?_, by simp [status], by simp [status], by simp [status]⟩, ?_⟩
      · intro now _
        rw [deaths]
      · have law := flap_law_promoted m s { moved with deaths := [], promotions := s.promotions ++ [s.heard + 1] } (s.heard + 1) rfl rfl
        rw [law, promotion_heartbeats m s node flapping was enough]
        exact and_congr_right fun _ => ⟨fun condition _ _ _ => condition, fun each => each listened was enough⟩
  | died was status silence deaths =>
      have changed : after = { moved with deaths := s.deaths ++ [event.time], heard := 0 } := by
        simp only [NodeRecord.live, Bool.or_eq_true, decide_eq_true_eq] at was
        rcases was with was | was <;> simp only [after, was, status, FlapWatch.noted, moved]
      rw [changed]
      refine ⟨⟨by simp [status], ?_, fun _ => rfl, by simp [status], by simp [status]⟩, ?_⟩
      · intro now later
        rw [deaths, recent_later m event.time now _ later]
        simp only [NodeRecord.recent, List.filter_append]
        congr 1
        exact window now later
      · rw [flap_law_same m s { moved with deaths := s.deaths ++ [event.time], heard := 0 } rfl rfl, iff_self_and]
        intro _ listened
        rw [silence] at listened
        cases listened

theorem noted_registry (m : Settings) (event : RegistryEvent) (s : FlapWatch) (before after : Option Status) :
    (s.noted m event before after).registry = s.registry := by
  simp only [FlapWatch.noted]
  split <;> rfl

theorem watch_step (m : Settings) (id : String) (s after : FlapWatch) (event : RegistryEvent) (watched : Watched m id s)
    (taken : watchStep m id s event = some after) :
    Watched m id after ∧ (FlapLaw m after ↔ FlapLaw m s ∧ Earned m id s event) := by
  simp only [watchStep] at taken
  split at taken
  · cases taken
  · rename_i steady
    rw [not_or, not_lt, Bool.not_eq_true] at steady
    obtain ⟨order, unpurged⟩ := steady
    have status : s.status id = (s.registry.nodes.get? id).map NodeRecord.status := rfl
    cases found : s.registry.nodes.get? id with
    | none =>
        rw [Watched, found] at watched
        have same := (Option.some.inj taken).symm
        simp only [status, found, Option.map_none, FlapWatch.noted] at same
        have law := flap_law_same m s after (by rw [same]) (by rw [same])
        refine ⟨?_, ?_⟩
        · rw [Watched]
          cases arrived : after.registry.nodes.get? id with
          | none =>
              rw [same]
              exact watched
          | some node =>
              rw [same] at arrived
              obtain ⟨alive, deathless⟩ := node_arrives m s.registry id event node found arrived
              refine ⟨by simp [alive], ?_, by simp [alive], by simp [alive], by simp [alive]⟩
              intro now _
              rw [deathless, same, watched]
        · rw [law, iff_self_and]
          intro _ _ node member
          rw [found] at member
          cases member
    | some node =>
        rw [Watched, found] at watched
        obtain ⟨next, reached, turned⟩ := node_turned m s.registry id event node found watched.staying unpurged
        obtain ⟨flapping, law⟩ := flapping_turned m s (s.registry.step m event) event _ node next order watched turned
        have result := Option.some.inj taken
        simp only [FlapWatch.status, found, reached, Option.map_some] at result
        rw [result] at flapping law
        have held : after.registry.nodes.get? id = some next := by
          rw [← result, noted_registry]
          exact reached
        refine ⟨by rw [Watched, held]; exact flapping, law.trans ?_⟩
        simp [Earned, found]

theorem flap_law_iff (m : Settings) (r : Registry) (id : String) (clock : ℚ) (events : List RegistryEvent) (last : FlapWatch)
    (absent : r.nodes.get? id = none) (run : FlapRun m id (fun _ _ => True) (.start r clock) events last) :
    FlapLaw m last ↔ FlapRun m id (Earned m id) (.start r clock) events last := by
  apply Runs.run_characterised (watchStep m id) (Earned m id) (Watched m id) (FlapLaw m)
  · exact fun s after event watched taken => watch_step m id s after event watched taken
  · rw [Watched, FlapWatch.start, absent]
  · exact ⟨by simp [FlapWatch.start], by simp [FlapWatch.start]⟩
  · exact run

instance (m : Settings) (id : String) (s : FlapWatch) (event : RegistryEvent) : Decidable (Earned m id s event) :=
  inferInstanceAs (Decidable (event.heard m s.registry id = true → ∀ node ∈ s.registry.nodes.get? id, node.status = .quarantined →
    m.quarantineRecovery ≤ ((node.consecutiveAliveHeartbeats + 1 : Nat) : Int) → s.rejoined = false ∨ m.quarantineRecovery ≤ 1))

def comeback (now : ℚ) : RegistryEvent := .join now (sampleJoin "a") none

def beatAt (now : ℚ) : RegistryEvent := .heartbeat now "a" (.obj [])

def threeDeaths : List RegistryEvent := [comeback 0, .tick 40, beatAt 41, .tick 80, beatAt 81, .tick 120]

theorem quarantine_by_heartbeat :
    ∃ last ∈ Runs.follow (watchStep {} "a") (fun _ _ => True) (.start .empty 0) (threeDeaths ++ [beatAt 121, beatAt 122, beatAt 123]),
      last.revivals = [1, 2] ∧ last.promotions = [3] ∧ FlapLaw {} last := by
  have reached : ∃ last ∈ Runs.follow (watchStep {} "a") (Earned {} "a") (.start .empty 0)
      (threeDeaths ++ [beatAt 121, beatAt 122, beatAt 123]), last.revivals = [1, 2] ∧ last.promotions = [3] := by decide +kernel
  obtain ⟨last, within, revivals, promotions⟩ := reached
  have permitted := Runs.follow_run (watchStep {} "a") (Earned {} "a") _ last _ within
  have law := (flap_law_iff {} .empty "a" 0 _ last rfl (Runs.run_free _ _ _ _ _ permitted)).mpr permitted
  exact ⟨last, Runs.follow_free _ _ _ last _ within, revivals, promotions, law⟩

-- The third death is followed by a join, and two heartbeats promote the node.
theorem quarantine_by_join :
    ∃ last, FlapRun {} "a" (fun _ _ => True) (.start .empty 0) (threeDeaths ++ [comeback 121, beatAt 122, beatAt 123]) last ∧
      last.promotions = [2] ∧ ¬ FlapLaw {} last := by
  have reached : ∃ last ∈ Runs.follow (watchStep {} "a") (fun _ _ => True) (.start .empty 0)
      (threeDeaths ++ [comeback 121, beatAt 122, beatAt 123]), last.promotions = [2] := by decide +kernel
  obtain ⟨last, followed, promotions⟩ := reached
  refine ⟨last, Runs.follow_run _ _ _ last _ followed, promotions, ?_⟩
  intro law
  have enough := law.promotions 2 (by simp [promotions])
  exact absurd enough (by decide)

end HuddleCluster.Master
