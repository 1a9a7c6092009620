import HuddleCluster.Master.NodeMachine

set_option autoImplicit false

namespace HuddleCluster.Master

-- What the rest of the cluster sees of a node: its status, and the metrics the
-- scheduler is given.
def observe (node : Option NodeRecord) : Option (Status × Json) := node.map fun node => (node.status, node.metrics)

-- No later heartbeats, joins and ticks tell the two registries apart.
def SameBehaviour (m : Settings) (r other : Registry) : Prop :=
  ∀ events id, observe ((r.run m events).nodes.get? id) = observe ((other.run m events).nodes.get? id)

-- Two lists of deaths that no later check of the flap detector tells apart: a
-- threshold of zero is always reached, and a negative window forgets a death
-- as soon as it is recorded.
def SameDeaths (m : Settings) (deaths others : List ℚ) : Prop :=
  deaths = others ∨ m.flapThreshold ≤ 0 ∨
    m.flapWindow < 0 ∧ deaths.length < m.flapThreshold ∧ others.length < m.flapThreshold

structure Alike (m : Settings) (a b : NodeRecord) : Prop where
  status : a.status = b.status
  lastHeartbeat : a.lastHeartbeat = b.lastHeartbeat
  metrics : a.metrics = b.metrics
  counted : a.status = .quarantined →
    a.consecutiveAliveHeartbeats = b.consecutiveAliveHeartbeats ∨ m.quarantineRecovery ≤ 1
  deaths : SameDeaths m a.recentDeaths b.recentDeaths

theorem same_deaths_flapping (m : Settings) (deaths others : List ℚ) (same : SameDeaths m deaths others) :
    m.flapThreshold ≤ deaths.length ↔ m.flapThreshold ≤ others.length := by
  rcases same with equal | always | ⟨_, few, fewOthers⟩
  · rw [equal]
  · constructor <;> intro _ <;> omega
  · constructor <;> intro _ <;> omega

theorem recent_shorter (m : Settings) (now : ℚ) (deaths : List ℚ) : (NodeRecord.recent m now deaths).length ≤ deaths.length :=
  List.length_filter_le _ deaths

theorem same_deaths_recent (m : Settings) (now : ℚ) (deaths others : List ℚ) (same : SameDeaths m deaths others) :
    SameDeaths m (NodeRecord.recent m now deaths) (NodeRecord.recent m now others) := by
  rcases same with equal | always | ⟨negative, few, fewOthers⟩
  · exact Or.inl (by rw [equal])
  · exact Or.inr (Or.inl always)
  · have shorter := recent_shorter m now deaths
    have shorterOthers := recent_shorter m now others
    exact Or.inr (Or.inr ⟨negative, by omega, by omega⟩)

theorem recent_record (m : Settings) (now : ℚ) (deaths : List ℚ) :
    NodeRecord.recent m now (deaths ++ [now]) = NodeRecord.recent m now deaths ++ (if 0 ≤ m.flapWindow then [now] else []) := by
  simp only [NodeRecord.recent, List.filter_append]
  by_cases wide : 0 ≤ m.flapWindow <;> simp [wide]

theorem same_deaths_record (m : Settings) (now : ℚ) (deaths others : List ℚ) (same : SameDeaths m deaths others) :
    SameDeaths m (NodeRecord.recent m now (deaths ++ [now])) (NodeRecord.recent m now (others ++ [now])) := by
  rcases same with equal | always | ⟨negative, few, fewOthers⟩
  · exact Or.inl (by rw [equal])
  · exact Or.inr (Or.inl always)
  · simp only [recent_record, if_neg (not_le.mpr negative), List.append_nil]
    exact same_deaths_recent m now deaths others (Or.inr (Or.inr ⟨negative, few, fewOthers⟩))

theorem alike_refl (m : Settings) (a : NodeRecord) : Alike m a a := ⟨rfl, rfl, rfl, fun _ => Or.inl rfl, Or.inl rfl⟩

theorem revive_alike (m : Settings) (now : ℚ) (a b : NodeRecord) (time : a.lastHeartbeat = b.lastHeartbeat)
    (metrics : a.metrics = b.metrics) (deaths : SameDeaths m a.recentDeaths b.recentDeaths) :
    Alike m (a.revive m now) (b.revive m now) := by
  have kept := same_deaths_recent m now a.recentDeaths b.recentDeaths deaths
  have flapping := same_deaths_flapping m _ _ kept
  simp only [NodeRecord.revive]
  by_cases reached : m.flapThreshold ≤ (NodeRecord.recent m now a.recentDeaths).length
  · rw [if_pos reached, if_pos (flapping.mp reached)]
    exact ⟨rfl, time, metrics, fun _ => Or.inl rfl, kept⟩
  · rw [if_neg reached, if_neg (mt flapping.mpr reached)]
    exact ⟨rfl, time, metrics, (fun counted => by cases counted), kept⟩

theorem beat_alike (m : Settings) (now : ℚ) (a b : NodeRecord) (alike : Alike m a b) : Alike m (a.beat now) (b.beat now) :=
  ⟨alike.status, rfl, alike.metrics, alike.counted, alike.deaths⟩

theorem heartbeat_alike (m : Settings) (now : ℚ) (fields : List (String × Json)) (a b : NodeRecord) (alike : Alike m a b) :
    Alike m (a.heartbeat m now fields) (b.heartbeat m now fields) := by
  obtain ⟨status, _, _, counted, deaths⟩ := alike
  unfold NodeRecord.heartbeat
  dsimp only [NodeRecord.beat]
  cases before : a.status with
  | dead =>
      rw [← status, before]
      exact revive_alike m now _ _ rfl rfl deaths
  | quarantined =>
      have same := counted before
      rw [← status, before]
      dsimp only
      have promoted : m.quarantineRecovery ≤ ((a.consecutiveAliveHeartbeats + 1 : Nat) : Int) ↔
          m.quarantineRecovery ≤ ((b.consecutiveAliveHeartbeats + 1 : Nat) : Int) := by omega
      by_cases reached : m.quarantineRecovery ≤ ((a.consecutiveAliveHeartbeats + 1 : Nat) : Int)
      · rw [if_pos reached, if_pos (promoted.mp reached)]
        exact ⟨rfl, rfl, rfl, (fun counted => by cases counted), Or.inl rfl⟩
      · rw [if_neg reached, if_neg (mt promoted.mpr reached)]
        exact ⟨rfl, rfl, rfl, fun _ => by dsimp only; omega, deaths⟩
  | alive =>
      rw [← status, before]
      exact ⟨rfl, rfl, rfl, (fun counted => by cases counted), deaths⟩
  | leaving =>
      rw [← status, before]
      exact ⟨rfl, rfl, rfl, (fun counted => by cases counted), deaths⟩

theorem rejoin_alike (m : Settings) (now : ℚ) (tlsClientCn : Option String) (request : JoinRequest) (a b : NodeRecord)
    (alike : Alike m a b) : Alike m (a.rejoin m now tlsClientCn request) (b.rejoin m now tlsClientCn request) := by
  obtain ⟨status, _, metrics, counted, deaths⟩ := alike
  simp only [NodeRecord.rejoin]
  cases before : a.status with
  | dead =>
      rw [← status, before]
      exact revive_alike m now _ _ rfl metrics deaths
  | leaving =>
      rw [← status, before]
      exact ⟨rfl, rfl, metrics, (fun counted => by cases counted), deaths⟩
  | alive =>
      rw [← status, before]
      exact ⟨rfl, rfl, metrics, (fun counted => by cases counted), deaths⟩
  | quarantined =>
      rw [← status, before]
      exact ⟨rfl, rfl, metrics, fun _ => counted before, deaths⟩

theorem monitor_alike (m : Settings) (now : ℚ) (a b : NodeRecord) (alike : Alike m a b) :
    Option.Rel (Alike m) (a.monitor m now) (b.monitor m now) := by
  have due : b.purgeDue m now = a.purgeDue m now := by
    rw [NodeRecord.purgeDue, NodeRecord.purgeDue, alike.status, alike.lastHeartbeat]
  simp only [NodeRecord.monitor]
  rw [due]
  by_cases gone : a.purgeDue m now = true
  · rw [if_pos gone, if_pos gone]
    exact .none
  · rw [if_neg gone, if_neg gone]
    refine .some ?_
    have dies : (b.live && b.timedOut m now) = (a.live && a.timedOut m now) := by
      simp only [NodeRecord.live, NodeRecord.timedOut, alike.status, alike.lastHeartbeat]
    simp only [NodeRecord.check]
    rw [dies]
    split
    · exact ⟨rfl, alike.lastHeartbeat, alike.metrics, (fun counted => by cases counted), same_deaths_record m now _ _ alike.deaths⟩
    · exact alike

theorem node_step_alike (m : Settings) (id : String) (a b : Option NodeRecord) (event : RegistryEvent)
    (alike : Option.Rel (Alike m) a b) : Option.Rel (Alike m) (nodeStep m id a event) (nodeStep m id b event) := by
  cases event with
  | heartbeat now nodeId data =>
      simp only [nodeStep]
      split
      · cases alike with
        | none => exact .none
        | some alike =>
            cases data with
            | obj fields => exact .some (heartbeat_alike m now fields _ _ alike)
            | _ => exact .some (beat_alike m now _ _ alike)
      · exact alike
  | join now data tlsClientCn =>
      simp only [nodeStep]
      split
      · exact alike
      · split
        · cases alike with
          | none => exact .some (alike_refl m _)
          | some alike => exact .some (rejoin_alike m now tlsClientCn _ _ _ alike)
        · exact alike
  | tick now =>
      cases alike with
      | none => exact .none
      | some alike => exact monitor_alike m now _ _ alike

theorem node_run_alike (m : Settings) (id : String) (events : List RegistryEvent) (a b : Option NodeRecord)
    (alike : Option.Rel (Alike m) a b) : Option.Rel (Alike m) (nodeRun m id a events) (nodeRun m id b events) := by
  induction events generalizing a b with
  | nil => exact alike
  | cons event tail ih => exact ih _ _ (node_step_alike m id a b event alike)

theorem alike_observed (m : Settings) (a b : Option NodeRecord) (alike : Option.Rel (Alike m) a b) : observe a = observe b := by
  cases alike with
  | none => rfl
  | some alike => simp [observe, alike.status, alike.metrics]

theorem alike_same_behaviour (m : Settings) (r other : Registry)
    (alike : ∀ id, Option.Rel (Alike m) (r.nodes.get? id) (other.nodes.get? id)) : SameBehaviour m r other := by
  intro events id
  rw [Registry.run_node, Registry.run_node]
  exact alike_observed m _ _ (node_run_alike m id events _ _ (alike id))

end HuddleCluster.Master
