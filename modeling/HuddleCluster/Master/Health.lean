import HuddleCluster.Master.Leave

set_option autoImplicit false

namespace HuddleCluster.Master

structure HealthSnapshot where
  totalNodes : Nat
  aliveNodes : Nat
  aliveRatio : ℚ
  threshold : ℚ
deriving DecidableEq

inductive HealthCallback where
  | onClusterUnhealthy (snapshot : HealthSnapshot)
  | onClusterRecovered (snapshot : HealthSnapshot)
deriving DecidableEq

def HealthCallback.isUnhealthy : HealthCallback → Bool
  | .onClusterUnhealthy _ => true
  | .onClusterRecovered _ => false

-- The last two fields are not in the program: the callbacks that have been called, and
-- whether nothing has changed since the last check.
structure MasterHealth where
  nodes : Registry
  clusterUnhealthy : Bool
  called : List HealthCallback
  checked : Bool

namespace Registry

def total (r : Registry) : Nat := r.nodes.values.length

def alive (r : Registry) : Nat := r.nodes.values.countP fun node => decide (node.status = .alive)

def aliveRatio (r : Registry) : ℚ := r.alive / r.total

end Registry

namespace MasterHealth

def start (nodes : Registry) : MasterHealth := ⟨nodes, false, [], false⟩

def snapshot (threshold : ℚ) (s : MasterHealth) : HealthSnapshot where
  totalNodes := s.nodes.total
  aliveNodes := s.nodes.alive
  aliveRatio := Statistics.roundTo 3 s.nodes.aliveRatio
  threshold := threshold

-- _check_cluster_health, with the ratio that the master was given, if any.
def checkClusterHealth (unhealthyAliveRatio : Option ℚ) (s : MasterHealth) : MasterHealth :=
  match unhealthyAliveRatio with
  | none => s
  | some threshold =>
      if s.nodes.total = 0 then s
      else
        let isUnhealthy := decide (s.nodes.aliveRatio < threshold)
        if isUnhealthy && !s.clusterUnhealthy then
          { s with clusterUnhealthy := true, called := s.called ++ [.onClusterUnhealthy (s.snapshot threshold)] }
        else if !isUnhealthy && s.clusterUnhealthy then
          { s with clusterUnhealthy := false, called := s.called ++ [.onClusterRecovered (s.snapshot threshold)] }
        else s

end MasterHealth

-- The registry of a follower is replaced when it takes over a snapshot.
inductive HealthEvent where
  | update (event : RegistryUpdate)
  | install (nodes : Registry)
  | check

namespace MasterHealth

def next (m : Settings) (unhealthyAliveRatio : Option ℚ) (s : MasterHealth) : HealthEvent → Option MasterHealth
  | .update event => some { s with nodes := s.nodes.update m event, checked := false }
  | .install nodes => some { s with nodes := nodes, checked := false }
  | .check => some { s.checkClusterHealth unhealthyAliveRatio with checked := true }

end MasterHealth

-- The first call is of the one kind, and each of the other kind than the one before.
def Alternates (called : List HealthCallback) : Prop :=
  ∀ i callback, called[i]? = some callback → callback.isUnhealthy = decide (i % 2 = 0)

def Degraded (threshold : ℚ) (nodes : Registry) : Prop := nodes.total ≠ 0 ∧ nodes.aliveRatio < threshold

structure HealthTracked (threshold : ℚ) (s : MasterHealth) : Prop where
  flag : s.checked = true → (s.clusterUnhealthy = true ↔ Degraded threshold s.nodes)
  alternates : Alternates s.called

-- A check that finds nobody registered finds the flag down.
def NeverLeft (s : MasterHealth) : HealthEvent → Prop
  | .check => s.nodes.total = 0 → s.clusterUnhealthy = false
  | _ => True

instance (s : MasterHealth) (event : HealthEvent) : Decidable (NeverLeft s event) :=
  match event with
  | .check => inferInstanceAs (Decidable (s.nodes.total = 0 → s.clusterUnhealthy = false))
  | .update _ | .install _ => instDecidableTrue

structure FlagCalled (s : MasterHealth) : Prop where
  parity : s.clusterUnhealthy = decide (s.called.length % 2 = 1)
  alternates : Alternates s.called

theorem alternates_append (called : List HealthCallback) (callback : HealthCallback) (alternates : Alternates called)
    (next : callback.isUnhealthy = decide (called.length % 2 = 0)) : Alternates (called ++ [callback]) := by
  intro i found here
  rcases Nat.lt_or_ge i called.length with before | after
  · rw [List.getElem?_append_left before] at here
    exact alternates i found here
  · rw [List.getElem?_append_right after, List.getElem?_singleton] at here
    split at here
    · rename_i last
      cases here
      rw [next, show i = called.length by omega]
    · cases here

theorem check_cases (threshold : ℚ) (s : MasterHealth) (present : s.nodes.total ≠ 0) :
    let after := s.checkClusterHealth (some threshold)
    after.nodes = s.nodes ∧ (after.clusterUnhealthy = decide (s.nodes.aliveRatio < threshold)) ∧
      (after.called = s.called ∧ after.clusterUnhealthy = s.clusterUnhealthy ∨
        ∃ callback, after.called = s.called ++ [callback] ∧ callback.isUnhealthy = after.clusterUnhealthy ∧
          after.clusterUnhealthy ≠ s.clusterUnhealthy) := by
  simp only [MasterHealth.checkClusterHealth, if_neg present]
  cases decide (s.nodes.aliveRatio < threshold) <;> cases up : s.clusterUnhealthy <;> simp [up, HealthCallback.isUnhealthy]

theorem flag_check (threshold : ℚ) (s : MasterHealth) (called : FlagCalled s) :
    FlagCalled (s.checkClusterHealth (some threshold)) := by
  by_cases empty : s.nodes.total = 0
  · rw [MasterHealth.checkClusterHealth, if_pos empty]
    exact called
  · obtain ⟨_, _, ⟨same, flag⟩ | ⟨callback, more, kind, other⟩⟩ := check_cases threshold s empty
    · exact ⟨by rw [same, flag, called.parity], same ▸ called.alternates⟩
    · have turned : (s.checkClusterHealth (some threshold)).clusterUnhealthy = decide (s.called.length % 2 = 0) := by
        rw [Bool.eq_not_of_ne other, called.parity, ← decide_not]
        exact decide_eq_decide.mpr (by omega)
      constructor
      · rw [turned, more, List.length_append, List.length_singleton]
        exact decide_eq_decide.mpr (by omega)
      · rw [more]
        exact alternates_append s.called callback called.alternates (kind.trans turned)

theorem flag_step (m : Settings) (threshold : ℚ) (s after : MasterHealth) (event : HealthEvent) (called : FlagCalled s)
    (taken : s.next m (some threshold) event = some after) : FlagCalled after := by
  cases event with
  | update event => cases taken; exact ⟨called.parity, called.alternates⟩
  | install nodes => cases taken; exact ⟨called.parity, called.alternates⟩
  | check =>
      cases taken
      have checked := flag_check threshold s called
      exact ⟨checked.parity, checked.alternates⟩

theorem unchecked_tracked (threshold : ℚ) (s : MasterHealth) (unchecked : s.checked = false) (alternates : Alternates s.called) :
    HealthTracked threshold s :=
  ⟨fun checked => absurd (unchecked.symm.trans checked) Bool.false_ne_true, alternates⟩

theorem tracked_step (m : Settings) (threshold : ℚ) (s after : MasterHealth) (event : HealthEvent) (called : FlagCalled s)
    (taken : s.next m (some threshold) event = some after) : HealthTracked threshold after ↔ NeverLeft s event := by
  have alternates := (flag_step m threshold s after event called taken).alternates
  cases event with
  | update event => cases taken; exact iff_of_true (unchecked_tracked threshold _ rfl alternates) trivial
  | install nodes => cases taken; exact iff_of_true (unchecked_tracked threshold _ rfl alternates) trivial
  | check =>
      cases taken
      by_cases vacant : s.nodes.total = 0
      · have same : s.checkClusterHealth (some threshold) = s := by rw [MasterHealth.checkClusterHealth, if_pos vacant]
        rw [same] at alternates ⊢
        have well : ¬ Degraded threshold s.nodes := fun degraded => degraded.1 vacant
        constructor
        · intro tracked _
          exact Bool.eq_false_iff.mpr fun up => well ((tracked.flag rfl).mp up)
        · intro down
          refine ⟨fun _ => iff_of_false ?_ well, alternates⟩
          exact Bool.eq_false_iff.mp (down vacant)
      · obtain ⟨nodes, flag, _⟩ := check_cases threshold s vacant
        refine iff_of_true ⟨fun _ => ?_, alternates⟩ fun empty => absurd empty vacant
        simp only [nodes, flag, Degraded, decide_eq_true_eq]
        exact ⟨fun below => ⟨vacant, below⟩, fun degraded => degraded.2⟩

-- After every check the flag says how the cluster is, as long as nobody is missing
-- altogether while it is up.
theorem health_tracked_iff (m : Settings) (threshold : ℚ) (nodes : Registry) (events : List HealthEvent) (s : MasterHealth)
    (run : Runs.Run (MasterHealth.next m (some threshold)) (fun _ _ => True) (.start nodes) events s) :
    Runs.Always (MasterHealth.next m (some threshold)) (.start nodes) events (HealthTracked threshold) ↔
      Runs.Run (MasterHealth.next m (some threshold)) NeverLeft (.start nodes) events s := by
  apply Runs.run_always (MasterHealth.next m (some threshold)) NeverLeft FlagCalled (HealthTracked threshold)
  · exact fun state event after called taken => flag_step m threshold state after event called taken
  · exact fun state event after called _ taken => tracked_step m threshold state after event called taken
  · exact ⟨rfl, by simp [MasterHealth.start, Alternates]⟩
  · exact unchecked_tracked threshold _ rfl (by simp [MasterHealth.start, Alternates])
  · exact run

def joining (nodeId : String) : HealthEvent := .update (.receive (.join 0 (sampleJoin nodeId) none))

def tick (now : ℚ) : HealthEvent := .update (.receive (.tick now))

def diesAndReturns : List HealthEvent :=
  [joining "a", .check, tick 100, .check, .update (.receive (.heartbeat 101 "a" (.obj []))), .check]

theorem health_tracked_returns : ∃ s, Runs.Run (MasterHealth.next {} (some (1 / 2))) (fun _ _ => True)
    (.start .empty) diesAndReturns s ∧
    s.called.length = 2 ∧ Runs.Always (MasterHealth.next {} (some (1 / 2))) (.start .empty) diesAndReturns (HealthTracked (1 / 2)) := by
  obtain ⟨s, followed, twice⟩ : ∃ s ∈ Runs.follow (MasterHealth.next {} (some (1 / 2))) NeverLeft (.start .empty) diesAndReturns,
      s.called.length = 2 := by decide +kernel
  have permitted := Runs.follow_run _ _ _ s _ followed
  have run := Runs.run_free _ _ _ s _ permitted
  exact ⟨s, run, twice, (health_tracked_iff {} (1 / 2) .empty _ s run).mpr permitted⟩

-- The only node dies and is purged, and the flag stays up.
def purges : Settings := { purgeAfter := some 60 }

theorem purged_unhealthy : ∃ s ∈ Runs.follow (MasterHealth.next purges (some (1 / 2))) (fun _ _ => True) (.start .empty)
    [joining "a", tick 100, .check, tick 200, .check], s.nodes.total = 0 ∧ s.clusterUnhealthy = true ∧ ¬ HealthTracked (1 / 2) s := by
  obtain ⟨s, followed, vacant, up, checked⟩ :
    ∃ s ∈ Runs.follow (MasterHealth.next purges (some (1 / 2))) (fun _ _ => True) (.start .empty)
      [joining "a", tick 100, .check, tick 200, .check], s.nodes.total = 0 ∧ s.clusterUnhealthy = true ∧ s.checked = true := by
    decide +kernel
  exact ⟨s, followed, vacant, up, fun tracked => ((tracked.flag checked).mp up).1 vacant⟩

end HuddleCluster.Master
