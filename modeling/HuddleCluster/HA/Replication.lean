import HuddleCluster.HA.Snapshot
import HuddleCluster.Master.Probe

set_option autoImplicit false

namespace HuddleCluster.HA

open Master

-- What a snapshot leaves out of the record makes no difference to it.
structure Carried (m : Master.Settings) (node : NodeRecord) : Prop where
  metrics : node.metrics = .obj []
  counted : node.status = .quarantined → node.consecutiveAliveHeartbeats = 0 ∨ m.quarantineRecovery ≤ 1
  deaths : node.recentDeaths = [] ∨ m.flapThreshold ≤ 0 ∨
    m.flapWindow < 0 ∧ node.recentDeaths.length < m.flapThreshold

theorem get_replica (r : Registry) (id : String) : (replica r).nodes.get? id = (r.nodes.get? id).map replicated :=
  Dict.get_map _ r.nodes id

theorem carried_alike (m : Master.Settings) (node : NodeRecord) (carried : Carried m node) : Alike m node (replicated node) := by
  obtain ⟨metrics, counted, deaths⟩ := carried
  refine ⟨rfl, rfl, metrics, counted, ?_⟩
  rcases deaths with intact | always | ⟨negative, few⟩
  · exact Or.inl intact
  · exact Or.inr (Or.inl always)
  · exact Or.inr (Or.inr ⟨negative, few, by simp only [replicated, List.length_nil]; omega⟩)

theorem same_behaviour_carried (m : Master.Settings) (r : Registry) (same : SameBehaviour m r (replica r)) (id : String)
    (node : NodeRecord) (found : r.nodes.get? id = some node) : Carried m node := by
  have copied : (replica r).nodes.get? id = some (replicated node) := by simp [get_replica, found]
  constructor
  · have observed := same [] id
    simp only [Registry.run, List.foldl_nil, found, copied, observe, Option.map_some, Option.some.injEq, Prod.mk.injEq] at observed
    exact observed.2
  · intro quarantined
    exact same_behaviour_counted m r (replica r) id node (replicated node) same found copied quarantined rfl rfl
  · exact same_behaviour_deaths m r (replica r) id node (replicated node) same found copied rfl

theorem replica_behaves_iff (m : Master.Settings) (clock : String → Readings) (now : String → ℚ) (r : Registry)
    (old : ReplicaNodes) :
    ∃ follower : Registry, applySnapshot clock (buildSnapshot now (some r)) (some old) = some (held follower) ∧
      (SameBehaviour m r follower ↔ ∀ id node, r.nodes.get? id = some node → Carried m node) := by
  refine ⟨replica r, apply_build_snapshot clock now r old, ?_⟩
  constructor
  · exact fun same => same_behaviour_carried m r same
  · intro carried
    apply alike_same_behaviour
    intro id
    rw [get_replica]
    cases found : r.nodes.get? id with
    | none => exact .none
    | some node => exact .some (carried_alike m node (carried id node found))

-- A node that died once and has two of the three heartbeats it needs.
def strict : Master.Settings := { flapThreshold := 1 }

def beatN (now : ℚ) : RegistryEvent := .heartbeat now "n" (.obj [("metrics", .obj [("cpu", .number (9 / 10))])])

def recovering : Registry := Registry.empty.run strict [
  .join 0 (.obj [("node_id", .str "n"), ("address", .str "10.0.0.1"), ("port", .int 8080)]) none,
  .tick 100, beatN 101, beatN 102]

-- The next heartbeat ends the quarantine on the old leader only, and until then
-- the follower has no metrics.
theorem replica_restarts_quarantine : ∃ follower : Registry,
    applySnapshot (fun _ => ⟨103, 103⟩) (buildSnapshot (fun _ => 103) (some recovering)) (some .empty) = some (held follower) ∧
      ((recovering.run strict [beatN 104]).nodes.get? "n").map NodeRecord.status = some .alive ∧
        ((follower.run strict [beatN 104]).nodes.get? "n").map NodeRecord.status = some .quarantined ∧
          (recovering.nodes.get? "n").map (fun node => node.metrics.truthy) = some true ∧
            (follower.nodes.get? "n").map (fun node => node.metrics.truthy) = some false ∧
              ¬ SameBehaviour strict recovering follower := by
  have statuses : ((recovering.run strict [beatN 104]).nodes.get? "n").map NodeRecord.status = some .alive ∧
      (((replica recovering).run strict [beatN 104]).nodes.get? "n").map NodeRecord.status = some .quarantined ∧
        (recovering.nodes.get? "n").map (fun node => node.metrics.truthy) = some true ∧
          ((replica recovering).nodes.get? "n").map (fun node => node.metrics.truthy) = some false := by decide +kernel
  obtain ⟨alive, waiting, known, unknown⟩ := statuses
  refine ⟨replica recovering, apply_build_snapshot _ _ recovering .empty, alive, waiting, known, unknown, fun same => ?_⟩
  have observed := congrArg (Option.map Prod.fst) (same [beatN 104] "n")
  simp only [observe, Option.map_map, Function.comp_def] at observed
  have equal : some Status.alive = some Status.quarantined := alive.symm.trans (observed.trans waiting)
  exact absurd equal (by decide)

end HuddleCluster.HA
