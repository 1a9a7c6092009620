import HuddleCluster.Ring.MoveChains

set_option autoImplicit false

namespace HuddleCluster.Ring

theorem evicted_length (c d : Cluster) (r : Ref) (reason : EvictionReason) (member : r ∈ c.innerRing)
    (moved : Evicted c d r reason) : d.innerRing.length + 1 = c.innerRing.length := by
  have erased := List.length_eraseP_of_mem (p := c.hasId (c.idOf r)) member (by simp [Cluster.hasId])
  have positive := List.length_pos_of_mem member
  rw [moved.inner, erased]
  omega

theorem promoted_length (c d : Cluster) (r : Ref) (moved : Promoted c d r) : d.innerRing.length = c.innerRing.length + 1 := by
  rw [moved.inner, List.length_append, List.length_singleton]

theorem move_bounded (cfg : Config) (reasons : Set EvictionReason) (c d : Cluster)
    (bounded : c.innerRing.length ≤ cfg.maxInnerSize) (moved : Move cfg reasons c d) :
    d.innerRing.length ≤ cfg.maxInnerSize := by
  cases moved with
  | calm same => rwa [same.inner]
  | evicted r reason _ member moved =>
      have shorter := evicted_length c d r reason member moved
      omega
  | promoted r room moved =>
      rw [promoted_length c d r moved]
      exact room
  | drained serverId drain moved => rwa [moved.inner]

theorem moves_bounded (cfg : Config) (reasons : Set EvictionReason) (c d : Cluster)
    (bounded : c.innerRing.length ≤ cfg.maxInnerSize) (moved : Moves cfg reasons c d) :
    d.innerRing.length ≤ cfg.maxInnerSize := by
  induction moved with
  | refl => exact bounded
  | tail _ step ih => exact move_bounded cfg _ _ _ ih step

theorem still_length (c d : Cluster) (same : Still c d) : d.innerRing.length = c.innerRing.length :=
  same.inner.perm.length_eq.symm

theorem removed_bounded (cfg : Config) (c d : Cluster) (serverId : String) (result : Bool)
    (bounded : c.innerRing.length ≤ cfg.maxInnerSize) (removed : Removed cfg c serverId d result) :
    d.innerRing.length ≤ cfg.maxInnerSize := by
  cases removed with
  | inner d present pulled =>
      have erased : (c.innerRing.eraseP (c.hasId serverId)).length ≤ c.innerRing.length := List.eraseP_sublist.length_le
      exact moves_bounded cfg _ _ d (le_trans erased bounded) pulled
  | outer absent present => exact bounded
  | missing absentInner absentOuter => exact bounded

theorem step_bounded (cfg : Config) (c : Cluster) (op : Op) (bounded : c.innerRing.length ≤ cfg.maxInnerSize) :
    (step cfg c op).innerRing.length ≤ cfg.maxInnerSize := by
  cases op with
  | addServer r forceInner =>
      have added := added_add_server cfg c r forceInner
      change (c.addServer cfg r forceInner).innerRing.length ≤ cfg.maxInnerSize
      rcases added.placed with ⟨room, inner, _, _⟩ | ⟨inner, _, _⟩
      · rw [inner, List.length_append, List.length_singleton]
        exact room
      · rwa [inner]
  | removeServer serverId => exact removed_bounded cfg c _ serverId _ bounded (removed_remove_server cfg c serverId)
  | forceEvict serverId => exact moves_bounded cfg _ c _ bounded (moves_force_evict cfg c serverId)
  | rotate =>
      have begun : c.beginRotate.innerRing.length ≤ cfg.maxInnerSize := by rwa [(quiet_begin_rotate c).inner]
      exact moves_bounded cfg _ _ _ begun (moves_rotate cfg c)
  | checkDrainingServers => exact moves_bounded cfg _ c _ bounded (moves_check_draining cfg c)
  | _ =>
      rw [still_length c _ (still_step cfg c _ rfl)]
      exact bounded

theorem evict_all_length (cfg : Config) (evicted : List (Ref × EvictionReason)) (c : Cluster)
    (queued : (evicted.map Prod.fst).Sublist c.innerRing) :
    (c.evictAll cfg evicted).innerRing.length + evicted.length = c.innerRing.length := by
  induction evicted generalizing c with
  | nil => rfl
  | cons entry rest ih =>
      have moved := evicted_move_to_outer cfg c entry.1 entry.2
      have shorter := evicted_length _ _ _ _ (queued.subset (by simp)) moved
      have tail := ih _ (sublist_evicted _ _ _ _ _ queued moved)
      simp only [Cluster.evictAll, List.foldl_cons, List.length_cons] at tail ⊢
      omega

theorem rotate_step1_length (cfg : Config) (c : Cluster) :
    (c.rotateStep1 cfg).innerRing.length + (c.beginRotate.toEvict cfg c.adaptThresholds.now).length = c.innerRing.length := by
  rw [Cluster.rotateStep1, evict_all_length cfg _ c.beginRotate (to_evict_sublist cfg c.beginRotate _),
    (quiet_begin_rotate c).inner]

theorem to_evict_length (cfg : Config) (c : Cluster) (now : ℚ) :
    (c.toEvict cfg now).length ≤ max 1 (c.innerRing.length / 3) ∧
      (c.toEvict cfg now).length ≤ c.innerRing.length - cfg.minInnerSize := by
  have capped : (c.toEvict cfg now).length ≤ min c.maxEvict (c.safeEvict cfg) := List.length_take_le _ _
  exact ⟨le_trans capped (min_le_left _ _), le_trans capped (min_le_right _ _)⟩

theorem promote_cooled_grows (cfg : Config) (fuel : Nat) (c : Cluster) :
    c.innerRing.length ≤ (c.promoteCooled cfg fuel).innerRing.length := by
  induction fuel generalizing c with
  | zero => exact le_refl _
  | succ fuel ih =>
      rw [Cluster.promoteCooled]
      split
      · split
        · exact le_refl _
        · split
          · split
            · exact le_refl _
            · rename_i r popped taken
              have longer := promoted_length _ _ r (promoted_pop_outer c.tick.tick popped r taken)
              rw [Cluster.tick_inner, Cluster.tick_inner] at longer
              exact le_trans (by omega) (ih (popped.moveToInner r))
          · exact le_refl _
      · exact le_refl _

theorem evict_unhealthy_floor (cfg : Config) (queue : List Ref) (c : Cluster) (queued : queue.Sublist c.innerRing) :
    min cfg.minInnerSize c.innerRing.length ≤ (c.evictUnhealthy cfg queue).innerRing.length := by
  induction queue generalizing c with
  | nil => exact min_le_right _ _
  | cons r rest ih =>
      rw [Cluster.evictUnhealthy]
      split
      · exact min_le_right _ _
      · rename_i above
        simp only
        split
        · have moved := evicted_move_to_outer cfg c r .healthFail
          have shorter := evicted_length _ _ _ _ (queued.subset (by simp)) moved
          have left := sublist_evicted _ _ _ _ _ queued moved
          split
          · have remediated := calm_remediate_circuit (c.moveToOuter cfg r .healthFail) r
            have kept := ih _ (by rwa [remediated.inner])
            rw [remediated.inner] at kept
            exact le_trans (by omega) kept
          · exact le_trans (by omega) (ih _ left)
        · exact ih c (List.sublist_of_cons_sublist queued)

theorem rotate_floor (cfg : Config) (c : Cluster) :
    min cfg.minInnerSize c.innerRing.length ≤ (c.rotate cfg).innerRing.length := by
  have first := rotate_step1_length cfg c
  have capped := (to_evict_length cfg c.beginRotate c.adaptThresholds.now).2
  rw [(quiet_begin_rotate c).inner] at capped
  have second : (c.rotateStep1 cfg).innerRing.length ≤ ((c.rotateStep1 cfg).rotateStep2 cfg).innerRing.length :=
    promote_cooled_grows cfg _ _
  have third : min cfg.minInnerSize ((c.rotateStep1 cfg).rotateStep2 cfg).innerRing.length ≤
      (((c.rotateStep1 cfg).rotateStep2 cfg).rotateStep3 cfg).innerRing.length :=
    evict_unhealthy_floor cfg _ _ (.refl _)
  have rest : (c.rotate cfg).innerRing = (((c.rotateStep1 cfg).rotateStep2 cfg).rotateStep3 cfg).innerRing :=
    (calm_remediate_stale _).inner
  rw [rest]
  omega

theorem inner_size_bounds (cfg : Config) (objects : Ref → Server) (adaptive : Option AdaptiveThresholdController)
    (remediator : Option Remediator) (hardwareManager : Option HardwareTelemetryManager) (monotonic : Clock)
    (ops : List Op) (c : Cluster)
    (run : ClusterRun cfg (fun _ _ => True) (.empty cfg objects adaptive remediator hardwareManager monotonic) ops c) :
    c.innerRing.length ≤ cfg.maxInnerSize ∧
      (c.rotateStep1 cfg).innerRing.length + (c.beginRotate.toEvict cfg c.adaptThresholds.now).length = c.innerRing.length ∧
      (c.beginRotate.toEvict cfg c.adaptThresholds.now).length ≤ max 1 (c.innerRing.length / 3) ∧
      min cfg.minInnerSize c.innerRing.length ≤ (c.rotate cfg).innerRing.length := by
  refine ⟨?_, rotate_step1_length cfg c, ?_, rotate_floor cfg c⟩
  · refine Runs.run_invariant (next cfg) _ (fun state => state.innerRing.length ≤ cfg.maxInnerSize) ?_ _ c ops ?_ run
    · intro state op after bounded _ taken
      cases taken
      exact step_bounded cfg state op bounded
    · exact Nat.zero_le _
  · have capped := (to_evict_length cfg c.beginRotate c.adaptThresholds.now).1
    rwa [(quiet_begin_rotate c).inner] at capped

def heatedRun : Option Cluster :=
  Runs.follow (next { rotationCooldownSec := 0, maxInnerSize := 6 }) (fun _ _ => True)
    (.empty { rotationCooldownSec := 0, maxInnerSize := 6 }
      (fun r => { id := toString r, temperature := if r < 4 then 1 else 0, metrics := { isHealthy := decide (r < 4) } })
      none none none ⟨fun ticks => ticks, 0⟩)
    [.addServer 0 true, .addServer 1 true, .addServer 2 true, .addServer 3 true, .addServer 4 true, .addServer 5 true]

theorem inner_size_bounds_heated : ∃ c ∈ heatedRun,
    c.innerRing.length ≤ 6 ∧
      (c.rotateStep1 { rotationCooldownSec := 0, maxInnerSize := 6 }).innerRing.length +
        (c.beginRotate.toEvict { rotationCooldownSec := 0, maxInnerSize := 6 } c.adaptThresholds.now).length =
          c.innerRing.length ∧
      (c.beginRotate.toEvict { rotationCooldownSec := 0, maxInnerSize := 6 } c.adaptThresholds.now).length ≤
        max 1 (c.innerRing.length / 3) ∧
      min 2 c.innerRing.length ≤ (c.rotate { rotationCooldownSec := 0, maxInnerSize := 6 }).innerRing.length := by
  have taken : heatedRun.isSome = true := by decide +kernel
  obtain ⟨c, reached⟩ := Option.isSome_iff_exists.mp taken
  exact ⟨c, reached,
    inner_size_bounds { rotationCooldownSec := 0, maxInnerSize := 6 } _ _ _ _ _ _ c (Runs.follow_run _ _ _ c _ reached)⟩

end HuddleCluster.Ring
