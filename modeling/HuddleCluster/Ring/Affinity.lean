import HuddleCluster.Ring.InnerSize
import HuddleCluster.Ring.Removal
import HuddleCluster.Ring.Trails

set_option autoImplicit false

namespace HuddleCluster.Ring

structure Sound (c : Cluster) : Prop where
  bound : ∀ key serverId, c.affinityMap.get? key = some serverId → serverId ∈ c.idsOf c.innerRing

-- A binding that is left was there before, and its server did not leave.
structure Keeps (c d : Cluster) : Prop where
  ids : d.idOf = c.idOf
  bindings : ∀ key serverId, d.affinityMap.get? key = some serverId → c.affinityMap.get? key = some serverId ∧
    (serverId ∈ c.idsOf c.innerRing → serverId ∈ d.idsOf d.innerRing)

theorem keeps_sound (c d : Cluster) (kept : Keeps c d) (sound : Sound c) : Sound d := by
  constructor
  intro key serverId binding
  obtain ⟨earlier, stayed⟩ := kept.bindings key serverId binding
  exact stayed (sound.bound key serverId earlier)

theorem keeps_refl (c : Cluster) : Keeps c c := ⟨rfl, fun _ _ binding => ⟨binding, fun member => member⟩⟩

theorem keeps_trans (c d e : Cluster) (before : Keeps c d) (after : Keeps d e) : Keeps c e := by
  constructor
  · exact after.ids.trans before.ids
  · intro key serverId binding
    obtain ⟨middle, later⟩ := after.bindings key serverId binding
    obtain ⟨first, earlier⟩ := before.bindings key serverId middle
    exact ⟨first, fun member => later (earlier member)⟩

theorem keeps_grown (c d : Cluster) (ids : d.idOf = c.idOf) (affinity : d.affinityMap = c.affinityMap)
    (grown : ∀ r ∈ c.innerRing, r ∈ d.innerRing) : Keeps c d := by
  constructor
  · exact ids
  · intro key serverId binding
    rw [affinity] at binding
    refine ⟨binding, ?_⟩
    rw [mem_ids, mem_ids, ids]
    rintro ⟨r, member, named⟩
    exact ⟨r, grown r member, named⟩

theorem keeps_still (c d : Cluster) (same : Still c d) (affinity : d.affinityMap = c.affinityMap) : Keeps c d :=
  keeps_grown c d same.ids affinity fun _ member => same.inner.mem_iff.mp member

theorem keeps_quiet (c d : Cluster) (same : Quiet c d) (affinity : d.affinityMap = c.affinityMap) : Keeps c d :=
  keeps_still c d (still_of_quiet c d same) affinity

theorem record_eviction_affinity (c : Cluster) (r : Ref) : (c.recordEviction r).affinityMap = c.affinityMap := by
  obtain ⟨_, treated⟩ := record_eviction_treats c r
  rw [treated]

theorem move_to_outer_affinity (cfg : Config) (c : Cluster) (r : Ref) (reason : EvictionReason) :
    (c.moveToOuter cfg r reason).affinityMap = c.affinityMap.filter fun _ bound => decide (bound ≠ c.idOf r) := by
  simp only [Cluster.moveToOuter]
  split
  · rfl
  · exact record_eviction_affinity _ r

theorem keeps_move_to_outer (cfg : Config) (c : Cluster) (r : Ref) (reason : EvictionReason) :
    Keeps c (c.moveToOuter cfg r reason) := by
  have moved := evicted_move_to_outer cfg c r reason
  constructor
  · exact moved.ids
  · intro key serverId binding
    rw [move_to_outer_affinity, Dict.get_filter, Option.filter_eq_some_iff, decide_eq_true_eq] at binding
    obtain ⟨earlier, other⟩ := binding
    refine ⟨earlier, ?_⟩
    rw [mem_ids, mem_ids, moved.ids, moved.inner]
    rintro ⟨x, member, named⟩
    have different : ¬ c.hasId (c.idOf r) x = true := by
      simpa only [Cluster.hasId, decide_eq_true_eq, named] using other
    exact ⟨x, (List.mem_eraseP_of_neg different).mpr member, named⟩

theorem move_to_inner_affinity (c : Cluster) (r : Ref) : (c.moveToInner r).affinityMap = c.affinityMap := by
  simp only [Cluster.moveToInner, Cluster.recordRecovery]
  split <;> rfl

theorem pop_outer_affinity (c popped : Cluster) (r : Ref) (taken : c.popOuter = some (r, popped)) :
    popped.affinityMap = c.affinityMap := by
  simp only [Cluster.popOuter, Option.map_eq_some_iff, Prod.mk.injEq] at taken
  obtain ⟨_, _, _, rfl⟩ := taken
  rfl

theorem keeps_promoted (c popped : Cluster) (r : Ref) (taken : c.popOuter = some (r, popped)) :
    Keeps c (popped.moveToInner r) := by
  have moved := promoted_pop_outer c popped r taken
  apply keeps_grown c _ moved.ids
  · rw [move_to_inner_affinity, pop_outer_affinity c popped r taken]
  · intro x member
    rw [moved.inner]
    exact List.mem_append_left [r] member

theorem keeps_finish_drain (c : Cluster) (serverId : String) (drain : Drain) : Keeps c (c.finishDrain serverId drain) := by
  obtain ⟨inner, _, ids, _⟩ :=
    complete_eviction_spec { c with drainingServers := c.drainingServers.erase serverId } drain.server
  apply keeps_grown c _ ids
  · exact record_eviction_affinity _ drain.server
  · intro x member
    exact inner.symm ▸ member

theorem remediate_circuit_affinity (c : Cluster) (r : Ref) : (c.remediateOpenCircuit r).affinityMap = c.affinityMap := by
  obtain ⟨_, treated⟩ := open_circuit_treats c r
  rw [treated]

theorem affinity_frame : Frame fun c d => d.affinityMap = c.affinityMap where
  refl _ := rfl
  trans _ _ _ before after := after.trans before
  metrics _ _ _ := rfl
  heated _ _ _ := rfl
  weighed _ _ _ := rfl
  tuned _ _ _ _ _ := rfl
  counted _ _ _ := rfl
  ramped _ _ := rfl
  sensed _ _ := rfl
  read _ _ := rfl

theorem begin_rotate_affinity (c : Cluster) : c.beginRotate.affinityMap = c.affinityMap :=
  frame_begin_rotate affinity_frame.toTuning.onward c

theorem remediate_stale_affinity (c : Cluster) : c.remediateStale.affinityMap = c.affinityMap := by
  obtain ⟨_, treated⟩ := stale_treats c
  rw [treated]

theorem keeps_links (cfg : Config) : Links cfg Keeps where
  begun c := keeps_quiet c _ (quiet_begin_rotate c) (begin_rotate_affinity c)
  ticked _ := keeps_grown _ _ rfl rfl fun _ member => member
  waited _ := keeps_grown _ _ rfl rfl fun _ member => member
  evicted c r reason _ := keeps_move_to_outer cfg c r reason
  circuit c r := keeps_quiet _ _ (calm_remediate_circuit c r).toQuiet (remediate_circuit_affinity c r)
  stale c := keeps_quiet _ _ (calm_remediate_stale c).toQuiet (remediate_stale_affinity c)
  drained c serverId drain _ := keeps_finish_drain c serverId drain
  promoted c r popped _ _ taken := by
    have ticked : Keeps c c.tick.tick := keeps_grown _ _ rfl rfl fun _ member => member
    exact keeps_trans _ _ _ ticked (keeps_promoted c.tick.tick popped r taken)

theorem keeps_rotate (cfg : Config) (c : Cluster) : Keeps c (c.rotate cfg) :=
  rotate_related cfg Keeps keeps_refl keeps_trans (keeps_links cfg) c

theorem keeps_force_evict (cfg : Config) (c : Cluster) (serverId : String) : Keeps c (c.forceEvict cfg serverId).1 := by
  simp only [Cluster.forceEvict]
  split
  · exact keeps_refl c
  · exact keeps_move_to_outer cfg c _ .manual

theorem keeps_check_draining (cfg : Config) (c : Cluster) : Keeps c (c.checkDrainingServers cfg) :=
  check_related cfg Keeps keeps_refl keeps_trans (keeps_links cfg) c

theorem add_server_affinity (cfg : Config) (c : Cluster) (r : Ref) (forceInner : Bool) :
    (c.addServer cfg r forceInner).affinityMap = c.affinityMap := by
  simp only [Cluster.addServer]
  split
  · rfl
  · split <;> rfl

theorem keeps_add_server (cfg : Config) (c : Cluster) (r : Ref) (forceInner : Bool) :
    Keeps c (c.addServer cfg r forceInner) := by
  have added := added_add_server cfg c r forceInner
  apply keeps_grown c _ added.ids (add_server_affinity cfg c r forceInner)
  · intro x member
    rcases added.placed with ⟨_, inner, _⟩ | ⟨inner, _⟩
    · rw [inner]
      exact List.mem_append_left [r] member
    · rwa [inner]

theorem record_outcome_affinity (c : Cluster) (r : Ref) (outcome : Cluster.Outcome) (elapsedMs : ℚ) :
    (c.recordOutcome r outcome elapsedMs).affinityMap = c.affinityMap := frame_record_outcome affinity_frame.course c r outcome elapsedMs

theorem keeps_record_outcome (c : Cluster) (r : Ref) (outcome : Cluster.Outcome) (elapsedMs : ℚ) :
    Keeps c (c.recordOutcome r outcome elapsedMs) :=
  keeps_quiet c _ (quiet_record_outcome c r outcome elapsedMs) (record_outcome_affinity c r outcome elapsedMs)

theorem sound_bind (c : Cluster) (key : String) (r : Ref) (member : r ∈ c.innerRing) (sound : Sound c) :
    Sound (c.bindAffinity key (some r)) := by
  constructor
  intro query serverId binding
  simp only [Cluster.bindAffinity, Dict.get_set] at binding
  split at binding
  · cases binding
    exact (mem_ids c _ _).mpr ⟨r, member, rfl⟩
  · exact sound.bound query serverId binding

theorem keeps_turn (c : Cluster) : Keeps c c.turn := keeps_still c c.turn (still_turn c) rfl

theorem sound_get_server (c : Cluster) (affinityKey : Option String) (draw : ℚ) (sound : Sound c) :
    Sound (c.getServer affinityKey draw).2 := by
  simp only [Cluster.getServer]
  split
  · exact sound
  · cases affinityKey with
    | none =>
        simp only
        split
        · exact keeps_sound c c.turn (keeps_turn c) sound
        · exact keeps_sound c _ (keeps_grown _ _ rfl rfl fun _ member => member) sound
    | some key =>
        simp only
        split
        · exact sound
        · have turned := keeps_sound c c.turn (keeps_turn c) sound
          cases head : c.innerRing.head? with
          | none => exact turned
          | some r =>
              have member : r ∈ c.turn.innerRing := List.mem_rotate.mpr (List.mem_of_head? head)
              exact sound_bind c.turn key r member turned

theorem keeps_get_server_excluding (c : Cluster) (excludedIds : List String) :
    Keeps c (c.getServerExcluding excludedIds).2 := by
  have turned := still_get_server_excluding c excludedIds
  obtain ⟨_, same⟩ := c.get_excluding_turned excludedIds
  exact keeps_still c _ turned (by rw [same])

theorem sound_get_server_context (c : Cluster) (affinityKey : Option String) (draw : ℚ) (raised : Bool) (elapsedMs : ℚ)
    (sound : Sound c) : Sound (c.getServerContext affinityKey draw raised elapsedMs) := by
  apply Cluster.served_context Sound sound_get_server _ c affinityKey draw raised elapsedMs sound
  exact fun d r outcome elapsedMs held => keeps_sound _ _ (keeps_record_outcome d r outcome elapsedMs) held

theorem sound_request_with_retry (c : Cluster) (affinityKey : Option String) (draw : ℚ)
    (attempts : List (Cluster.Outcome × ℚ)) (sound : Sound c) : Sound (c.requestWithRetry affinityKey draw attempts) := by
  apply Cluster.served_request Sound sound_get_server _ _ c affinityKey draw attempts sound
  · exact fun d excludedIds held => keeps_sound _ _ (keeps_get_server_excluding d excludedIds) held
  · exact fun d r outcome elapsedMs held => keeps_sound _ _ (keeps_record_outcome d r outcome elapsedMs) held

theorem sound_clear_affinity (c : Cluster) (key : Option String) (sound : Sound c) : Sound (c.clearAffinity key) := by
  constructor
  intro query serverId binding
  cases key with
  | none => simp [Cluster.clearAffinity] at binding
  | some key =>
      simp only [Cluster.clearAffinity, Dict.get_erase] at binding
      split at binding
      · cases binding
      · exact sound.bound query serverId binding

def Op.unbinding : Op → Bool
  | .getServer _ _ | .getServerContext _ _ _ _ | .requestWithRetry _ _ _ | .clearAffinity _ => false
  | op => op.routine

theorem routine_affinity (cfg : Config) (c : Cluster) (op : Op) (unbinding : op.unbinding = true) :
    (step cfg c op).affinityMap = c.affinityMap := by
  by_cases plain : op.plain = true
  · exact frame_plain affinity_frame.course cfg c op plain
  cases op with
  | loadState serversData => exact frame_load_state affinity_frame.course (fun _ _ _ => rfl) c serversData
  | triggerRemediation serverId policy => rfl
  | clearRemediationQuarantine serverId => rfl
  | _ => simp_all [Op.unbinding, Op.plain, Op.routine]

-- What remove_server leaves in the inner ring before it refills it.
def Cluster.leftInner (c : Cluster) (serverId : String) : List Ref := c.innerRing.eraseP (c.hasId serverId)

def Cluster.refill (cfg : Config) (c : Cluster) (serverId : String) : List Ref :=
  Heapq.pops c.temperatureOf (cfg.minInnerSize - (c.leftInner serverId).length) c.outerRing

theorem pull_inner (cfg : Config) (fuel : Nat) (c : Cluster) (enough : c.outerRing.length ≤ fuel) :
    (c.pullFromOuter cfg fuel).innerRing =
      c.innerRing ++ Heapq.pops c.temperatureOf (cfg.minInnerSize - c.innerRing.length) c.outerRing := by
  induction fuel generalizing c with
  | zero =>
      have empty : c.outerRing = [] := List.eq_nil_of_length_eq_zero (Nat.le_zero.mp enough)
      rw [Cluster.pullFromOuter, empty]
      cases cfg.minInnerSize - c.innerRing.length <;> simp [Heapq.pops, Heapq.heappop]
  | succ fuel ih =>
      rw [Cluster.pullFromOuter]
      split
      · rename_i short
        obtain ⟨missing, count⟩ : ∃ missing, cfg.minInnerSize - c.innerRing.length = missing + 1 :=
          ⟨cfg.minInnerSize - c.innerRing.length - 1, by omega⟩
        cases taken : c.popOuter with
        | none =>
            rw [Cluster.popOuter, Option.map_eq_none_iff] at taken
            simp [count, Heapq.pops, taken]
        | some entry =>
            obtain ⟨r, popped⟩ := entry
            have moved := promoted_pop_outer c popped r taken
            have shorter := Heapq.heappop_length _ _ _ _ moved.popped
            have longer := promoted_length c _ r moved
            have rest := ih (popped.moveToInner r) (by omega)
            have fewer : cfg.minInnerSize - (popped.moveToInner r).innerRing.length = missing := by omega
            rw [fewer, moved.inner, moved.temperatures, List.append_assoc] at rest
            rw [count, Heapq.pops, moved.popped]
            exact rest
      · rename_i full
        have zero : cfg.minInnerSize - c.innerRing.length = 0 := by omega
        simp [zero, Heapq.pops]

theorem pull_same (cfg : Config) (fuel : Nat) (c : Cluster) :
    (c.pullFromOuter cfg fuel).idOf = c.idOf ∧ (c.pullFromOuter cfg fuel).affinityMap = c.affinityMap := by
  induction fuel generalizing c with
  | zero => exact ⟨rfl, rfl⟩
  | succ fuel ih =>
      rw [Cluster.pullFromOuter]
      split
      · split
        · exact ⟨rfl, rfl⟩
        · rename_i r popped taken
          have moved := promoted_pop_outer c popped r taken
          have affinity := (move_to_inner_affinity popped r).trans (pop_outer_affinity c popped r taken)
          obtain ⟨ids, bindings⟩ := ih (popped.moveToInner r)
          exact ⟨ids.trans moved.ids, bindings.trans affinity⟩
      · exact ⟨rfl, rfl⟩

-- Removing a server of the inner ring is harmless if no key is bound to its id,
-- or if another server with that id is in the ring after the refill.
def Released (cfg : Config) (c : Cluster) : Op → Prop
  | .removeServer serverId =>
      c.innerRing.any (c.hasId serverId) = true → serverId ∈ c.affinityMap.values →
        serverId ∈ c.idsOf (c.leftInner serverId ++ c.refill cfg serverId)
  | _ => True

theorem remove_server_sound (cfg : Config) (c : Cluster) (serverId : String) (sound : Sound c) :
    Sound (c.removeServer cfg serverId).1 ↔ Released cfg c (.removeServer serverId) := by
  simp only [Released, Cluster.removeServer]
  split
  · rename_i present
    set left : Cluster := { c with innerRing := c.leftInner serverId } with leftDef
    obtain ⟨ids, affinity⟩ := pull_same cfg left.outerRing.length left
    have inner : (left.maybePullFromOuter cfg).innerRing = c.leftInner serverId ++ c.refill cfg serverId :=
      pull_inner cfg left.outerRing.length left (le_refl _)
    have same : (left.maybePullFromOuter cfg).idsOf (left.maybePullFromOuter cfg).innerRing =
        c.idsOf (c.leftInner serverId ++ c.refill cfg serverId) := by
      rw [inner]
      exact congrArg (fun name => List.map name (c.leftInner serverId ++ c.refill cfg serverId)) ids
    change Sound (left.maybePullFromOuter cfg) ↔ _
    constructor
    · intro after _ bound
      obtain ⟨key, binding⟩ := (Dict.mem_values _ _).mp bound
      have member := after.bound key serverId (by rw [Cluster.maybePullFromOuter, affinity]; exact binding)
      rwa [same] at member
    · intro released
      constructor
      intro key bound binding
      rw [Cluster.maybePullFromOuter, affinity] at binding
      rw [same]
      by_cases gone : bound = serverId
      · subst gone
        exact released present ((Dict.mem_values _ _).mpr ⟨key, binding⟩)
      · obtain ⟨r, member, named⟩ := (mem_ids c _ _).mp (sound.bound key bound binding)
        have other : ¬ c.hasId serverId r = true := by
          simpa only [Cluster.hasId, decide_eq_true_eq, named] using gone
        have stayed := (List.mem_eraseP_of_neg other).mpr member
        exact (mem_ids c _ _).mpr ⟨r, List.mem_append_left _ stayed, named⟩
  · rename_i absent
    have untouched : Sound c ↔ (c.innerRing.any (c.hasId serverId) = true → serverId ∈ c.affinityMap.values →
        serverId ∈ c.idsOf (c.leftInner serverId ++ c.refill cfg serverId)) :=
      ⟨fun _ present => absurd present absent, fun _ => sound⟩
    split
    · exact ⟨fun _ => untouched.mp sound, fun _ => ⟨sound.bound⟩⟩
    · exact untouched

theorem step_sound (cfg : Config) (c : Cluster) (op : Op) (sound : Sound c) : Sound (step cfg c op) ↔ Released cfg c op := by
  have harmless : ∀ d : Cluster, d.affinityMap = c.affinityMap → Still c d → (Sound d ↔ True) := fun d affinity same =>
    iff_true_intro (keeps_sound c d (keeps_still c d same affinity) sound)
  cases op with
  | removeServer serverId => exact remove_server_sound cfg c serverId sound
  | addServer r forceInner => exact iff_true_intro (keeps_sound c _ (keeps_add_server cfg c r forceInner) sound)
  | forceEvict serverId => exact iff_true_intro (keeps_sound c _ (keeps_force_evict cfg c serverId) sound)
  | rotate => exact iff_true_intro (keeps_sound c _ (keeps_rotate cfg c) sound)
  | checkDrainingServers => exact iff_true_intro (keeps_sound c _ (keeps_check_draining cfg c) sound)
  | getServer affinityKey draw => exact iff_true_intro (sound_get_server c affinityKey draw sound)
  | getServerContext affinityKey draw raised elapsedMs =>
      exact iff_true_intro (sound_get_server_context c affinityKey draw raised elapsedMs sound)
  | requestWithRetry affinityKey draw attempts =>
      exact iff_true_intro (sound_request_with_retry c affinityKey draw attempts sound)
  | clearAffinity key => exact iff_true_intro (sound_clear_affinity c key sound)
  | _ => exact harmless _ (routine_affinity cfg c _ rfl) (still_step cfg c _ rfl)

theorem affinity_sound_iff (cfg : Config) (objects : Ref → Server) (adaptive : Option AdaptiveThresholdController)
    (remediator : Option Remediator) (hardwareManager : Option HardwareTelemetryManager) (monotonic : Clock)
    (ops : List Op) (c : Cluster)
    (run : ClusterRun cfg (fun _ _ => True) (.empty cfg objects adaptive remediator hardwareManager monotonic) ops c) :
    Runs.Always (next cfg) (.empty cfg objects adaptive remediator hardwareManager monotonic) ops Sound ↔
      ClusterRun cfg (Released cfg) (.empty cfg objects adaptive remediator hardwareManager monotonic) ops c := by
  apply Runs.run_always (next cfg) (Released cfg) (fun _ => True) Sound (fun _ _ _ _ _ => trivial)
  · intro state op after _ sound taken
    cases taken
    exact step_sound cfg state op sound
  · trivial
  · constructor
    intro key serverId binding
    simp [Cluster.empty] at binding
  · exact run

instance (cfg : Config) (c : Cluster) (op : Op) : Decidable (Released cfg c op) := by
  cases op <;> simp only [Released] <;> infer_instance

def boundRun (last : Op) : List Op := [.addServer 0 true, .addServer 1 true, .getServer (some "k") 0, last]

def affinityStart : Cluster := .empty {} (fun r => { id := toString r }) none none none ⟨fun ticks => ticks, 0⟩

theorem affinity_sound_evicted : ∃ c, Runs.Always (next {}) affinityStart (boundRun (.forceEvict "0")) Sound ∧
    ClusterRun {} (Released {}) affinityStart (boundRun (.forceEvict "0")) c := by
  have taken : (Runs.follow (next {}) (Released {}) affinityStart (boundRun (.forceEvict "0"))).isSome = true := by
    decide +kernel
  obtain ⟨c, reached⟩ := Option.isSome_iff_exists.mp taken
  have restricted := Runs.follow_run (next {}) (Released {}) affinityStart c _ reached
  have run := Runs.run_free _ _ _ _ _ restricted
  exact ⟨c, (affinity_sound_iff {} _ none none none _ _ c run).mpr restricted, restricted⟩

theorem removed_server_stays_bound : ∃ c, ClusterRun {} (fun _ _ => True) affinityStart (boundRun (.removeServer "0")) c ∧
    c.affinityMap.get? "k" = some "0" ∧ "0" ∉ c.idsOf c.innerRing ∧ ¬ Sound c := by
  have broken : ∃ c ∈ Runs.follow (next {}) (fun _ _ => True) affinityStart (boundRun (.removeServer "0")),
      c.affinityMap.get? "k" = some "0" ∧ "0" ∉ c.idsOf c.innerRing := by decide +kernel
  obtain ⟨c, reached, binding, gone⟩ := broken
  have run := Runs.follow_run (next {}) (fun _ _ => True) affinityStart c _ reached
  exact ⟨c, run, binding, gone, fun sound => gone (sound.bound "k" "0" binding)⟩

end HuddleCluster.Ring
