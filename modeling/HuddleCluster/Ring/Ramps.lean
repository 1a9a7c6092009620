import HuddleCluster.Ring.Stamps

set_option autoImplicit false

namespace HuddleCluster.Ring

theorem interpolation_towards (first last f g : ℚ) (forward : f ≤ g) (bound : g ≤ 1) :
    first + g * (last - first) ∈ Set.uIcc (first + f * (last - first)) last := by
  rw [Set.mem_uIcc]
  rcases le_total first last with rising | falling
  · have gap : 0 ≤ last - first := sub_nonneg.mpr rising
    have further := mul_le_mul_of_nonneg_right forward gap
    have short := mul_le_mul_of_nonneg_right bound gap
    exact Or.inl ⟨by linarith, by linarith⟩
  · have gap : last - first ≤ 0 := sub_nonpos.mpr falling
    have further := mul_le_mul_of_nonpos_right forward gap
    have short := mul_le_mul_of_nonpos_right bound gap
    exact Or.inr ⟨by linarith, by linarith⟩

namespace TrafficRamp

variable (ramp : TrafficRamp)

theorem progress_nonneg (now : ℚ) (started : ramp.startTime ≤ now) : 0 ≤ ramp.progress now := by
  unfold progress
  split
  · exact zero_le_one
  · rename_i lasting
    have elapsed : 0 ≤ now - ramp.startTime := sub_nonneg.mpr started
    exact le_min zero_le_one (div_nonneg elapsed (not_le.mp lasting).le)

theorem progress_le_one (now : ℚ) : ramp.progress now ≤ 1 := by
  unfold progress
  split
  · exact le_refl 1
  · exact min_le_left _ _

theorem progress_mono (earlier later : ℚ) (forward : earlier ≤ later) : ramp.progress earlier ≤ ramp.progress later := by
  unfold progress
  split
  · exact le_refl 1
  · rename_i lasting
    have elapsed : earlier - ramp.startTime ≤ later - ramp.startTime := sub_le_sub_right forward _
    exact min_le_min_left 1 (div_le_div_of_nonneg_right elapsed (not_le.mp lasting).le)

theorem weight_between (now : ℚ) (started : ramp.startTime ≤ now) :
    ramp.currentWeight now ∈ Set.uIcc ramp.startWeight ramp.targetWeight := by
  have towards := interpolation_towards ramp.startWeight ramp.targetWeight 0 (ramp.progress now)
    (ramp.progress_nonneg now started) (ramp.progress_le_one now)
  rwa [zero_mul, add_zero] at towards

theorem weight_towards (earlier later : ℚ) (forward : earlier ≤ later) :
    ramp.currentWeight later ∈ Set.uIcc (ramp.currentWeight earlier) ramp.targetWeight :=
  interpolation_towards ramp.startWeight ramp.targetWeight (ramp.progress earlier) (ramp.progress later)
    (ramp.progress_mono earlier later forward) (ramp.progress_le_one later)

theorem progress_complete (now : ℚ) (ended : ramp.startTime + ramp.rampSec ≤ now) : ramp.progress now = 1 := by
  unfold progress
  split
  · rfl
  · rename_i lasting
    have whole : 1 ≤ (now - ramp.startTime) / ramp.rampSec := (one_le_div (not_le.mp lasting)).mpr (by linarith)
    exact min_eq_left whole

theorem progress_strict (earlier later : ℚ) (started : ramp.startTime ≤ earlier) (forward : earlier < later)
    (running : earlier < ramp.startTime + ramp.rampSec) : ramp.progress earlier < ramp.progress later := by
  have lasting : 0 < ramp.rampSec := by linarith
  have partly : (earlier - ramp.startTime) / ramp.rampSec < 1 := (div_lt_one lasting).mpr (by linarith)
  have further : (earlier - ramp.startTime) / ramp.rampSec < (later - ramp.startTime) / ramp.rampSec :=
    div_lt_div_of_pos_right (by linarith) lasting
  simp only [progress, not_le.mpr lasting, if_false]
  rw [min_eq_right partly.le]
  exact lt_min partly further

theorem weight_arrives (now : ℚ) (ended : ramp.startTime + ramp.rampSec ≤ now) : ramp.currentWeight now = ramp.targetWeight := by
  rw [currentWeight, ramp.progress_complete now ended]
  ring

theorem weight_left (now : ℚ) :
    |ramp.targetWeight - ramp.currentWeight now| = (1 - ramp.progress now) * |ramp.targetWeight - ramp.startWeight| := by
  have rest : 0 ≤ 1 - ramp.progress now := sub_nonneg.mpr (ramp.progress_le_one now)
  have left : ramp.targetWeight - ramp.currentWeight now = (1 - ramp.progress now) * (ramp.targetWeight - ramp.startWeight) := by
    rw [currentWeight]
    ring
  rw [left, abs_mul, abs_of_nonneg rest]

theorem weight_nearer (earlier later : ℚ) (started : ramp.startTime ≤ earlier) (forward : earlier < later)
    (running : earlier < ramp.startTime + ramp.rampSec) (apart : ramp.startWeight ≠ ramp.targetWeight) :
    |ramp.targetWeight - ramp.currentWeight later| < |ramp.targetWeight - ramp.currentWeight earlier| := by
  have gone := ramp.progress_strict earlier later started forward running
  have distance : 0 < |ramp.targetWeight - ramp.startWeight| := abs_pos.mpr (sub_ne_zero.mpr (Ne.symm apart))
  rw [weight_left, weight_left]
  exact mul_lt_mul_of_pos_right (by linarith) distance

end TrafficRamp

-- The clock goes on, and a ramp was there before or started at a reading that is over.
structure Aged (c d : Cluster) : Prop where
  readings : d.monotonic.reading = c.monotonic.reading
  ticks : c.monotonic.ticks ≤ d.monotonic.ticks
  ramps : ∀ serverId ramp, d.ramps.get? serverId = some ramp → c.ramps.get? serverId = some ramp ∨
    ∃ tick, tick < d.monotonic.ticks ∧ ramp.startTime = c.monotonic.reading tick

theorem aged_same (c d : Cluster) (readings : d.monotonic.reading = c.monotonic.reading)
    (ticks : c.monotonic.ticks ≤ d.monotonic.ticks) (ramps : d.ramps = c.ramps) : Aged c d :=
  ⟨readings, ticks, fun _ _ found => Or.inl (ramps ▸ found)⟩

theorem aged_still (c d : Cluster) (clock : d.monotonic = c.monotonic) (ramps : d.ramps = c.ramps) : Aged c d :=
  aged_same c d (by rw [clock]) (by rw [clock]) ramps

theorem aged_trans (c d e : Cluster) (before : Aged c d) (after : Aged d e) : Aged c e := by
  refine ⟨after.readings.trans before.readings, before.ticks.trans after.ticks, ?_⟩
  intro serverId ramp found
  rcases after.ramps serverId ramp found with older | ⟨tick, past, start⟩
  · rcases before.ramps serverId ramp older with oldest | ⟨tick, past, start⟩
    · exact Or.inl oldest
    · exact Or.inr ⟨tick, past.trans_le after.ticks, start⟩
  · exact Or.inr ⟨tick, past, before.readings ▸ start⟩

theorem aged_ended (c : Cluster) (serverId : String) : Aged c { c with ramps := c.ramps.erase serverId } := by
  refine ⟨rfl, le_refl _, ?_⟩
  intro query ramp found
  rw [Dict.get_erase] at found
  split at found
  · cases found
  · exact Or.inl found

theorem aged_started (c : Cluster) (serverId : String) (ramp : TrafficRamp) (start : ramp.startTime = c.now) :
    Aged c { c.tick with ramps := c.ramps.set serverId ramp } := by
  refine ⟨rfl, Nat.le_succ _, ?_⟩
  intro query other found
  rw [Dict.get_set] at found
  split at found
  · obtain rfl := Option.some.inj found
    exact Or.inr ⟨c.monotonic.ticks, Nat.lt_succ_self _, start⟩
  · exact Or.inl found

theorem aged_course : Course Aged where
  refl c := aged_still c c rfl rfl
  trans := aged_trans
  metrics c _ _ := aged_still c _ rfl rfl
  heated c _ _ := aged_still c _ rfl rfl
  weighed c _ _ := aged_still c _ rfl rfl
  tuned c _ _ _ _ := aged_still c _ rfl rfl
  waited c _ := aged_same c _ rfl (Nat.le_add_right _ _) rfl
  counted c _ _ := aged_still c _ rfl rfl
  ended := aged_ended
  started := aged_started
  sensed c _ := aged_still c _ rfl rfl

theorem aged_ticked (c d : Cluster) (clock : d.monotonic = c.monotonic.tick) (ramps : d.ramps = c.ramps) : Aged c d :=
  aged_same c d (by rw [clock]; rfl) (by rw [clock]; exact Nat.le_succ _) ramps

theorem aged_record_eviction (c : Cluster) (r : Ref) : Aged c (c.recordEviction r) := by
  obtain ⟨_, treated⟩ := record_eviction_treats c r
  rw [treated]
  exact aged_still c _ rfl rfl

theorem aged_complete_eviction (c : Cluster) (r : Ref) : Aged c (c.completeEviction r) := by
  refine aged_trans c _ _ ?_ (aged_record_eviction _ r)
  exact aged_ticked c _ rfl rfl

theorem aged_move_to_outer (cfg : Config) (c : Cluster) (r : Ref) (reason : EvictionReason) :
    Aged c (c.moveToOuter cfg r reason) := by
  have left : Aged c (c.leaveInner r reason) := aged_ticked c _ rfl rfl
  unfold Cluster.moveToOuter
  simp only
  split
  · exact aged_trans _ _ _ left (aged_still _ _ rfl rfl)
  · exact aged_trans _ _ _ left (aged_complete_eviction _ r)

theorem aged_move_to_inner (c : Cluster) (r : Ref) : Aged c (c.moveToInner r) := by
  unfold Cluster.moveToInner Cluster.recordRecovery
  simp only
  split <;> exact aged_ticked c _ rfl rfl

theorem aged_pop_outer (c popped : Cluster) (r : Ref) (taken : c.popOuter = some (r, popped)) : Aged c (popped.moveToInner r) := by
  simp only [Cluster.popOuter, Option.map_eq_some_iff, Prod.mk.injEq] at taken
  obtain ⟨⟨item, rest⟩, _, rfl, rfl⟩ := taken
  exact aged_trans c { c with outerRing := rest } _ (aged_still c _ rfl rfl) (aged_move_to_inner _ item)

theorem aged_circuit (c : Cluster) (r : Ref) : Aged c (c.remediateOpenCircuit r) := by
  obtain ⟨_, treated⟩ := open_circuit_treats c r
  rw [treated]
  exact aged_still c _ rfl rfl

theorem aged_stale (c : Cluster) : Aged c c.remediateStale := by
  obtain ⟨_, treated⟩ := stale_treats c
  rw [treated]
  exact aged_still c _ rfl rfl

theorem aged_links (cfg : Config) : Links cfg Aged where
  begun c := frame_begin_rotate aged_course.toOnward c
  ticked c := aged_ticked c _ rfl rfl
  waited c := aged_course.waited c 2
  evicted c r reason _ := aged_move_to_outer cfg c r reason
  circuit := aged_circuit
  stale := aged_stale
  drained c serverId drain _ := aged_trans c { c with drainingServers := c.drainingServers.erase serverId } _
    (aged_still c _ rfl rfl) (aged_complete_eviction _ drain.server)
  promoted c r popped _ _ taken := aged_trans _ _ _ (aged_course.waited c 2) (aged_pop_outer _ popped r taken)

theorem aged_get_server (c : Cluster) (affinityKey : Option String) (draw : ℚ) : Aged c (c.getServer affinityKey draw).2 := by
  obtain ⟨_, _, readings, turned⟩ := c.get_server_turned affinityKey draw
  rw [turned]
  exact aged_same c _ rfl (Nat.le_add_right _ readings) rfl

theorem aged_get_excluding (c : Cluster) (excludedIds : List String) : Aged c (c.getServerExcluding excludedIds).2 := by
  obtain ⟨_, turned⟩ := c.get_excluding_turned excludedIds
  rw [turned]
  exact aged_still c _ rfl rfl

theorem aged_add_server (cfg : Config) (c : Cluster) (r : Ref) (forceInner : Bool) : Aged c (c.addServer cfg r forceInner) := by
  unfold Cluster.addServer
  simp only
  split
  · exact aged_ticked c _ rfl rfl
  · split <;> exact aged_still c _ rfl rfl

theorem aged_routine (cfg : Config) (c : Cluster) (op : Op) (routine : op.routine = true) : Aged c (step cfg c op) := by
  by_cases plain : op.plain = true
  · exact frame_plain aged_course cfg c op plain
  cases op with
  | getServer affinityKey draw => exact aged_get_server c affinityKey draw
  | getServerContext affinityKey draw raised elapsedMs =>
      exact frame_context aged_course aged_get_server c affinityKey draw raised elapsedMs
  | requestWithRetry affinityKey draw attempts =>
      exact frame_request aged_course aged_get_server aged_get_excluding c affinityKey draw attempts
  | loadState serversData => exact frame_load_state aged_course (fun state _ _ => aged_still state _ rfl rfl) c serversData
  | clearAffinity key => cases key <;> exact aged_still c _ rfl rfl
  | triggerRemediation => exact aged_still c _ rfl rfl
  | clearRemediationQuarantine => exact aged_still c _ rfl rfl
  | _ => simp_all [Op.plain, Op.routine]

theorem aged_remove_server (cfg : Config) (c : Cluster) (serverId : String) : Aged c (c.removeServer cfg serverId).1 := by
  unfold Cluster.removeServer
  split
  · have erased : Aged c { c with innerRing := c.innerRing.eraseP (c.hasId serverId) } := aged_still c _ rfl rfl
    refine aged_trans _ _ _ erased ?_
    exact refill_related cfg Aged aged_course.refl aged_trans (fun a r popped taken => aged_pop_outer a popped r taken) _ _
  · split <;> exact aged_still c _ rfl rfl

theorem aged_step (cfg : Config) (c : Cluster) (op : Op) : Aged c (step cfg c op) := by
  cases op with
  | addServer r forceInner => exact aged_add_server cfg c r forceInner
  | removeServer serverId => exact aged_remove_server cfg c serverId
  | forceEvict serverId =>
      rw [step, Cluster.forceEvict]
      split
      · exact aged_still c c rfl rfl
      · exact aged_move_to_outer cfg c _ .manual
  | rotate => exact rotate_related cfg Aged aged_course.refl aged_trans (aged_links cfg) c
  | checkDrainingServers => exact check_related cfg Aged aged_course.refl aged_trans (aged_links cfg) c
  | _ => exact aged_routine cfg c _ rfl

theorem aged_run (cfg : Config) (start c : Cluster) (ops : List Op) (run : ClusterRun cfg (fun _ _ => True) start ops c) :
    Aged start c := by
  refine Runs.run_invariant _ _ (Aged start) ?_ start c ops (aged_course.refl start) run
  intro state op after aged _ taken
  obtain rfl := Option.some.inj taken
  exact aged_trans start state _ aged (aged_step cfg state op)

-- From a start without ramps, every active ramp began no later than any reading
-- still to come.
theorem ramp_started (cfg : Config) (start c : Cluster) (ops : List Op) (bare : start.ramps = .empty)
    (forward : Monotone start.monotonic.reading) (run : ClusterRun cfg (fun _ _ => True) start ops c)
    (serverId : String) (ramp : TrafficRamp) (found : c.ramps.get? serverId = some ramp) (next : Nat)
    (coming : c.monotonic.ticks ≤ next) : ramp.startTime ≤ c.monotonic.reading next := by
  have aged := aged_run cfg start c ops run
  rcases aged.ramps serverId ramp found with older | ⟨tick, past, began⟩
  · rw [bare] at older
    cases older
  · rw [began, aged.readings]
    exact forward (past.le.trans coming)

end HuddleCluster.Ring
