import HuddleCluster.Ring.MoveChains

set_option autoImplicit false

namespace HuddleCluster.Ring

namespace Cluster

def idsOf (c : Cluster) (ring : List Ref) : List String := ring.map c.idOf

def ids (c : Cluster) : List String := c.idsOf c.allServers

end Cluster

theorem ids_split (c : Cluster) : c.ids = c.idsOf c.innerRing ++ c.idsOf c.drainingRefs ++ c.idsOf c.outerRing := by
  simp only [Cluster.ids, Cluster.idsOf, Cluster.allServers, List.map_append]

theorem mem_ids (c : Cluster) (serverId : String) (ring : List Ref) :
    serverId ∈ c.idsOf ring ↔ ∃ r ∈ ring, c.idOf r = serverId := List.mem_map

theorem absent_iff (c : Cluster) (serverId : String) : serverId ∉ c.ids ↔ ∀ r ∈ c.allServers, c.idOf r ≠ serverId := by
  rw [Cluster.ids, mem_ids, not_exists]
  exact forall_congr' fun r => not_and

-- The element that is dropped may be another object than the one meant, but it
-- has the same id.
theorem erase_ids_perm (c : Cluster) (serverId : String) (ring : List Ref) (present : ring.any (c.hasId serverId) = true) :
    (c.idsOf ring).Perm (serverId :: c.idsOf (ring.eraseP (c.hasId serverId))) := by
  obtain ⟨a, member, named⟩ := List.any_eq_true.mp present
  obtain ⟨x, front, back, _, found, whole, rest⟩ := List.exists_of_eraseP member named
  have same : c.idOf x = serverId := by simpa [Cluster.hasId] using found
  rw [rest, whole, Cluster.idsOf, Cluster.idsOf, List.map_append, List.map_cons, same, List.map_append]
  exact List.perm_middle

theorem pushed_ids (c d : Cluster) (r : Ref) (same : d.idOf = c.idOf)
    (pushed : d.outerRing = Heapq.heappush d.temperatureOf c.outerRing r) :
    (d.idsOf d.outerRing).Perm (c.idOf r :: c.idsOf c.outerRing) := by
  rw [pushed, Cluster.idsOf, same]
  exact (Heapq.heappush_perm d.temperatureOf c.outerRing r).map c.idOf

theorem draining_ids (c d : Cluster) (same : d.idOf = c.idOf) (draining : d.drainingServers = c.drainingServers) :
    d.idsOf d.drainingRefs = c.idsOf c.drainingRefs := by
  rw [Cluster.idsOf, Cluster.idsOf, same, Cluster.drainingRefs, draining, Cluster.drainingRefs]

theorem still_ids (c d : Cluster) (same : Still c d) : d.ids.Perm c.ids := by
  have inner : (d.idsOf d.innerRing).Perm (c.idsOf c.innerRing) := by
    rw [Cluster.idsOf, same.ids]
    exact same.inner.perm.symm.map c.idOf
  have outer : d.idsOf d.outerRing = c.idsOf c.outerRing := by rw [Cluster.idsOf, same.ids, same.outer, Cluster.idsOf]
  rw [ids_split, ids_split, draining_ids c d same.ids same.draining, outer]
  exact (inner.append_right _).append_right _

theorem move_ids (cfg : Config) (reasons : Set EvictionReason) (c d : Cluster) (moved : Move cfg reasons c d) :
    d.ids.Perm c.ids := by
  cases moved with
  | calm same => exact still_ids c d (still_of_quiet c d same.toQuiet)
  | evicted r reason _ member moved =>
      have left := erase_ids_perm c (c.idOf r) c.innerRing (List.any_eq_true.mpr ⟨r, member, by simp [Cluster.hasId]⟩)
      have inner : d.idsOf d.innerRing = c.idsOf (c.innerRing.eraseP (c.hasId (c.idOf r))) := by
        rw [Cluster.idsOf, moved.ids, moved.inner, Cluster.idsOf]
      rcases moved.placed with ⟨outer, draining, _⟩ | ⟨outer, _, absent, drain, server, draining⟩
      · have pushed := pushed_ids c d r moved.ids outer
        have refs := draining_ids c d moved.ids draining
        rw [List.perm_iff_count] at left pushed ⊢
        intro serverId
        have out := left serverId
        have into := pushed serverId
        simp only [ids_split, List.count_append, List.count_cons, inner, refs] at out into ⊢
        omega
      · have refs : d.idsOf d.drainingRefs = c.idsOf c.drainingRefs ++ [c.idOf r] := by
          rw [Cluster.idsOf, moved.ids, Cluster.drainingRefs, draining, Dict.values_set_new _ _ _ absent]
          simp [Cluster.idsOf, Cluster.drainingRefs, server]
        have outside : d.idsOf d.outerRing = c.idsOf c.outerRing := by rw [Cluster.idsOf, moved.ids, outer, Cluster.idsOf]
        rw [List.perm_iff_count] at left ⊢
        intro serverId
        have out := left serverId
        simp only [ids_split, List.count_append, List.count_cons, List.count_nil, inner, refs, outside] at out ⊢
        omega
  | promoted r _ moved =>
      have popped := (Heapq.heappop_perm _ _ _ _ moved.popped).map c.idOf
      have refs := draining_ids c d moved.ids moved.draining
      have inner : d.idsOf d.innerRing = c.idsOf c.innerRing ++ [c.idOf r] := by
        rw [Cluster.idsOf, moved.ids, moved.inner, List.map_append, List.map_singleton, Cluster.idsOf]
      rw [List.perm_iff_count] at popped ⊢
      intro serverId
      have out := popped serverId
      rw [List.map_cons, List.count_cons] at out
      simp only [ids_split, List.count_append, List.count_cons, List.count_nil, inner, refs]
      simp only [Cluster.idsOf, moved.ids] at out ⊢
      omega
  | drained serverId drain moved =>
      have erased := ((Dict.values_erase _ _ _ moved.entry).map Drain.server).map c.idOf
      have pushed := pushed_ids c d drain.server moved.ids moved.outer
      have inner : d.idsOf d.innerRing = c.idsOf c.innerRing := by rw [Cluster.idsOf, moved.ids, moved.inner, Cluster.idsOf]
      rw [List.map_cons, List.map_cons, ← moved.draining] at erased
      rw [List.perm_iff_count] at erased pushed ⊢
      intro query
      have out := erased query
      have into := pushed query
      simp only [ids_split, List.count_append, List.count_cons, inner] at out into ⊢
      simp only [Cluster.idsOf, Cluster.drainingRefs, moved.ids] at out into ⊢
      omega

theorem moves_ids (cfg : Config) (reasons : Set EvictionReason) (c d : Cluster) (moved : Moves cfg reasons c d) :
    d.ids.Perm c.ids := by
  induction moved with
  | refl => exact .refl _
  | tail _ step ih => exact (move_ids cfg reasons _ _ step).trans ih

theorem added_ids (cfg : Config) (c d : Cluster) (r : Ref) (added : Added cfg c d r) : d.ids.Perm (c.idOf r :: c.ids) := by
  have refs := draining_ids c d added.ids added.draining
  rcases added.placed with ⟨_, inner, outer, _⟩ | ⟨inner, outer, _⟩
  · rw [List.perm_iff_count]
    intro serverId
    simp only [ids_split, List.count_append, List.count_cons, refs]
    simp only [Cluster.idsOf, added.ids, inner, outer, List.map_append, List.map_singleton, List.count_append,
      List.count_cons, List.count_nil]
    omega
  · have pushed := pushed_ids c d r added.ids (added.temperatures.symm ▸ outer)
    rw [List.perm_iff_count] at pushed ⊢
    intro serverId
    have into := pushed serverId
    simp only [ids_split, List.count_append, List.count_cons, refs] at into ⊢
    simp only [Cluster.idsOf, added.ids, inner] at into ⊢
    omega

theorem removed_ids (cfg : Config) (c d : Cluster) (serverId : String) (result : Bool)
    (removed : Removed cfg c serverId d result) : c.ids.Perm (if result then serverId :: d.ids else d.ids) := by
  cases removed with
  | inner d present pulled =>
      have left := erase_ids_perm c serverId c.innerRing present
      have kept := moves_ids cfg steady _ d pulled
      refine .trans ?_ (kept.symm.cons serverId)
      rw [ids_split, ids_split]
      exact (left.append_right (c.idsOf c.drainingRefs)).append_right (c.idsOf c.outerRing)
  | outer absent present =>
      have left := erase_ids_perm c serverId c.outerRing present
      have heaped := (Heapq.heapify_perm c.temperatureOf (c.outerRing.eraseP (c.hasId serverId))).map c.idOf
      simp only [if_true]
      rw [ids_split]
      exact ((left.trans (heaped.symm.cons serverId)).append_left _).trans (List.perm_middle.trans (by rw [ids_split]; rfl))
  | missing absentInner absentOuter => exact .refl _

theorem removed_reports (cfg : Config) (c d : Cluster) (serverId : String) (result : Bool)
    (removed : Removed cfg c serverId d result) : result = true ↔ serverId ∈ c.idsOf (c.innerRing ++ c.outerRing) := by
  have named : ∀ ring : List Ref, ring.any (c.hasId serverId) = true ↔ serverId ∈ c.idsOf ring := by
    intro ring
    simp [mem_ids, Cluster.hasId]
  have split : serverId ∈ c.idsOf (c.innerRing ++ c.outerRing) ↔
      c.innerRing.any (c.hasId serverId) = true ∨ c.outerRing.any (c.hasId serverId) = true := by
    rw [named, named, Cluster.idsOf, List.map_append, List.mem_append, Cluster.idsOf, Cluster.idsOf]
  rw [split]
  cases removed with
  | inner d present pulled => simp [present]
  | outer absent present => simp [present]
  | missing absentInner absentOuter => simp [absentInner, absentOuter]

theorem step_ids_perm (cfg : Config) (c : Cluster) (op : Op) (added : op.added = none) (removed : op.removed = none) :
    (step cfg c op).ids.Perm c.ids := by
  cases op with
  | addServer => cases added
  | removeServer => cases removed
  | forceEvict serverId => exact moves_ids cfg _ _ _ (moves_force_evict cfg c serverId)
  | rotate => exact (moves_ids cfg _ _ _ (moves_rotate cfg c)).trans (still_ids _ _ (still_of_quiet _ _ (quiet_begin_rotate c)))
  | checkDrainingServers => exact moves_ids cfg _ _ _ (moves_check_draining cfg c)
  | _ => exact still_ids c _ (still_step cfg c _ rfl)

theorem step_absent (cfg : Config) (c : Cluster) (op : Op) (serverId : String) (absent : serverId ∉ c.ids)
    (unadded : ∀ r ∈ op.added, c.idOf r ≠ serverId) : serverId ∉ (step cfg c op).ids := by
  cases op with
  | addServer r forceInner =>
      have perm := added_ids cfg c _ r (added_add_server cfg c r forceInner)
      intro member
      rcases List.mem_cons.mp (perm.mem_iff.mp member) with same | before
      · exact unadded r rfl same.symm
      · exact absent before
  | removeServer other =>
      have perm := removed_ids cfg c _ other _ (removed_remove_server cfg c other)
      intro member
      refine absent (perm.mem_iff.mpr ?_)
      split
      · exact List.mem_cons_of_mem other member
      · exact member
  | _ => exact absent ∘ (step_ids_perm cfg c _ rfl rfl).mem_iff.mp

theorem pick_weighted_mem (draw cumulative : ℚ) (weights : List (Ref × ℚ)) (r : Ref)
    (picked : Cluster.pickWeighted draw cumulative weights = some r) : r ∈ weights.map Prod.fst := by
  induction weights generalizing cumulative with
  | nil => simp [Cluster.pickWeighted] at picked
  | cons entry rest ih =>
      cases rest with
      | nil =>
          simp only [Cluster.pickWeighted, Option.some.injEq] at picked
          simp [picked]
      | cons following tail =>
          rw [Cluster.pickWeighted] at picked
          split at picked
          · cases picked
            simp
          · exact List.mem_cons_of_mem _ (ih _ picked)
          · simp

theorem weighted_select_mem (c : Cluster) (draw : ℚ) (r : Ref) (picked : (c.weightedSelect draw).1 = some r) :
    r ∈ c.innerRing := by
  have chosen := pick_weighted_mem draw 0 _ r picked
  simpa [List.mem_mapIdx, List.mem_iff_getElem] using chosen

theorem get_server_mem (c : Cluster) (affinityKey : Option String) (draw : ℚ) (r : Ref)
    (chosen : (c.getServer affinityKey draw).1 = some r) : r ∈ c.allServers := by
  have inner : r ∈ c.innerRing → r ∈ c.allServers := fun member => by simp [Cluster.allServers, member]
  unfold Cluster.getServer at chosen
  split at chosen
  · unfold Cluster.emergencyServer at chosen
    split at chosen
    · rename_i first rest outer
      cases chosen
      simp [Cluster.allServers, outer]
    · simp [Cluster.allServers, List.mem_of_head? chosen]
  · split at chosen
    · split at chosen
      · exact inner (List.mem_of_head? chosen)
      · exact inner (weighted_select_mem c draw r chosen)
    · split at chosen
      · rename_i key bound found
        cases chosen
        unfold Cluster.boundServer at found
        split at found
        · cases found
        · rename_i boundId _
          have first := Option.filter_eq_some_iff.mp found
          exact inner (List.mem_reverse.mp (List.mem_of_find?_eq_some first.1))
      · exact inner (List.mem_of_head? chosen)

-- What removing an id for good means: the call reports success, and from then
-- on, until a server with this id is added, nobody sees the id again.
def RemovedForGood (cfg : Config) (c : Cluster) (serverId : String) : Prop :=
  (∃ r ∈ c.allServers, c.idOf r = serverId) →
    (c.removeServer cfg serverId).2 = true ∧
      ∀ ops d, ClusterRun cfg (fun state op => ∀ r ∈ op.added, state.idOf r ≠ serverId) (c.removeServer cfg serverId).1 ops d →
        (∀ r ∈ d.allServers, d.idOf r ≠ serverId) ∧
          ∀ affinityKey draw r, (d.getServer affinityKey draw).1 = some r → d.idOf r ≠ serverId

theorem absent_for_good (cfg : Config) (c : Cluster) (serverId : String) (absent : serverId ∉ c.ids) (ops : List Op) (d : Cluster)
    (run : ClusterRun cfg (fun state op => ∀ r ∈ op.added, state.idOf r ≠ serverId) c ops d) : serverId ∉ d.ids := by
  refine Runs.run_invariant (next cfg) _ (fun state => serverId ∉ state.ids) ?_ c d ops absent run
  intro state op after gone unadded taken
  cases taken
  exact step_absent cfg state op serverId gone unadded

-- A draining server is not found, and of several servers with one id only the
-- first is taken out.
theorem removed_for_good_iff (cfg : Config) (c : Cluster) (serverId : String) :
    RemovedForGood cfg c serverId ↔
      serverId ∉ c.idsOf c.drainingRefs ∧ (c.idsOf (c.innerRing ++ c.outerRing)).count serverId ≤ 1 := by
  have removed := removed_remove_server cfg c serverId
  have perm := removed_ids cfg c _ serverId _ removed
  have reports := removed_reports cfg c _ serverId _ removed
  have total : c.ids.count serverId =
      (c.idsOf c.drainingRefs).count serverId + (c.idsOf (c.innerRing ++ c.outerRing)).count serverId := by
    simp only [ids_split, Cluster.idsOf, List.map_append, List.count_append]
    omega
  constructor
  · intro good
    by_cases known : serverId ∈ c.ids
    · obtain ⟨returned, later⟩ := good ((mem_ids c serverId c.allServers).mp known)
      have absent := (absent_iff _ serverId).mpr (later [] _ .nil).1
      rw [returned, if_pos rfl] at perm
      have once := perm.count_eq serverId
      rw [List.count_cons_self, List.count_eq_zero.mpr absent] at once
      have found := List.count_pos_iff.mpr (reports.mp returned)
      exact ⟨List.count_eq_zero.mp (by omega), by omega⟩
    · have absent := List.count_eq_zero.mpr known
      exact ⟨List.count_eq_zero.mp (by omega), by omega⟩
  · rintro ⟨idle, single⟩ known
    have member := (mem_ids c serverId c.allServers).mpr known
    have present := List.count_pos_iff.mpr member
    have absent := List.count_eq_zero.mpr idle
    have returned := reports.mpr (List.count_pos_iff.mp (by rw [Cluster.ids] at total; omega))
    refine ⟨returned, ?_⟩
    rw [returned, if_pos rfl] at perm
    have once := perm.count_eq serverId
    rw [List.count_cons_self] at once
    have absent : serverId ∉ (c.removeServer cfg serverId).1.ids := List.count_eq_zero.mp (by rw [Cluster.ids] at total once; omega)
    intro ops d run
    have gone := (absent_iff d serverId).mp (absent_for_good cfg _ serverId absent ops d run)
    exact ⟨gone, fun affinityKey draw r chosen => gone r (get_server_mem d affinityKey draw r chosen)⟩

def drainingCluster : Option Cluster :=
  Runs.follow (next { wsDrainTimeout := 30 }) (fun _ _ => True)
    (.empty { wsDrainTimeout := 30 } (fun r => { id := toString r, metrics := { activeConnections := 1 } }) none none none
      ⟨fun ticks => ticks, 0⟩)
    [.addServer 0 true, .forceEvict "0"]

theorem draining_not_removed : ¬ ∀ c,
    ClusterRun { wsDrainTimeout := 30 } (fun _ _ => True)
      (.empty { wsDrainTimeout := 30 } (fun r => { id := toString r, metrics := { activeConnections := 1 } }) none none none
        ⟨fun ticks => ticks, 0⟩)
      [.addServer 0 true, .forceEvict "0"] c → RemovedForGood { wsDrainTimeout := 30 } c "0" := by
  intro claim
  obtain ⟨c, reached, known, kept⟩ : ∃ c ∈ drainingCluster, (∃ r ∈ c.allServers, c.idOf r = "0") ∧
      (c.removeServer { wsDrainTimeout := 30 } "0").2 = false := by decide +kernel
  have removed := claim c (Runs.follow_run _ _ _ c _ reached) known
  rw [kept] at removed
  exact Bool.noConfusion removed.1

end HuddleCluster.Ring
