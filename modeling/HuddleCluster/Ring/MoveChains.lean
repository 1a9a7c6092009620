import HuddleCluster.Ring.Chains

set_option autoImplicit false

namespace HuddleCluster.Ring

theorem moves_calm (cfg : Config) (reasons : Set EvictionReason) (c d : Cluster) (same : Calm c d) : Moves cfg reasons c d :=
  .single (.calm same)

theorem move_any (cfg : Config) (reasons : Set EvictionReason) (c d : Cluster) (moved : Move cfg reasons c d) :
    Move cfg Set.univ c d := by
  cases moved with
  | calm same => exact .calm same
  | evicted r reason _ member moved => exact .evicted r reason trivial member moved
  | promoted r room moved => exact .promoted r room moved
  | drained serverId drain moved => exact .drained serverId drain moved

theorem moves_any (cfg : Config) (reasons : Set EvictionReason) (c d : Cluster) (moved : Moves cfg reasons c d) :
    Moves cfg Set.univ c d :=
  Relation.ReflTransGen.mono (move_any cfg reasons) c d moved

theorem moves_pull (cfg : Config) (fuel : Nat) (c : Cluster) : Moves cfg steady c (c.pullFromOuter cfg fuel) := by
  induction fuel generalizing c with
  | zero => exact .refl
  | succ fuel ih =>
      rw [Cluster.pullFromOuter]
      split
      · rename_i short
        split
        · exact .refl
        · rename_i r popped taken
          have room : c.innerRing.length < cfg.maxInnerSize := lt_of_lt_of_le short cfg.innerSizes
          exact .head (.promoted r room (promoted_pop_outer c popped r taken)) (ih (popped.moveToInner r))
      · exact .refl

-- The servers still to be evicted stay in the ring in their order: each turn
-- takes out the first element with the id of the one it evicts.
theorem sublist_evicted (c d : Cluster) (r : Ref) (reason : EvictionReason) (rest : List Ref)
    (queued : (r :: rest).Sublist c.innerRing) (moved : Evicted c d r reason) : rest.Sublist d.innerRing := by
  have erased := queued.eraseP (p := c.hasId (c.idOf r))
  rw [List.eraseP_cons_of_pos (by simp [Cluster.hasId])] at erased
  rwa [moved.inner]

theorem moves_evict_all (cfg : Config) (evicted : List (Ref × EvictionReason)) (c : Cluster)
    (queued : (evicted.map Prod.fst).Sublist c.innerRing) : Moves cfg Set.univ c (c.evictAll cfg evicted) := by
  induction evicted generalizing c with
  | nil => exact .refl
  | cons entry rest ih =>
      obtain ⟨r, reason⟩ := entry
      have moved := evicted_move_to_outer cfg c r reason
      have member : r ∈ c.innerRing := queued.subset (by simp)
      exact .head (.evicted r reason trivial member moved) (ih _ (sublist_evicted _ _ _ _ _ queued moved))

theorem to_evict_sublist (cfg : Config) (c : Cluster) (now : ℚ) : ((c.toEvict cfg now).map Prod.fst).Sublist c.innerRing := by
  have chosen : ((c.candidates cfg now).map Prod.fst).Sublist c.innerRing := by
    unfold Cluster.candidates
    induction c.innerRing with
    | nil => exact List.Sublist.refl []
    | cons r rest ih =>
        rw [List.filterMap_cons]
        cases Cluster.evictionCandidate cfg c now r with
        | none => exact ih.cons r
        | some reason => exact ih.cons_cons r
  exact ((List.take_sublist _ _).map Prod.fst).trans chosen

theorem moves_promote_cooled (cfg : Config) (fuel : Nat) (c : Cluster) : Moves cfg steady c (c.promoteCooled cfg fuel) := by
  have ticked : ∀ c : Cluster, Calm c c.tick.tick := fun c => ⟨⟨rfl, rfl, rfl, rfl, fun _ => rfl⟩, rfl⟩
  induction fuel generalizing c with
  | zero => exact .refl
  | succ fuel ih =>
      rw [Cluster.promoteCooled]
      split
      · rename_i room
        split
        · exact .refl
        · split
          · split
            · exact .refl
            · rename_i r popped taken
              refine .head (.calm (ticked c)) (.head (.promoted r room ?_) (ih (popped.moveToInner r)))
              exact promoted_pop_outer c.tick.tick popped r taken
          · exact moves_calm cfg _ _ _ (ticked c)
      · exact .refl

theorem calm_remediate_circuit (c : Cluster) (r : Ref) : Calm c (c.remediateOpenCircuit r) := by
  obtain ⟨remediator, treated⟩ := open_circuit_treats c r
  exact treated ▸ calm_treated c remediator

theorem moves_evict_unhealthy (cfg : Config) (queue : List Ref) (c : Cluster) (queued : queue.Sublist c.innerRing) :
    Moves cfg steady c (c.evictUnhealthy cfg queue) := by
  induction queue generalizing c with
  | nil => exact .refl
  | cons r rest ih =>
      rw [Cluster.evictUnhealthy]
      split
      · exact .refl
      · simp only
        split
        · have moved := evicted_move_to_outer cfg c r .healthFail
          have member : r ∈ c.innerRing := queued.subset (by simp)
          have left := sublist_evicted _ _ _ _ _ queued moved
          refine .head (.evicted r .healthFail (by simp [steady]) member moved) ?_
          split
          · have remediated := calm_remediate_circuit (c.moveToOuter cfg r .healthFail) r
            exact .head (.calm remediated) (ih _ (by rwa [remediated.inner]))
          · exact ih _ left
        · exact ih c (List.sublist_of_cons_sublist queued)

theorem calm_remediate_stale (c : Cluster) : Calm c c.remediateStale := by
  obtain ⟨remediator, treated⟩ := stale_treats c
  exact treated ▸ calm_treated c remediator

theorem calm_adapt_thresholds (c : Cluster) : Calm c c.adaptThresholds := by
  unfold Cluster.adaptThresholds
  split
  · exact calm_refl c
  · exact ⟨⟨rfl, rfl, rfl, rfl, fun _ => rfl⟩, rfl⟩

theorem moves_rotate_step1 (cfg : Config) (c : Cluster) : Moves cfg Set.univ c.beginRotate (c.rotateStep1 cfg) :=
  moves_evict_all cfg _ c.beginRotate (to_evict_sublist cfg c.beginRotate c.adaptThresholds.now)

theorem moves_rotate_rest (cfg : Config) (c : Cluster) : Moves cfg steady (c.rotateStep1 cfg) (c.rotate cfg) := by
  have second := moves_promote_cooled cfg (c.rotateStep1 cfg).outerRing.length (c.rotateStep1 cfg)
  have third := moves_evict_unhealthy cfg _ ((c.rotateStep1 cfg).rotateStep2 cfg) (.refl _)
  exact (second.trans third).trans (moves_calm cfg _ _ _ (calm_remediate_stale _))

theorem moves_rotate (cfg : Config) (c : Cluster) : Moves cfg Set.univ c.beginRotate (c.rotate cfg) :=
  (moves_rotate_step1 cfg c).trans (moves_any cfg steady _ _ (moves_rotate_rest cfg c))

theorem moves_force_evict (cfg : Config) (c : Cluster) (serverId : String) :
    Moves cfg steady c (c.forceEvict cfg serverId).1 := by
  unfold Cluster.forceEvict
  split
  · exact .refl
  · rename_i r found
    exact .single (.evicted r .manual (by simp [steady]) (List.mem_of_find?_eq_some found) (evicted_move_to_outer cfg c r .manual))

-- The keys of a dict are distinct, so finishing one drain leaves the entries
-- of the others where they are.
theorem moves_finish_drains (cfg : Config) (completed : List (String × Drain)) (c : Cluster)
    (distinct : (completed.map Prod.fst).Nodup)
    (present : ∀ entry ∈ completed, c.drainingServers.get? entry.1 = some entry.2) :
    Moves cfg steady c (completed.foldl (fun state entry => state.finishDrain entry.1 entry.2) c) := by
  induction completed generalizing c with
  | nil => exact .refl
  | cons entry rest ih =>
      have drained := drained_finish c entry.1 entry.2 (present entry (by simp))
      rw [List.map_cons, List.nodup_cons] at distinct
      refine .head (.drained entry.1 entry.2 drained) (ih _ distinct.2 ?_)
      intro other member
      have different : other.1 ≠ entry.1 := fun same => distinct.1 (List.mem_map.mpr ⟨other, member, same⟩)
      rw [drained.draining, Dict.get_erase, if_neg different]
      exact present other (List.mem_cons_of_mem entry member)

theorem moves_check_draining (cfg : Config) (c : Cluster) : Moves cfg steady c (c.checkDrainingServers cfg) := by
  unfold Cluster.checkDrainingServers
  split
  · exact .refl
  · have ticked : Calm c c.tick := ⟨⟨rfl, rfl, rfl, rfl, fun _ => rfl⟩, rfl⟩
    refine .head (.calm ticked) ?_
    apply moves_finish_drains
    · exact c.drainingServers.nodup.sublist (List.filter_sublist.map Prod.fst)
    · intro entry member
      exact (Dict.get_mem _ _ _).mpr (List.mem_of_mem_filter member)

structure Added (cfg : Config) (c d : Cluster) (r : Ref) : Prop where
  draining : d.drainingServers = c.drainingServers
  ids : d.idOf = c.idOf
  temperatures : d.temperatureOf = c.temperatureOf
  others : ∀ x, x ≠ r → (d.objects x).position = (c.objects x).position
  placed : (c.innerRing.length < cfg.maxInnerSize ∧ d.innerRing = c.innerRing ++ [r] ∧ d.outerRing = c.outerRing ∧
      (d.objects r).position = .inner) ∨
    (d.innerRing = c.innerRing ∧ d.outerRing = Heapq.heappush c.temperatureOf c.outerRing r ∧ (d.objects r).position = .outer)

theorem added_add_server (cfg : Config) (c : Cluster) (r : Ref) (forceInner : Bool) :
    Added cfg c (c.addServer cfg r forceInner) r := by
  have enrolled := calm_modify c r
    (fun s => { s with emaAlpha := cfg.emaAlpha, emaPos := cfg.emaRange.1, emaLe := cfg.emaRange.2 }) rfl rfl rfl
  unfold Cluster.addServer
  generalize c.modify r (fun s => { s with emaAlpha := cfg.emaAlpha, emaPos := cfg.emaRange.1, emaLe := cfg.emaRange.2 }) = e at *
  -- Both outer branches assign the position and push.
  have pushed : ∀ (d : Cluster) (f : Server → Server), Calm e d → (∀ s, (f s).id = s.id) →
      (∀ s, (f s).temperature = s.temperature) → (∀ s, (f s).position = .outer) →
      Added cfg c ((d.modify r f).pushOuter r) r := by
    intro d f same sameId sameTemperature outer
    have temperatures : (d.modify r f).temperatureOf = c.temperatureOf :=
      (modify_temperatures d r f (sameTemperature _)).trans (same.temperatures.trans enrolled.temperatures)
    refine ⟨same.draining.trans enrolled.draining, (modify_ids d r f (sameId _)).trans (same.ids.trans enrolled.ids),
      temperatures, ?_, Or.inr ⟨same.inner.trans enrolled.inner, ?_, ?_⟩⟩
    · intro x other
      simpa [Cluster.pushOuter, other, same.positions] using enrolled.positions x
    · rw [← temperatures, ← enrolled.outer, ← same.outer]
      rfl
    · simp [Cluster.pushOuter, outer]
  simp only
  split
  · exact pushed e.tick _ ⟨⟨rfl, rfl, rfl, rfl, fun _ => rfl⟩, rfl⟩ (fun _ => rfl) (fun _ => rfl) (fun _ => rfl)
  · split
    · rename_i room
      have marked := modify_ids e r (fun s => { s with position := .inner }) rfl
      have temperatures := modify_temperatures e r (fun s => { s with position := .inner }) rfl
      refine ⟨enrolled.draining, marked.trans enrolled.ids, temperatures.trans enrolled.temperatures, ?_,
        Or.inl ⟨enrolled.inner ▸ room.2, ?_, enrolled.outer, ?_⟩⟩
      · intro x other
        simpa [other] using enrolled.positions x
      · simp [enrolled.inner]
      · simp
    · exact pushed e _ (calm_refl e) (fun _ => rfl) (fun _ => rfl) (fun _ => rfl)

-- The three ways remove_server can end, with what it returns.
inductive Removed (cfg : Config) (c : Cluster) (serverId : String) : Cluster → Bool → Prop where
  | inner (d : Cluster) (present : c.innerRing.any (c.hasId serverId) = true)
      (pulled : Moves cfg steady { c with innerRing := c.innerRing.eraseP (c.hasId serverId) } d) : Removed cfg c serverId d true
  | outer (absent : c.innerRing.any (c.hasId serverId) = false) (present : c.outerRing.any (c.hasId serverId) = true) :
      Removed cfg c serverId
        { c with outerRing := Heapq.heapify c.temperatureOf (c.outerRing.eraseP (c.hasId serverId)) } true
  | missing (absentInner : c.innerRing.any (c.hasId serverId) = false)
      (absentOuter : c.outerRing.any (c.hasId serverId) = false) : Removed cfg c serverId c false

theorem removed_remove_server (cfg : Config) (c : Cluster) (serverId : String) :
    Removed cfg c serverId (c.removeServer cfg serverId).1 (c.removeServer cfg serverId).2 := by
  unfold Cluster.removeServer
  split
  · rename_i present
    exact .inner _ present (moves_pull cfg _ _)
  · rename_i absent
    split
    · rename_i present
      exact .outer (by simpa using absent) present
    · rename_i absentOuter
      exact .missing (by simpa using absent) (by simpa using absentOuter)

theorem mem_servers (c : Cluster) (r : Ref) :
    r ∈ c.allServers ↔ r ∈ c.innerRing ∨ r ∈ c.drainingRefs ∨ r ∈ c.outerRing := by
  simp only [Cluster.allServers, List.mem_append, or_assoc]

theorem mem_draining (c : Cluster) (r : Ref) :
    r ∈ c.drainingRefs ↔ ∃ serverId drain, c.drainingServers.get? serverId = some drain ∧ drain.server = r := by
  simp only [Cluster.drainingRefs, List.mem_map, Dict.mem_values]
  constructor
  · intro listed
    obtain ⟨drain, ⟨serverId, found⟩, same⟩ := listed
    exact ⟨serverId, drain, found, same⟩
  · intro listed
    obtain ⟨serverId, drain, found, same⟩ := listed
    exact ⟨drain, ⟨serverId, found⟩, same⟩

theorem move_members (cfg : Config) (reasons : Set EvictionReason) (c d : Cluster) (moved : Move cfg reasons c d) :
    d.allServers ⊆ c.allServers := by
  intro r
  rw [mem_servers, mem_servers]
  cases moved with
  | calm same =>
      rw [same.inner, same.outer, Cluster.drainingRefs, same.draining]
      exact id
  | promoted x _ moved =>
      have popped := (Heapq.heappop_perm _ _ _ _ moved.popped).mem_iff (a := r)
      rw [moved.inner, Cluster.drainingRefs, moved.draining, popped, List.mem_append, List.mem_singleton, List.mem_cons]
      simp only [Cluster.drainingRefs]
      tauto
  | drained serverId drain moved =>
      have pushed := (Heapq.heappush_perm d.temperatureOf c.outerRing drain.server).mem_iff (a := r)
      rw [moved.inner, moved.outer, pushed, List.mem_cons, mem_draining, mem_draining, moved.draining]
      intro present
      rcases present with inner | ⟨key, other, found, same⟩ | same | outer
      · exact Or.inl inner
      · rw [Dict.get_erase] at found
        split at found
        · cases found
        · exact Or.inr (Or.inl ⟨key, other, found, same⟩)
      · exact Or.inr (Or.inl ⟨serverId, drain, moved.entry, same.symm⟩)
      · exact Or.inr (Or.inr outer)
  | evicted x reason permitted member moved =>
      rw [moved.inner]
      intro present
      rcases present with inner | elsewhere
      · exact Or.inl (List.mem_of_mem_eraseP inner)
      · rcases moved.placed with ⟨outer, draining, _⟩ | ⟨outer, _, _, drain, server, draining⟩
        · have pushed := (Heapq.heappush_perm d.temperatureOf c.outerRing x).mem_iff (a := r)
          rw [outer, pushed, List.mem_cons, Cluster.drainingRefs, draining] at elsewhere
          rcases elsewhere with kept | rfl | kept
          · exact Or.inr (Or.inl kept)
          · exact Or.inl member
          · exact Or.inr (Or.inr kept)
        · rw [outer, mem_draining, draining] at elsewhere
          rcases elsewhere with ⟨key, other, found, same⟩ | kept
          · rw [Dict.get_set] at found
            split at found
            · cases found
              rw [server] at same
              exact Or.inl (same ▸ member)
            · exact Or.inr (Or.inl ((mem_draining c r).mpr ⟨key, other, found, same⟩))
          · exact Or.inr (Or.inr kept)

theorem moves_members (cfg : Config) (reasons : Set EvictionReason) (c d : Cluster) (moved : Moves cfg reasons c d) :
    d.allServers ⊆ c.allServers := by
  induction moved with
  | refl => exact List.Subset.refl _
  | tail _ last ih => exact List.Subset.trans (move_members cfg reasons _ _ last) ih

end HuddleCluster.Ring
