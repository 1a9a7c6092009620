import HuddleCluster.Ring.MoveChains

set_option autoImplicit false

namespace HuddleCluster.Ring

-- No two servers in the containers share an id, and every position field names
-- the container its server is in.
structure Partitioned (c : Cluster) : Prop where
  distinct : (c.allServers.map c.idOf).Nodup
  inner : ∀ r ∈ c.innerRing, (c.objects r).position = .inner
  draining : ∀ r ∈ c.drainingRefs, (c.objects r).position = .draining
  outer : ∀ r ∈ c.outerRing, (c.objects r).position = .outer

theorem partitioned_empty (cfg : Config) (objects : Ref → Server) (adaptive : Option AdaptiveThresholdController)
    (remediator : Option Remediator) (hardwareManager : Option HardwareTelemetryManager) (monotonic : Clock) :
    Partitioned (.empty cfg objects adaptive remediator hardwareManager monotonic) :=
  ⟨List.nodup_nil, by simp [Cluster.empty], by simp [Cluster.empty, Cluster.drainingRefs, Dict.empty, Dict.values],
    by simp [Cluster.empty]⟩

theorem erase_id_perm (c : Cluster) (serverId : String) (ring : List Ref) (present : ring.any (c.hasId serverId) = true) :
    ∃ x ∈ ring, c.idOf x = serverId ∧ ring.Perm (x :: ring.eraseP (c.hasId serverId)) := by
  obtain ⟨a, member, named⟩ := List.any_eq_true.mp present
  obtain ⟨x, front, back, _, found, whole, rest⟩ := List.exists_of_eraseP member named
  refine ⟨x, by simp [whole], by simpa [Cluster.hasId] using found, ?_⟩
  rw [rest, whole]
  exact List.perm_middle

theorem distinct_of_perm (c d : Cluster) (partitioned : Partitioned c) (ids : d.idOf = c.idOf)
    (same : d.allServers.Perm c.allServers) : (d.allServers.map d.idOf).Nodup := by
  rw [ids]
  exact (same.map c.idOf).nodup_iff.mpr partitioned.distinct

theorem same_of_id (c : Cluster) (partitioned : Partitioned c) (r x : Ref) (known : r ∈ c.allServers) (other : x ∈ c.allServers)
    (same : c.idOf x = c.idOf r) : x = r :=
  List.inj_on_of_nodup_map partitioned.distinct other known same

theorem still_partitioned (c d : Cluster) (partitioned : Partitioned c) (same : Still c d) :
    Partitioned d ∧ d.allServers.Perm c.allServers := by
  have draining : d.drainingRefs = c.drainingRefs := by rw [Cluster.drainingRefs, same.draining, Cluster.drainingRefs]
  have perm : d.allServers.Perm c.allServers := by
    rw [Cluster.allServers, Cluster.allServers, draining, same.outer]
    exact (same.inner.perm.symm.append_right _).append_right _
  refine ⟨⟨distinct_of_perm c d partitioned same.ids perm, ?_, ?_, ?_⟩, perm⟩
  · intro r member
    rw [same.positions]
    exact partitioned.inner r (same.inner.perm.mem_iff.mpr member)
  · intro r member
    rw [same.positions]
    exact partitioned.draining r (draining ▸ member)
  · intro r member
    rw [same.positions]
    exact partitioned.outer r (same.outer ▸ member)

theorem evicted_partitioned (c d : Cluster) (r : Ref) (reason : EvictionReason) (partitioned : Partitioned c)
    (member : r ∈ c.innerRing) (moved : Evicted c d r reason) : Partitioned d ∧ d.allServers.Perm c.allServers := by
  have known : r ∈ c.allServers := by simp [Cluster.allServers, member]
  obtain ⟨x, inside, named, left⟩ := erase_id_perm c (c.idOf r) c.innerRing
    (List.any_eq_true.mpr ⟨r, member, by simp [Cluster.hasId]⟩)
  have same : x = r := same_of_id c partitioned r x known (by simp [Cluster.allServers, inside]) named
  subst same
  rw [← moved.inner] at left
  have unique : (c.innerRing ++ c.drainingRefs ++ c.outerRing).Nodup := partitioned.distinct.of_map c.idOf
  have fresh : x ∉ d.innerRing ∧ x ∉ c.drainingRefs ∧ x ∉ c.outerRing := by
    have once := ((left.append_right c.drainingRefs).append_right c.outerRing).nodup_iff.mp unique
    simp only [List.cons_append, List.nodup_cons, List.mem_append, not_or] at once
    exact ⟨once.1.1.1, once.1.1.2, once.1.2⟩
  have innerPlaced : ∀ y ∈ d.innerRing, (d.objects y).position = .inner := by
    intro y inner
    rw [(moved.others y fun same => fresh.1 (same ▸ inner)).1]
    exact partitioned.inner y (left.mem_iff.mpr (List.mem_cons_of_mem x inner))
  rcases moved.placed with ⟨outer, draining, position⟩ | ⟨outer, position, absent, drain, server, draining⟩
  · have pushed : d.outerRing.Perm (x :: c.outerRing) := outer ▸ Heapq.heappush_perm d.temperatureOf c.outerRing x
    have refs : d.drainingRefs = c.drainingRefs := by rw [Cluster.drainingRefs, draining, Cluster.drainingRefs]
    have perm : d.allServers.Perm c.allServers := by
      rw [List.perm_iff_count] at left pushed ⊢
      intro a
      have out := left a
      have into := pushed a
      simp only [Cluster.allServers, List.count_append, List.count_cons, refs] at out into ⊢
      omega
    refine ⟨⟨distinct_of_perm c d partitioned moved.ids perm, innerPlaced, ?_, ?_⟩, perm⟩
    · intro y drained
      rw [refs] at drained
      rw [(moved.others y fun same => fresh.2.1 (same ▸ drained)).1]
      exact partitioned.draining y drained
    · intro y outside
      rcases List.mem_cons.mp (pushed.mem_iff.mp outside) with rfl | before
      · exact position
      · rw [(moved.others y fun same => fresh.2.2 (same ▸ before)).1]
        exact partitioned.outer y before
  · have refs : d.drainingRefs = c.drainingRefs ++ [x] := by
      rw [Cluster.drainingRefs, draining, Dict.values_set_new _ _ _ absent, List.map_append, Cluster.drainingRefs]
      simp [server]
    have perm : d.allServers.Perm c.allServers := by
      rw [List.perm_iff_count] at left ⊢
      intro a
      have out := left a
      simp only [Cluster.allServers, List.count_append, List.count_cons, List.count_nil, refs, outer] at out ⊢
      omega
    refine ⟨⟨distinct_of_perm c d partitioned moved.ids perm, innerPlaced, ?_, ?_⟩, perm⟩
    · intro y drained
      rw [refs, List.mem_append, List.mem_singleton] at drained
      rcases drained with before | rfl
      · rw [(moved.others y fun same => fresh.2.1 (same ▸ before)).1]
        exact partitioned.draining y before
      · exact position
    · intro y outside
      rw [outer] at outside
      rw [(moved.others y fun same => fresh.2.2 (same ▸ outside)).1]
      exact partitioned.outer y outside

theorem promoted_partitioned (c d : Cluster) (r : Ref) (partitioned : Partitioned c) (moved : Promoted c d r) :
    Partitioned d ∧ d.allServers.Perm c.allServers := by
  have popped := Heapq.heappop_perm _ _ _ _ moved.popped
  have refs : d.drainingRefs = c.drainingRefs := by rw [Cluster.drainingRefs, moved.draining, Cluster.drainingRefs]
  have unique : (c.innerRing ++ c.drainingRefs ++ c.outerRing).Nodup := partitioned.distinct.of_map c.idOf
  have fresh : (r ∉ c.innerRing ∧ r ∉ c.drainingRefs) ∧ r ∉ d.outerRing := by
    have once := (popped.append_left (c.innerRing ++ c.drainingRefs)).nodup_iff.mp unique
    rw [List.perm_middle.nodup_iff, List.nodup_cons] at once
    simpa only [List.mem_append, not_or] using once.1
  have perm : d.allServers.Perm c.allServers := by
    rw [List.perm_iff_count] at popped ⊢
    intro a
    have out := popped a
    simp only [Cluster.allServers, List.count_append, List.count_cons, List.count_nil, refs, moved.inner] at out ⊢
    omega
  refine ⟨⟨distinct_of_perm c d partitioned moved.ids perm, ?_, ?_, ?_⟩, perm⟩
  · intro y inner
    rw [moved.inner, List.mem_append, List.mem_singleton] at inner
    rcases inner with before | rfl
    · rw [moved.others y fun same => fresh.1.1 (same ▸ before)]
      exact partitioned.inner y before
    · exact moved.position
  · intro y drained
    rw [refs] at drained
    rw [moved.others y fun same => fresh.1.2 (same ▸ drained)]
    exact partitioned.draining y drained
  · intro y outside
    rw [moved.others y fun same => fresh.2 (same ▸ outside)]
    exact partitioned.outer y (popped.mem_iff.mpr (List.mem_cons_of_mem r outside))

theorem drained_partitioned (c d : Cluster) (serverId : String) (drain : Drain) (partitioned : Partitioned c)
    (moved : Drained c d serverId drain) : Partitioned d ∧ d.allServers.Perm c.allServers := by
  have pushed : d.outerRing.Perm (drain.server :: c.outerRing) := moved.outer ▸ Heapq.heappush_perm _ _ _
  have erased : c.drainingRefs.Perm (drain.server :: d.drainingRefs) := by
    have values := (Dict.values_erase _ _ _ moved.entry).map Drain.server
    rwa [List.map_cons, ← moved.draining] at values
  have unique : (c.innerRing ++ c.drainingRefs ++ c.outerRing).Nodup := partitioned.distinct.of_map c.idOf
  have fresh : (drain.server ∉ c.innerRing ∧ drain.server ∉ d.drainingRefs) ∧ drain.server ∉ c.outerRing := by
    have once := ((erased.append_left c.innerRing).append_right c.outerRing).nodup_iff.mp unique
    rw [(List.perm_middle.append_right c.outerRing).nodup_iff, List.cons_append, List.nodup_cons] at once
    simpa only [List.mem_append, not_or] using once.1
  have perm : d.allServers.Perm c.allServers := by
    rw [List.perm_iff_count] at pushed erased ⊢
    intro a
    have out := erased a
    have into := pushed a
    simp only [Cluster.allServers, List.count_append, List.count_cons, moved.inner] at out into ⊢
    omega
  refine ⟨⟨distinct_of_perm c d partitioned moved.ids perm, ?_, ?_, ?_⟩, perm⟩
  · intro y inner
    rw [moved.inner] at inner
    rw [moved.others y fun same => fresh.1.1 (same ▸ inner)]
    exact partitioned.inner y inner
  · intro y drained
    rw [moved.others y fun same => fresh.1.2 (same ▸ drained)]
    exact partitioned.draining y (erased.mem_iff.mpr (List.mem_cons_of_mem _ drained))
  · intro y outside
    rcases List.mem_cons.mp (pushed.mem_iff.mp outside) with rfl | before
    · exact moved.position
    · rw [moved.others y fun same => fresh.2 (same ▸ before)]
      exact partitioned.outer y before

theorem move_partitioned (cfg : Config) (reasons : Set EvictionReason) (c d : Cluster) (partitioned : Partitioned c)
    (moved : Move cfg reasons c d) :
    Partitioned d ∧ d.allServers.Perm c.allServers := by
  cases moved with
  | calm same => exact still_partitioned c d partitioned (still_of_quiet c d same.toQuiet)
  | evicted r reason _ member moved => exact evicted_partitioned c d r reason partitioned member moved
  | promoted r _ moved => exact promoted_partitioned c d r partitioned moved
  | drained serverId drain moved => exact drained_partitioned c d serverId drain partitioned moved

theorem moves_partitioned (cfg : Config) (reasons : Set EvictionReason) (c d : Cluster) (partitioned : Partitioned c)
    (moved : Moves cfg reasons c d) :
    Partitioned d ∧ d.allServers.Perm c.allServers := by
  induction moved with
  | refl => exact ⟨partitioned, .refl _⟩
  | tail _ step ih =>
      obtain ⟨here, perm⟩ := move_partitioned cfg _ _ _ ih.1 step
      exact ⟨here, perm.trans ih.2⟩

end HuddleCluster.Ring
