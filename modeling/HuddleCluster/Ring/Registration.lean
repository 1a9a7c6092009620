import HuddleCluster.Ring.Partition

set_option autoImplicit false

namespace HuddleCluster.Ring

-- The cluster with the servers its callers have registered: added and not
-- removed since. The list is what they know, the cluster never reads it.
structure Registry where
  cluster : Cluster
  registered : List Ref

namespace Registry

def register (s : Registry) : Op → List Ref
  | .addServer r _ => s.registered ++ [r]
  | .removeServer serverId => s.registered.filter fun r => decide (s.cluster.idOf r ≠ serverId)
  | _ => s.registered

def next (cfg : Config) (s : Registry) (op : Op) : Option Registry := some ⟨step cfg s.cluster op, s.register op⟩

-- Fresh ids for new servers, and no removal of a server that is draining.
def Permitted (s : Registry) (op : Op) : Prop :=
  (∀ r ∈ op.added, ∀ x ∈ s.registered, s.cluster.idOf x ≠ s.cluster.idOf r) ∧
    ∀ serverId ∈ op.removed, ∀ x ∈ s.cluster.drainingRefs, s.cluster.idOf x ≠ serverId

instance (s : Registry) (op : Op) : Decidable (s.Permitted op) :=
  inferInstanceAs (Decidable ((∀ r ∈ op.added, ∀ x ∈ s.registered, s.cluster.idOf x ≠ s.cluster.idOf r) ∧
    ∀ serverId ∈ op.removed, ∀ x ∈ s.cluster.drainingRefs, s.cluster.idOf x ≠ serverId))

abbrev RegistryRun (cfg : Config) := Runs.Run (Registry.next cfg) Permitted

end Registry

-- In exactly one container, exactly once, under the position of that container.
def Cluster.PlacedOnce (c : Cluster) (r : Ref) : Prop :=
  (c.innerRing.count r = 1 ∧ c.drainingRefs.count r = 0 ∧ c.outerRing.count r = 0 ∧ (c.objects r).position = .inner) ∨
    (c.innerRing.count r = 0 ∧ c.drainingRefs.count r = 1 ∧ c.outerRing.count r = 0 ∧ (c.objects r).position = .draining) ∨
    (c.innerRing.count r = 0 ∧ c.drainingRefs.count r = 0 ∧ c.outerRing.count r = 1 ∧ (c.objects r).position = .outer)

instance (c : Cluster) (r : Ref) : Decidable (c.PlacedOnce r) := by
  unfold Cluster.PlacedOnce
  infer_instance

structure Registered (s : Registry) : Prop where
  partitioned : Partitioned s.cluster
  all : s.cluster.allServers.Perm s.registered

theorem partitioned_placed (c : Cluster) (partitioned : Partitioned c) (r : Ref) (member : r ∈ c.allServers) :
    c.PlacedOnce r := by
  have unique : (c.innerRing ++ c.drainingRefs ++ c.outerRing).Nodup := partitioned.distinct.of_map c.idOf
  have once : (c.innerRing ++ c.drainingRefs ++ c.outerRing).count r = 1 := List.count_eq_one_of_mem unique member
  rw [List.count_append, List.count_append] at once
  by_cases inner : r ∈ c.innerRing
  · have counted := List.count_pos_iff.mpr inner
    exact Or.inl ⟨by omega, by omega, by omega, partitioned.inner r inner⟩
  · have outside := List.count_eq_zero.mpr inner
    by_cases draining : r ∈ c.drainingRefs
    · have counted := List.count_pos_iff.mpr draining
      exact Or.inr (Or.inl ⟨outside, by omega, by omega, partitioned.draining r draining⟩)
    · have absent := List.count_eq_zero.mpr draining
      have outer : r ∈ c.outerRing := List.count_pos_iff.mp (by omega)
      exact Or.inr (Or.inr ⟨outside, absent, by omega, partitioned.outer r outer⟩)

theorem added_partitioned (cfg : Config) (c d : Cluster) (r : Ref) (partitioned : Partitioned c)
    (fresh : ∀ x ∈ c.allServers, c.idOf x ≠ c.idOf r) (moved : Added cfg c d r) :
    Partitioned d ∧ d.allServers.Perm (r :: c.allServers) := by
  have refs : d.drainingRefs = c.drainingRefs := by rw [Cluster.drainingRefs, moved.draining, Cluster.drainingRefs]
  have other : ∀ x ∈ c.allServers, (d.objects x).position = (c.objects x).position := by
    intro x member
    exact moved.others x fun same => fresh x member (by rw [same])
  have distinct : ((r :: c.allServers).map d.idOf).Nodup := by
    rw [moved.ids, List.map_cons, List.nodup_cons]
    refine ⟨?_, partitioned.distinct⟩
    rintro member
    obtain ⟨x, known, same⟩ := List.mem_map.mp member
    exact fresh x known same
  have draining : ∀ x ∈ d.drainingRefs, (d.objects x).position = .draining := by
    intro x member
    rw [refs] at member
    rw [other x (by simp [Cluster.allServers, member])]
    exact partitioned.draining x member
  have inner : ∀ x ∈ c.innerRing, (d.objects x).position = .inner := by
    intro x member
    rw [other x (by simp [Cluster.allServers, member])]
    exact partitioned.inner x member
  have outer : ∀ x ∈ c.outerRing, (d.objects x).position = .outer := by
    intro x member
    rw [other x (by simp [Cluster.allServers, member])]
    exact partitioned.outer x member
  rcases moved.placed with ⟨_, innerRing, outerRing, position⟩ | ⟨innerRing, outerRing, position⟩
  · have perm : d.allServers.Perm (r :: c.allServers) := by
      rw [List.perm_iff_count]
      intro a
      simp only [Cluster.allServers, List.count_append, List.count_cons, List.count_nil, refs, innerRing, outerRing]
      omega
    refine ⟨⟨(perm.map d.idOf).nodup_iff.mpr distinct, ?_, draining, outerRing ▸ outer⟩, perm⟩
    intro x member
    rw [innerRing, List.mem_append, List.mem_singleton] at member
    rcases member with before | rfl
    · exact inner x before
    · exact position
  · have pushed : d.outerRing.Perm (r :: c.outerRing) := outerRing ▸ Heapq.heappush_perm _ _ _
    have perm : d.allServers.Perm (r :: c.allServers) := by
      rw [List.perm_iff_count] at pushed ⊢
      intro a
      have into := pushed a
      simp only [Cluster.allServers, List.count_append, List.count_cons, refs, innerRing] at into ⊢
      omega
    refine ⟨⟨(perm.map d.idOf).nodup_iff.mpr distinct, innerRing ▸ inner, draining, ?_⟩, perm⟩
    intro x member
    rcases List.mem_cons.mp (pushed.mem_iff.mp member) with rfl | before
    · exact position
    · exact outer x before

theorem dropped_partitioned (c d : Cluster) (x : Ref) (partitioned : Partitioned c) (objects : d.objects = c.objects)
    (draining : d.drainingServers = c.drainingServers) (inner : d.innerRing ⊆ c.innerRing) (outer : d.outerRing ⊆ c.outerRing)
    (dropped : c.allServers.Perm (x :: d.allServers)) : Partitioned d := by
  have refs : d.drainingRefs = c.drainingRefs := by rw [Cluster.drainingRefs, draining, Cluster.drainingRefs]
  refine ⟨?_, ?_, ?_, ?_⟩
  · have distinct := (dropped.map c.idOf).nodup_iff.mp partitioned.distinct
    have ids : d.idOf = c.idOf := by
      funext y
      rw [Cluster.idOf, objects, Cluster.idOf]
    rw [ids]
    exact (List.nodup_cons.mp distinct).2
  · intro r member
    rw [objects]
    exact partitioned.inner r (inner member)
  · intro r member
    rw [objects]
    exact partitioned.draining r (refs ▸ member)
  · intro r member
    rw [objects]
    exact partitioned.outer r (outer member)

theorem inner_erased (c : Cluster) (serverId : String) (partitioned : Partitioned c) (present : c.innerRing.any (c.hasId serverId) = true) :
    ∃ x, c.idOf x = serverId ∧ Partitioned { c with innerRing := c.innerRing.eraseP (c.hasId serverId) } ∧
      c.allServers.Perm (x :: Cluster.allServers { c with innerRing := c.innerRing.eraseP (c.hasId serverId) }) := by
  obtain ⟨x, _, named, left⟩ := erase_id_perm c serverId c.innerRing present
  have dropped := (left.append_right c.drainingRefs).append_right c.outerRing
  exact ⟨x, named, dropped_partitioned c _ x partitioned rfl rfl List.eraseP_subset (fun _ member => member) dropped, dropped⟩

theorem outer_erased (c : Cluster) (serverId : String) (partitioned : Partitioned c) (present : c.outerRing.any (c.hasId serverId) = true) :
    ∃ x, c.idOf x = serverId ∧
      Partitioned { c with outerRing := Heapq.heapify c.temperatureOf (c.outerRing.eraseP (c.hasId serverId)) } ∧
      c.allServers.Perm
        (x :: Cluster.allServers { c with outerRing := Heapq.heapify c.temperatureOf (c.outerRing.eraseP (c.hasId serverId)) }) := by
  obtain ⟨x, _, named, left⟩ := erase_id_perm c serverId c.outerRing present
  have heaped := Heapq.heapify_perm c.temperatureOf (c.outerRing.eraseP (c.hasId serverId))
  have dropped := ((left.trans (heaped.symm.cons x)).append_left (c.innerRing ++ c.drainingRefs)).trans List.perm_middle
  refine ⟨x, named, dropped_partitioned c _ x partitioned rfl rfl (fun _ member => member) ?_ dropped, dropped⟩
  exact fun y member => List.eraseP_subset (heaped.mem_iff.mp member)

theorem dropped_registered (s : Registry) (d : Cluster) (serverId : String) (x : Ref) (known : Registered s)
    (named : s.cluster.idOf x = serverId) (dropped : s.cluster.allServers.Perm (x :: d.allServers)) :
    d.allServers.Perm (s.registered.filter fun r => decide (s.cluster.idOf r ≠ serverId)) := by
  have distinct := (dropped.map s.cluster.idOf).nodup_iff.mp known.partitioned.distinct
  rw [List.map_cons, List.nodup_cons] at distinct
  have kept : (x :: d.allServers).filter (fun r => decide (s.cluster.idOf r ≠ serverId)) = d.allServers := by
    rw [List.filter_cons_of_neg (by simp [named]), List.filter_eq_self]
    intro y member
    simp only [decide_eq_true_eq]
    exact fun same => distinct.1 (List.mem_map.mpr ⟨y, member, same.trans named.symm⟩)
  rw [← kept]
  exact (dropped.symm.trans known.all).filter _

theorem removed_registered (cfg : Config) (s : Registry) (serverId : String) (d : Cluster) (result : Bool)
    (known : Registered s) (idle : ∀ x ∈ s.cluster.drainingRefs, s.cluster.idOf x ≠ serverId)
    (removed : Removed cfg s.cluster serverId d result) : Registered ⟨d, s.register (.removeServer serverId)⟩ := by
  cases removed with
  | inner d present pulled =>
      obtain ⟨x, named, partitioned, dropped⟩ := inner_erased s.cluster serverId known.partitioned present
      obtain ⟨kept, perm⟩ := moves_partitioned cfg _ _ d partitioned pulled
      exact ⟨kept, perm.trans (dropped_registered s _ serverId x known named dropped)⟩
  | outer absent present =>
      obtain ⟨x, named, partitioned, dropped⟩ := outer_erased s.cluster serverId known.partitioned present
      exact ⟨partitioned, dropped_registered s _ serverId x known named dropped⟩
  | missing absentInner absentOuter =>
      refine ⟨known.partitioned, ?_⟩
      have kept : s.cluster.allServers.filter (fun r => decide (s.cluster.idOf r ≠ serverId)) = s.cluster.allServers := by
        rw [List.filter_eq_self]
        intro y member
        simp only [List.any_eq_false, Cluster.hasId, decide_eq_true_eq] at absentInner absentOuter
        simp only [Cluster.allServers, List.mem_append] at member
        simp only [decide_eq_true_eq]
        rcases member with (inner | draining) | outer
        · exact absentInner y inner
        · exact idle y draining
        · exact absentOuter y outer
      have filtered := known.all.filter fun r => decide (s.cluster.idOf r ≠ serverId)
      rwa [kept] at filtered

theorem step_registered (cfg : Config) (s : Registry) (op : Op) (known : Registered s) (permitted : s.Permitted op) :
    Registered ⟨step cfg s.cluster op, s.register op⟩ := by
  have follow : ∀ d, Partitioned d ∧ d.allServers.Perm s.cluster.allServers → Registered ⟨d, s.registered⟩ :=
    fun d kept => ⟨kept.1, kept.2.trans known.all⟩
  cases op with
  | addServer r forceInner =>
      have fresh : ∀ x ∈ s.cluster.allServers, s.cluster.idOf x ≠ s.cluster.idOf r :=
        fun x member => permitted.1 r rfl x (known.all.mem_iff.mp member)
      obtain ⟨kept, perm⟩ := added_partitioned cfg s.cluster _ r known.partitioned fresh
        (added_add_server cfg s.cluster r forceInner)
      exact ⟨kept, perm.trans ((known.all.cons r).trans (List.perm_append_singleton r s.registered).symm)⟩
  | removeServer serverId =>
      exact removed_registered cfg s serverId _ _ known (permitted.2 serverId rfl)
        (removed_remove_server cfg s.cluster serverId)
  | forceEvict serverId => exact follow _ (moves_partitioned cfg _ _ _ known.partitioned (moves_force_evict cfg s.cluster serverId))
  | rotate =>
      obtain ⟨begun, perm⟩ := still_partitioned _ _ known.partitioned (still_of_quiet _ _ (quiet_begin_rotate s.cluster))
      obtain ⟨kept, after⟩ := moves_partitioned cfg _ _ _ begun (moves_rotate cfg s.cluster)
      exact follow _ ⟨kept, after.trans perm⟩
  | checkDrainingServers => exact follow _ (moves_partitioned cfg _ _ _ known.partitioned (moves_check_draining cfg s.cluster))
  | _ => exact follow _ (still_partitioned _ _ known.partitioned (still_step cfg s.cluster _ rfl))

-- Every server that was added and not removed since is in exactly one place,
-- and nothing else is in any of them.
theorem ring_partition (cfg : Config) (objects : Ref → Server) (adaptive : Option AdaptiveThresholdController)
    (remediator : Option Remediator) (hardwareManager : Option HardwareTelemetryManager) (monotonic : Clock)
    (ops : List Op) (s : Registry)
    (run : Registry.RegistryRun cfg ⟨.empty cfg objects adaptive remediator hardwareManager monotonic, []⟩ ops s) :
    (∀ r, r ∈ s.registered ↔ r ∈ s.cluster.allServers) ∧ ∀ r ∈ s.registered, s.cluster.PlacedOnce r := by
  have known : Registered s := by
    refine Runs.run_invariant (Registry.next cfg) Registry.Permitted Registered ?_ _ s ops ?_ run
    · intro state op after known permitted taken
      cases taken
      exact step_registered cfg state op known permitted
    · exact ⟨partitioned_empty cfg objects adaptive remediator hardwareManager monotonic, .refl _⟩
  refine ⟨fun r => known.all.mem_iff.symm, ?_⟩
  intro r member
  exact partitioned_placed s.cluster known.partitioned r (known.all.mem_iff.mpr member)

-- Three servers are added, one is evicted with connections open, another one
-- is removed.
def drainingRun : Option Registry :=
  Runs.follow (Registry.next { smallestRing with wsDrainTimeout := 30 }) Registry.Permitted
    ⟨.empty { smallestRing with wsDrainTimeout := 30 } (fun r => { id := toString r, metrics := { activeConnections := 2 } })
      none none none ⟨fun ticks => ticks, 0⟩, []⟩
    [.addServer 0 true, .addServer 1 true, .addServer 2 false, .forceEvict "0", .removeServer "1", .checkDrainingServers]

theorem ring_partition_drain :
    ∃ s ∈ drainingRun, (∀ r, r ∈ s.registered ↔ r ∈ s.cluster.allServers) ∧
    ∀ r ∈ s.registered, s.cluster.PlacedOnce r := by
  have taken : drainingRun.isSome = true := by decide +kernel
  obtain ⟨s, reached⟩ := Option.isSome_iff_exists.mp taken
  exact ⟨s, reached, ring_partition _ _ _ _ _ _ _ s (Runs.follow_run _ _ _ s _ reached)⟩

end HuddleCluster.Ring
