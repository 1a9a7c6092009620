import HuddleCluster.Ring.InnerSize
import HuddleCluster.Ring.Removal
import HuddleCluster.Ring.WaitingLine

set_option autoImplicit false

namespace HuddleCluster.Ring

open Cluster

namespace Cluster

-- Every move across the rings counts itself on the server it moves.
def moveCount (c : Cluster) (r : Ref) : Int := (c.objects r).rotationCount

def Sound (cfg : Config) (c : Cluster) (r : Ref) : Prop :=
  (c.objects r).metrics.isHealthy = true ∧ (c.objects r).metrics.errorRate < cfg.circuitBreakerThreshold

def evictedServers (cfg : Config) (c : Cluster) : List Ref := (c.beginRotate.toEvict cfg c.adaptThresholds.now).map Prod.fst

structure NoThrashing (cfg : Config) (c : Cluster) : Prop where
  once : ∀ r, (c.rotate cfg).moveCount r ≤ c.moveCount r + 1
  sound : ∀ r ∈ c.promotedServers cfg, c.Sound cfg r

-- The line outside, with those at its end who are about to be evicted.
def nextLine (cfg : Config) (c : Cluster) : WaitingLine := c.beginRotate.lineUp cfg (c.beginRotate.toEvict cfg c.adaptThresholds.now)

-- Whoever in the line is failing or about to be evicted is kept out: those ahead of it
-- fill the inner ring, or one of them, or itself, fails a gate.
def Settled (cfg : Config) (c : Cluster) : Prop :=
  ∀ entry ∈ (c.nextLine cfg).turns, ¬ c.Sound cfg entry.1 ∨ entry.1 ∈ c.evictedServers cfg →
    cfg.maxInnerSize + (c.evictedServers cfg).length ≤ c.innerRing.length + entry.2 ∨
      ∃ ahead ∈ (c.nextLine cfg).turns, ahead.2 ≤ entry.2 ∧ (c.nextLine cfg).passes cfg c.beginRotate ahead = false

end Cluster

def FreshIds (c : Cluster) (op : Op) : Prop := ∀ r ∈ op.added, c.idOf r ∉ c.ids

structure Tally (c d : Cluster) (moves : List Ref) : Prop where
  counts : ∀ r, d.moveCount r = c.moveCount r + moves.count r
  metrics : ∀ r, (d.objects r).metrics = (c.objects r).metrics

theorem tally_same (c d : Cluster) (counts : ∀ r, d.moveCount r = c.moveCount r)
    (metrics : ∀ r, (d.objects r).metrics = (c.objects r).metrics) : Tally c d [] :=
  ⟨fun r => by rw [counts, List.count_nil, Nat.cast_zero, add_zero], metrics⟩

theorem tally_refl (c : Cluster) : Tally c c [] := tally_same c c (fun _ => rfl) fun _ => rfl

theorem tally_trans (c d e : Cluster) (front back : List Ref) (before : Tally c d front) (after : Tally d e back) :
    Tally c e (front ++ back) := by
  refine ⟨?_, fun r => (after.metrics r).trans (before.metrics r)⟩
  intro r
  rw [after.counts, before.counts, List.count_append, Nat.cast_add, add_assoc]

theorem tally_one (c d : Cluster) (r : Ref) (moved : d.moveCount r = c.moveCount r + 1)
    (others : ∀ x, x ≠ r → d.moveCount x = c.moveCount x) (metrics : ∀ x, (d.objects x).metrics = (c.objects x).metrics) :
    Tally c d [r] := by
  refine ⟨?_, metrics⟩
  intro x
  by_cases here : x = r
  · rw [here, moved, List.count_singleton_self, Nat.cast_one]
  · rw [others x here, List.count_singleton, if_neg (by simpa using Ne.symm here), Nat.cast_zero, add_zero]

theorem tally_evicted (cfg : Config) (c : Cluster) (r : Ref) (reason : EvictionReason) :
    Tally c (c.moveToOuter cfg r reason) [r] := by
  have left : Tally c (c.leaveInner r reason) [r] := by
    apply tally_one
    · simp [moveCount, leaveInner, removeInner, markEvicted]
    · intro x other
      simp [moveCount, leaveInner, removeInner, other]
    · intro x
      by_cases here : x = r <;> simp [leaveInner, removeInner, markEvicted, here]
  have placed (f : Server → Server) (count : ∀ s, (f s).rotationCount = s.rotationCount) (metrics : ∀ s, (f s).metrics = s.metrics)
      (d : Cluster) (moved : d.objects = ((c.leaveInner r reason).modify r f).objects) : Tally (c.leaveInner r reason) d [] := by
    apply tally_same
    · intro x
      by_cases here : x = r <;> simp [moveCount, moved, here, count]
    · intro x
      by_cases here : x = r <;> simp [moved, here, metrics]
  have parked : Tally (c.leaveInner r reason) (c.moveToOuter cfg r reason) [] := by
    unfold moveToOuter
    simp only
    split
    · exact placed (fun s => { s with position := .draining }) (fun _ => rfl) (fun _ => rfl) _ rfl
    · exact placed (fun s => { s with position := .outer, lastRotated := (c.leaveInner r reason).now }) (fun _ => rfl) (fun _ => rfl)
        _ (record_eviction_objects _ r)
  exact tally_trans _ _ _ [r] [] left parked

theorem tally_promoted (c popped : Cluster) (r : Ref) (taken : c.popOuter = some (r, popped)) : Tally c (popped.moveToInner r) [r] := by
  simp only [popOuter, Option.map_eq_some_iff, Prod.mk.injEq] at taken
  obtain ⟨⟨item, rest⟩, _, rfl, rfl⟩ := taken
  unfold moveToInner recordRecovery
  apply tally_one
  · simp only [moveCount]
    split <;> simp [markPromoted]
  · intro x other
    simp only [moveCount]
    split <;> simp [other]
  · intro x
    simp only
    split <;> by_cases here : x = item <;> simp [here, markPromoted]

theorem tally_tuning : Tuning fun c d => Tally c d [] where
  refl := tally_refl
  trans c d e := tally_trans c d e [] []
  heated c r _ := tally_same _ _ (fun x => by by_cases here : x = r <;> simp [moveCount, here])
    fun x => by by_cases here : x = r <;> simp [here]
  tuned _ _ _ _ _ := tally_same _ _ (fun _ => rfl) fun _ => rfl
  read _ _ := tally_same _ _ (fun _ => rfl) fun _ => rfl

theorem tally_begin_rotate (c : Cluster) : Tally c c.beginRotate [] := frame_begin_rotate tally_tuning.onward c

theorem tally_evict_all (cfg : Config) (evicted : List (Ref × EvictionReason)) (c : Cluster) :
    Tally c (c.evictAll cfg evicted) (evicted.map Prod.fst) := by
  induction evicted generalizing c with
  | nil => exact tally_refl c
  | cons entry rest ih => exact tally_trans _ _ _ [entry.1] _ (tally_evicted cfg c entry.1 entry.2) (ih _)

theorem tally_promote_cooled (cfg : Config) (fuel : Nat) (c : Cluster) :
    ∃ moves, (c.promoteCooled cfg fuel).innerRing = c.innerRing ++ moves ∧ Tally c (c.promoteCooled cfg fuel) moves := by
  induction fuel generalizing c with
  | zero => exact ⟨[], (List.append_nil _).symm, tally_refl c⟩
  | succ fuel ih =>
      rw [promoteCooled]
      split
      · split
        · exact ⟨[], (List.append_nil _).symm, tally_refl c⟩
        · split
          · split
            · exact ⟨[], (List.append_nil _).symm, tally_refl c⟩
            · rename_i r popped taken
              have inner := (lifted_pop c.tick.tick popped r taken).1.inner
              obtain ⟨moves, grown, rest⟩ := ih (popped.moveToInner r)
              have ticked : Tally c c.tick.tick [] := tally_same _ _ (fun _ => rfl) fun _ => rfl
              have taken := tally_trans _ _ _ [] [r] ticked (tally_promoted c.tick.tick popped r taken)
              refine ⟨r :: moves, ?_, tally_trans _ _ _ [r] moves taken rest⟩
              rw [grown, inner, List.append_assoc, List.singleton_append, tick_inner, tick_inner]
          · exact ⟨[], (List.append_nil _).symm, tally_same _ _ (fun _ => rfl) fun _ => rfl⟩
      · exact ⟨[], (List.append_nil _).symm, tally_refl c⟩

theorem tally_circuit (c : Cluster) (r : Ref) : Tally c (c.remediateOpenCircuit r) [] := by
  obtain ⟨_, treated⟩ := open_circuit_treats c r
  rw [treated]
  exact tally_same _ _ (fun _ => rfl) fun _ => rfl

theorem tally_evict_unhealthy (cfg : Config) (queue : List Ref) (c : Cluster) :
    ∃ moves, moves.Sublist queue ∧ (∀ r ∈ moves, ¬ c.Sound cfg r) ∧ Tally c (c.evictUnhealthy cfg queue) moves := by
  induction queue generalizing c with
  | nil => exact ⟨[], .refl _, by simp, tally_refl c⟩
  | cons r rest ih =>
      rw [evictUnhealthy]
      split
      · exact ⟨[], List.nil_sublist _, by simp, tally_refl c⟩
      · simp only
        split
        · rename_i failing
          have unsound : ¬ c.Sound cfg r := by
            rintro ⟨healthy, below⟩
            simp [circuitOpen, healthy, not_le.mpr below] at failing
          have evicted := tally_evicted cfg c r .healthFail
          -- Whatever the breaker does after it, the rest of the list is gone through.
          have continued : ∀ d, Tally (c.moveToOuter cfg r .healthFail) d [] → ∃ moves, moves.Sublist (r :: rest) ∧
              (∀ x ∈ moves, ¬ c.Sound cfg x) ∧ Tally c (d.evictUnhealthy cfg rest) moves := by
            intro d remediated
            have here := tally_trans _ _ _ [r] [] evicted remediated
            obtain ⟨moves, listed, unsounds, tally⟩ := ih d
            refine ⟨r :: moves, listed.cons_cons r, ?_, tally_trans _ _ _ [r] moves here tally⟩
            intro x member
            rcases List.mem_cons.mp member with rfl | later
            · exact unsound
            · have other := unsounds x later
              rwa [Cluster.Sound, here.metrics] at other
          split
          · exact continued _ (tally_circuit _ r)
          · exact continued _ (tally_refl _)
        · obtain ⟨moves, listed, unsounds, tally⟩ := ih c
          exact ⟨moves, listed.cons r, unsounds, tally⟩

theorem tally_stale (c : Cluster) : Tally c c.remediateStale [] := by
  obtain ⟨_, treated⟩ := stale_treats c
  rw [treated]
  exact tally_same _ _ (fun _ => rfl) fun _ => rfl

theorem tally_rotate (cfg : Config) (c : Cluster) : ∃ last, last.Sublist ((c.rotateStep1 cfg).rotateStep2 cfg).innerRing ∧
    (∀ r ∈ last, ¬ c.Sound cfg r) ∧ Tally c (c.rotate cfg) (c.evictedServers cfg ++ c.promotedServers cfg ++ last) := by
  have first : Tally c (c.rotateStep1 cfg) (c.evictedServers cfg) :=
    tally_trans _ _ _ [] _ (tally_begin_rotate c) (tally_evict_all cfg _ c.beginRotate)
  obtain ⟨moves, grown, second⟩ := tally_promote_cooled cfg (c.rotateStep1 cfg).outerRing.length (c.rotateStep1 cfg)
  have same : moves = c.promotedServers cfg := by
    have ring : ((c.rotateStep1 cfg).rotateStep2 cfg).innerRing = (c.rotateStep1 cfg).innerRing ++ moves := grown
    rw [promotedServers, ring, List.drop_left]
  rw [same] at second
  have both := tally_trans _ _ _ _ _ first second
  obtain ⟨last, listed, unsounds, third⟩ := tally_evict_unhealthy cfg ((c.rotateStep1 cfg).rotateStep2 cfg).innerRing
    ((c.rotateStep1 cfg).rotateStep2 cfg)
  refine ⟨last, listed, ?_, ?_⟩
  · intro r member
    have unsound := unsounds r member
    have metrics := both.metrics r
    change ((((c.rotateStep1 cfg).rotateStep2 cfg).objects r)).metrics = _ at metrics
    rwa [Cluster.Sound, metrics] at unsound
  · have whole := tally_trans _ _ _ _ [] (tally_trans _ _ _ _ last both third) (tally_stale _)
    rwa [List.append_nil] at whole

theorem evict_all_sublist (cfg : Config) (evicted : List (Ref × EvictionReason)) (c : Cluster) :
    (c.evictAll cfg evicted).innerRing.Sublist c.innerRing := by
  induction evicted generalizing c with
  | nil => exact .refl _
  | cons entry rest ih =>
      refine (ih (c.moveToOuter cfg entry.1 entry.2)).trans ?_
      rw [(evicted_move_to_outer cfg c entry.1 entry.2).inner]
      exact List.eraseP_sublist

theorem evicted_leaves (cfg : Config) (c : Cluster) (r : Ref) (reason : EvictionReason) (distinct : (c.innerRing.map c.idOf).Nodup)
    (inside : r ∈ c.innerRing) : r ∉ (c.moveToOuter cfg r reason).innerRing := by
  obtain ⟨x, front, back, before, found, whole, after⟩ := List.exists_of_eraseP inside (p := c.hasId (c.idOf r)) (by simp [hasId])
  rw [(evicted_move_to_outer cfg c r reason).inner, after]
  intro member
  rw [whole] at distinct
  simp only [List.map_append, List.map_cons, List.nodup_append, List.nodup_cons] at distinct
  have named : c.idOf x = c.idOf r := by simpa [hasId] using found
  rcases List.mem_append.mp member with ahead | behind
  · exact before r ahead (by simp [hasId])
  · exact distinct.2.1.1 (named ▸ List.mem_map_of_mem behind)

theorem evicted_gone (cfg : Config) (evicted : List (Ref × EvictionReason)) (c : Cluster)
    (distinct : (c.innerRing.map c.idOf).Nodup) (queued : (evicted.map Prod.fst).Sublist c.innerRing) (r : Ref)
    (listed : r ∈ evicted.map Prod.fst) : r ∉ (c.evictAll cfg evicted).innerRing := by
  induction evicted generalizing c with
  | nil => cases listed
  | cons entry rest ih =>
      have moved := evicted_move_to_outer cfg c entry.1 entry.2
      have left := sublist_evicted _ _ _ _ _ queued moved
      have kept : ((c.moveToOuter cfg entry.1 entry.2).innerRing.map (c.moveToOuter cfg entry.1 entry.2).idOf).Nodup := by
        rw [moved.ids]
        exact distinct.sublist ((evict_all_sublist cfg [entry] c).map c.idOf)
      rcases List.mem_cons.mp listed with here | later
      · subst here
        have gone := evicted_leaves cfg c entry.1 entry.2 distinct (queued.subset (by simp))
        exact fun member => gone ((evict_all_sublist cfg rest _).subset member)
      · exact ih _ kept left later

theorem distinct_inner (c : Cluster) (distinct : c.ids.Nodup) : (c.innerRing.map c.idOf).Nodup := by
  rw [ids_split] at distinct
  exact (List.nodup_append.mp (List.nodup_append.mp distinct).1).1

theorem distinct_outer (c : Cluster) (distinct : c.ids.Nodup) : c.outerRing.Nodup := by
  rw [ids_split] at distinct
  exact (List.nodup_append.mp distinct).2.1.of_map _

theorem settled_iff (cfg : Config) (c : Cluster) (distinct : (c.rotateStep1 cfg).outerRing.Nodup) :
    c.Settled cfg ↔ ∀ r ∈ (c.rotateStep1 cfg).admittedServers cfg, c.Sound cfg r ∧ r ∉ c.evictedServers cfg := by
  have admits (r : Ref) := line_admits cfg c.beginRotate (c.beginRotate.toEvict cfg c.adaptThresholds.now) r distinct
  have evicted : (c.evictedServers cfg).length = (c.beginRotate.toEvict cfg c.adaptThresholds.now).length := List.length_map _
  have length := rotate_step1_length cfg c
  have room (j : Nat) : (c.rotateStep1 cfg).innerRing.length + j < cfg.maxInnerSize ↔
      ¬ cfg.maxInnerSize + (c.evictedServers cfg).length ≤ c.innerRing.length + j := by
    omega
  constructor
  · intro settled r member
    obtain ⟨j, turn, free, gates⟩ := (admits r).mp member
    by_contra failing
    rw [not_and_or, not_not] at failing
    rcases settled (r, j) turn failing with full | ⟨ahead, inLine, before, closed⟩
    · exact (room j).mp free full
    · exact Bool.false_ne_true (closed.symm.trans (gates ahead inLine before))
  · rintro calm ⟨r, j⟩ turn failing
    by_contra kept
    rw [not_or] at kept
    have member : r ∈ (c.rotateStep1 cfg).admittedServers cfg := by
      refine (admits r).mpr ⟨j, turn, (room j).mpr kept.1, fun ahead inLine before => ?_⟩
      by_contra closed
      exact kept.2 ⟨ahead, inLine, before, Bool.eq_false_of_not_eq_true closed⟩
    obtain ⟨sound, stays⟩ := calm r member
    exact failing.elim (fun unsound => unsound sound) stays

-- While no id is registered twice, a rotation moves each server once at most and
-- promotes none that is failing, exactly if those are kept out who should be.
theorem no_thrashing_iff_settled (cfg : Config) (c : Cluster) (distinct : c.ids.Nodup) : c.NoThrashing cfg ↔ c.Settled cfg := by
  obtain ⟨last, listed, unsounds, tally⟩ := tally_rotate cfg c
  have begun : c.beginRotate.ids.Nodup :=
    (still_ids _ _ (still_of_quiet _ _ (quiet_begin_rotate c))).nodup_iff.mpr distinct
  have first : (c.rotateStep1 cfg).ids.Nodup := (moves_ids cfg _ _ _ (moves_rotate_step1 cfg c)).nodup_iff.mpr begun
  have second : ((c.rotateStep1 cfg).rotateStep2 cfg).ids.Nodup :=
    (moves_ids cfg _ _ _ (moves_promote_cooled cfg _ (c.rotateStep1 cfg))).nodup_iff.mpr first
  have ring : ((c.rotateStep1 cfg).rotateStep2 cfg).innerRing = (c.rotateStep1 cfg).innerRing ++ c.promotedServers cfg := by
    rw [step2_admits, promoted_admitted]
  have unique : ((c.rotateStep1 cfg).rotateStep2 cfg).innerRing.Nodup := (distinct_inner _ second).of_map _
  have queued := to_evict_sublist cfg c.beginRotate c.adaptThresholds.now
  have evictedOnce : (c.evictedServers cfg).Nodup := ((distinct_inner _ begun).of_map _).sublist queued
  rw [ring] at unique listed
  obtain ⟨_, promotedOnce, apart⟩ := List.nodup_append.mp unique
  rw [settled_iff cfg c (distinct_outer _ first)]
  constructor
  · intro calm r member
    rw [← promoted_admitted] at member
    refine ⟨calm.sound r member, ?_⟩
    intro evicted
    have moved := tally.counts r
    have bound := calm.once r
    have one := List.count_pos_iff.mpr evicted
    have two := List.count_pos_iff.mpr member
    rw [List.count_append, List.count_append] at moved
    omega
  · intro settled
    refine ⟨?_, fun r member => (settled r (promoted_admitted cfg c ▸ member)).1⟩
    intro r
    have moved := tally.counts r
    rw [List.count_append, List.count_append] at moved
    have early := List.nodup_iff_count_le_one.mp evictedOnce r
    have middle := List.nodup_iff_count_le_one.mp promotedOnce r
    have late := (listed.count_le r).trans (List.nodup_iff_count_le_one.mp unique r)
    by_cases promoted : r ∈ c.promotedServers cfg
    · obtain ⟨sound, stays⟩ := settled r (promoted_admitted cfg c ▸ promoted)
      have absent := List.count_eq_zero.mpr stays
      have never := List.count_eq_zero.mpr fun member => unsounds r member sound
      omega
    · have absent := List.count_eq_zero.mpr promoted
      by_cases evicted : r ∈ c.evictedServers cfg
      · have gone := evicted_gone cfg _ c.beginRotate (distinct_inner _ begun) queued r evicted
        have outside : r ∉ last := by
          intro member
          rcases List.mem_append.mp (listed.subset member) with inner | promotedAgain
          · exact gone inner
          · exact promoted promotedAgain
        have never := List.count_eq_zero.mpr outside
        omega
      · have never := List.count_eq_zero.mpr evicted
        omega

theorem step_distinct (cfg : Config) (c : Cluster) (op : Op) (distinct : c.ids.Nodup) (fresh : FreshIds c op) :
    (step cfg c op).ids.Nodup := by
  cases op with
  | addServer r forceInner =>
      exact (added_ids cfg c _ r (added_add_server cfg c r forceInner)).nodup_iff.mpr (List.nodup_cons.mpr ⟨fresh r rfl, distinct⟩)
  | removeServer serverId =>
      have left := (removed_ids cfg c _ serverId _ (removed_remove_server cfg c serverId)).nodup_iff.mp distinct
      split at left
      · exact (List.nodup_cons.mp left).2
      · exact left
  | _ => exact (step_ids_perm cfg c _ rfl rfl).nodup_iff.mpr distinct

theorem no_thrashing_iff (cfg : Config) (objects : Ref → Server) (adaptive : Option AdaptiveThresholdController)
    (remediator : Option Remediator) (hardwareManager : Option HardwareTelemetryManager) (monotonic : Clock) (ops : List Op)
    (c : Cluster) (run : ClusterRun cfg FreshIds (.empty cfg objects adaptive remediator hardwareManager monotonic) ops c) :
    c.NoThrashing cfg ↔ c.Settled cfg := by
  apply no_thrashing_iff_settled
  refine Runs.run_invariant (next cfg) FreshIds (fun c => c.ids.Nodup) ?_ _ c ops ?_ run
  · intro state op after distinct fresh taken
    cases taken
    exact step_distinct cfg state op distinct fresh
  · exact List.nodup_nil

instance (cfg : Config) (c : Cluster) (r : Ref) : Decidable (c.Sound cfg r) :=
  inferInstanceAs (Decidable ((c.objects r).metrics.isHealthy = true ∧ (c.objects r).metrics.errorRate < cfg.circuitBreakerThreshold))

instance (cfg : Config) (c : Cluster) : Decidable (c.Settled cfg) :=
  inferInstanceAs (Decidable (∀ entry ∈ (c.nextLine cfg).turns, ¬ c.Sound cfg entry.1 ∨ entry.1 ∈ c.evictedServers cfg →
    cfg.maxInnerSize + (c.evictedServers cfg).length ≤ c.innerRing.length + entry.2 ∨
      ∃ ahead ∈ (c.nextLine cfg).turns, ahead.2 ≤ entry.2 ∧ (c.nextLine cfg).passes cfg c.beginRotate ahead = false))

instance (c : Cluster) (op : Op) : Decidable (FreshIds c op) :=
  inferInstanceAs (Decidable (∀ r ∈ op.added, c.idOf r ∉ c.ids))

-- Server 1 waits outside until its health has been checked.
def settlingCluster : Cluster := .empty smallestRing (fun r => { id := toString r }) none none none ⟨fun ticks => 30 * ticks, 0⟩

def settlingRun (healthy : Bool) : List Op :=
  [.addServer 0 true, .addServer 1 false, .setMetrics 1 { isHealthy := healthy }]

theorem no_thrashing_healthy : ∃ c ∈ Runs.follow (next smallestRing) FreshIds settlingCluster (settlingRun true),
    c.promotedServers smallestRing = [1] ∧ c.NoThrashing smallestRing := by
  obtain ⟨c, reached, promoted, settled⟩ : ∃ c ∈ Runs.follow (next smallestRing) FreshIds settlingCluster (settlingRun true),
      c.promotedServers smallestRing = [1] ∧ c.Settled smallestRing := by decide +kernel
  exact ⟨c, reached, promoted, (no_thrashing_iff smallestRing _ none none none _ _ c (Runs.follow_run _ _ _ c _ reached)).mpr settled⟩

theorem unhealthy_promoted : ¬ ∀ c, ClusterRun smallestRing (fun _ _ => True) settlingCluster (settlingRun false) c →
    c.NoThrashing smallestRing := by
  intro claim
  obtain ⟨c, reached, promoted, failing⟩ :
    ∃ c ∈ Runs.follow (next smallestRing) (fun _ _ => True) settlingCluster (settlingRun false),
      1 ∈ c.promotedServers smallestRing ∧ ¬ c.Sound smallestRing 1 := by decide +kernel
  exact failing ((claim c (Runs.follow_run _ _ _ c _ reached)).sound 1 promoted)

end HuddleCluster.Ring
