import HuddleCluster.Ring.Trails

set_option autoImplicit false

namespace HuddleCluster.Ring

open Cluster

-- What is draining goes on draining, with the same start and reason.
def DrainsKept (c d : Cluster) : Prop :=
  ∀ serverId drain, c.drainingServers.get? serverId = some drain → d.drainingServers.get? serverId = some drain

theorem drains_refl (c : Cluster) : DrainsKept c c := fun _ _ draining => draining

theorem drains_trans (c d e : Cluster) (before : DrainsKept c d) (after : DrainsKept d e) : DrainsKept c e :=
  fun serverId drain draining => after serverId drain (before serverId drain draining)

theorem drains_same (c d : Cluster) (same : d.drainingServers = c.drainingServers) : DrainsKept c d :=
  fun _ _ draining => same ▸ draining

theorem drains_evicted (c d : Cluster) (r : Ref) (reason : EvictionReason) (moved : Evicted c d r reason) : DrainsKept c d := by
  rcases moved.placed with ⟨_, same, _⟩ | ⟨_, _, absent, started, _, draining⟩
  · exact drains_same c d same
  · intro serverId drain before
    have other : serverId ≠ c.idOf r := by
      rintro rfl
      rw [absent] at before
      cases before
    rw [draining, Dict.get_set, if_neg other]
    exact before

theorem drains_promote (cfg : Config) (fuel : Nat) (c : Cluster) :
    (c.promoteCooled cfg fuel).drainingServers = c.drainingServers := by
  induction fuel generalizing c with
  | zero => rfl
  | succ fuel ih =>
      rw [promoteCooled]
      split
      · split
        · rfl
        · split
          · split
            · rfl
            · rename_i r popped taken
              exact (ih (popped.moveToInner r)).trans (lifted_pop c.tick.tick popped r taken).1.draining
          · rfl
      · rfl

theorem drains_rotate (cfg : Config) (c : Cluster) : DrainsKept c (c.rotate cfg) := by
  have left (c : Cluster) (r : Ref) (reason : EvictionReason) (_ : r ∈ c.innerRing) : DrainsKept c (c.moveToOuter cfg r reason) :=
    drains_evicted _ _ r reason (evicted_move_to_outer cfg c r reason)
  have begun : DrainsKept c c.beginRotate := drains_same _ _ (quiet_begin_rotate c).draining
  have first : DrainsKept c.beginRotate (c.rotateStep1 cfg) := by
    have ended := History.linked_last _ DrainsKept drains_refl drains_trans c.beginRotate _
      (evict_linked cfg DrainsKept left _ c.beginRotate (to_evict_sublist cfg c.beginRotate c.adaptThresholds.now))
    rwa [evict_trail_last] at ended
  have second : DrainsKept (c.rotateStep1 cfg) ((c.rotateStep1 cfg).rotateStep2 cfg) := drains_same _ _ (drains_promote cfg _ _)
  have third (d : Cluster) : DrainsKept d (d.rotateStep3 cfg) := by
    have ended := History.linked_last _ DrainsKept drains_refl drains_trans d _
      (unhealthy_linked cfg DrainsKept left (fun c r => drains_same _ _ (calm_remediate_circuit c r).draining) d.innerRing d (.refl _))
    rwa [unhealthy_trail_last] at ended
  have stale (d : Cluster) : DrainsKept d d.remediateStale := drains_same _ _ (calm_remediate_stale d).draining
  exact drains_trans _ _ _ begun (drains_trans _ _ _ first (drains_trans _ _ _ second (drains_trans _ _ _ (third _) (stale _))))

theorem drains_remove (cfg : Config) (c : Cluster) (serverId : String) : DrainsKept c (c.removeServer cfg serverId).1 := by
  unfold removeServer
  split
  · refine refill_related cfg DrainsKept drains_refl drains_trans (fun d r popped taken => ?_) _
      { c with innerRing := c.innerRing.eraseP (c.hasId serverId) }
    exact drains_same _ _ (lifted_pop d popped r taken).1.draining
  · split <;> exact drains_refl c

theorem drains_step (cfg : Config) (c : Cluster) (op : Op) (other : op ≠ .checkDrainingServers) : DrainsKept c (step cfg c op) := by
  cases op with
  | addServer r forceInner => exact drains_same _ _ (added_add_server cfg c r forceInner).draining
  | removeServer serverId => exact drains_remove cfg c serverId
  | forceEvict serverId =>
      rw [step, forceEvict]
      split
      · exact drains_refl c
      · exact drains_evicted _ _ _ .manual (evicted_move_to_outer cfg c _ .manual)
  | rotate => exact drains_rotate cfg c
  | checkDrainingServers => exact absurd rfl other
  | _ => exact drains_same _ _ (still_step cfg c _ rfl).draining

theorem finish_draining (c : Cluster) (serverId : String) (drain : Drain) :
    (c.finishDrain serverId drain).drainingServers = c.drainingServers.erase serverId :=
  (complete_eviction_spec { c with drainingServers := c.drainingServers.erase serverId } drain.server).2.1

theorem finish_all_draining (completed : List (String × Drain)) (c : Cluster) (serverId : String) :
    (completed.foldl (fun state entry => state.finishDrain entry.1 entry.2) c).drainingServers.get? serverId =
      if serverId ∈ completed.map Prod.fst then none else c.drainingServers.get? serverId := by
  induction completed generalizing c with
  | nil => simp
  | cons entry rest ih =>
      rw [List.foldl_cons, ih, finish_draining, Dict.get_erase, List.map_cons]
      by_cases later : serverId ∈ rest.map Prod.fst
      · simp [later]
      · by_cases here : serverId = entry.1 <;> simp [here, later]

theorem check_draining (cfg : Config) (c : Cluster) (serverId : String) (drain : Drain)
    (draining : c.drainingServers.get? serverId = some drain) :
    (c.checkDrainingServers cfg).drainingServers.get? serverId = if c.drainDone cfg c.now drain then none else some drain := by
  have entry : (serverId, drain) ∈ c.drainingServers.entries := (Dict.get_mem _ _ _).mp draining
  unfold checkDrainingServers
  rw [if_neg (by simpa using List.ne_nil_of_mem entry)]
  simp only [finish_all_draining]
  have listed : serverId ∈ (c.drainingServers.entries.filter fun entry => c.drainDone cfg c.now entry.2).map Prod.fst ↔
      c.drainDone cfg c.now drain = true := by
    constructor
    · intro member
      obtain ⟨⟨same, found⟩, inside, rfl⟩ := List.mem_map.mp member
      obtain ⟨present, done⟩ := List.mem_filter.mp inside
      obtain rfl : found = drain := Option.some.inj (((Dict.get_mem _ _ _).mpr present).symm.trans draining)
      exact done
    · exact fun done => List.mem_map.mpr ⟨(serverId, drain), List.mem_filter.mpr ⟨entry, done⟩, rfl⟩
  by_cases done : c.drainDone cfg c.now drain = true
  · rw [if_pos (listed.mpr done), if_pos done]
  · rw [if_neg fun member => done (listed.mp member), if_neg done]
    exact draining

theorem finish_outer (c : Cluster) (serverId : String) (drain : Drain) :
    (c.finishDrain serverId drain).outerRing.Perm (drain.server :: c.outerRing) := by
  obtain ⟨_, _, _, _, outer, _, _⟩ := complete_eviction_spec { c with drainingServers := c.drainingServers.erase serverId } drain.server
  exact outer ▸ Heapq.heappush_perm _ _ _

theorem finish_all_outer (completed : List (String × Drain)) (c : Cluster) (r : Ref)
    (listed : r ∈ completed.map (fun entry => entry.2.server) ∨ r ∈ c.outerRing) :
    r ∈ (completed.foldl (fun state entry => state.finishDrain entry.1 entry.2) c).outerRing := by
  induction completed generalizing c with
  | nil => simpa using listed
  | cons entry rest ih =>
      refine ih (c.finishDrain entry.1 entry.2) ?_
      rw [(finish_outer c entry.1 entry.2).mem_iff, List.mem_cons]
      rcases listed with now | before
      · rcases List.mem_cons.mp now with rfl | later
        · exact Or.inr (Or.inl rfl)
        · exact Or.inl later
      · exact Or.inr (Or.inr before)

theorem check_outer (cfg : Config) (c : Cluster) (serverId : String) (drain : Drain)
    (draining : c.drainingServers.get? serverId = some drain) (done : c.drainDone cfg c.now drain = true) :
    drain.server ∈ (c.checkDrainingServers cfg).outerRing := by
  have entry : (serverId, drain) ∈ c.drainingServers.entries := (Dict.get_mem _ _ _).mp draining
  unfold checkDrainingServers
  rw [if_neg (by simpa using List.ne_nil_of_mem entry)]
  exact finish_all_outer _ _ _ (Or.inl (List.mem_map.mpr ⟨(serverId, drain), List.mem_filter.mpr ⟨entry, done⟩, rfl⟩))

-- Where a check comes, connections are open and the time is not over.
def StillOpen (cfg : Config) (drain : Drain) (c : Cluster) (op : Op) : Prop :=
  op = .checkDrainingServers → 0 < (c.objects drain.server).metrics.activeConnections ∧ c.now - drain.start < cfg.wsDrainTimeout

-- A server drains until the first check that finds its connections closed or its time
-- over, which puts it into the outer ring; nothing else ends its drain.
theorem drain_lasts_iff (cfg : Config) (start last : Cluster) (ops : List Op) (serverId : String) (drain : Drain)
    (draining : start.drainingServers.get? serverId = some drain) (run : ClusterRun cfg (fun _ _ => True) start ops last) :
    (Runs.Always (next cfg) start ops (fun c => c.drainingServers.get? serverId = some drain) ↔
      ClusterRun cfg (StillOpen cfg drain) start ops last) ∧
      (last.drainingServers.get? serverId = some drain → ¬ StillOpen cfg drain last .checkDrainingServers →
        drain.server ∈ (step cfg last .checkDrainingServers).outerRing) := by
  have done (c : Cluster) : c.drainDone cfg c.now drain = true ↔ ¬ StillOpen cfg drain c .checkDrainingServers := by
    simp only [drainDone, Bool.or_eq_true, decide_eq_true_eq, StillOpen, true_implies, not_and_or, not_lt]
  refine ⟨?_, fun drains ended => check_outer cfg last serverId drain drains ((done last).mpr ended)⟩
  refine Runs.run_always (next cfg) _ (fun _ => True) _ (fun _ _ _ _ _ => trivial) ?_ start last ops trivial draining run
  intro c op after _ held taken
  cases taken
  by_cases check : op = .checkDrainingServers
  · subst check
    rw [step, check_draining cfg c serverId drain held]
    split
    · rename_i ends
      exact iff_of_false (Option.some_ne_none drain).symm ((done c).mp ends)
    · rename_i lasts
      exact iff_of_true rfl (not_not.mp fun ended => lasts ((done c).mpr ended))
  · exact iff_of_true (drains_step cfg c op check serverId drain held) fun same => absurd same check

def halfMinute : Config := { smallestRing with wsDrainTimeout := 30 }

-- A server is evicted with two connections open.
def evictedOpen : Cluster :=
  [.addServer 0 true, .addServer 1 true, .forceEvict "0"].foldl (step halfMinute)
    (.empty halfMinute (fun r => { id := toString r, metrics := { activeConnections := 2 } }) none none none
      ⟨fun ticks => 5 * ticks, 0⟩)

theorem drain_ends_closed : ∃ drain, evictedOpen.drainingServers.get? "0" = some drain ∧
    0 ∈ (step halfMinute (step halfMinute evictedOpen (.setMetrics 0 {})) .checkDrainingServers).outerRing := by
  have there : ∃ drain ∈ evictedOpen.drainingServers.get? "0", drain.server = 0 ∧
      ((step halfMinute evictedOpen (.setMetrics 0 {})).objects 0).metrics.activeConnections = 0 := by
    decide +kernel
  obtain ⟨drain, found, server, closed⟩ := there
  have kept := drains_step halfMinute evictedOpen (.setMetrics 0 {}) (by simp) "0" drain found
  have run := Runs.run_one (next halfMinute) (fun _ _ => True) evictedOpen _ (.setMetrics 0 {}) trivial rfl
  have ends := (drain_lasts_iff halfMinute evictedOpen _ [.setMetrics 0 {}] "0" drain found run).2
  refine ⟨drain, found, ?_⟩
  rw [server] at ends
  exact ends kept fun opened => absurd (opened rfl).1 (by rw [server, closed]; exact lt_irrefl 0)

end HuddleCluster.Ring
