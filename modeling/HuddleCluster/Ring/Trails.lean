import HuddleCluster.Lib.History
import HuddleCluster.Ring.Backdrop

set_option autoImplicit false

namespace HuddleCluster.Ring

namespace Cluster

-- The states one operation passes through: one for each move of a server, and
-- one where only bookkeeping happens.
def pullTrail (cfg : Config) : Nat → Cluster → List Cluster
  | 0, _ => []
  | fuel + 1, c =>
      if c.innerRing.length < cfg.minInnerSize then
        match c.popOuter with
        | none => []
        | some (r, popped) => popped.moveToInner r :: pullTrail cfg fuel (popped.moveToInner r)
      else []

def evictTrail (cfg : Config) : List (Ref × EvictionReason) → Cluster → List Cluster
  | [], _ => []
  | (r, reason) :: rest, c => c.moveToOuter cfg r reason :: evictTrail cfg rest (c.moveToOuter cfg r reason)

def promoteTrail (cfg : Config) : Nat → Cluster → List Cluster
  | 0, _ => []
  | fuel + 1, c =>
      if c.innerRing.length < cfg.maxInnerSize then
        match c.outerRing with
        | [] => []
        | coolest :: _ =>
            if c.promotable cfg coolest then
              match c.tick.tick.popOuter with
              | none => []
              | some (r, popped) => popped.moveToInner r :: promoteTrail cfg fuel (popped.moveToInner r)
            else [c.tick.tick]
      else []

def unhealthyTrail (cfg : Config) : List Ref → Cluster → List Cluster
  | [], _ => []
  | r :: rest, c =>
      if c.innerRing.length ≤ cfg.minInnerSize then []
      else
        let s := c.objects r
        if !s.metrics.isHealthy || circuitOpen cfg s then
          let moved := c.moveToOuter cfg r .healthFail
          if circuitOpen cfg s then moved :: moved.remediateOpenCircuit r :: unhealthyTrail cfg rest (moved.remediateOpenCircuit r)
          else moved :: unhealthyTrail cfg rest moved
        else unhealthyTrail cfg rest c

def drainTrail : List (String × Drain) → Cluster → List Cluster
  | [], _ => []
  | (serverId, drain) :: rest, c => c.finishDrain serverId drain :: drainTrail rest (c.finishDrain serverId drain)

def removeTrail (cfg : Config) (c : Cluster) (serverId : String) : List Cluster :=
  if c.innerRing.any (c.hasId serverId) then
    let removed := { c with innerRing := c.innerRing.eraseP (c.hasId serverId) }
    removed :: removed.pullTrail cfg removed.outerRing.length
  else [(c.removeServer cfg serverId).1]

def rotateTrail (cfg : Config) (c : Cluster) : List Cluster :=
  let first := c.rotateStep1 cfg
  let second := first.rotateStep2 cfg
  c.beginRotate :: (evictTrail cfg (c.beginRotate.toEvict cfg c.adaptThresholds.now) c.beginRotate ++
    (promoteTrail cfg first.outerRing.length first ++ (unhealthyTrail cfg second.innerRing second ++ [c.rotate cfg])))

def checkTrail (cfg : Config) (c : Cluster) : List Cluster :=
  if c.drainingServers.entries.isEmpty then []
  else c.tick :: drainTrail (c.drainingServers.entries.filter fun entry => c.drainDone cfg c.now entry.2) c.tick

def trail (cfg : Config) (c : Cluster) (op : Op) : List Cluster :=
  match op with
  | .removeServer serverId => c.removeTrail cfg serverId
  | .rotate => c.rotateTrail cfg
  | .checkDrainingServers => c.checkTrail cfg
  | _ => [step cfg c op]

end Cluster

open Cluster

theorem pull_trail_last (cfg : Config) (fuel : Nat) (c : Cluster) :
    (c.pullTrail cfg fuel).getLastD c = c.pullFromOuter cfg fuel := by
  induction fuel generalizing c with
  | zero => rfl
  | succ fuel ih =>
      rw [pullTrail, pullFromOuter]
      split
      · cases c.popOuter with
        | none => rfl
        | some taken =>
            simp only [List.getLastD_cons]
            exact ih (taken.2.moveToInner taken.1)
      · rfl

theorem evict_trail_last (cfg : Config) (evicted : List (Ref × EvictionReason)) (c : Cluster) :
    (evictTrail cfg evicted c).getLastD c = c.evictAll cfg evicted := by
  induction evicted generalizing c with
  | nil => rfl
  | cons entry rest ih =>
      rw [evictTrail, List.getLastD_cons]
      exact ih (c.moveToOuter cfg entry.1 entry.2)

theorem promote_trail_last (cfg : Config) (fuel : Nat) (c : Cluster) :
    (promoteTrail cfg fuel c).getLastD c = c.promoteCooled cfg fuel := by
  induction fuel generalizing c with
  | zero => rfl
  | succ fuel ih =>
      rw [promoteTrail, promoteCooled]
      split
      · cases c.outerRing with
        | nil => rfl
        | cons coolest rest =>
            simp only
            split
            · cases c.tick.tick.popOuter with
              | none => rfl
              | some taken =>
                  simp only [List.getLastD_cons]
                  exact ih (taken.2.moveToInner taken.1)
            · rfl
      · rfl

theorem unhealthy_trail_last (cfg : Config) (queue : List Ref) (c : Cluster) :
    (unhealthyTrail cfg queue c).getLastD c = c.evictUnhealthy cfg queue := by
  induction queue generalizing c with
  | nil => rfl
  | cons r rest ih =>
      rw [unhealthyTrail, evictUnhealthy]
      split
      · rfl
      · simp only
        split
        · split
          · rw [List.getLastD_cons, List.getLastD_cons]
            exact ih _
          · rw [List.getLastD_cons]
            exact ih _
        · exact ih c

theorem drain_trail_last (completed : List (String × Drain)) (c : Cluster) :
    (drainTrail completed c).getLastD c = completed.foldl (fun state entry => state.finishDrain entry.1 entry.2) c := by
  induction completed generalizing c with
  | nil => rfl
  | cons entry rest ih =>
      rw [drainTrail, List.getLastD_cons, List.foldl_cons]
      exact ih (c.finishDrain entry.1 entry.2)

theorem trail_last (cfg : Config) (c : Cluster) (op : Op) : (c.trail cfg op).getLastD c = step cfg c op := by
  cases op with
  | removeServer serverId =>
      rw [trail, step, removeTrail, removeServer]
      split
      · simp only
        rw [List.getLastD_cons]
        exact pull_trail_last cfg _ _
      · rfl
  | rotate =>
      rw [trail, rotateTrail]
      rw [List.getLastD_cons, History.last_append, History.last_append, History.last_append]
      rfl
  | checkDrainingServers =>
      rw [trail, step, checkTrail, checkDrainingServers]
      split
      · rfl
      · rw [List.getLastD_cons]
        exact drain_trail_last _ _
  | _ => rfl

-- A link of a trail that brings nothing into the inner ring. An eviction either
-- starts a drain or puts the server into the outer ring and reports it.
inductive Motion (a b : Cluster) : Prop where
  | calm (same : Still a b) (treated : Option.Rel Remediator.Treated a.remediator b.remediator)
      (readings : b.monotonic.reading = a.monotonic.reading)
  | evicted (r : Ref) (reason : EvictionReason) (moved : Evicted a b r reason)
      (reported : (b.outerRing = a.outerRing ∧ b.remediator = a.remediator) ∨
        (b.outerRing = Heapq.heappush b.temperatureOf a.outerRing r ∧
          b.remediator = a.remediator.map fun m => m.afterEviction (a.idOf r)))
      (readings : b.monotonic.reading = a.monotonic.reading)
  | drained (serverId : String) (drain : Drain) (moved : Drained a b serverId drain)
      (reported : b.remediator = a.remediator.map fun m => m.afterEviction (a.idOf drain.server))
      (readings : b.monotonic.reading = a.monotonic.reading)

-- A link that brings the head of the outer ring into the inner one.
structure Lifted (a b : Cluster) (r : Ref) : Prop extends Promoted a b r where
  remediator : b.remediator =
    if a.temperatureOf r ≤ a.coolThreshold then a.remediator.map fun m => m.recordRecovery (a.idOf r) else a.remediator
  cool : b.coolThreshold = a.coolThreshold
  cold : ∀ x, (b.objects x).coldUntil = (a.objects x).coldUntil
  readings : b.monotonic.reading = a.monotonic.reading

theorem treated_same (a b : Cluster) (same : b.remediator = a.remediator) :
    Option.Rel Remediator.Treated a.remediator b.remediator := by
  rw [same]
  cases a.remediator with
  | none => exact .none
  | some m => exact .some (Remediator.treated_refl m)

theorem treated_map (a b : Cluster) (f : Remediator → Remediator) (treats : ∀ m, Remediator.Treated m (f m))
    (mapped : b.remediator = a.remediator.map f) : Option.Rel Remediator.Treated a.remediator b.remediator := by
  rw [mapped]
  cases a.remediator with
  | none => exact .none
  | some m => exact .some (treats m)

theorem motion_still (a b : Cluster) (same : Still a b) (kept : Backdrop a b) : Motion a b :=
  .calm same (treated_same a b kept.remediator) kept.readings

theorem record_eviction_remediator (c : Cluster) (r : Ref) :
    (c.recordEviction r).remediator = c.remediator.map fun m => m.afterEviction (c.idOf r) := by
  unfold recordEviction Remediator.afterEviction
  cases found : c.remediator with
  | none => exact found
  | some m =>
      simp only [Option.map_some]
      cases m.recordEviction (c.idOf r) with
      | mk after policy => cases policy <;> rfl

theorem record_eviction_objects (c : Cluster) (r : Ref) : (c.recordEviction r).objects = c.objects := by
  obtain ⟨_, treated⟩ := record_eviction_treats c r
  rw [treated]

theorem record_eviction_readings (c : Cluster) (r : Ref) : (c.recordEviction r).monotonic = c.monotonic := by
  obtain ⟨_, treated⟩ := record_eviction_treats c r
  rw [treated]

theorem complete_eviction_backdrop (c : Cluster) (r : Ref) :
    (c.completeEviction r).remediator = (c.remediator.map fun m => m.afterEviction (c.idOf r)) ∧
      (c.completeEviction r).monotonic.reading = c.monotonic.reading := by
  have ids := modify_ids c.tick r (fun s => { s with position := .outer, lastRotated := c.now }) rfl
  unfold completeEviction
  simp only
  rw [record_eviction_remediator, record_eviction_readings]
  refine ⟨?_, rfl⟩
  exact congrArg (fun ids : Ref → String => c.remediator.map fun m => m.afterEviction (ids r)) ids

theorem motion_evicted (cfg : Config) (c : Cluster) (r : Ref) (reason : EvictionReason) :
    Motion c (c.moveToOuter cfg r reason) := by
  have moved := evicted_move_to_outer cfg c r reason
  have leftIds := leave_inner_ids c r reason
  refine .evicted r reason moved ?_ ?_
  · unfold moveToOuter at moved ⊢
    simp only at moved ⊢
    split
    · exact Or.inl ⟨rfl, rfl⟩
    · have completed := (complete_eviction_backdrop (c.leaveInner r reason) r).1
      obtain ⟨_, _, _, temperatures, outer, _⟩ := complete_eviction_spec (c.leaveInner r reason) r
      rw [leftIds] at completed
      exact Or.inr ⟨by rw [outer, temperatures]; rfl, completed⟩
  · unfold moveToOuter
    simp only
    split
    · rfl
    · exact (complete_eviction_backdrop (c.leaveInner r reason) r).2

theorem motion_drained (c : Cluster) (serverId : String) (drain : Drain)
    (entry : c.drainingServers.get? serverId = some drain) : Motion c (c.finishDrain serverId drain) := by
  have completed := complete_eviction_backdrop { c with drainingServers := c.drainingServers.erase serverId } drain.server
  exact .drained serverId drain (drained_finish c serverId drain entry) completed.1 completed.2

theorem motion_circuit (c : Cluster) (r : Ref) : Motion c (c.remediateOpenCircuit r) := by
  have same := still_of_quiet _ _ (calm_remediate_circuit c r).toQuiet
  unfold remediateOpenCircuit at same ⊢
  split
  · exact motion_still c c (still_refl c) (backdrop_refl c)
  · rename_i m found
    simp only [found] at same
    split
    · exact motion_still c c (still_refl c) (backdrop_refl c)
    · rename_i policy chosen
      simp only [chosen] at same
      exact .calm same (by rw [found]; exact .some (Remediator.treated_trigger m (c.idOf r) policy)) rfl

theorem motion_stale (c : Cluster) : Motion c c.remediateStale := by
  have same := still_of_quiet _ _ (calm_remediate_stale c).toQuiet
  unfold remediateStale at same ⊢
  split
  · exact motion_still c c (still_refl c) (backdrop_refl c)
  · rename_i m found
    simp only [found] at same
    exact .calm same (by rw [found]; exact .some (Remediator.treated_stale m)) rfl

theorem motion_begin_rotate (c : Cluster) : Motion c c.beginRotate :=
  motion_still c _ (still_of_quiet _ _ (quiet_begin_rotate c)) (frame_begin_rotate backdrop_frame.toTuning.onward c)

theorem lifted_pop (c popped : Cluster) (r : Ref) (taken : c.popOuter = some (r, popped)) :
    Lifted c (popped.moveToInner r) r ∧ (popped.moveToInner r).monotonic.ticks = c.monotonic.ticks + 1 := by
  have promoted := promoted_pop_outer c popped r taken
  simp only [popOuter, Option.map_eq_some_iff, Prod.mk.injEq] at taken
  obtain ⟨⟨item, rest⟩, found, rfl, rfl⟩ := taken
  set shorter : Cluster := { c with outerRing := rest } with shorterDef
  set marked := shorter.tick.modify item (markPromoted shorter.now) with markedDef
  have ids : marked.idOf = c.idOf := modify_ids shorter.tick item (markPromoted shorter.now) rfl
  have temperatures : marked.temperatureOf = c.temperatureOf :=
    modify_temperatures shorter.tick item (markPromoted shorter.now) rfl
  have cold : ∀ x, (marked.objects x).coldUntil = (c.objects x).coldUntil := by
    intro x
    by_cases here : x = item <;> simp [markedDef, shorterDef, markPromoted, here]
  have counted : ∀ x, ((marked.recordRecovery item).objects x).coldUntil = (marked.objects x).coldUntil := by
    intro x
    unfold recordRecovery
    split
    · by_cases here : x = item <;> simp [here]
    · rfl
  have clock : (marked.recordRecovery item).monotonic = marked.monotonic ∧
      (marked.recordRecovery item).coolThreshold = marked.coolThreshold := by
    unfold recordRecovery
    split <;> exact ⟨rfl, rfl⟩
  have recovered : (marked.recordRecovery item).remediator =
      if marked.temperatureOf item ≤ marked.coolThreshold then marked.remediator.map fun m => m.recordRecovery (marked.idOf item)
      else marked.remediator := by
    unfold recordRecovery
    split <;> rfl
  rw [ids, temperatures] at recovered
  have readings : (marked.recordRecovery item).monotonic.reading = c.monotonic.reading := by
    rw [clock.1]
    rfl
  have ticks : (marked.recordRecovery item).monotonic.ticks = c.monotonic.ticks + 1 := by
    rw [clock.1]
    rfl
  exact ⟨⟨promoted, recovered, clock.2, fun x => (counted x).trans (cold x), readings⟩, ticks⟩

theorem count_erase_id (c : Cluster) (p : Ref → Bool) (r : Ref) : (c.innerRing.eraseP p).count r ≤ c.innerRing.count r :=
  List.eraseP_sublist.count_le r

theorem still_counts (a b : Cluster) (same : Still a b) (r : Ref) : b.innerRing.count r = a.innerRing.count r :=
  same.inner.perm.symm.count_eq r

theorem motion_counts (a b : Cluster) (moved : Motion a b) (r : Ref) : b.innerRing.count r ≤ a.innerRing.count r := by
  cases moved with
  | calm same => exact (still_counts a b same r).le
  | evicted x reason moved =>
      rw [moved.inner]
      exact count_erase_id a _ r
  | drained serverId drain moved => rw [moved.inner]

theorem motion_ids (a b : Cluster) (moved : Motion a b) : b.idOf = a.idOf := by
  cases moved with
  | calm same => exact same.ids
  | evicted _ _ moved => exact moved.ids
  | drained _ _ moved => exact moved.ids

theorem promote_grows (cfg : Config) (fuel : Nat) (c : Cluster) : c.innerRing <+: (c.promoteCooled cfg fuel).innerRing := by
  induction fuel generalizing c with
  | zero => exact List.prefix_refl _
  | succ fuel ih =>
      rw [promoteCooled]
      split
      · split
        · exact List.prefix_refl _
        · split
          · split
            · exact List.prefix_refl _
            · rename_i r popped taken
              have lifted := (lifted_pop c.tick.tick popped r taken).1
              have first : c.innerRing <+: (popped.moveToInner r).innerRing := ⟨[r], lifted.inner.symm⟩
              exact first.trans (ih (popped.moveToInner r))
          · exact List.prefix_refl _
      · exact List.prefix_refl _

structure Links (cfg : Config) (link : Cluster → Cluster → Prop) : Prop where
  begun : ∀ c, link c c.beginRotate
  ticked : ∀ c, link c c.tick
  waited : ∀ c, link c c.tick.tick
  evicted : ∀ c r reason, r ∈ c.innerRing → link c (c.moveToOuter cfg r reason)
  circuit : ∀ c r, link c (c.remediateOpenCircuit r)
  stale : ∀ c, link c c.remediateStale
  drained : ∀ c serverId drain, c.drainingServers.get? serverId = some drain → link c (c.finishDrain serverId drain)
  promoted : ∀ c r popped, c.promotable cfg r = true → c.outerRing.head? = some r → c.tick.tick.popOuter = some (r, popped) →
    link c (popped.moveToInner r)

section Linked

variable (cfg : Config) (link : Cluster → Cluster → Prop)

theorem links_of_motion (moved : ∀ a b, Motion a b → link a b)
    (promoted : ∀ a b r, a.promotable cfg r = true → Lifted a b r → b.monotonic.ticks = a.monotonic.ticks + 3 → link a b) :
    Links cfg link := by
  have waits (c d : Cluster) (same : Still c d) (readings : Backdrop c d) : link c d := moved c d (motion_still c d same readings)
  refine ⟨?_, ?_, ?_, ?_, ?_, ?_, ?_, ?_⟩
  · exact fun c => moved _ _ (motion_begin_rotate c)
  · exact fun c => waits _ _ ⟨.refl _, rfl, rfl, rfl, fun _ => rfl⟩ ⟨rfl, rfl⟩
  · exact fun c => waits _ _ ⟨.refl _, rfl, rfl, rfl, fun _ => rfl⟩ ⟨rfl, rfl⟩
  · exact fun c r reason _ => moved _ _ (motion_evicted cfg c r reason)
  · exact fun c r => moved _ _ (motion_circuit c r)
  · exact fun c => moved _ _ (motion_stale c)
  · exact fun c serverId drain entry => moved _ _ (motion_drained c serverId drain entry)
  · intro c r popped permitted _ taken
    obtain ⟨lifted, ticks⟩ := lifted_pop c.tick.tick popped r taken
    have same : Lifted c (popped.moveToInner r) r :=
      ⟨⟨lifted.popped, lifted.inner, lifted.draining, lifted.ids, lifted.temperatures, lifted.others, lifted.position⟩,
        lifted.remediator, lifted.cool, lifted.cold, lifted.readings⟩
    exact promoted c _ r permitted same ticks

theorem evict_linked (left : ∀ c r reason, r ∈ c.innerRing → link c (c.moveToOuter cfg r reason))
    (evicted : List (Ref × EvictionReason)) (c : Cluster) (queued : (evicted.map Prod.fst).Sublist c.innerRing) :
    (c :: evictTrail cfg evicted c).IsChain link := by
  induction evicted generalizing c with
  | nil => exact List.isChain_singleton c
  | cons entry rest ih =>
      obtain ⟨r, reason⟩ := entry
      have member : r ∈ c.innerRing := queued.subset (by simp)
      have others := sublist_evicted _ _ _ _ _ queued (evicted_move_to_outer cfg c r reason)
      exact List.isChain_cons_cons.mpr ⟨left c r reason member, ih _ others⟩

theorem unhealthy_linked (left : ∀ c r reason, r ∈ c.innerRing → link c (c.moveToOuter cfg r reason))
    (circuit : ∀ c r, link c (c.remediateOpenCircuit r)) (queue : List Ref) (c : Cluster) (queued : queue.Sublist c.innerRing) :
    (c :: unhealthyTrail cfg queue c).IsChain link := by
  induction queue generalizing c with
  | nil => exact List.isChain_singleton c
  | cons r rest ih =>
      have member : r ∈ c.innerRing := queued.subset (by simp)
      have evicted := left c r .healthFail member
      have others := sublist_evicted _ _ _ _ _ queued (evicted_move_to_outer cfg c r .healthFail)
      rw [unhealthyTrail]
      split
      · exact List.isChain_singleton c
      · simp only
        split
        · split
          · have remediated := circuit (c.moveToOuter cfg r .healthFail) r
            have kept : ((c.moveToOuter cfg r .healthFail).remediateOpenCircuit r).innerRing =
                (c.moveToOuter cfg r .healthFail).innerRing := (calm_remediate_circuit _ r).inner
            exact List.isChain_cons_cons.mpr ⟨evicted, List.isChain_cons_cons.mpr ⟨remediated, ih _ (by rwa [kept])⟩⟩
          · exact List.isChain_cons_cons.mpr ⟨evicted, ih _ others⟩
        · exact ih c (List.sublist_of_cons_sublist queued)

theorem drain_linked (drained : ∀ c serverId drain, c.drainingServers.get? serverId = some drain →
    link c (c.finishDrain serverId drain))
    (completed : List (String × Drain)) (c : Cluster) (distinct : (completed.map Prod.fst).Nodup)
    (present : ∀ entry ∈ completed, c.drainingServers.get? entry.1 = some entry.2) :
    (c :: drainTrail completed c).IsChain link := by
  induction completed generalizing c with
  | nil => exact List.isChain_singleton c
  | cons entry rest ih =>
      have here := present entry (by simp)
      have finished := drained_finish c entry.1 entry.2 here
      rw [List.map_cons, List.nodup_cons] at distinct
      refine List.isChain_cons_cons.mpr ⟨drained c entry.1 entry.2 here, ih _ distinct.2 ?_⟩
      intro other member
      have different : other.1 ≠ entry.1 := fun same => distinct.1 (List.mem_map.mpr ⟨other, member, same⟩)
      rw [finished.draining, Dict.get_erase, if_neg different]
      exact present other (List.mem_cons_of_mem entry member)

theorem check_linked (links : Links cfg link) (c : Cluster) : (c :: checkTrail cfg c).IsChain link := by
  unfold checkTrail
  split
  · exact List.isChain_singleton c
  · refine List.isChain_cons_cons.mpr ⟨links.ticked c, drain_linked link links.drained _ c.tick ?_ ?_⟩
    · exact c.drainingServers.nodup.sublist (List.filter_sublist.map Prod.fst)
    · intro entry member
      exact (Dict.get_mem _ _ _).mpr (List.mem_of_mem_filter member)

-- Three readings are taken on the way to a promotion: the dwell time, the cold
-- start and the move itself.
theorem promote_linked (links : Links cfg link) (fuel : Nat) (c : Cluster) : (c :: promoteTrail cfg fuel c).IsChain link := by
  induction fuel generalizing c with
  | zero => exact List.isChain_singleton c
  | succ fuel ih =>
      rw [promoteTrail]
      split
      · split
        · exact List.isChain_singleton c
        · rename_i coolest rest ring
          split
          · rename_i permitted
            split
            · exact List.isChain_singleton c
            · rename_i r popped taken
              have head : r = coolest := by
                have popped := (lifted_pop c.tick.tick popped r taken).1.popped
                rw [tick_outer, tick_outer, ring] at popped
                exact Heapq.heappop_head _ _ _ _ _ popped
              subst head
              have first : c.outerRing.head? = some r := by rw [ring, List.head?_cons]
              exact List.isChain_cons_cons.mpr ⟨links.promoted c r popped permitted first taken, ih _⟩
          · exact List.isChain_pair.mpr (links.waited c)
      · exact List.isChain_singleton c

theorem rotate_linked (links : Links cfg link) (c : Cluster) : (c :: rotateTrail cfg c).IsChain link := by
  have firstEnd : (evictTrail cfg (c.beginRotate.toEvict cfg c.adaptThresholds.now) c.beginRotate).getLastD c.beginRotate =
      c.rotateStep1 cfg := evict_trail_last cfg _ c.beginRotate
  unfold rotateTrail rotate
  generalize c.rotateStep1 cfg = first at *
  have secondEnd : (promoteTrail cfg first.outerRing.length first).getLastD first = first.rotateStep2 cfg :=
    promote_trail_last cfg _ first
  have second := promote_linked cfg link links first.outerRing.length first
  have thirdEnd : (unhealthyTrail cfg (first.rotateStep2 cfg).innerRing (first.rotateStep2 cfg)).getLastD (first.rotateStep2 cfg) =
      (first.rotateStep2 cfg).rotateStep3 cfg := unhealthy_trail_last cfg _ _
  have third := unhealthy_linked cfg link links.evicted links.circuit (first.rotateStep2 cfg).innerRing (first.rotateStep2 cfg) (.refl _)
  have stale := links.stale ((first.rotateStep2 cfg).rotateStep3 cfg)
  refine List.isChain_cons_cons.mpr ⟨links.begun c, ?_⟩
  apply History.linked_append
  · exact evict_linked cfg link links.evicted _ c.beginRotate (to_evict_sublist cfg c.beginRotate _)
  · rw [firstEnd]
    apply History.linked_append
    · exact second
    · rw [secondEnd]
      apply History.linked_append
      · exact third
      · rw [thirdEnd]
        exact List.isChain_pair.mpr stale

theorem refill_linked (pulled : ∀ c r popped, c.popOuter = some (r, popped) → link c (popped.moveToInner r)) (fuel : Nat)
    (c : Cluster) :
    (c :: pullTrail cfg fuel c).IsChain link := by
  induction fuel generalizing c with
  | zero => exact List.isChain_singleton c
  | succ fuel ih =>
      rw [pullTrail]
      split
      · split
        · exact List.isChain_singleton c
        · rename_i r popped taken
          exact List.isChain_cons_cons.mpr ⟨pulled c r popped taken, ih _⟩
      · exact List.isChain_singleton c

-- A relation that composes holds between the two ends of a trail.
section Composed

variable (refl : ∀ c, link c c) (trans : ∀ c d e, link c d → link d e → link c e)
include refl trans

theorem trail_related (c : Cluster) (op : Op) (linked : (c :: c.trail cfg op).IsChain link) : link c (step cfg c op) := by
  have ended := History.linked_last link link refl trans c _ linked
  rwa [trail_last] at ended

theorem rotate_related (links : Links cfg link) (c : Cluster) : link c (c.rotate cfg) :=
  trail_related cfg link refl trans c .rotate (rotate_linked cfg link links c)

theorem check_related (links : Links cfg link) (c : Cluster) : link c (c.checkDrainingServers cfg) :=
  trail_related cfg link refl trans c .checkDrainingServers (check_linked cfg link links c)

theorem refill_related (pulled : ∀ c r popped, c.popOuter = some (r, popped) → link c (popped.moveToInner r)) (fuel : Nat)
    (c : Cluster) : link c (c.pullFromOuter cfg fuel) := by
  have ended := History.linked_last link link refl trans c _ (refill_linked cfg link pulled fuel c)
  rwa [pull_trail_last] at ended

end Composed

-- The refill takes what so many pops take, whatever the servers are like.
theorem pull_linked (fits : Cluster → Ref → Prop)
    (pulled : ∀ a b r, fits a r → Lifted a b r → b.monotonic.ticks = a.monotonic.ticks + 1 → link a b)
    (kept : ∀ a b r x, Lifted a b r → b.monotonic.ticks = a.monotonic.ticks + 1 → fits a x → fits b x)
    (fuel : Nat) (c : Cluster)
    (all : ∀ x ∈ Heapq.pops c.temperatureOf (cfg.minInnerSize - c.innerRing.length) c.outerRing, fits c x) :
    (c :: pullTrail cfg fuel c).IsChain link := by
  induction fuel generalizing c with
  | zero => exact List.isChain_singleton c
  | succ fuel ih =>
      rw [pullTrail]
      split
      · rename_i short
        split
        · exact List.isChain_singleton c
        · rename_i r popped taken
          obtain ⟨lifted, ticks⟩ := lifted_pop c popped r taken
          obtain ⟨missing, more⟩ : ∃ missing, cfg.minInnerSize - c.innerRing.length = missing + 1 :=
            ⟨cfg.minInnerSize - c.innerRing.length - 1, by omega⟩
          have rest : cfg.minInnerSize - (popped.moveToInner r).innerRing.length = missing := by
            rw [lifted.inner, List.length_append, List.length_singleton]
            omega
          rw [more, Heapq.pops, lifted.popped, List.forall_mem_cons] at all
          refine List.isChain_cons_cons.mpr ⟨pulled c _ r all.1 lifted ticks, ih _ ?_⟩
          rw [rest, lifted.temperatures]
          exact fun x member => kept c _ r x lifted ticks (all.2 x member)
      · exact List.isChain_singleton c

end Linked

theorem trail_ids (cfg : Config) (c : Cluster) (op : Op) : (c :: c.trail cfg op).IsChain fun a b => b.idOf = a.idOf := by
  cases op with
  | addServer r forceInner => exact List.isChain_pair.mpr (added_add_server cfg c r forceInner).ids
  | removeServer serverId =>
      rw [trail, removeTrail]
      split
      · refine List.isChain_cons_cons.mpr ⟨rfl, ?_⟩
        exact refill_linked cfg _ (fun a r popped taken => (lifted_pop a popped r taken).1.ids) _ _
      · rename_i absent
        refine List.isChain_pair.mpr ?_
        rw [removeServer, if_neg absent]
        split <;> rfl
  | forceEvict serverId =>
      refine List.isChain_pair.mpr ?_
      rw [step, forceEvict]
      split
      · rfl
      · exact (evicted_move_to_outer cfg c _ .manual).ids
  | rotate => exact rotate_linked cfg _ (links_of_motion cfg _ motion_ids fun _ _ _ _ lifted _ => lifted.ids) c
  | checkDrainingServers => exact check_linked cfg _ (links_of_motion cfg _ motion_ids fun _ _ _ _ lifted _ => lifted.ids) c
  | _ => exact List.isChain_pair.mpr (still_step cfg c _ rfl).ids

theorem step_ids (cfg : Config) (c : Cluster) (op : Op) : (step cfg c op).idOf = c.idOf :=
  trail_related cfg (fun a b => b.idOf = a.idOf) (fun _ => rfl) (fun _ _ _ before after => Eq.trans after before) c op (trail_ids cfg c op)

end HuddleCluster.Ring
