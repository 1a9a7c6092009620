import HuddleCluster.Ring.PromotionGates

set_option autoImplicit false

namespace HuddleCluster.Ring

open Cluster

namespace Cluster

def IsHealing (c : Cluster) (serverId : String) : Prop := ∃ m ∈ c.remediator, m.states.get? serverId = some .healing

def HeldBack (c : Cluster) : Prop := ∀ m ∈ c.remediator, m.HeldBack

-- From now on nobody is cleared while an action runs.
def Uncleared (c : Cluster) (serverId : String) : Prop := ∀ m ∈ c.remediator, m.Uncleared serverId

-- Some action on the server ran while its quarantine was cleared.
def ClearedWhileTreated (c : Cluster) (serverId : String) : Prop :=
  ∃ m ∈ c.remediator, ∃ n < m.totalActions, serverId ∈ (m.reports serverId n).cleared

-- What the promotion loop asks of the head of the outer ring, but for the
-- quarantine.
structure Ready (cfg : Config) (c : Cluster) (r : Ref) : Prop where
  head : c.outerRing.head? = some r
  room : c.innerRing.length < cfg.maxInnerSize
  cooled : (c.objects r).temperature ≤ c.coolThreshold
  dwelt : cfg.minOuterDwellSec ≤ c.now - (c.objects r).lastRotated
  warm : (c.objects r).isColdStart c.tick.now = false

end Cluster

-- A link of a rotation, as it looks to a server in quarantine.
structure Held (a b : Cluster) : Prop where
  ids : b.idOf = a.idOf
  uncleared : ∀ serverId, a.Uncleared serverId → b.Uncleared serverId
  kept : ∀ serverId, a.Uncleared serverId → a.InQuarantine serverId → b.InQuarantine serverId
  outside : ∀ r, a.Uncleared (a.idOf r) → a.InQuarantine (a.idOf r) → b.innerRing.count r ≤ a.innerRing.count r

theorem held_refl (a : Cluster) : Held a a := ⟨rfl, fun _ quiet => quiet, fun _ _ held => held, fun _ _ _ => le_refl _⟩

theorem held_trans (a b c : Cluster) (before : Held a b) (after : Held b c) : Held a c := by
  refine ⟨after.ids.trans before.ids, fun serverId quiet => after.uncleared serverId (before.uncleared serverId quiet), ?_, ?_⟩
  · exact fun serverId quiet held => after.kept serverId (before.uncleared serverId quiet) (before.kept serverId quiet held)
  · intro r quiet held
    have still : b.InQuarantine (b.idOf r) := by
      rw [before.ids]
      exact before.kept _ quiet held
    have quietStill : b.Uncleared (b.idOf r) := by
      rw [before.ids]
      exact before.uncleared _ quiet
    exact (after.outside r quietStill still).trans (before.outside r quiet held)

theorem remediator_motion (a b : Cluster) (moved : Motion a b) (n : Remediator) (found : n ∈ b.remediator) :
    ∃ m ∈ a.remediator, n = m ∨ Remediator.Treated m n ∨ ∃ evicted, Remediator.Filed m n evicted := by
  have reported (evicted : String) (mapped : b.remediator = a.remediator.map fun m => m.afterEviction evicted) :
      ∃ m ∈ a.remediator, n = m ∨ Remediator.Treated m n ∨ ∃ evicted, Remediator.Filed m n evicted := by
    rw [mapped] at found
    obtain ⟨m, member, rfl⟩ := Option.mem_map.mp found
    exact ⟨m, member, Or.inr (Or.inr ⟨evicted, Remediator.filed_eviction m evicted⟩)⟩
  cases moved with
  | calm _ treated =>
      rw [Option.mem_def] at found
      rw [found] at treated
      generalize before : a.remediator = was at treated
      cases treated with
      | some treats => exact ⟨_, rfl, Or.inr (Or.inl treats)⟩
  | evicted r reason _ filed =>
      rcases filed with ⟨_, same⟩ | ⟨_, mapped⟩
      · exact ⟨n, same ▸ found, Or.inl rfl⟩
      · exact reported _ mapped
  | drained drainId drain _ mapped => exact reported _ mapped

theorem motion_present (a b : Cluster) (moved : Motion a b) (m : Remediator) (member : m ∈ a.remediator) : ∃ n, n ∈ b.remediator := by
  have mapped (evicted : String) (reported : b.remediator = a.remediator.map fun m => m.afterEviction evicted) :
    ∃ n, n ∈ b.remediator :=
    ⟨_, by rw [reported]; exact Option.mem_map_of_mem _ member⟩
  cases moved with
  | calm _ treated =>
      rw [Option.mem_def] at member
      rw [member] at treated
      generalize b.remediator = after at treated
      cases treated with
      | some treats => exact ⟨_, rfl⟩
  | evicted r reason _ filed =>
      rcases filed with ⟨_, same⟩ | ⟨_, reported⟩
      · exact ⟨m, same ▸ member⟩
      · exact mapped _ reported
  | drained drainId drain _ reported => exact mapped _ reported

theorem motion_uncleared (a b : Cluster) (moved : Motion a b) (serverId : String) (quiet : a.Uncleared serverId) :
    b.Uncleared serverId := by
  intro n found
  obtain ⟨m, member, rfl | treated | ⟨evicted, filed⟩⟩ := remediator_motion a b moved n found
  · exact quiet n member
  · exact Remediator.uncleared_later m n serverId treated.reports treated.total (quiet m member)
  · exact Remediator.uncleared_later m n serverId filed.reports filed.total (quiet m member)

theorem motion_quarantine (a b : Cluster) (moved : Motion a b) (serverId : String) (quiet : a.Uncleared serverId)
    (held : a.InQuarantine serverId) : b.InQuarantine serverId := by
  obtain ⟨m, member, quarantined⟩ := held
  obtain ⟨n, found⟩ := motion_present a b moved m member
  refine ⟨n, found, ?_⟩
  obtain ⟨before, same, rfl | treated | ⟨evicted, filed⟩⟩ := remediator_motion a b moved n found
  · cases Option.mem_unique member same
    exact quarantined
  · cases Option.mem_unique member same
    exact treated.grows serverId (quiet m member) quarantined
  · cases Option.mem_unique member same
    exact filed.grows serverId (quiet m member) quarantined

theorem motion_held (a b : Cluster) (moved : Motion a b) : Held a b :=
  ⟨motion_ids a b moved, motion_uncleared a b moved, motion_quarantine a b moved, fun r _ _ => motion_counts a b moved r⟩

theorem recovery_counts (m : Remediator) (serverId : String) :
    (m.recordRecovery serverId).reports = m.reports ∧ (m.recordRecovery serverId).totalActions = m.totalActions := by
  unfold Remediator.recordRecovery
  dsimp only
  split <;> exact ⟨rfl, rfl⟩

theorem lifted_uncleared (a b : Cluster) (r : Ref) (lifted : Lifted a b r) (serverId : String) (quiet : a.Uncleared serverId) :
    b.Uncleared serverId := by
  intro n found
  rw [lifted.remediator] at found
  split at found
  · obtain ⟨m, member, rfl⟩ := Option.mem_map.mp found
    obtain ⟨reports, total⟩ := recovery_counts m (a.idOf r)
    exact Remediator.uncleared_later m _ serverId reports total.ge (quiet m member)
  · exact quiet n found

-- The loop only promotes who is not in quarantine, so that the recovery it
-- records lifts none.
theorem promoted_held (cfg : Config) (a b : Cluster) (r : Ref) (permitted : a.promotable cfg r = true) (lifted : Lifted a b r) :
    Held a b := by
  have free := (promotable_gates cfg a r permitted).2
  refine ⟨lifted.ids, lifted_uncleared a b r lifted, ?_, ?_⟩
  · intro serverId _ held
    obtain ⟨m, found, quarantined⟩ := held
    have other : serverId ≠ a.idOf r := fun same => free (same ▸ ⟨m, found, quarantined⟩)
    rw [Option.mem_def] at found
    unfold InQuarantine
    rw [lifted.remediator, found]
    split
    · exact ⟨m.recordRecovery (a.idOf r), rfl, recovery_spares m _ serverId other quarantined⟩
    · exact ⟨m, rfl, quarantined⟩
  · intro x _ held
    by_contra enters
    obtain rfl := lifted_enters a b r x lifted (not_le.mp enters)
    exact free held

theorem rotate_held (cfg : Config) (c : Cluster) : Held c (c.rotate cfg) := by
  have links := links_of_motion cfg Held motion_held fun a b r permitted lifted _ => promoted_held cfg a b r permitted lifted
  exact rotate_related cfg Held held_refl held_trans links c

theorem rotations_held (cfg : Config) (n : Nat) (c : Cluster) : Held c ((fun state : Cluster => state.rotate cfg)^[n] c) := by
  induction n generalizing c with
  | zero => exact held_refl c
  | succ n ih => exact held_trans c (c.rotate cfg) _ (rotate_held cfg c) (ih (c.rotate cfg))

theorem recovery_held_back (m : Remediator) (serverId : String) (held : m.HeldBack) : (m.recordRecovery serverId).HeldBack := by
  have released (after : Remediator) (states : after.states = m.states.set serverId .recovered)
      (quarantined : ∀ query, after.isQuarantined query = true ↔ m.isQuarantined query = true ∧ query ≠ serverId)
      (reports : after.reports = m.reports) (total : after.totalActions = m.totalActions) : after.HeldBack :=
    Remediator.held_back_set m after serverId .recovered (by decide) states reports total.ge
      (fun query apart quarantine => (quarantined query).mpr ⟨quarantine, apart⟩) held
  unfold Remediator.recordRecovery
  dsimp only
  split
  · exact released _ rfl (fun query => Remediator.quarantined_discard _ serverId query) rfl rfl
  · exact released _ rfl (fun query => Remediator.quarantined_discard _ serverId query) rfl rfl
  · exact Remediator.held_back_same m _ rfl rfl rfl (le_refl _) held

theorem lifted_held_back (a b : Cluster) (r : Ref) (lifted : Lifted a b r) (held : a.HeldBack) : b.HeldBack := by
  intro n found
  rw [lifted.remediator] at found
  split at found
  · obtain ⟨m, member, rfl⟩ := Option.mem_map.mp found
    exact recovery_held_back m _ (held m member)
  · exact held n found

theorem motion_held_back (a b : Cluster) (moved : Motion a b) (held : a.HeldBack) : b.HeldBack := by
  intro n found
  obtain ⟨m, member, rfl | treated | ⟨evicted, filed⟩⟩ := remediator_motion a b moved n found
  · exact held n member
  · exact treated.held (held m member)
  · exact filed.held (held m member)

theorem same_held_back (a b : Cluster) (same : b.remediator = a.remediator) (held : a.HeldBack) : b.HeldBack :=
  fun m found => held m (same ▸ found)

theorem clear_held_back (c : Cluster) (serverId : String) (held : c.HeldBack) : (c.clearRemediationQuarantine serverId).HeldBack := by
  intro n found
  obtain ⟨m, member, rfl⟩ := Option.mem_map.mp found
  exact Remediator.held_back_set m _ serverId .healthy (by decide) rfl rfl (le_refl _)
    (fun query apart quarantine => (Remediator.quarantined_discard m serverId query).mpr ⟨quarantine, apart⟩) (held m member)

theorem trail_held_back (cfg : Config) (c : Cluster) (op : Op) :
    (c :: c.trail cfg op).IsChain fun a b => a.HeldBack → b.HeldBack := by
  cases op with
  | addServer r forceInner =>
      refine List.isChain_pair.mpr (same_held_back c _ ?_)
      rw [step, addServer]
      simp only
      split
      · rfl
      · split <;> rfl
  | removeServer serverId =>
      rw [trail, removeTrail]
      split
      · refine List.isChain_cons_cons.mpr ⟨same_held_back c _ rfl, ?_⟩
        exact refill_linked cfg _ (fun a r popped taken => lifted_held_back a _ r (lifted_pop a popped r taken).1) _ _
      · rename_i absent
        refine List.isChain_pair.mpr (same_held_back c _ ?_)
        rw [removeServer, if_neg absent]
        split <;> rfl
  | forceEvict serverId =>
      refine List.isChain_pair.mpr ?_
      rw [step, forceEvict]
      split
      · exact fun held => held
      · exact motion_held_back _ _ (motion_evicted cfg c _ .manual)
  | rotate => exact rotate_linked cfg _ (links_of_motion cfg _ motion_held_back fun a b r _ lifted _ => lifted_held_back a b r lifted) c
  | checkDrainingServers =>
      exact check_linked cfg _ (links_of_motion cfg _ motion_held_back fun a b r _ lifted _ => lifted_held_back a b r lifted) c
  | triggerRemediation serverId policy =>
      have treated : Motion c (c.triggerRemediation serverId policy) :=
        .calm ⟨.refl _, rfl, rfl, rfl, fun _ => rfl⟩
          (treated_map c _ _ (fun m => Remediator.treated_trigger m serverId policy) rfl) rfl
      exact List.isChain_pair.mpr (motion_held_back c _ treated)
  | clearRemediationQuarantine serverId => exact List.isChain_pair.mpr (clear_held_back c serverId)
  | _ => exact List.isChain_pair.mpr (same_held_back c _ (backdrop_step cfg c _ rfl rfl).remediator)

theorem step_held_back (cfg : Config) (c : Cluster) (op : Op) (held : c.HeldBack) : (step cfg c op).HeldBack :=
  trail_related cfg (fun a b => a.HeldBack → b.HeldBack) (fun _ held => held) (fun _ _ _ before after held => after (before held))
    c op (trail_held_back cfg c op) held

theorem trigger_only (m : Remediator) (serverId query : String) (policy : RemediationPolicy)
    (held : (m.triggerRemediation serverId policy).1.isQuarantined query = true) :
    m.isQuarantined query = true ∨ query = serverId := by
  by_cases active : (m.enabled && policy.enabled) = true
  · by_cases room : (m.checkHourlyRateLimit serverId (m.effectiveRetries policy)).2 = true
    · set checked := (m.checkHourlyRateLimit serverId (m.effectiveRetries policy)).1 with checkedDef
      have begun (list : List String) (waited : ((checked.quarantine serverId).clearAll list).isQuarantined query = true) :
          m.isQuarantined query = true ∨ query = serverId :=
        (Remediator.quarantine_grows checked serverId query).mp (((Remediator.clear_all_spec _ list).2.2.2.1 query).mp waited).1
      simp only [Remediator.triggerRemediation, Remediator.beginRemediation, active, room, if_true, ← checkedDef] at held
      split at held
      · exact begun _ held
      · rename_i success _
        cases success <;> exact begun _ held
    · simp only [Remediator.triggerRemediation, Remediator.beginRemediation, active, room, if_true, Bool.false_eq_true, if_false] at held
      exact Or.inl held
  · simp only [Remediator.triggerRemediation, Remediator.beginRemediation, active, Bool.false_eq_true, if_false] at held
    exact Or.inl held

theorem eviction_only (m : Remediator) (serverId query : String)
    (held : (m.afterEviction serverId).isQuarantined query = true) : m.isQuarantined query = true ∨ query = serverId := by
  have recorded : (m.recordEviction serverId).1.isQuarantined query = m.isQuarantined query := by
    unfold Remediator.recordEviction
    split <;> rfl
  unfold Remediator.afterEviction at held
  split at held <;> rename_i equal
  · rw [equal] at recorded
    exact Or.inl (recorded ▸ held)
  · rw [equal] at recorded
    exact (trigger_only _ serverId query _ held).imp_left fun before => recorded ▸ before

theorem evicted_only (cfg : Config) (c : Cluster) (r : Ref) (reason : EvictionReason) (serverId : String)
    (other : serverId ≠ c.idOf r) (held : (c.moveToOuter cfg r reason).InQuarantine serverId) : c.InQuarantine serverId := by
  have completed := (complete_eviction_backdrop (c.leaveInner r reason) r).1
  rw [leave_inner_ids] at completed
  unfold moveToOuter at held
  simp only at held
  split at held
  · exact held
  · obtain ⟨m, found, quarantined⟩ := held
    rw [completed] at found
    obtain ⟨before, member, rfl⟩ := Option.mem_map.mp found
    exact ⟨before, member, (eviction_only before _ serverId quarantined).resolve_right other⟩

theorem evict_all_only (cfg : Config) (evicted : List (Ref × EvictionReason)) (c : Cluster) (serverId : String)
    (others : ∀ entry ∈ evicted, serverId ≠ c.idOf entry.1) (held : (c.evictAll cfg evicted).InQuarantine serverId) :
    c.InQuarantine serverId := by
  induction evicted generalizing c with
  | nil => exact held
  | cons entry rest ih =>
      rw [List.forall_mem_cons] at others
      have ids := (evicted_move_to_outer cfg c entry.1 entry.2).ids
      exact evicted_only cfg c entry.1 entry.2 serverId others.1 (ih _ (by simpa only [ids] using others.2) held)

theorem begin_rotate_backdrop (c : Cluster) : c.beginRotate.remediator = c.remediator ∧ c.beginRotate.idOf = c.idOf :=
  ⟨(frame_begin_rotate backdrop_frame.toTuning.onward c).remediator, (quiet_begin_rotate c).ids⟩

theorem ready_promotable (cfg : Config) (c : Cluster) (r : Ref) (ready : c.Ready cfg r) (free : ¬ c.InQuarantine (c.idOf r)) :
    c.promotable cfg r = true := by
  have dwelt : ¬ c.now - (c.objects r).lastRotated < cfg.minOuterDwellSec := not_lt.mpr ready.dwelt
  have cooled : (c.objects r).isCooled c.coolThreshold = true := decide_eq_true ready.cooled
  simp only [promotable, ready.warm, decide_eq_false dwelt, cooled, Bool.not_false, Bool.true_and, Bool.and_true]
  cases found : c.remediator with
  | none => rfl
  | some m =>
      cases held : m.isQuarantined (c.objects r).id with
      | false => simp only [held, Bool.not_false]
      | true => exact absurd ⟨m, found, held⟩ free

theorem ready_promoted (cfg : Config) (c : Cluster) (r : Ref) (ready : c.Ready cfg r) (free : ¬ c.InQuarantine (c.idOf r)) :
    Enters c (c.rotateStep2 cfg) r := by
  have permitted := ready_promotable cfg c r ready free
  obtain ⟨rest, ring⟩ : ∃ rest, c.outerRing = r :: rest := by
    obtain ⟨rest, ring⟩ := List.head?_eq_some_iff.mp ready.head
    exact ⟨rest, ring⟩
  obtain ⟨left, popped⟩ := Heapq.heappop_cons c.temperatureOf r rest
  have taken : c.tick.tick.popOuter = some (r, { c.tick.tick with outerRing := left }) := by
    rw [popOuter, tick_outer, tick_outer, ring]
    exact congrArg (Option.map fun popped : Ref × List Ref => (popped.1, { c.tick.tick with outerRing := popped.2 })) popped
  have lifted := (lifted_pop c.tick.tick _ r taken).1
  rw [rotateStep2, ring, List.length_cons, promoteCooled, if_pos ready.room]
  simp only [ring, permitted, if_true, taken]
  have grown := (promote_grows cfg rest.length (moveToInner { c.tick.tick with outerRing := left } r)).sublist.count_le r
  rw [lifted.inner, List.count_append, List.count_singleton_self] at grown
  exact grown

theorem rotate_step1_ids (cfg : Config) (c : Cluster) : (c.rotateStep1 cfg).idOf = c.beginRotate.idOf := by
  have linked := evict_linked cfg Held (fun d r reason _ => motion_held _ _ (motion_evicted cfg d r reason))
    (c.beginRotate.toEvict cfg c.adaptThresholds.now) c.beginRotate (to_evict_sublist cfg c.beginRotate _)
  have held := History.linked_last Held Held held_refl held_trans _ _ linked
  rw [evict_trail_last] at held
  exact held.ids

theorem cleared_free (cfg : Config) (c : Cluster) (r : Ref)
    (others : ∀ entry ∈ c.beginRotate.toEvict cfg c.adaptThresholds.now, c.idOf entry.1 ≠ c.idOf r)
    (free : ¬ c.InQuarantine (c.idOf r)) : ¬ (c.rotateStep1 cfg).InQuarantine (c.idOf r) := by
  obtain ⟨remediator, ids⟩ := begin_rotate_backdrop c
  intro held
  have begun := evict_all_only cfg _ c.beginRotate (c.idOf r)
    (fun entry member => by rw [ids]; exact (others entry member).symm) held
  rw [InQuarantine, remediator] at begun
  exact free begun

theorem clear_frees (c : Cluster) (serverId : String) : ¬ (c.clearRemediationQuarantine serverId).InQuarantine serverId := by
  rintro ⟨m, found, listed⟩
  obtain ⟨before, _, rfl⟩ := Option.mem_map.mp found
  exact ((Remediator.quarantined_discard before _ _).mp listed).2 rfl

theorem free_promoted (cfg : Config) (c : Cluster) (r : Ref) (free : ¬ c.InQuarantine (c.idOf r))
    (others : ∀ entry ∈ c.beginRotate.toEvict cfg c.adaptThresholds.now, c.idOf entry.1 ≠ c.idOf r)
    (ready : (c.rotateStep1 cfg).Ready cfg r) : Enters (c.rotateStep1 cfg) ((c.rotateStep1 cfg).rotateStep2 cfg) r := by
  have ids : (c.rotateStep1 cfg).idOf = c.idOf := (rotate_step1_ids cfg c).trans (begin_rotate_backdrop c).2
  have stepFree := cleared_free cfg c r others free
  rw [← ids] at stepFree
  exact ready_promoted cfg _ r ready stepFree

def healingRun : List Op := [.addServer 0 true, .addServer 1 true, .forceEvict "0", .triggerRemediation "0" manualPolicy]

theorem remediated_idle : ∀ m ∈ remediatedCluster.remediator, m.states = .empty := by
  intro m found
  cases found
  rfl

-- As before, but an operator clears the server while the action runs.
def clearedCluster : Cluster :=
  { remediatedCluster with
    remediator := remediatedCluster.remediator.map fun m => { m with reports := fun _ _ => ⟨.returned true, ["0"]⟩ } }

theorem cleared_idle : ∀ m ∈ clearedCluster.remediator, m.states = .empty := by
  intro m found
  cases found
  rfl

end HuddleCluster.Ring
