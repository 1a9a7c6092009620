import HuddleCluster.Ring.Registration
import HuddleCluster.Ring.Stamps

set_option autoImplicit false

namespace HuddleCluster.Ring

-- Since when a server has had its position, and the lengths of the stays that
-- are over, in each ring.
structure Stay where
  since : ℚ
  inner : ℚ
  outer : ℚ

-- The cluster with a book of the stays of every server that was added.
structure Booked where
  cluster : Cluster
  book : Ref → Option Stay

-- The moment of a call is when add_server assigns the first position.
structure TimedCall where
  op : Op
  moment : ℚ

namespace Cluster

def lastReading (c : Cluster) : ℚ := c.monotonic.reading (c.monotonic.ticks - 1)

-- An eviction begins with a reading, and takes another one when no drain delays
-- the outer ring: a stay in the inner ring ends with the first of them.
def note (c d : Cluster) (r : Ref) (stay : Stay) : Stay :=
  if (d.objects r).position = (c.objects r).position then stay
  else
    match (c.objects r).position with
    | .inner => ⟨d.lastReading, stay.inner + (c.now - stay.since), stay.outer⟩
    | .outer => ⟨d.lastReading, stay.inner, stay.outer + (d.lastReading - stay.since)⟩
    | .draining => ⟨d.lastReading, stay.inner, stay.outer⟩

end Cluster

namespace Booked

def visit (s : Booked) (d : Cluster) : Booked := ⟨d, fun r => (s.book r).map (s.cluster.note d r)⟩

def scan : Booked → List Cluster → List Booked
  | _, [] => []
  | s, d :: rest => s.visit d :: scan (s.visit d) rest

def trail (cfg : Config) (s : Booked) (call : TimedCall) : List Booked :=
  match call.op with
  | .addServer r _ => [⟨step cfg s.cluster call.op, Function.update s.book r (some ⟨call.moment, 0, 0⟩)⟩]
  | op => s.scan (s.cluster.trail cfg op)

def Exact (s : Booked) (r : Ref) : Prop :=
  ∀ stay ∈ s.book r, (s.cluster.objects r).totalInnerTime = stay.inner ∧ (s.cluster.objects r).totalOuterTime = stay.outer

def Accounted (s : Booked) : Prop := ∀ r, s.Exact r

-- The stamp of the server is the start of its present stay.
def Punctual (s : Booked) (r : Ref) : Prop := ∀ stay ∈ s.book r, (s.cluster.objects r).lastRotated = stay.since

instance (s : Booked) (r : Ref) : Decidable (s.Punctual r) :=
  inferInstanceAs (Decidable (∀ stay ∈ s.book r, (s.cluster.objects r).lastRotated = stay.since))

-- A new server has an id of its own and no time on its account, and the
-- operation moves no server whose stamp is not the start of its stay.
structure Timely (cfg : Config) (s : History Booked) (call : TimedCall) : Prop where
  unloaded : call.op.loads = false
  fresh : ∀ r ∈ call.op.added, ∀ x ∈ s.current.cluster.allServers, s.current.cluster.idOf x ≠ s.current.cluster.idOf r
  unused : ∀ r ∈ call.op.added, (s.current.cluster.objects r).totalInnerTime = 0 ∧ (s.current.cluster.objects r).totalOuterTime = 0
  stamped : ∀ r ∈ s.current.cluster.allServers, s.current.Punctual r ∨
    ∀ d ∈ s.current.cluster.trail cfg call.op, (d.objects r).position = (s.current.cluster.objects r).position

instance (cfg : Config) (s : History Booked) (call : TimedCall) : Decidable (Timely cfg s call) :=
  decidable_of_iff (call.op.loads = false ∧
      (∀ r ∈ call.op.added, ∀ x ∈ s.current.cluster.allServers, s.current.cluster.idOf x ≠ s.current.cluster.idOf r) ∧
      (∀ r ∈ call.op.added, (s.current.cluster.objects r).totalInnerTime = 0 ∧ (s.current.cluster.objects r).totalOuterTime = 0) ∧
      ∀ r ∈ s.current.cluster.allServers, s.current.Punctual r ∨
        ∀ d ∈ s.current.cluster.trail cfg call.op, (d.objects r).position = (s.current.cluster.objects r).position)
    ⟨fun held => ⟨held.1, held.2.1, held.2.2.1, held.2.2.2⟩, fun held => ⟨held.unloaded, held.fresh, held.unused, held.stamped⟩⟩

abbrev BookedRun (cfg : Config) := Runs.Run (History.next (trail cfg)) (Timely cfg)

end Booked

inductive Shift (c d : Cluster) (r : Ref) : Prop where
  | still (same : Stamped (c.objects r) (d.objects r))
  | left (known : r ∈ c.allServers) (before : (c.objects r).position = .inner) (after : (d.objects r).position ≠ .inner)
      (inner : (d.objects r).totalInnerTime = (c.objects r).totalInnerTime + (c.now - (c.objects r).lastRotated))
      (outer : (d.objects r).totalOuterTime = (c.objects r).totalOuterTime) (stamp : (d.objects r).lastRotated = d.lastReading)
  | arrived (known : r ∈ c.allServers) (before : (c.objects r).position = .draining) (after : (d.objects r).position = .outer)
      (inner : (d.objects r).totalInnerTime = (c.objects r).totalInnerTime)
      (outer : (d.objects r).totalOuterTime = (c.objects r).totalOuterTime) (stamp : (d.objects r).lastRotated = d.lastReading)
  | lifted (known : r ∈ c.allServers) (before : (c.objects r).position = .outer) (after : (d.objects r).position = .inner)
      (inner : (d.objects r).totalInnerTime = (c.objects r).totalInnerTime)
      (outer : (d.objects r).totalOuterTime = (c.objects r).totalOuterTime + (d.lastReading - (c.objects r).lastRotated))
      (stamp : (d.objects r).lastRotated = d.lastReading)

structure Carried (c d : Cluster) : Prop where
  partitioned : Partitioned d
  known : d.allServers ⊆ c.allServers
  shifts : ∀ r, Shift c d r

def Carries (c d : Cluster) : Prop := Partitioned c → Carried c d

theorem carries_still (c d : Cluster) (same : Still c d) (stamps : StampsKept c d) : Carries c d := by
  intro partitioned
  obtain ⟨kept, perm⟩ := still_partitioned c d partitioned same
  exact ⟨kept, perm.subset, fun r => .still (stamps r)⟩

theorem leave_inner_objects (c : Cluster) (r : Ref) (reason : EvictionReason) (x : Ref) :
    (c.leaveInner r reason).objects x = if x = r then Cluster.markEvicted c.now reason (c.objects r) else c.objects x :=
  Cluster.modify_objects c.tick r x (Cluster.markEvicted c.now reason)

theorem evicted_shift (cfg : Config) (c : Cluster) (r : Ref) (reason : EvictionReason) (partitioned : Partitioned c)
    (member : r ∈ c.innerRing) (x : Ref) : Shift c (c.moveToOuter cfg r reason) x := by
  have known : r ∈ c.allServers := by simp [Cluster.allServers, member]
  have before := partitioned.inner r member
  have marked := leave_inner_objects c r reason
  unfold Cluster.moveToOuter
  simp only
  by_cases here : x = r
  · subst here
    have own := marked x
    rw [if_pos rfl] at own
    split
    · have drained : ((c.leaveInner x reason).startDrain x c.now reason).objects x =
          { Cluster.markEvicted c.now reason (c.objects x) with position := .draining } := by
        rw [← own]
        exact Function.update_self _ _ _
      exact .left known before (by simp [drained]) (by rw [drained]; rfl) (by rw [drained]; rfl) (by rw [drained]; rfl)
    · have completed := complete_eviction_objects (c.leaveInner x reason) x x
      rw [if_pos rfl, own] at completed
      have clock := complete_eviction_clock (c.leaveInner x reason) x
      refine .left known before (by simp [completed]) (by rw [completed]; rfl) (by rw [completed]; rfl) ?_
      rw [completed, Cluster.lastReading, clock]
      rfl
  · have other := marked x
    rw [if_neg here] at other
    have same : (if (c.leaveInner r reason).mustDrain cfg r = true then (c.leaveInner r reason).startDrain r c.now reason
        else (c.leaveInner r reason).completeEviction r).objects x = c.objects x := by
      split
      · exact (Function.update_of_ne here _ _).trans other
      · rw [complete_eviction_objects, if_neg here, other]
    exact .still (same ▸ stamped_refl (c.objects x))

theorem carries_evicted (cfg : Config) (c : Cluster) (r : Ref) (reason : EvictionReason) (member : r ∈ c.innerRing) :
    Carries c (c.moveToOuter cfg r reason) := by
  intro partitioned
  obtain ⟨kept, perm⟩ := evicted_partitioned c _ r reason partitioned member (evicted_move_to_outer cfg c r reason)
  exact ⟨kept, perm.subset, evicted_shift cfg c r reason partitioned member⟩

theorem carries_drained (c : Cluster) (serverId : String) (drain : Drain) (entry : c.drainingServers.get? serverId = some drain) :
    Carries c (c.finishDrain serverId drain) := by
  intro partitioned
  obtain ⟨kept, perm⟩ := drained_partitioned c _ serverId drain partitioned (drained_finish c serverId drain entry)
  have member : drain.server ∈ c.drainingRefs := List.mem_map.mpr
    ⟨drain, List.mem_map.mpr ⟨(serverId, drain), (Dict.get_mem _ _ _).mp entry, rfl⟩, rfl⟩
  refine ⟨kept, perm.subset, fun x => ?_⟩
  have completed := complete_eviction_objects { c with drainingServers := c.drainingServers.erase serverId } drain.server x
  have clock := complete_eviction_clock { c with drainingServers := c.drainingServers.erase serverId } drain.server
  unfold Cluster.finishDrain
  by_cases here : x = drain.server
  · rw [if_pos here] at completed
    subst here
    refine .arrived (by simp [Cluster.allServers, member]) (partitioned.draining _ member) (by rw [completed]) (by rw [completed])
      (by rw [completed]) ?_
    rw [completed, Cluster.lastReading, clock]
    rfl
  · rw [if_neg here] at completed
    exact .still (completed ▸ stamped_refl (c.objects x))

-- The recovery of a server that has cooled down leaves its times alone.
theorem recovery_stamps (c : Cluster) (r : Ref) : StampsKept c (c.recordRecovery r) ∧ (c.recordRecovery r).monotonic = c.monotonic := by
  unfold Cluster.recordRecovery
  split
  · refine ⟨?_, rfl⟩
    exact stamps_modify c r (fun s => { s with consecutiveEvictions := 0 }) fun _ => ⟨rfl, rfl, rfl, rfl⟩
  · exact ⟨stamps_same c c rfl, rfl⟩

theorem carries_promoted (c waited popped : Cluster) (r : Ref) (objects : waited.objects = c.objects)
    (rings : Still c waited) (taken : waited.popOuter = some (r, popped)) : Carries c (popped.moveToInner r) := by
  intro partitioned
  obtain ⟨before, sameServers⟩ := still_partitioned c waited partitioned rings
  have promoted := promoted_pop_outer waited popped r taken
  obtain ⟨kept, perm⟩ := promoted_partitioned waited _ r before promoted
  have member : r ∈ waited.outerRing := (Heapq.heappop_perm _ _ _ _ promoted.popped).mem_iff.mpr List.mem_cons_self
  have position : (c.objects r).position = .outer := objects ▸ before.outer r member
  have known : r ∈ c.allServers := sameServers.subset (by simp [Cluster.allServers, member])
  obtain ⟨recovered, clock⟩ := recovery_stamps (popped.tick.modify r (Cluster.markPromoted popped.now)) r
  have poppedObjects : popped.objects = c.objects := by
    simp only [Cluster.popOuter, Option.map_eq_some_iff, Prod.mk.injEq] at taken
    obtain ⟨_, _, _, rfl⟩ := taken
    exact objects
  refine ⟨kept, (perm.trans sameServers).subset, fun x => ?_⟩
  have own := recovered x
  have marked : (popped.tick.modify r (Cluster.markPromoted popped.now)).objects x =
      if x = r then Cluster.markPromoted popped.now (c.objects r) else c.objects x := by
    rw [← poppedObjects]
    exact Cluster.modify_objects popped.tick r x (Cluster.markPromoted popped.now)
  rw [marked] at own
  by_cases here : x = r
  · subst here
    rw [if_pos rfl] at own
    have reading : (popped.moveToInner x).lastReading = popped.now := by
      unfold Cluster.lastReading Cluster.moveToInner
      simp only
      rw [clock]
      rfl
    exact .lifted known position own.position own.totalInnerTime (reading ▸ own.totalOuterTime) (reading ▸ own.lastRotated)
  · rw [if_neg here] at own
    exact .still own

theorem carries_links (cfg : Config) : Links cfg Carries where
  begun := fun c => carries_still c _ (still_of_quiet _ _ (quiet_begin_rotate c)) (stamps_begin_rotate c)
  ticked := fun c => carries_still c _ ⟨.refl _, rfl, rfl, rfl, fun _ => rfl⟩ (stamps_same c _ rfl)
  waited := fun c => carries_still c _ ⟨.refl _, rfl, rfl, rfl, fun _ => rfl⟩ (stamps_same c _ rfl)
  evicted := carries_evicted cfg
  circuit := fun c r =>
    carries_still c _ (still_of_quiet _ _ (calm_remediate_circuit c r).toQuiet) (stamps_same c _ (remediate_circuit_objects c r))
  stale := fun c => carries_still c _ (still_of_quiet _ _ (calm_remediate_stale c).toQuiet) (stamps_same c _ (remediate_stale_objects c))
  drained := carries_drained
  promoted := fun c r popped _ _ taken =>
    carries_promoted c c.tick.tick popped r rfl ⟨.refl _, rfl, rfl, rfl, fun _ => rfl⟩ taken

theorem removal_carries (cfg : Config) (c : Cluster) (serverId : String) : (c :: c.removeTrail cfg serverId).IsChain Carries := by
  unfold Cluster.removeTrail
  split
  · rename_i present
    refine List.isChain_cons_cons.mpr ⟨fun partitioned => ?_, ?_⟩
    · obtain ⟨_, _, kept, dropped⟩ := inner_erased c serverId partitioned present
      exact ⟨kept, fun _ member => dropped.symm.subset (List.mem_cons_of_mem _ member), fun _ => .still (stamped_refl _)⟩
    · refine refill_linked cfg Carries ?_ _ _
      exact fun d r popped taken => carries_promoted d d popped r rfl (still_refl d) taken
  · rename_i absent
    refine List.isChain_pair.mpr fun partitioned => ?_
    unfold Cluster.removeServer
    rw [if_neg absent]
    split
    · rename_i present
      obtain ⟨_, _, kept, dropped⟩ := outer_erased c serverId partitioned present
      exact ⟨kept, fun _ member => dropped.symm.subset (List.mem_cons_of_mem _ member), fun _ => .still (stamped_refl _)⟩
    · exact ⟨partitioned, fun _ member => member, fun _ => .still (stamped_refl _)⟩

theorem trail_carries (cfg : Config) (c : Cluster) (op : Op) (settled : op.added = none) (unloaded : op.loads = false) :
    (c :: c.trail cfg op).IsChain Carries := by
  cases op with
  | addServer r forceInner => cases settled
  | removeServer serverId => exact removal_carries cfg c serverId
  | forceEvict serverId =>
      refine List.isChain_pair.mpr ?_
      rw [step, Cluster.forceEvict]
      split
      · exact carries_still c c (still_refl c) (stamps_same c c rfl)
      · rename_i r found
        exact carries_evicted cfg c r .manual (List.mem_of_find?_eq_some found)
  | rotate => exact rotate_linked cfg Carries (carries_links cfg) c
  | checkDrainingServers => exact check_linked cfg Carries (carries_links cfg) c
  | _ => exact List.isChain_pair.mpr (carries_still c _ (still_step cfg c _ rfl) (stamps_step cfg c _ rfl unloaded))

open Booked

theorem visit_book (s : Booked) (d : Cluster) (r : Ref) (stay : Stay) (entered : stay ∈ (s.visit d).book r) :
    ∃ earlier ∈ s.book r, s.cluster.note d r earlier = stay := by
  simpa only [visit, Option.mem_def, Option.map_eq_some_iff] using entered

theorem note_still (c d : Cluster) (r : Ref) (stay : Stay) (same : (d.objects r).position = (c.objects r).position) :
    c.note d r stay = stay := if_pos same

theorem note_left (c d : Cluster) (r : Ref) (stay : Stay) (before : (c.objects r).position = .inner)
    (after : (d.objects r).position ≠ .inner) :
    c.note d r stay = ⟨d.lastReading, stay.inner + (c.now - stay.since), stay.outer⟩ := by
  rw [Cluster.note, before, if_neg after]

theorem note_arrived (c d : Cluster) (r : Ref) (stay : Stay) (before : (c.objects r).position = .draining)
    (after : (d.objects r).position = .outer) : c.note d r stay = ⟨d.lastReading, stay.inner, stay.outer⟩ := by
  rw [Cluster.note, before, after, if_neg (by decide)]

theorem note_lifted (c d : Cluster) (r : Ref) (stay : Stay) (before : (c.objects r).position = .outer)
    (after : (d.objects r).position = .inner) :
    c.note d r stay = ⟨d.lastReading, stay.inner, stay.outer + (d.lastReading - stay.since)⟩ := by
  rw [Cluster.note, before, after, if_neg (by decide)]

theorem shift_punctual (s : Booked) (d : Cluster) (r : Ref) (shift : Shift s.cluster d r) (punctual : s.Punctual r) :
    (s.visit d).Punctual r := by
  intro stay entered
  obtain ⟨earlier, kept, rfl⟩ := visit_book s d r stay entered
  cases shift with
  | still same => rw [note_still _ _ _ _ same.position, ← punctual earlier kept]; exact same.lastRotated
  | left _ before after _ _ stamp => rw [note_left _ _ _ _ before after]; exact stamp
  | arrived _ before after _ _ stamp => rw [note_arrived _ _ _ _ before after]; exact stamp
  | lifted _ before after _ _ stamp => rw [note_lifted _ _ _ _ before after]; exact stamp

-- The stay that ends is measured from the stamp, so it has to be the start.
theorem shift_exact (s : Booked) (d : Cluster) (r : Ref) (shift : Shift s.cluster d r) (exact : s.Exact r)
    (stamped : r ∈ s.cluster.allServers → s.Punctual r ∨ (d.objects r).position = (s.cluster.objects r).position) :
    (s.visit d).Exact r := by
  intro stay entered
  obtain ⟨earlier, kept, rfl⟩ := visit_book s d r stay entered
  obtain ⟨inner, outer⟩ := exact earlier kept
  cases shift with
  | still same =>
      rw [note_still _ _ _ _ same.position, ← inner, ← outer]
      exact ⟨same.totalInnerTime, same.totalOuterTime⟩
  | left known before after gained unchanged =>
      rcases stamped known with punctual | stuck
      · rw [note_left _ _ _ _ before after, ← inner, ← outer, ← punctual earlier kept]
        exact ⟨gained, unchanged⟩
      · exact absurd (stuck.trans before) after
  | arrived _ before after unchanged same =>
      rw [note_arrived _ _ _ _ before after, ← inner, ← outer]
      exact ⟨unchanged, same⟩
  | lifted known before after unchanged gained =>
      rcases stamped known with punctual | stuck
      · rw [note_lifted _ _ _ _ before after, ← inner, ← outer, ← punctual earlier kept]
        exact ⟨unchanged, gained⟩
      · rw [after, before] at stuck
        cases stuck

inductive Entry (s t : Booked) : Prop where
  | moved (carried : Carried s.cluster t.cluster) (noted : t = s.visit t.cluster)
      (stamped : ∀ r ∈ s.cluster.allServers, s.Punctual r ∨ (t.cluster.objects r).position = (s.cluster.objects r).position)
  | added (r : Ref) (moment : ℚ) (partitioned : Partitioned t.cluster)
      (totals : ∀ x, (t.cluster.objects x).totalInnerTime = (s.cluster.objects x).totalInnerTime ∧
        (t.cluster.objects x).totalOuterTime = (s.cluster.objects x).totalOuterTime)
      (unused : (s.cluster.objects r).totalInnerTime = 0 ∧ (s.cluster.objects r).totalOuterTime = 0)
      (noted : t.book = Function.update s.book r (some ⟨moment, 0, 0⟩))

theorem entry_accounted (s t : Booked) (accounted : s.Accounted) (entry : Entry s t) : Partitioned t.cluster ∧ t.Accounted := by
  cases entry with
  | moved carried noted stamped =>
      refine ⟨carried.partitioned, fun r => ?_⟩
      rw [noted]
      exact shift_exact s t.cluster r (carried.shifts r) (accounted r) (stamped r)
  | added r moment partitioned totals unused noted =>
      refine ⟨partitioned, fun x stay entered => ?_⟩
      rw [(totals x).1, (totals x).2]
      by_cases here : x = r
      · subst here
        rw [noted, Function.update_self, Option.mem_some_iff] at entered
        subst entered
        exact unused
      · rw [noted, Function.update_of_ne here] at entered
        exact accounted x stay entered

theorem scan_entries (s : Booked) (trail : List Cluster) (linked : (s.cluster :: trail).IsChain Carries)
    (partitioned : Partitioned s.cluster)
    (stamped : ∀ r ∈ s.cluster.allServers, s.Punctual r ∨ ∀ d ∈ trail, (d.objects r).position = (s.cluster.objects r).position) :
    (s :: s.scan trail).IsChain Entry := by
  induction trail generalizing s with
  | nil => exact List.isChain_singleton s
  | cons d rest ih =>
      rw [List.isChain_cons_cons] at linked
      have carried := linked.1 partitioned
      refine List.isChain_cons_cons.mpr ⟨.moved carried rfl ?_, ih (s.visit d) linked.2 carried.partitioned ?_⟩
      · intro r known
        exact (stamped r known).imp id fun stuck => stuck d List.mem_cons_self
      · intro r known
        rcases stamped r (carried.known known) with punctual | stuck
        · exact Or.inl (shift_punctual s d r (carried.shifts r) punctual)
        · have first := stuck d List.mem_cons_self
          exact Or.inr fun e member => (stuck e (List.mem_cons_of_mem d member)).trans first.symm

theorem add_server_totals (cfg : Config) (c : Cluster) (r : Ref) (forceInner : Bool) (x : Ref) :
    ((c.addServer cfg r forceInner).objects x).totalInnerTime = (c.objects x).totalInnerTime ∧
      ((c.addServer cfg r forceInner).objects x).totalOuterTime = (c.objects x).totalOuterTime := by
  have kept (d : Cluster) (f : Server → Server) (same : ∀ s : Server, (f s).totalInnerTime = s.totalInnerTime ∧
      (f s).totalOuterTime = s.totalOuterTime) : ((d.modify r f).objects x).totalInnerTime = (d.objects x).totalInnerTime ∧
        ((d.modify r f).objects x).totalOuterTime = (d.objects x).totalOuterTime := by
    rw [Cluster.modify_objects]
    split
    · rename_i here
      exact here ▸ same (d.objects r)
    · exact ⟨rfl, rfl⟩
  have enrolled := kept c (fun s => { s with emaAlpha := cfg.emaAlpha, emaPos := cfg.emaRange.1, emaLe := cfg.emaRange.2 })
    fun _ => ⟨rfl, rfl⟩
  rw [← enrolled.1, ← enrolled.2]
  unfold Cluster.addServer
  generalize c.modify r (fun s => { s with emaAlpha := cfg.emaAlpha, emaPos := cfg.emaRange.1, emaLe := cfg.emaRange.2 }) = d
  simp only
  split
  · exact kept d.tick (fun s => { s with coldUntil := d.now + cfg.coldStartSec, position := .outer }) fun _ => ⟨rfl, rfl⟩
  · split
    · exact kept d (fun s => { s with position := .inner }) fun _ => ⟨rfl, rfl⟩
    · exact kept d (fun s => { s with position := .outer }) fun _ => ⟨rfl, rfl⟩

theorem call_entries (cfg : Config) (s : History Booked) (call : TimedCall) (partitioned : Partitioned s.current.cluster)
    (timely : Timely cfg s call) : (s.current :: Booked.trail cfg s.current call).IsChain Entry := by
  obtain ⟨unloaded, fresh, unused, stamped⟩ := timely
  obtain ⟨op, moment⟩ := call
  cases op with
  | addServer r forceInner =>
      have added := added_add_server cfg s.current.cluster r forceInner
      refine List.isChain_pair.mpr (.added r moment ?_ ?_ (unused r rfl) rfl)
      · exact (added_partitioned cfg _ _ r partitioned (fresh r rfl) added).1
      · exact add_server_totals cfg s.current.cluster r forceInner
  | _ => exact scan_entries s.current _ (trail_carries cfg s.current.cluster _ rfl unloaded) partitioned stamped

-- At every moment between two moves the totals of every server that was added
-- are the lengths of its stays that are over.
theorem time_accounting (cfg : Config) (objects : Ref → Server) (adaptive : Option AdaptiveThresholdController)
    (remediator : Option Remediator) (hardwareManager : Option HardwareTelemetryManager) (monotonic : Clock)
    (calls : List TimedCall) (last : History Booked)
    (run : BookedRun cfg ⟨⟨.empty cfg objects adaptive remediator hardwareManager monotonic, fun _ => none⟩, []⟩ calls last) :
    History.Everywhere (fun s => s.current.Accounted) last := by
  refine History.run_everywhere (Booked.trail cfg) (Timely cfg) Entry
    (fun s => Partitioned s.current.cluster ∧ s.current.Accounted) (fun s => s.current.Accounted) ?_ ?_ _ last calls ?_ ?_ run
  · exact fun s call held timely => call_entries cfg s call held.1 timely
  · intro s state held entry
    have kept := entry_accounted s.current state held.2 entry
    exact ⟨kept, kept.2⟩
  · exact ⟨partitioned_empty cfg objects adaptive remediator hardwareManager monotonic, fun _ _ entered => by cases entered⟩
  · exact fun _ _ entered => by cases entered

-- Two servers are added when they are made. One is evicted with connections
-- open, waits for the end of its drain, comes back, and the other one is removed.
def drainTimes : Option (History Booked) :=
  Runs.follow (History.next (Booked.trail { smallestRing with wsDrainTimeout := 30 })) (Timely { smallestRing with wsDrainTimeout := 30 })
    ⟨⟨.empty { smallestRing with wsDrainTimeout := 30 }
      (fun r => { id := toString r, metrics := { activeConnections := 2 } }) none none none ⟨fun ticks => 20 + 20 * ticks, 0⟩,
        fun _ => none⟩, []⟩
    [⟨.addServer 0 true, 0⟩, ⟨.addServer 1 true, 0⟩, ⟨.forceEvict "0", 20⟩, ⟨.checkDrainingServers, 40⟩,
      ⟨.checkDrainingServers, 60⟩, ⟨.rotate, 100⟩, ⟨.removeServer "1", 200⟩]

theorem time_accounting_drain : ∃ s ∈ drainTimes, History.Everywhere (fun s => s.current.Accounted) s := by
  have taken : drainTimes.isSome = true := by decide +kernel
  obtain ⟨s, reached⟩ := Option.isSome_iff_exists.mp taken
  exact ⟨s, reached, time_accounting _ _ _ _ _ _ _ s (Runs.follow_run _ _ _ s _ reached)⟩

-- A server made at 0 and added at 10 leaves the inner ring at 11.
def lateTimes : Option (History Booked) :=
  Runs.follow (History.next (Booked.trail smallestRing)) (fun _ _ => True)
    ⟨⟨.empty smallestRing (fun r => { id := toString r }) none none none ⟨fun ticks => 11 + ticks, 0⟩, fun _ => none⟩, []⟩
    [⟨.addServer 0 true, 10⟩, ⟨.forceEvict "0", 11⟩]

theorem late_server_overcounts : ∃ s ∈ lateTimes, (s.current.book 0).map Stay.inner = some 1 ∧
    (s.current.cluster.objects 0).totalInnerTime = 11 ∧ ¬ History.Everywhere (fun s => s.current.Accounted) s := by
  have counted : lateTimes.any (fun s => decide ((s.current.book 0).map Stay.inner = some 1 ∧
      (s.current.cluster.objects 0).totalInnerTime = 11)) = true := by decide +kernel
  obtain ⟨s, reached, found⟩ := Option.any_eq_true _ _ |>.mp counted
  obtain ⟨stayed, total⟩ := of_decide_eq_true found
  refine ⟨s, reached, stayed, total, fun all => ?_⟩
  have accounted := all s.current s.earlier (List.suffix_refl _)
  obtain ⟨stay, booked, inner⟩ := Option.map_eq_some_iff.mp stayed
  have equal := (accounted 0 stay booked).1
  rw [total, inner] at equal
  norm_num at equal

end HuddleCluster.Ring
