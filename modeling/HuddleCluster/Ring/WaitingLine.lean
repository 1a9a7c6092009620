import HuddleCluster.Ring.Promotions

set_option autoImplicit false

namespace HuddleCluster.Ring

open Cluster

-- What an eviction changes of what the gates of the promotion loop read: who waits in
-- the outer ring, how warm everyone is, when it was moved last, who drains, the
-- remediator, and how often the clock was read.
structure WaitingLine where
  ring : List Ref
  temperatures : Ref → ℚ
  moved : Ref → ℚ
  draining : String → Bool
  remediator : Option Remediator
  ticks : Nat

namespace WaitingLine

def warm (l : WaitingLine) (r : Ref) (reason : EvictionReason) : Ref → ℚ :=
  if reason = .absoluteLatency then Function.update l.temperatures r (max (l.temperatures r) (8 / 10)) else l.temperatures

-- A server that is to be evicted drains, or goes to the end of the line.
def join (cfg : Config) (c : Cluster) (l : WaitingLine) (entry : Ref × EvictionReason) : WaitingLine :=
  let temperatures := l.warm entry.1 entry.2
  if (decide (0 < cfg.wsDrainTimeout) && decide (0 < (c.objects entry.1).metrics.activeConnections) &&
      !l.draining (c.idOf entry.1)) = true then
    { l with
      temperatures := temperatures
      moved := Function.update l.moved entry.1 (c.monotonic.reading l.ticks)
      draining := Function.update l.draining (c.idOf entry.1) true
      ticks := l.ticks + 1 }
  else
    { l with
      ring := Heapq.heappush temperatures l.ring entry.1
      temperatures := temperatures
      moved := Function.update l.moved entry.1 (c.monotonic.reading (l.ticks + 1))
      remediator := l.remediator.map fun m => m.afterEviction (c.idOf entry.1)
      ticks := l.ticks + 2 }

-- Everyone with its turn, in the order in which the heap hands them out.
def turns (l : WaitingLine) : List (Ref × Nat) := (Heapq.pops l.temperatures l.ring.length l.ring).zipIdx

-- The gates of a server at its turn; each of the turns before it reads the clock three times.
def passes (cfg : Config) (c : Cluster) (l : WaitingLine) (entry : Ref × Nat) : Bool :=
  let s := c.objects entry.1
  !s.isColdStart (c.monotonic.reading (l.ticks + 3 * entry.2 + 1)) &&
    !decide (c.monotonic.reading (l.ticks + 3 * entry.2) - l.moved entry.1 < cfg.minOuterDwellSec) &&
    !(l.remediator.any fun m => m.isQuarantined s.id) && decide (l.temperatures entry.1 ≤ c.coolThreshold)

end WaitingLine

namespace Cluster

def waitingLine (c : Cluster) : WaitingLine :=
  ⟨c.outerRing, c.temperatureOf, c.lastMoved, c.drainingServers.contains, c.remediator, c.monotonic.ticks⟩

-- The line outside when those have joined it who are to be evicted.
def lineUp (cfg : Config) (c : Cluster) (evicted : List (Ref × EvictionReason)) : WaitingLine :=
  evicted.foldl (WaitingLine.join cfg c) c.waitingLine

end Cluster

structure Level (c d : Cluster) : Prop where
  readings : d.monotonic.reading = c.monotonic.reading
  cool : d.coolThreshold = c.coolThreshold
  ids : d.idOf = c.idOf
  cold : ∀ r, (d.objects r).coldUntil = (c.objects r).coldUntil
  connections : ∀ r, (d.objects r).metrics.activeConnections = (c.objects r).metrics.activeConnections

theorem level_refl (c : Cluster) : Level c c := ⟨rfl, rfl, rfl, fun _ => rfl, fun _ => rfl⟩

theorem level_trans (c d e : Cluster) (before : Level c d) (after : Level d e) : Level c e :=
  ⟨after.readings.trans before.readings, after.cool.trans before.cool, after.ids.trans before.ids,
    fun r => (after.cold r).trans (before.cold r), fun r => (after.connections r).trans (before.connections r)⟩

theorem level_left (c : Cluster) (r : Ref) (reason : EvictionReason) : Level c (c.leaveInner r reason) := by
  refine ⟨rfl, rfl, leave_inner_ids c r reason, ?_, ?_⟩
  · intro x
    by_cases here : x = r <;> simp [leaveInner, removeInner, markEvicted, here]
  · intro x
    by_cases here : x = r <;> simp [leaveInner, removeInner, markEvicted, here]

theorem level_placed (c d : Cluster) (r : Ref) (f : Server → Server) (objects : d.objects = (c.modify r f).objects)
    (readings : d.monotonic.reading = c.monotonic.reading) (cool : d.coolThreshold = c.coolThreshold) (name : ∀ s, (f s).id = s.id)
    (cold : ∀ s, (f s).coldUntil = s.coldUntil) (metrics : ∀ s, (f s).metrics = s.metrics) : Level c d := by
  refine ⟨readings, cool, ?_, ?_, ?_⟩
  · funext x
    by_cases here : x = r <;> simp [idOf, objects, here, name]
  · intro x
    by_cases here : x = r <;> simp [objects, here, cold]
  · intro x
    by_cases here : x = r <;> simp [objects, here, metrics]

theorem record_eviction_cool (c : Cluster) (r : Ref) : (c.recordEviction r).coolThreshold = c.coolThreshold := by
  obtain ⟨_, treated⟩ := record_eviction_treats c r
  rw [treated]

theorem level_move_to_outer (cfg : Config) (c : Cluster) (r : Ref) (reason : EvictionReason) : Level c (c.moveToOuter cfg r reason) := by
  refine level_trans c (c.leaveInner r reason) _ (level_left c r reason) ?_
  unfold moveToOuter
  dsimp only
  split
  · exact level_placed _ _ r (fun s => { s with position := .draining }) rfl rfl rfl (fun _ => rfl) (fun _ => rfl) fun _ => rfl
  · exact level_placed _ _ r (fun s => { s with position := .outer, lastRotated := (c.leaveInner r reason).now })
      (record_eviction_objects _ r) (complete_eviction_backdrop _ r).2 (record_eviction_cool _ r)
      (fun _ => rfl) (fun _ => rfl) fun _ => rfl

theorem left_warm (c : Cluster) (r : Ref) (reason : EvictionReason) :
    (c.leaveInner r reason).temperatureOf = c.waitingLine.warm r reason := by
  funext x
  by_cases here : x = r
  · rw [here, leave_inner_temperature]
    by_cases slow : reason = .absoluteLatency <;> simp [WaitingLine.warm, waitingLine, slow]
  · have kept := leave_inner_others c r x reason here
    rw [temperatureOf, kept]
    by_cases slow : reason = .absoluteLatency <;> simp [WaitingLine.warm, waitingLine, slow, here, temperatureOf]

theorem move_to_outer_line (cfg : Config) (origin c : Cluster) (r : Ref) (reason : EvictionReason) (level : Level origin c) :
    (c.moveToOuter cfg r reason).waitingLine = c.waitingLine.join cfg origin (r, reason) := by
  have ids : (c.leaveInner r reason).idOf = origin.idOf := (leave_inner_ids c r reason).trans level.ids
  have connections := ((level_left c r reason).connections r).trans (level.connections r)
  have warm := left_warm c r reason
  have drains : (c.leaveInner r reason).mustDrain cfg r = (decide (0 < cfg.wsDrainTimeout) &&
      decide (0 < (origin.objects r).metrics.activeConnections) && !c.waitingLine.draining (origin.idOf r)) := by
    rw [mustDrain, connections, ids]
    rfl
  have moved (x : Ref) (other : x ≠ r) : ((c.leaveInner r reason).objects x).lastRotated = c.lastMoved x := by
    rw [leave_inner_others c r x reason other, lastMoved]
  have here : ((c.leaveInner r reason).objects r).lastRotated = origin.monotonic.reading c.monotonic.ticks := by
    simp [leaveInner, removeInner, markEvicted, Cluster.now, Clock.now, level.readings]
  unfold moveToOuter WaitingLine.join
  dsimp only
  rw [drains]
  split
  · simp only [waitingLine, WaitingLine.mk.injEq, startDrain]
    refine ⟨rfl, ?_, ?_, ?_, rfl, rfl⟩
    · exact (modify_temperatures _ r (fun s => { s with position := .draining }) rfl).trans warm
    · funext x
      by_cases same : x = r
      · simp [lastMoved, same, here]
      · simp [lastMoved, same, moved]
    · funext serverId
      rw [ids]
      by_cases same : serverId = origin.idOf r
      · simp [Dict.contains, Dict.get_set, same]
      · simp [Dict.contains, Dict.get_set, same, leaveInner, removeInner]
  · obtain ⟨_, draining, _, temperatures, outer, _⟩ := complete_eviction_spec (c.leaveInner r reason) r
    have remediator := (complete_eviction_backdrop (c.leaveInner r reason) r).1
    have objects : ((c.leaveInner r reason).completeEviction r).objects =
        ((c.leaveInner r reason).modify r fun s => { s with position := .outer, lastRotated := (c.leaveInner r reason).now }).objects :=
      record_eviction_objects _ r
    have clock : ((c.leaveInner r reason).completeEviction r).monotonic = (c.leaveInner r reason).monotonic.tick :=
      record_eviction_readings _ r
    simp only [waitingLine, WaitingLine.mk.injEq]
    refine ⟨?_, temperatures.trans warm, ?_, ?_, ?_, ?_⟩
    · rw [outer, warm]
      rfl
    · funext x
      have read : (c.leaveInner r reason).now = origin.monotonic.reading (c.monotonic.ticks + 1) :=
        congrFun level.readings (c.monotonic.ticks + 1)
      rw [lastMoved, objects]
      by_cases same : x = r
      · simp [same, read]
      · simp [same, moved]
    · rw [draining]
      rfl
    · rw [remediator, ids]
      rfl
    · rw [clock]
      rfl

theorem evict_all_line (cfg : Config) (evicted : List (Ref × EvictionReason)) (origin c : Cluster) (level : Level origin c) :
    (c.evictAll cfg evicted).waitingLine = evicted.foldl (WaitingLine.join cfg origin) c.waitingLine ∧
      Level origin (c.evictAll cfg evicted) := by
  induction evicted generalizing c with
  | nil => exact ⟨rfl, level⟩
  | cons entry rest ih =>
      have next := level_trans origin c _ level (level_move_to_outer cfg c entry.1 entry.2)
      obtain ⟨line, last⟩ := ih (c.moveToOuter cfg entry.1 entry.2) next
      rw [move_to_outer_line cfg origin c entry.1 entry.2 level] at line
      exact ⟨line, last⟩

-- Who is let in, by places: there is room for as many as stand ahead, and nobody up to
-- there fails a gate.
theorem admitted_iff (cfg : Config) (c : Cluster) (room ticks : Nat) (moved : Ref → ℚ) (order : List Ref) (distinct : order.Nodup)
    (r : Ref) : r ∈ c.admitted cfg room ticks moved order ↔ ∃ j, order[j]? = some r ∧ j < room ∧
      ∀ k ≤ j, ∀ x, order[k]? = some x → c.meetsGates cfg (ticks + 3 * k) (moved x) x = true := by
  induction order generalizing room ticks moved with
  | nil => cases room <;> simp [admitted]
  | cons head rest ih =>
      obtain ⟨apart, restDistinct⟩ := List.nodup_cons.mp distinct
      cases room with
      | zero => simp [admitted]
      | succ room =>
          rw [admitted]
          by_cases passing : c.meetsGates cfg ticks (moved head) head = true
          · rw [if_pos passing, List.mem_cons, ih _ _ _ restDistinct]
            have later (k : Nat) (x : Ref) (there : rest[k]? = some x) :
                c.meetsGates cfg (ticks + 3 + 3 * k) (c.movedNow ticks moved head x) x =
                  c.meetsGates cfg (ticks + 3 * (k + 1)) (moved x) x := by
              have other : x ≠ head := fun same => apart (same ▸ List.mem_of_getElem? there)
              rw [movedNow, Function.update_of_ne other, Nat.add_assoc, Nat.mul_succ, Nat.add_comm 3]
            constructor
            · rintro (rfl | ⟨j, there, room, gates⟩)
              · refine ⟨0, rfl, Nat.succ_pos _, ?_⟩
                intro k low x there
                obtain rfl := Nat.le_zero.mp low
                cases there
                exact passing
              · refine ⟨j + 1, there, Nat.succ_lt_succ room, ?_⟩
                rintro (_ | k) low x here
                · cases here
                  exact passing
                · rw [← later k x here]
                  exact gates k (Nat.le_of_succ_le_succ low) x here
            · rintro ⟨_ | j, there, room, gates⟩
              · cases there
                exact Or.inl rfl
              · refine Or.inr ⟨j, there, Nat.lt_of_succ_lt_succ room, ?_⟩
                intro k low x here
                rw [later k x here]
                exact gates (k + 1) (Nat.succ_le_succ low) x here
          · rw [if_neg passing]
            refine iff_of_false List.not_mem_nil ?_
            rintro ⟨j, _, _, gates⟩
            exact passing (gates 0 (Nat.zero_le _) head rfl)

theorem passes_spec (cfg : Config) (origin c : Cluster) (level : Level origin c) (k : Nat) (x : Ref) :
    c.meetsGates cfg (c.monotonic.ticks + 3 * k) (c.lastMoved x) x = c.waitingLine.passes cfg origin (x, k) := by
  have name : (c.objects x).id = (origin.objects x).id := congrFun level.ids x
  have held : decide (c.InQuarantine (origin.objects x).id) = c.remediator.any fun m => m.isQuarantined (origin.objects x).id := by
    rw [Bool.eq_iff_iff, decide_eq_true_iff, Option.any_eq_true]
    rfl
  simp only [meetsGates, WaitingLine.passes, waitingLine, Server.isColdStart, Server.isCooled, level.readings, level.cold, level.cool,
    name, held, temperatureOf]
  rfl

theorem line_admits (cfg : Config) (c : Cluster) (evicted : List (Ref × EvictionReason)) (r : Ref)
    (distinct : (c.evictAll cfg evicted).outerRing.Nodup) :
    r ∈ (c.evictAll cfg evicted).admittedServers cfg ↔ ∃ j, (r, j) ∈ (c.lineUp cfg evicted).turns ∧
      (c.evictAll cfg evicted).innerRing.length + j < cfg.maxInnerSize ∧
        ∀ ahead ∈ (c.lineUp cfg evicted).turns, ahead.2 ≤ j → (c.lineUp cfg evicted).passes cfg c ahead = true := by
  obtain ⟨line, level⟩ := evict_all_line cfg evicted c c (level_refl c)
  have order : (c.evictAll cfg evicted).outerOrder.Perm (c.evictAll cfg evicted).outerRing := Heapq.pops_perm _ _ _ (le_refl _)
  have turns (x : Ref) (k : Nat) : (x, k) ∈ (c.lineUp cfg evicted).turns ↔ (c.evictAll cfg evicted).outerOrder[k]? = some x := by
    rw [lineUp, ← line, WaitingLine.turns, List.mk_mem_zipIdx_iff_getElem?]
    rfl
  rw [admittedServers, admitted_iff cfg _ _ _ _ _ (order.nodup_iff.mpr distinct)]
  refine exists_congr fun j => ?_
  rw [turns, Cluster.room, Nat.lt_sub_iff_add_lt']
  refine and_congr_right fun _ => and_congr_right fun _ => ?_
  constructor
  · rintro gates ⟨x, k⟩ member low
    have passing := gates k low x ((turns x k).mp member)
    rwa [passes_spec cfg c _ level, line] at passing
  · intro gates k low x there
    rw [passes_spec cfg c _ level, line]
    exact gates (x, k) ((turns x k).mpr there) low

end HuddleCluster.Ring
