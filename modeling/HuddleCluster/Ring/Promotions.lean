import HuddleCluster.Ring.PromotionGates

set_option autoImplicit false

namespace HuddleCluster.Ring

open Cluster

namespace Cluster

-- The gates of the promotion loop, for a server that was last moved at the given
-- time, when so many readings of the clock are taken.
def meetsGates (cfg : Config) (c : Cluster) (ticks : Nat) (moved : ℚ) (r : Ref) : Bool :=
  let s := c.objects r
  !s.isColdStart (c.monotonic.reading (ticks + 1)) && !decide (c.monotonic.reading ticks - moved < cfg.minOuterDwellSec) &&
    !decide (c.InQuarantine s.id) && s.isCooled c.coolThreshold

-- The third reading of its turn is the time at which a promoted server moves.
def movedNow (c : Cluster) (ticks : Nat) (moved : Ref → ℚ) (r : Ref) : Ref → ℚ :=
  Function.update moved r (c.monotonic.reading (ticks + 2))

-- The servers that are let in out of the given ones. The loop ends when the room
-- is used up or a server fails a gate.
def admitted (cfg : Config) (c : Cluster) : Nat → Nat → (Ref → ℚ) → List Ref → List Ref
  | 0, _, _, _ => []
  | _ + 1, _, _, [] => []
  | room + 1, ticks, moved, r :: rest =>
      if c.meetsGates cfg ticks (moved r) r then r :: admitted cfg c room (ticks + 3) (c.movedNow ticks moved r) rest else []

def lastMoved (c : Cluster) (r : Ref) : ℚ := (c.objects r).lastRotated

def room (cfg : Config) (c : Cluster) : Nat := cfg.maxInnerSize - c.innerRing.length

def outerOrder (c : Cluster) : List Ref := Heapq.pops c.temperatureOf c.outerRing.length c.outerRing

def admittedServers (cfg : Config) (c : Cluster) : List Ref :=
  c.admitted cfg (c.room cfg) c.monotonic.ticks c.lastMoved c.outerOrder

def promotedServers (cfg : Config) (c : Cluster) : List Ref :=
  ((c.rotateStep1 cfg).rotateStep2 cfg).innerRing.drop (c.rotateStep1 cfg).innerRing.length

end Cluster

structure Advanced (c d : Cluster) (moved : Ref → ℚ) : Prop where
  readings : d.monotonic.reading = c.monotonic.reading
  cool : d.coolThreshold = c.coolThreshold
  ids : d.idOf = c.idOf
  temperatures : d.temperatureOf = c.temperatureOf
  cold : ∀ r, (d.objects r).coldUntil = (c.objects r).coldUntil
  quarantine : ∀ serverId, d.InQuarantine serverId ↔ c.InQuarantine serverId
  moved : ∀ r, d.lastMoved r = moved r

inductive PromoteTurn (cfg : Config) (fuel : Nat) (c last : Cluster) : Prop where
  | full (full : cfg.maxInnerSize ≤ c.innerRing.length) (same : last = c)
  | emptied (empty : c.outerRing = []) (same : last = c)
  | blocked (r : Ref) (rest : List Ref) (room : c.innerRing.length < cfg.maxInnerSize) (ring : c.outerRing = r :: rest)
      (refused : c.promotable cfg r = false) (same : last = c.tick.tick)
  | promoted (r : Ref) (after : Cluster) (room : c.innerRing.length < cfg.maxInnerSize) (permitted : c.promotable cfg r = true)
      (lifted : Lifted c after r) (ticks : after.monotonic.ticks = c.monotonic.ticks + 3)
      (moved : ∀ x, after.lastMoved x = if x = r then c.monotonic.reading (c.monotonic.ticks + 2) else c.lastMoved x)
      (continued : last = after.promoteCooled cfg fuel)

theorem advanced_refl (c : Cluster) : Advanced c c c.lastMoved := ⟨rfl, rfl, rfl, rfl, fun _ => rfl, fun _ => .rfl, fun _ => rfl⟩

theorem popped_moved (c popped : Cluster) (r x : Ref) (taken : c.popOuter = some (r, popped)) :
    (popped.moveToInner r).lastMoved x = if x = r then c.now else c.lastMoved x := by
  simp only [popOuter, Option.map_eq_some_iff, Prod.mk.injEq] at taken
  obtain ⟨⟨item, rest⟩, _, rfl, rfl⟩ := taken
  simp only [moveToInner, recordRecovery, lastMoved]
  split <;> by_cases here : x = item <;> simp [here, markPromoted, Cluster.now]

theorem promote_turn (cfg : Config) (fuel : Nat) (c : Cluster) : PromoteTurn cfg fuel c (c.promoteCooled cfg (fuel + 1)) := by
  rw [promoteCooled]
  split
  · rename_i room
    split
    · rename_i empty
      exact .emptied empty rfl
    · rename_i coolest rest ring
      split
      · rename_i permitted
        cases taken : c.tick.tick.popOuter with
        | none =>
            obtain ⟨left, popped⟩ := Heapq.heappop_cons c.temperatureOf coolest rest
            rw [popOuter, tick_outer, tick_outer, ring] at taken
            exact absurd (popped.symm.trans (Option.map_eq_none_iff.mp taken)) (Option.some_ne_none _)
        | some entry =>
            obtain ⟨r, popped⟩ := entry
            obtain ⟨lifted, ticks⟩ := lifted_pop c.tick.tick popped r taken
            have head : r = coolest := by
              have top := lifted.popped
              rw [tick_outer, tick_outer, ring] at top
              exact Heapq.heappop_head _ _ _ _ _ top
            subst head
            have same : Lifted c (popped.moveToInner r) r :=
              ⟨⟨lifted.popped, lifted.inner, lifted.draining, lifted.ids, lifted.temperatures, lifted.others, lifted.position⟩,
                lifted.remediator, lifted.cool, lifted.cold, lifted.readings⟩
            exact .promoted r _ room permitted same ticks (fun x => popped_moved c.tick.tick popped r x taken) rfl
      · rename_i refused
        exact .blocked coolest rest room ring (by simpa using refused) rfl
  · rename_i full
    exact .full (not_lt.mp full) rfl

theorem promotable_spec (cfg : Config) (c : Cluster) (r : Ref) :
    c.promotable cfg r = c.meetsGates cfg c.monotonic.ticks (c.lastMoved r) r := by
  have held : decide (c.InQuarantine (c.objects r).id) = c.remediator.any fun m => m.isQuarantined (c.objects r).id := by
    rw [Bool.eq_iff_iff, decide_eq_true_iff, Option.any_eq_true]
    rfl
  simp only [promotable, meetsGates, held]
  cases c.remediator <;> rfl

theorem promotable_meets (cfg : Config) (c d : Cluster) (moved : Ref → ℚ) (r : Ref) (advanced : Advanced c d moved) :
    d.promotable cfg r = c.meetsGates cfg d.monotonic.ticks (moved r) r := by
  have temperature : (d.objects r).temperature = (c.objects r).temperature := congrFun advanced.temperatures r
  have name : (d.objects r).id = (c.objects r).id := congrFun advanced.ids r
  simp only [promotable_spec, meetsGates, Server.isColdStart, Server.isCooled, advanced.cold r, temperature, name,
    advanced.quarantine, advanced.moved, advanced.cool, advanced.readings]

-- A recovery can only lift the quarantine of a server that is in none.
theorem advanced_promoted (cfg : Config) (c d after : Cluster) (moved : Ref → ℚ) (r : Ref) (advanced : Advanced c d moved)
    (permitted : d.promotable cfg r = true) (lifted : Lifted d after r)
    (times : ∀ x, after.lastMoved x = if x = r then d.monotonic.reading (d.monotonic.ticks + 2) else d.lastMoved x) :
    Advanced c after (c.movedNow d.monotonic.ticks moved r) := by
  refine ⟨lifted.readings.trans advanced.readings, lifted.cool.trans advanced.cool, lifted.ids.trans advanced.ids,
    lifted.temperatures.trans advanced.temperatures, fun x => (lifted.cold x).trans (advanced.cold x), ?_, ?_⟩
  · intro serverId
    rw [← advanced.quarantine]
    refine ⟨lifted_quarantine d after r lifted serverId, ?_⟩
    intro held
    have other : serverId ≠ d.idOf r := by
      rintro rfl
      exact (promotable_gates cfg d r permitted).2 held
    obtain ⟨m, found, quarantined⟩ := held
    rw [Option.mem_def] at found
    rw [InQuarantine, lifted.remediator, found]
    split
    · exact ⟨m.recordRecovery (d.idOf r), rfl, recovery_spares m _ serverId other quarantined⟩
    · exact ⟨m, rfl, quarantined⟩
  · intro x
    rw [times, movedNow, Function.update_apply, advanced.readings, advanced.moved]

theorem room_promoted (cfg : Config) (d after : Cluster) (r : Ref) (room : d.innerRing.length < cfg.maxInnerSize)
    (lifted : Lifted d after r) : d.room cfg = after.room cfg + 1 := by
  simp only [Cluster.room, lifted.inner, List.length_append, List.length_singleton]
  omega

theorem promote_admits (cfg : Config) (fuel : Nat) (c d : Cluster) (moved : Ref → ℚ) (advanced : Advanced c d moved) :
    (d.promoteCooled cfg fuel).innerRing =
      d.innerRing ++ c.admitted cfg (d.room cfg) d.monotonic.ticks moved (Heapq.pops c.temperatureOf fuel d.outerRing) := by
  induction fuel generalizing d moved with
  | zero => cases d.room cfg <;> simp [promoteCooled, Heapq.pops, admitted]
  | succ fuel ih =>
      cases promote_turn cfg fuel d with
      | full full same => simp [same, Cluster.room, Nat.sub_eq_zero_of_le full, admitted]
      | emptied none same => cases d.room cfg <;> simp [same, none, Heapq.pops, Heapq.heappop, admitted]
      | blocked r rest room ring refused same =>
          obtain ⟨left, popped⟩ := Heapq.heappop_cons c.temperatureOf r rest
          rw [promotable_meets cfg c d moved r advanced] at refused
          cases d.room cfg <;> simp [same, ring, Heapq.pops, popped, admitted, refused]
      | promoted r after room permitted lifted ticks times continued =>
          have next := advanced_promoted cfg c d after moved r advanced permitted lifted times
          have left := room_promoted cfg d after r room lifted
          have popped := lifted.popped
          rw [advanced.temperatures] at popped
          rw [promotable_meets cfg c d moved r advanced] at permitted
          rw [continued, ih after _ next, lifted.inner, left, Heapq.pops, popped, ticks, List.append_assoc]
          simp [admitted, permitted]

theorem step2_admits (cfg : Config) (c : Cluster) : (c.rotateStep2 cfg).innerRing = c.innerRing ++ c.admittedServers cfg :=
  promote_admits cfg c.outerRing.length c c c.lastMoved (advanced_refl c)

theorem promoted_admitted (cfg : Config) (c : Cluster) : c.promotedServers cfg = (c.rotateStep1 cfg).admittedServers cfg := by
  rw [promotedServers, step2_admits, List.drop_left]

end HuddleCluster.Ring
