import HuddleCluster.Ring.Promotions

set_option autoImplicit false

namespace HuddleCluster.Ring

open Cluster

namespace Cluster

def PromotionComplete (cfg : Config) (c : Cluster) : Prop :=
  cfg.maxInnerSize ≤ c.innerRing.length ∨ ∀ r ∈ c.outerRing, c.promotable cfg r = false

-- The gates of a server ahead are read at its turn, those of the servers behind when
-- the loop has ended.
def unblocked (cfg : Config) (c : Cluster) : Nat → Nat → (Ref → ℚ) → List Ref → Prop
  | 0, _, _, _ => True
  | _ + 1, _, _, [] => True
  | room + 1, ticks, moved, r :: rest =>
      if c.meetsGates cfg ticks (moved r) r then unblocked cfg c room (ticks + 3) (c.movedNow ticks moved r) rest
      else ∀ x ∈ r :: rest, c.meetsGates cfg (ticks + 2) (moved x) x = false

def Unblocked (cfg : Config) (c : Cluster) : Prop :=
  c.unblocked cfg (c.room cfg) c.monotonic.ticks c.lastMoved c.outerOrder

end Cluster

theorem advanced_ticked (c d : Cluster) (moved : Ref → ℚ) (advanced : Advanced c d moved) : Advanced c d.tick.tick moved :=
  ⟨advanced.readings, advanced.cool, advanced.ids, advanced.temperatures, advanced.cold, advanced.quarantine, advanced.moved⟩

theorem unblocked_full (cfg : Config) (c : Cluster) (ticks : Nat) (moved : Ref → ℚ) (order : List Ref) :
    c.unblocked cfg 0 ticks moved order := by
  cases order <;> trivial

theorem unblocked_empty (cfg : Config) (c : Cluster) (room ticks : Nat) (moved : Ref → ℚ) : c.unblocked cfg room ticks moved [] := by
  cases room <;> trivial

theorem promote_complete_iff (cfg : Config) (fuel : Nat) (c d : Cluster) (moved : Ref → ℚ) (advanced : Advanced c d moved)
    (enough : d.outerRing.length ≤ fuel) : (d.promoteCooled cfg fuel).PromotionComplete cfg ↔
      c.unblocked cfg (d.room cfg) d.monotonic.ticks moved (Heapq.pops c.temperatureOf fuel d.outerRing) := by
  induction fuel generalizing d moved with
  | zero =>
      have empty : d.outerRing = [] := List.length_eq_zero_iff.mp (Nat.le_zero.mp enough)
      exact iff_of_true (Or.inr (by simp [promoteCooled, empty])) (unblocked_empty cfg c _ _ moved)
  | succ fuel ih =>
      cases promote_turn cfg fuel d with
      | full full same =>
          rw [same, Cluster.room, Nat.sub_eq_zero_of_le full]
          exact iff_of_true (Or.inl full) (unblocked_full cfg c _ moved _)
      | emptied empty same =>
          rw [same, empty]
          exact iff_of_true (Or.inr (by simp [empty])) (unblocked_empty cfg c _ _ moved)
      | blocked r rest room ring refused same =>
          -- Everyone left is in the order still to come.
          obtain ⟨left, popped⟩ := Heapq.heappop_cons c.temperatureOf r rest
          have order := Heapq.pops_perm c.temperatureOf (fuel + 1) d.outerRing enough
          have free : d.room cfg = (d.room cfg - 1) + 1 := by
            rw [Cluster.room]
            omega
          have ended := advanced_ticked c d moved advanced
          rw [promotable_meets cfg c d moved r advanced] at refused
          rw [ring, Heapq.pops, popped] at order
          rw [free, ring, Heapq.pops, popped, same]
          simp only [unblocked, refused, Bool.false_eq_true, if_false, PromotionComplete, tick_inner, tick_outer, ring,
            not_le.mpr room, false_or, promotable_meets cfg c d.tick.tick moved _ ended, ← order.mem_iff]
          rfl
      | promoted r after room permitted lifted ticks times continued =>
          have next := advanced_promoted cfg c d after moved r advanced permitted lifted times
          have left := room_promoted cfg d after r room lifted
          have popped := lifted.popped
          have shorter := Heapq.heappop_length _ _ _ _ popped
          rw [advanced.temperatures] at popped
          rw [promotable_meets cfg c d moved r advanced] at permitted
          rw [continued, ih after _ next (by omega), left, Heapq.pops, popped, ticks]
          simp only [unblocked, permitted, if_true]

theorem promotion_complete_iff (cfg : Config) (c : Cluster) :
    ((c.rotateStep1 cfg).rotateStep2 cfg).PromotionComplete cfg ↔ (c.rotateStep1 cfg).Unblocked cfg :=
  promote_complete_iff cfg _ _ _ _ (advanced_refl (c.rotateStep1 cfg)) (le_refl _)

instance (cfg : Config) (c : Cluster) : Decidable (c.PromotionComplete cfg) :=
  inferInstanceAs (Decidable (cfg.maxInnerSize ≤ c.innerRing.length ∨ ∀ r ∈ c.outerRing, c.promotable cfg r = false))

def waitingCluster : Cluster :=
  .empty smallestRing (fun r => { id := toString r, temperature := r / 10 }) none none none
    ⟨fun ticks => if ticks = 0 then 100 else 101, 0⟩

theorem eligible_blocked : ¬ ∀ c, ClusterRun smallestRing (fun _ _ => True) waitingCluster
      [.addServer 1 false, .addServer 0 true, .addServer 2 true, .forceEvict "0"] c →
    ((c.rotateStep1 smallestRing).rotateStep2 smallestRing).PromotionComplete smallestRing := by
  intro claim
  obtain ⟨c, reached, blocked⟩ : ∃ c ∈ Runs.follow (next smallestRing) (fun _ _ => True) waitingCluster
      [.addServer 1 false, .addServer 0 true, .addServer 2 true, .forceEvict "0"],
      ¬ ((c.rotateStep1 smallestRing).rotateStep2 smallestRing).PromotionComplete smallestRing := by decide +kernel
  exact blocked (claim c (Runs.follow_run _ _ _ c _ reached))

end HuddleCluster.Ring
