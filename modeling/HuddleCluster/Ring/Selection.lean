import HuddleCluster.Lib.Roulette
import HuddleCluster.Ring.Ramps

set_option autoImplicit false

namespace HuddleCluster.Ring

namespace Cluster

-- The effective weight of each place of the inner ring.
def effectiveWeights (c : Cluster) : List ℚ :=
  c.innerRing.mapIdx fun i r => c.selectionWeight (c.monotonic.reading (c.monotonic.ticks + i)) r

def totalWeight (c : Cluster) : ℚ := c.effectiveWeights.sum

theorem pick_weighted_walk (draw cumulative : ℚ) (weights : List (Ref × ℚ)) :
    pickWeighted draw cumulative weights = (Roulette.walk draw cumulative weights).or (weights.getLast?.map Prod.fst) := by
  induction weights generalizing cumulative with
  | nil => rfl
  | cons entry rest ih =>
      obtain ⟨r, weight⟩ := entry
      cases rest with
      | nil =>
          rw [pickWeighted, Roulette.walk]
          split <;> rfl
      | cons next others =>
          rw [pickWeighted, Roulette.walk]
          · split
            · rfl
            · rw [ih, List.getLast?_cons_cons]
          · exact List.cons_ne_nil _ _

theorem weighted_select_spec (c : Cluster) (draw : ℚ) :
    (c.weightedSelect draw).1 = Roulette.select draw
      (c.innerRing.mapIdx fun i r => (r, c.selectionWeight (c.monotonic.reading (c.monotonic.ticks + i)) r)) :=
  pick_weighted_walk draw 0 _

theorem selection_weight_floor (c : Cluster) (now : ℚ) (r : Ref) : 1 / 1000000 ≤ c.selectionWeight now r := by
  unfold selectionWeight
  split <;> exact le_max_left _ _

theorem selection_weight_spec (c : Cluster) (now : ℚ) (r : Ref) :
    c.selectionWeight now r =
      max (1 / 1000000) ((c.ramps.get? (c.idOf r)).elim (c.objects r).weight fun ramp => ramp.currentWeight now) := by
  unfold selectionWeight
  split
  · rename_i static
    rw [static, Option.elim_none]
  · rename_i ramp active
    rw [active, Option.elim_some]

theorem effective_weights_nonneg (c : Cluster) : ∀ weight ∈ c.effectiveWeights, 0 ≤ weight := by
  intro weight member
  rw [effectiveWeights, List.mem_mapIdx] at member
  obtain ⟨i, inside, rfl⟩ := member
  exact le_trans (by norm_num) (c.selection_weight_floor _ _)

theorem effective_weights_get (c : Cluster) (i : Nat) (r : Ref) (here : c.innerRing[i]? = some r) :
    c.effectiveWeights[i]? = some (c.selectionWeight (c.monotonic.reading (c.monotonic.ticks + i)) r) := by
  rw [effectiveWeights, List.getElem?_mapIdx, here, Option.map_some]

theorem weighted_select_owner (c : Cluster) (draw : ℚ) (i : Nat) (r : Ref) (here : c.innerRing[i]? = some r)
    (owned : Roulette.Owns c.effectiveWeights draw i) : (c.weightedSelect draw).1 = some r := by
  rw [weighted_select_spec]
  set entries := c.innerRing.mapIdx fun i r => (r, c.selectionWeight (c.monotonic.reading (c.monotonic.ticks + i)) r) with listed
  have weights : entries.map Prod.snd = c.effectiveWeights := by
    apply List.ext_getElem?
    intro j
    rw [listed, effectiveWeights, List.getElem?_map, List.getElem?_mapIdx, List.getElem?_mapIdx, Option.map_map]
    rfl
  have entry : entries[i]? = some (r, c.selectionWeight (c.monotonic.reading (c.monotonic.ticks + i)) r) := by
    rw [listed, List.getElem?_mapIdx, here, Option.map_some]
  exact Roulette.select_owner draw entries (weights ▸ c.effective_weights_nonneg) _ i entry (weights ▸ owned)

theorem weighted_select_unique (c : Cluster) (draw : ℚ) (occupied : c.innerRing ≠ []) (low : 0 ≤ draw)
    (high : draw ≤ c.totalWeight) :
    ∃ i r, c.innerRing[i]? = some r ∧ (c.weightedSelect draw).1 = some r ∧ Roulette.Owns c.effectiveWeights draw i ∧
      ∀ j, Roulette.Owns c.effectiveWeights draw j → j = i := by
  obtain ⟨i, owned⟩ := Roulette.owner_exists c.effectiveWeights draw low high
  have listed : c.effectiveWeights.length = c.innerRing.length := List.length_mapIdx
  have filled : c.effectiveWeights ≠ [] := by rwa [effectiveWeights, ne_eq, List.mapIdx_eq_nil_iff]
  have inside : i < c.innerRing.length := listed ▸ Roulette.owner_inside c.effectiveWeights draw i filled owned
  have here := List.getElem?_eq_getElem inside
  refine ⟨i, c.innerRing[i], here, c.weighted_select_owner draw i _ here owned, owned, ?_⟩
  intro j other
  exact Roulette.owner_unique c.effectiveWeights c.effective_weights_nonneg draw j i other owned

end Cluster

open Cluster

-- Server 1 is ramped up from 1 / 10 beside server 0 of weight 1.
def canaryStart : Cluster := .empty {} (fun r => { id := toString r }) none none none ⟨fun ticks => ticks, 0⟩

def canaryOps : List Op := [.addServer 0 true, .addServer 1 true, .startTrafficRamp "1" (1 / 10) 1 10]

end HuddleCluster.Ring
