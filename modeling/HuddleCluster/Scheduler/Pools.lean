import HuddleCluster.Scheduler.Steps

set_option autoImplicit false

namespace HuddleCluster.Scheduler

open ClusterScheduler

def splits (canary : Canary) : Bool :=
  match canary.phase with
  | .active | .promoted => true
  | .idle | .aborted => false

-- Whether the coin leaves a node in the pool. It is not tossed when all nodes
-- are of one kind.
def onSide (cfg : Settings) (canary : Canary) (draw : ℚ) (nodes : List NodeDict) (node : NodeDict) : Bool :=
  if isCanary cfg canary node = some true then
    decide (draw < canary.weight) || nodes.all fun other => decide (isCanary cfg canary other = some true)
  else !decide (draw < canary.weight) || nodes.all fun other => decide (isCanary cfg canary other ≠ some true)

-- The region of a node, unless its metadata cannot be read.
def regionOf (cfg : Settings) (node : NodeDict) : Option String :=
  (node.section? "metadata").map fun metadata => cfg.normal ((Json.find? metadata "region").getD (.str ""))

def inRegion (cfg : Settings) (region : String) (node : NodeDict) : Bool :=
  decide (regionOf cfg node = some (cfg.normal (.str region)))

theorem marked_members {α : Type} (nodes : List α) (mark : α → Bool) :
    (((nodes.map fun node => (node, mark node)).filter fun entry => entry.2).map Prod.fst) = nodes.filter mark := by
  rw [List.filter_map, List.map_map]
  exact List.map_id _

theorem unmarked_members {α : Type} (nodes : List α) (mark : α → Bool) :
    (((nodes.map fun node => (node, mark node)).filter fun entry => !entry.2).map Prod.fst) =
      nodes.filter fun node => !mark node := by
  rw [List.filter_map, List.map_map]
  exact List.map_id _

theorem pick_pool_idle (cfg : Settings) (canary : Canary) (draw : ℚ) (nodes : List NodeDict) (idle : splits canary = false) :
    pickPool cfg canary draw nodes = some nodes := by
  cases phase : canary.phase <;> simp [splits, phase] at idle <;> simp [pickPool, phase]

theorem pick_pool_tagged (cfg : Settings) (canary : Canary) (draw : ℚ) (nodes : List NodeDict) (split : splits canary = true) :
    pickPool cfg canary draw nodes = (Leader.scored (isCanary cfg canary) nodes).map fun tagged =>
      let canaries := (tagged.filter fun entry => entry.2).map Prod.fst
      let stable := (tagged.filter fun entry => !entry.2).map Prod.fst
      if canaries.isEmpty then (if stable.isEmpty then nodes else stable)
      else if stable.isEmpty then canaries
      else if draw < canary.weight then canaries
      else stable := by
  cases phase : canary.phase <;> simp [splits, phase] at split <;> simp only [pickPool, phase, Leader.scored]

theorem pick_pool_split (cfg : Settings) (canary : Canary) (draw : ℚ) (nodes : List NodeDict) (split : splits canary = true)
    (readable : ∀ node ∈ nodes, isCanary cfg canary node ≠ none) :
    pickPool cfg canary draw nodes = some (nodes.filter (onSide cfg canary draw nodes)) := by
  have known : ∀ node ∈ nodes, isCanary cfg canary node = some (decide (isCanary cfg canary node = some true)) := by
    intro node member
    obtain ⟨tagged, same⟩ := Option.ne_none_iff_exists'.mp (readable node member)
    rw [same]
    cases tagged <;> rfl
  rw [pick_pool_tagged cfg canary draw nodes split, Leader.scored_each _ _ nodes known, Option.map_some]
  simp only [marked_members, unmarked_members, Option.some.injEq]
  have sides (keep : NodeDict → Bool) (same : ∀ node ∈ nodes, keep node = onSide cfg canary draw nodes node) :
      nodes.filter keep = nodes.filter (onSide cfg canary draw nodes) := List.filter_congr same
  by_cases unmarked : ∀ node ∈ nodes, ¬ isCanary cfg canary node = some true
  · -- All nodes are stable.
    have canaries : nodes.filter (fun node => decide (isCanary cfg canary node = some true)) = [] := by
      simpa [List.filter_eq_nil_iff] using unmarked
    have stable : nodes.filter (fun node => !decide (isCanary cfg canary node = some true)) = nodes := by
      simpa [List.filter_eq_self] using unmarked
    have whole : nodes.filter (onSide cfg canary draw nodes) = nodes := by
      rw [List.filter_eq_self]
      intro node member
      rw [onSide, if_neg (unmarked node member)]
      simpa using Or.inr unmarked
    rw [canaries, stable, whole]
    simp
  · by_cases all : ∀ node ∈ nodes, isCanary cfg canary node = some true
    · -- All nodes are canaries.
      have canaries : nodes.filter (fun node => decide (isCanary cfg canary node = some true)) = nodes := by
        simpa [List.filter_eq_self] using all
      have stable : nodes.filter (fun node => !decide (isCanary cfg canary node = some true)) = [] := by
        simpa [List.filter_eq_nil_iff] using all
      have whole : nodes.filter (onSide cfg canary draw nodes) = nodes := by
        rw [List.filter_eq_self]
        intro node member
        rw [onSide, if_pos (all node member)]
        simpa using Or.inr all
      rw [canaries, stable, whole]
      simp
    · have someCanary : ¬ (nodes.filter fun node => decide (isCanary cfg canary node = some true)).isEmpty = true := by
        simpa [List.isEmpty_iff, List.filter_eq_nil_iff] using unmarked
      have someStable : ¬ (nodes.filter fun node => !decide (isCanary cfg canary node = some true)).isEmpty = true := by
        simpa [List.isEmpty_iff, List.filter_eq_nil_iff] using all
      rw [if_neg someCanary, if_neg someStable]
      have mixed : (nodes.all fun other => decide (isCanary cfg canary other = some true)) = false := by
        rw [← Bool.not_eq_true, List.all_eq_true]
        simpa using all
      have mixedStable : (nodes.all fun other => decide (isCanary cfg canary other ≠ some true)) = false := by
        rw [← Bool.not_eq_true, List.all_eq_true]
        simpa using unmarked
      by_cases heads : draw < canary.weight
      · rw [if_pos heads]
        refine sides _ fun node _ => ?_
        rw [onSide, mixed, mixedStable]
        by_cases tagged : isCanary cfg canary node = some true <;> simp [tagged, heads]
      · rw [if_neg heads]
        refine sides _ fun node _ => ?_
        rw [onSide, mixed, mixedStable]
        by_cases tagged : isCanary cfg canary node = some true <;> simp [tagged, heads]

theorem pick_pool_unreadable (cfg : Settings) (canary : Canary) (draw : ℚ) (nodes : List NodeDict) (split : splits canary = true)
    (node : NodeDict) (member : node ∈ nodes) (unreadable : isCanary cfg canary node = none) :
    pickPool cfg canary draw nodes = none := by
  rw [pick_pool_tagged cfg canary draw nodes split, (Leader.scored_none_iff _ nodes).mpr ⟨node, member, unreadable⟩, Option.map_none]

theorem narrow_region_blank (cfg : Settings) (nodes : List NodeDict) (preferredRegion : Option String)
    (blank : preferredRegion = none ∨ preferredRegion = some "") : narrowRegion cfg preferredRegion nodes = some nodes := by
  rcases blank with rfl | rfl <;> rfl

theorem narrow_region_placed (cfg : Settings) (region : String) (named : region ≠ "") (nodes : List NodeDict) :
    narrowRegion cfg (some region) nodes = (Leader.scored (regionOf cfg) nodes).map fun placed =>
      let regional := (placed.filter fun entry => decide (entry.2 = cfg.normal (.str region))).map Prod.fst
      if regional.isEmpty then nodes else regional := by
  simp only [narrowRegion, Leader.scored, regionOf, Option.map_map, Function.comp_def]

theorem narrow_region_named (cfg : Settings) (region : String) (named : region ≠ "") (nodes : List NodeDict)
    (readable : ∀ node ∈ nodes, regionOf cfg node ≠ none) :
    narrowRegion cfg (some region) nodes =
      some (if (nodes.filter (inRegion cfg region)).isEmpty then nodes else nodes.filter (inRegion cfg region)) := by
  have known : ∀ node ∈ nodes, regionOf cfg node = some ((regionOf cfg node).getD "") := by
    intro node member
    obtain ⟨place, same⟩ := Option.ne_none_iff_exists'.mp (readable node member)
    rw [same, Option.getD_some]
  rw [narrow_region_placed cfg region named nodes, Leader.scored_each _ _ nodes known, Option.map_some]
  have regional : ((nodes.map fun node => (node, (regionOf cfg node).getD "")).filter
      fun entry => decide (entry.2 = cfg.normal (.str region))).map Prod.fst = nodes.filter (inRegion cfg region) := by
    rw [List.filter_map, List.map_map]
    refine (List.map_id _).trans (List.filter_congr fun node member => ?_)
    simp only [Function.comp_apply, inRegion]
    obtain ⟨place, same⟩ := Option.ne_none_iff_exists'.mp (readable node member)
    simp [same]
  simp only [regional]

theorem narrow_region_unreadable (cfg : Settings) (region : String) (named : region ≠ "") (nodes : List NodeDict)
    (node : NodeDict) (member : node ∈ nodes) (unreadable : regionOf cfg node = none) :
    narrowRegion cfg (some region) nodes = none := by
  rw [narrow_region_placed cfg region named nodes, (Leader.scored_none_iff _ nodes).mpr ⟨node, member, unreadable⟩, Option.map_none]

end HuddleCluster.Scheduler
