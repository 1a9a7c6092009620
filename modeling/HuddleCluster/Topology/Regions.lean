import HuddleCluster.Topology.Metadata

set_option autoImplicit false

namespace HuddleCluster.Topology

open Master (NodeRecord Registry RegistryUpdate listNodes)

structure RegionSettings extends Settings where
  preferredRegion : Option String := none
  fallbackToGlobal : Bool := true

def regionNames (cfg : Settings) (fields : List (String × Json)) : List String :=
  let raw := Json.get fields "region"
  if raw.truthy && cfg.normal raw != "" then [cfg.normal raw] else []

-- A manager with its master, and for each node the region that its latest
-- announcement or change of metadata has given it.
structure MultiRegionManager where
  nodes : Registry
  registry : Labels String String
  home : String → Option String

inductive RegionEvent where
  | announce (nodeId region : String)
  | refresh
  | update (event : RegistryUpdate)

namespace MultiRegionManager

def start (nodes : Registry) (cfg : Settings) : MultiRegionManager where
  nodes := nodes
  registry := .empty
  home := fun nodeId => (metadataOf nodes nodeId).bind fun metadata => (labelsIn (regionNames cfg) metadata).head?

def announce (cfg : Settings) (s : MultiRegionManager) (nodeId region : String) : MultiRegionManager :=
  { s with
    registry := Labels.add s.registry (cfg.name region) nodeId
    home := Function.update s.home nodeId (some (cfg.name region)) }

def refresh (cfg : Settings) (s : MultiRegionManager) : MultiRegionManager :=
  { s with registry := syncFrom (regionNames cfg) (listNodes s.nodes) s.registry }

def update (cfg : Settings) (s : MultiRegionManager) (event : RegistryUpdate) : MultiRegionManager :=
  let after := s.nodes.update cfg.master event
  { s with
    nodes := after
    home := fun nodeId =>
      if Changed s.nodes after nodeId then
        (metadataOf after nodeId).bind fun metadata => (labelsIn (regionNames cfg) metadata).head?
      else s.home nodeId }

def next (cfg : Settings) (s : MultiRegionManager) : RegionEvent → Option MultiRegionManager
  | .announce nodeId region => some (s.announce cfg nodeId region)
  | .refresh => some (s.refresh cfg)
  | .update event => some (s.update cfg event)

def aliveNodesForRegion (cfg : Settings) (s : MultiRegionManager) (region : String) : List NodeRecord :=
  aliveNodes s.nodes (Labels.members s.registry (cfg.name region))

def target (cfg : RegionSettings) (region : Option String) : String :=
  cfg.name (((region.filter fun name => name != "").or (cfg.preferredRegion.filter fun name => name != "")).getD "")

def preferredNodes (cfg : RegionSettings) (s : MultiRegionManager) (region : Option String) : List NodeRecord :=
  let everywhere := (listNodes s.nodes).filter fun node => decide (node.status = .alive)
  if target cfg region = "" then everywhere
  else
    let regional := s.aliveNodesForRegion cfg.toSettings (target cfg region)
    if !regional.isEmpty then regional else if cfg.fallbackToGlobal then everywhere else []

-- Nodes are listed in their region only, and also where one is preferred, unless the
-- whole cluster stands in for a region without alive nodes.
structure InOneRegion (cfg : RegionSettings) (s : MultiRegionManager) : Prop where
  listed : ∀ region, ∀ node ∈ s.aliveNodesForRegion cfg.toSettings region, s.home node.nodeId = some (cfg.name region)
  preferred : ∀ region, target cfg region ≠ "" →
    (cfg.fallbackToGlobal = true → s.aliveNodesForRegion cfg.toSettings (target cfg region) ≠ []) →
      ∀ node ∈ s.preferredNodes cfg region, s.home node.nodeId = some (cfg.name (target cfg region))

-- An announcement or a change of metadata gives a node no other region than the ones
-- it is listed in, and an announcement none other than its metadata.
def Settled (cfg : Settings) (s : MultiRegionManager) : RegionEvent → Prop
  | .announce nodeId region => ∀ other, nodeId ∈ Labels.members s.registry other ∨ Names (regionNames cfg) s.nodes nodeId other →
      other = cfg.name region
  | .refresh => True
  | .update event => ∀ node ∈ listNodes (s.nodes.update cfg.master event),
      Changed s.nodes (s.nodes.update cfg.master event) node.nodeId →
        ∀ other, node.nodeId ∈ Labels.members s.registry other →
        Names (regionNames cfg) (s.nodes.update cfg.master event) node.nodeId other

def AtHome (cfg : Settings) (s : MultiRegionManager) : Prop :=
  ∀ nodeId region, nodeId ∈ Labels.members s.registry region ∨ Names (regionNames cfg) s.nodes nodeId region →
    s.home nodeId = some region

end MultiRegionManager

open MultiRegionManager

theorem region_single (cfg : Settings) (metadata : Json) (region : String) (named : region ∈ labelsIn (regionNames cfg) metadata) :
    (labelsIn (regionNames cfg) metadata).head? = some region := by
  simp only [labelsIn] at named ⊢
  split at named
  · cases named
  · simp only [regionNames] at named ⊢
    split at named
    · rename_i raw
      rw [if_pos raw, List.head?_cons, List.mem_singleton.mp named]
    · cases named

theorem named_home (cfg : Settings) (nodes : Registry) (nodeId region : String) (named : Names (regionNames cfg) nodes nodeId region) :
    ((metadataOf nodes nodeId).bind fun metadata => (labelsIn (regionNames cfg) metadata).head?) = some region := by
  obtain ⟨metadata, found, member⟩ := named
  rw [Option.mem_def.mp found, Option.bind_some]
  exact region_single cfg metadata region member

theorem at_home_announce (cfg : Settings) (s : MultiRegionManager) (nodeId region : String) (atHome : s.AtHome cfg)
    (settled : s.Settled cfg (.announce nodeId region)) : (s.announce cfg nodeId region).AtHome cfg := by
  intro query other held
  simp only [announce, Labels.mem_add] at held ⊢
  by_cases here : query = nodeId
  · subst here
    have same : other = cfg.name region := by
      rcases held with (added | member) | named
      · exact added.1
      · exact settled other (Or.inl member)
      · exact settled other (Or.inr named)
    rw [Function.update_self, same]
  · rw [Function.update_of_ne here]
    apply atHome
    simpa [here] using held

theorem at_home_refresh (cfg : Settings) (s : MultiRegionManager) (atHome : s.AtHome cfg) : (s.refresh cfg).AtHome cfg := by
  intro nodeId region held
  apply atHome nodeId region
  rcases held with member | named
  · exact (sync_only _ _ _ _ _ member).imp_right (names_of_listed _ _ _ _).mpr
  · exact Or.inr named

theorem at_home_update (cfg : Settings) (s : MultiRegionManager) (event : RegistryUpdate) (atHome : s.AtHome cfg)
    (settled : s.Settled cfg (.update event)) : (s.update cfg event).AtHome cfg := by
  intro nodeId region held
  by_cases changed : Changed s.nodes (s.nodes.update cfg.master event) nodeId
  · have named : Names (regionNames cfg) (s.nodes.update cfg.master event) nodeId region := by
      rcases held with member | named
      · obtain ⟨metadata, found⟩ := Option.ne_none_iff_exists'.mp changed.1
        obtain ⟨node, there, _⟩ := Option.map_eq_some_iff.mp found
        obtain rfl := (s.nodes.update cfg.master event).keyed nodeId node there
        exact settled node ((Master.mem_list_nodes _ node).mpr there) changed region member
      · exact named
    simp only [update, changed, if_true]
    exact named_home cfg _ nodeId region named
  · simp only [update, changed, if_false]
    apply atHome nodeId region
    rcases held with member | named
    · exact Or.inl member
    · have there : metadataOf (s.nodes.update cfg.master event) nodeId ≠ none := by
        obtain ⟨metadata, found, _⟩ := named
        have known : metadataOf (s.nodes.update cfg.master event) nodeId = some metadata := found
        rw [known]
        exact Option.some_ne_none metadata
      exact Or.inr ((unchanged_names _ _ _ _ _ changed there).mp named)

theorem at_home_step (cfg : Settings) (s after : MultiRegionManager) (event : RegionEvent) (atHome : s.AtHome cfg)
    (settled : s.Settled cfg event) (taken : s.next cfg event = some after) : after.AtHome cfg := by
  cases event with
  | announce nodeId region => cases taken; exact at_home_announce cfg s nodeId region atHome settled
  | refresh => cases taken; exact at_home_refresh cfg s atHome
  | update event => cases taken; exact at_home_update cfg s event atHome settled

theorem at_home_in_one_region (cfg : RegionSettings) (s : MultiRegionManager) (atHome : s.AtHome cfg.toSettings) : s.InOneRegion cfg := by
  have listed (region : String) (node : NodeRecord) (member : node ∈ s.aliveNodesForRegion cfg.toSettings region) :
      s.home node.nodeId = some (cfg.name region) :=
    atHome node.nodeId (cfg.name region) (Or.inl ((mem_alive_nodes _ _ _).mp member).1)
  refine ⟨listed, ?_⟩
  intro region named stays node member
  rw [preferredNodes, if_neg named] at member
  simp only at member
  split at member
  · exact listed _ node member
  · rename_i empty
    split at member
    · rename_i fallback
      exact absurd (by simpa using empty) (stays fallback)
    · cases member

-- After every refresh of a run each node is in one region, the one that was given to
-- it last.
theorem regions_exclusive (cfg : RegionSettings) (nodes : Registry) (events : List RegionEvent) (s : MultiRegionManager)
    (run : Runs.Run (MultiRegionManager.next cfg.toSettings) (MultiRegionManager.Settled cfg.toSettings) (.start nodes cfg.toSettings)
      events s) : (s.refresh cfg.toSettings).InOneRegion cfg := by
  apply at_home_in_one_region
  apply at_home_refresh
  apply Runs.run_invariant (MultiRegionManager.next cfg.toSettings) (MultiRegionManager.Settled cfg.toSettings)
    (fun s => s.AtHome cfg.toSettings) _ _ s events _ run
  · exact fun state event after atHome settled taken => at_home_step cfg.toSettings state after event atHome settled taken
  · intro nodeId region held
    refine named_home cfg.toSettings nodes nodeId region ?_
    simpa [MultiRegionManager.start] using held

-- Only regions that have been heard of can have a node.
theorem regions_known (s : MultiRegionManager) (nodeId : String) (fits : String → Prop) :
    (∀ other ∈ s.registry.entries.map Prod.fst, nodeId ∈ Labels.members s.registry other → fits other) ↔
      ∀ other, nodeId ∈ Labels.members s.registry other → fits other :=
  ⟨fun known other member => known other (Labels.member_label _ _ _ member) member, fun all other _ => all other⟩

theorem settled_announce (cfg : Settings) (s : MultiRegionManager) (nodeId region : String) :
    ((∀ other ∈ s.registry.entries.map Prod.fst, nodeId ∈ Labels.members s.registry other → other = cfg.name region) ∧
      ∀ metadata ∈ metadataOf s.nodes nodeId, ∀ other ∈ labelsIn (regionNames cfg) metadata, other = cfg.name region) ↔
    s.Settled cfg (.announce nodeId region) := by
  rw [regions_known s nodeId fun other => other = cfg.name region]
  simp only [Settled, Names, or_imp, forall_and, forall_exists_index, and_imp]
  refine and_congr_right fun _ => ?_
  exact ⟨fun all other metadata found member => all metadata found other member,
    fun all metadata found other member => all other metadata found member⟩

instance (cfg : Settings) (s : MultiRegionManager) (event : RegionEvent) : Decidable (s.Settled cfg event) :=
  match event with
  | .announce nodeId region => decidable_of_iff _ (settled_announce cfg s nodeId region)
  | .refresh => instDecidableTrue
  | .update event =>
      letI : ∀ node : NodeRecord, Decidable (∀ other, node.nodeId ∈ Labels.members s.registry other →
          Names (regionNames cfg) (s.nodes.update cfg.master event) node.nodeId other) :=
        fun node => decidable_of_iff _ (regions_known s node.nodeId _)
      inferInstanceAs (Decidable (∀ node ∈ listNodes (s.nodes.update cfg.master event),
        Changed s.nodes (s.nodes.update cfg.master event) node.nodeId → ∀ other, node.nodeId ∈ Labels.members s.registry other →
          Names (regionNames cfg) (s.nodes.update cfg.master event) node.nodeId other))

def regional (region : String) : RegionEvent := .update (joined "a" [("region", .str region)])

theorem regions_exclusive_announced : ∃ s ∈ Runs.follow (MultiRegionManager.next lowerCase) (MultiRegionManager.Settled lowerCase)
    (.start .empty lowerCase) [regional "us-east", .refresh, .announce "a" "us-east"],
    ((s.refresh lowerCase).aliveNodesForRegion lowerCase "us-east").map NodeRecord.nodeId = ["a"] ∧
      (s.refresh lowerCase).InOneRegion { lowerCase with } := by
  obtain ⟨s, followed, listed⟩ : ∃ s ∈ Runs.follow (MultiRegionManager.next lowerCase) (MultiRegionManager.Settled lowerCase)
      (.start .empty lowerCase) [regional "us-east", .refresh, .announce "a" "us-east"],
      ((s.refresh lowerCase).aliveNodesForRegion lowerCase "us-east").map NodeRecord.nodeId = ["a"] := by decide +kernel
  exact ⟨s, followed, listed, regions_exclusive { lowerCase with } .empty _ s (Runs.follow_run _ _ _ s _ followed)⟩

-- A node that joins again from another region stays listed in the old one.
theorem moved_node_listed : ∃ s ∈ Runs.follow (MultiRegionManager.next lowerCase) (fun _ _ => True) (.start .empty lowerCase)
    [regional "us-east", .refresh, regional "eu-west"], ¬ (s.refresh lowerCase).InOneRegion { lowerCase with } := by
  obtain ⟨s, followed, listed, moved⟩ : ∃ s ∈ Runs.follow (MultiRegionManager.next lowerCase) (fun _ _ => True)
      (.start .empty lowerCase) [regional "us-east", .refresh, regional "eu-west"],
      (∃ node ∈ (s.refresh lowerCase).aliveNodesForRegion lowerCase "us-east", node.nodeId = "a") ∧
        (s.refresh lowerCase).home "a" ≠ some (lowerCase.name "us-east") := by decide +kernel
  refine ⟨s, followed, ?_⟩
  intro exclusive
  obtain ⟨node, member, same⟩ := listed
  exact moved (same ▸ exclusive.listed "us-east" node member)

end HuddleCluster.Topology
