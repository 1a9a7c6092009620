import HuddleCluster.Topology.Metadata

set_option autoImplicit false

namespace HuddleCluster.Topology

open Master (NodeRecord Registry RegistryUpdate listNodes)
open Scheduler (dict?)

def serviceNames (cfg : Settings) (fields : List (String × Json)) : List String :=
  match Json.get fields "services" with
  | .str text => ((text.splitOn ",").filter fun part => decide (Text.strip part ≠ "")).map cfg.name
  | .arr items => (items.filter Json.truthy).map cfg.normal
  | _ => []

-- A manager with its master, and what has been asked of it: the pairs of a node and a
-- service that were announced, and those that were deregistered since the last
-- announcement or the last change of the metadata.
structure ServiceDiscovery where
  nodes : Registry
  registry : Labels String String
  announced : Finset (String × String)
  deregistered : Finset (String × String)

inductive ServiceEvent where
  | announce (nodeId service : String)
  | deregister (nodeId service : String)
  | refresh
  | update (event : RegistryUpdate)

namespace ServiceDiscovery

def start (nodes : Registry) : ServiceDiscovery := ⟨nodes, .empty, ∅, ∅⟩

def announce (cfg : Settings) (s : ServiceDiscovery) (nodeId service : String) : ServiceDiscovery :=
  { s with
    registry := Labels.add s.registry (cfg.name service) nodeId
    announced := insert (nodeId, cfg.name service) s.announced
    deregistered := s.deregistered.erase (nodeId, cfg.name service) }

def deregister (cfg : Settings) (s : ServiceDiscovery) (nodeId service : String) : ServiceDiscovery :=
  if nodeId ∈ Labels.members s.registry (cfg.name service) then
    { s with
      registry := Labels.discard s.registry (cfg.name service) nodeId
      deregistered := insert (nodeId, cfg.name service) s.deregistered }
  else s

def refresh (cfg : Settings) (s : ServiceDiscovery) : ServiceDiscovery :=
  { s with registry := syncFrom (serviceNames cfg) (listNodes s.nodes) s.registry }

def update (cfg : Settings) (s : ServiceDiscovery) (event : RegistryUpdate) : ServiceDiscovery :=
  let after := s.nodes.update cfg.master event
  { s with
    nodes := after
    deregistered := s.deregistered.filter fun pair => ¬ Changed s.nodes after pair.1 }

def next (cfg : Settings) (s : ServiceDiscovery) : ServiceEvent → Option ServiceDiscovery
  | .announce nodeId service => some (s.announce cfg nodeId service)
  | .deregister nodeId service => some (s.deregister cfg nodeId service)
  | .refresh => some (s.refresh cfg)
  | .update event => some (s.update cfg event)

def aliveNodesFor (cfg : Settings) (s : ServiceDiscovery) (service : String) : List NodeRecord :=
  aliveNodes s.nodes (Labels.members s.registry (cfg.name service))

def Offers (cfg : Settings) (s : ServiceDiscovery) (nodeId service : String) : Prop :=
  (Names (serviceNames cfg) s.nodes nodeId service ∨ (nodeId, service) ∈ s.announced) ∧ (nodeId, service) ∉ s.deregistered

-- The nodes that are listed for a service are the alive ones that offer it.
def Reflects (cfg : Settings) (s : ServiceDiscovery) : Prop :=
  ∀ service node, node ∈ s.aliveNodesFor cfg service ↔
    s.nodes.nodes.get? node.nodeId = some node ∧ node.status = .alive ∧ s.Offers cfg node.nodeId (cfg.name service)

-- A service that the new metadata of a node does not name has the node exactly if it
-- was announced for it.
def Leaves (cfg : Settings) (s : ServiceDiscovery) (after : Registry) (nodeId service : String) : Prop :=
  ¬ Names (serviceNames cfg) after nodeId service → (nodeId ∈ Labels.members s.registry service ↔ (nodeId, service) ∈ s.announced)

-- A node is deregistered from services only that its metadata does not name, and a
-- refresh finds no metadata that it cannot read.
def Orderly (cfg : Settings) (s : ServiceDiscovery) : ServiceEvent → Prop
  | .announce _ _ => True
  | .deregister nodeId service => nodeId ∈ Labels.members s.registry (cfg.name service) →
      ¬ Names (serviceNames cfg) s.nodes nodeId (cfg.name service)
  | .refresh => ∀ node ∈ listNodes s.nodes, (dict? node.metadata).isSome = true
  | .update event => ∀ node ∈ listNodes (s.nodes.update cfg.master event),
      Changed s.nodes (s.nodes.update cfg.master event) node.nodeId →
        ∀ service, s.Leaves cfg (s.nodes.update cfg.master event) node.nodeId service

-- What the next refresh will list is what the nodes offer.
def Accurate (cfg : Settings) (s : ServiceDiscovery) : Prop :=
  ∀ nodeId service, metadataOf s.nodes nodeId ≠ none →
    (nodeId ∈ Labels.members s.registry service ∨ Names (serviceNames cfg) s.nodes nodeId service ↔ s.Offers cfg nodeId service)

end ServiceDiscovery

open ServiceDiscovery

theorem accurate_announce (cfg : Settings) (s : ServiceDiscovery) (nodeId service : String) (accurate : s.Accurate cfg) :
    (s.announce cfg nodeId service).Accurate cfg := by
  intro query label there
  have before := accurate query label there
  simp only [Offers] at before
  by_cases here : (query, label) = (nodeId, cfg.name service)
  · cases here
    simp [announce, Offers]
  · have apart : ¬ (label = cfg.name service ∧ query = nodeId) := fun both => here (by rw [both.1, both.2])
    simp only [announce, Offers, Labels.mem_add, apart, false_or, Finset.mem_insert, here, Finset.mem_erase, ne_eq, not_false_eq_true,
      true_and]
    exact before

theorem accurate_deregister (cfg : Settings) (s : ServiceDiscovery) (nodeId service : String) (accurate : s.Accurate cfg)
    (orderly : s.Orderly cfg (.deregister nodeId service)) : (s.deregister cfg nodeId service).Accurate cfg := by
  rw [deregister]
  split
  · rename_i member
    intro query label there
    have before := accurate query label there
    simp only [Offers] at before
    by_cases here : (query, label) = (nodeId, cfg.name service)
    · cases here
      have unnamed := orderly member
      simp [Offers, unnamed]
    · have apart : ¬ (label = cfg.name service ∧ query = nodeId) := fun both => here (by rw [both.1, both.2])
      simp only [Offers, Labels.mem_discard, apart, not_false_eq_true, and_true, Finset.mem_insert, here, false_or]
      exact before
  · exact accurate

theorem refreshed_members (cfg : Settings) (s : ServiceDiscovery) (nodeId service : String)
    (member : nodeId ∈ Labels.members (s.refresh cfg).registry service) :
    nodeId ∈ Labels.members s.registry service ∨ Names (serviceNames cfg) s.nodes nodeId service := by
  refine (sync_only _ _ _ _ _ member).imp_right ?_
  exact (names_of_listed _ _ _ _).mpr

theorem accurate_refresh (cfg : Settings) (s : ServiceDiscovery) (accurate : s.Accurate cfg) : (s.refresh cfg).Accurate cfg := by
  intro nodeId service there
  have before := accurate nodeId service there
  constructor
  · rintro (member | named)
    · exact before.mp (refreshed_members cfg s nodeId service member)
    · exact before.mp (Or.inr named)
  · intro offers
    refine (before.mpr offers).imp_left ?_
    exact sync_keeps _ _ _ _ _

theorem accurate_update (cfg : Settings) (s : ServiceDiscovery) (event : RegistryUpdate) (accurate : s.Accurate cfg)
    (orderly : s.Orderly cfg (.update event)) : (s.update cfg event).Accurate cfg := by
  intro nodeId service there
  change metadataOf (s.nodes.update cfg.master event) nodeId ≠ none at there
  by_cases changed : Changed s.nodes (s.nodes.update cfg.master event) nodeId
  · obtain ⟨metadata, found⟩ := Option.ne_none_iff_exists'.mp there
    obtain ⟨node, held, rfl⟩ := Option.map_eq_some_iff.mp found
    obtain rfl := (s.nodes.update cfg.master event).keyed nodeId node held
    have leaves := orderly node ((Master.mem_list_nodes _ node).mpr held) changed service
    simp only [Leaves] at leaves
    simp only [update, Offers, Finset.mem_filter, changed, not_true_eq_false, and_false, not_false_eq_true, and_true]
    tauto
  · have same := unchanged_names (serviceNames cfg) s.nodes (s.nodes.update cfg.master event) nodeId service changed there
    have known : metadataOf s.nodes nodeId ≠ none := by
      intro unknown
      exact changed ⟨there, by rw [unknown]; exact there⟩
    have before := accurate nodeId service known
    simp only [Offers] at before
    simp only [update, Offers, Finset.mem_filter, changed, not_false_eq_true, and_true, same]
    exact before

theorem accurate_step (cfg : Settings) (s after : ServiceDiscovery) (event : ServiceEvent) (accurate : s.Accurate cfg)
    (orderly : s.Orderly cfg event) (taken : s.next cfg event = some after) : after.Accurate cfg := by
  cases event with
  | announce nodeId service => cases taken; exact accurate_announce cfg s nodeId service accurate
  | deregister nodeId service => cases taken; exact accurate_deregister cfg s nodeId service accurate orderly
  | refresh => cases taken; exact accurate_refresh cfg s accurate
  | update event => cases taken; exact accurate_update cfg s event accurate orderly

theorem reflects_refresh (cfg : Settings) (s : ServiceDiscovery) (accurate : s.Accurate cfg) (orderly : s.Orderly cfg .refresh) :
    (s.refresh cfg).Reflects cfg := by
  intro service node
  rw [aliveNodesFor, mem_alive_nodes]
  have listed (held : s.nodes.nodes.get? node.nodeId = some node) :
      node.nodeId ∈ Labels.members (s.refresh cfg).registry (cfg.name service) ↔ s.Offers cfg node.nodeId (cfg.name service) := by
    rw [← accurate node.nodeId (cfg.name service) (by simp [metadataOf, held])]
    constructor
    · exact refreshed_members cfg s node.nodeId (cfg.name service)
    · rintro (member | named)
      · exact sync_keeps _ _ _ _ _ member
      · obtain ⟨other, inside, same, named⟩ := (names_of_listed _ _ _ _).mp named
        exact same ▸ sync_names _ _ _ orderly other inside _ named
  constructor
  · rintro ⟨member, held, alive⟩
    exact ⟨held, alive, (listed held).mp member⟩
  · rintro ⟨held, alive, offers⟩
    exact ⟨(listed held).mpr offers, held, alive⟩

-- After every refresh of a run the services list the alive nodes that offer them.
theorem services_reflect (cfg : Settings) (nodes : Registry) (events : List ServiceEvent) (s : ServiceDiscovery)
    (run : Runs.Run (ServiceDiscovery.next cfg) (ServiceDiscovery.Orderly cfg) (.start nodes) events s)
    (orderly : s.Orderly cfg .refresh) : (s.refresh cfg).Reflects cfg := by
  refine reflects_refresh cfg s ?_ orderly
  apply Runs.run_invariant (ServiceDiscovery.next cfg) (ServiceDiscovery.Orderly cfg) (fun s => s.Accurate cfg) _ _ s events _ run
  · exact fun state event after accurate orderly taken => accurate_step cfg state after event accurate orderly taken
  · intro nodeId service _
    simp [ServiceDiscovery.start, Offers]

instance (cfg : Settings) (s : ServiceDiscovery) (after : Registry) (nodeId service : String) :
    Decidable (s.Leaves cfg after nodeId service) :=
  inferInstanceAs (Decidable (¬ Names (serviceNames cfg) after nodeId service →
    (nodeId ∈ Labels.members s.registry service ↔ (nodeId, service) ∈ s.announced)))

-- Only services that have been heard of can be left wrongly.
theorem leaves_known (cfg : Settings) (s : ServiceDiscovery) (after : Registry) (nodeId : String) :
    ((∀ service ∈ s.registry.entries.map Prod.fst, s.Leaves cfg after nodeId service) ∧
      ∀ pair ∈ s.announced, s.Leaves cfg after nodeId pair.2) ↔ ∀ service, s.Leaves cfg after nodeId service := by
  refine ⟨?_, fun all => ⟨fun service _ => all service, fun pair _ => all pair.2⟩⟩
  intro known service
  by_cases key : service ∈ s.registry.entries.map Prod.fst
  · exact known.1 service key
  · by_cases announced : (nodeId, service) ∈ s.announced
    · exact known.2 _ announced
    · exact fun _ => iff_of_false (fun member => key (Labels.member_label _ _ _ member)) announced

instance (cfg : Settings) (s : ServiceDiscovery) (event : ServiceEvent) : Decidable (s.Orderly cfg event) :=
  match event with
  | .announce _ _ => instDecidableTrue
  | .deregister nodeId service => inferInstanceAs (Decidable (nodeId ∈ Labels.members s.registry (cfg.name service) →
      ¬ Names (serviceNames cfg) s.nodes nodeId (cfg.name service)))
  | .refresh => inferInstanceAs (Decidable (∀ node ∈ listNodes s.nodes, (dict? node.metadata).isSome = true))
  | .update event =>
      letI : ∀ node : NodeRecord, Decidable (∀ service, s.Leaves cfg (s.nodes.update cfg.master event) node.nodeId service) :=
        fun node => decidable_of_iff _ (leaves_known cfg s (s.nodes.update cfg.master event) node.nodeId)
      inferInstanceAs (Decidable (∀ node ∈ listNodes (s.nodes.update cfg.master event),
        Changed s.nodes (s.nodes.update cfg.master event) node.nodeId →
          ∀ service, s.Leaves cfg (s.nodes.update cfg.master event) node.nodeId service))

instance (cfg : Settings) (s : ServiceDiscovery) (nodeId service : String) : Decidable (s.Offers cfg nodeId service) :=
  inferInstanceAs (Decidable ((Names (serviceNames cfg) s.nodes nodeId service ∨ (nodeId, service) ∈ s.announced) ∧
    (nodeId, service) ∉ s.deregistered))

-- The node names api, and web is announced for it and withdrawn.
def servedRun : List ServiceEvent :=
  [.update (joined "a" [("services", .arr [.str "api"])]), .announce "a" "web", .refresh, .deregister "a" "web"]

theorem services_reflect_served : ∃ s ∈ Runs.follow (ServiceDiscovery.next lowerCase) (ServiceDiscovery.Orderly lowerCase)
    (.start .empty) servedRun, ((s.refresh lowerCase).aliveNodesFor lowerCase "api").map NodeRecord.nodeId = ["a"] ∧
      (s.refresh lowerCase).Reflects lowerCase := by
  obtain ⟨s, followed, listed, readable⟩ : ∃ s ∈ Runs.follow (ServiceDiscovery.next lowerCase) (ServiceDiscovery.Orderly lowerCase)
      (.start .empty) servedRun, ((s.refresh lowerCase).aliveNodesFor lowerCase "api").map NodeRecord.nodeId = ["a"] ∧
        s.Orderly lowerCase .refresh := by decide +kernel
  exact ⟨s, followed, listed, services_reflect lowerCase .empty servedRun s (Runs.follow_run _ _ _ s _ followed) readable⟩

-- A node that is deregistered from a service that its metadata names comes back.
theorem deregistered_listed : ∃ s ∈ Runs.follow (ServiceDiscovery.next lowerCase) (fun _ _ => True) (.start .empty)
    [.update (joined "a" [("services", .arr [.str "api"])]), .refresh, .deregister "a" "api"],
    ¬ (s.refresh lowerCase).Reflects lowerCase := by
  obtain ⟨s, followed, listed, withdrawn⟩ : ∃ s ∈ Runs.follow (ServiceDiscovery.next lowerCase) (fun _ _ => True) (.start .empty)
      [.update (joined "a" [("services", .arr [.str "api"])]), .refresh, .deregister "a" "api"],
      (∃ node ∈ (s.refresh lowerCase).aliveNodesFor lowerCase "api", node.nodeId = "a") ∧
        ¬ (s.refresh lowerCase).Offers lowerCase "a" (lowerCase.name "api") := by decide +kernel
  refine ⟨s, followed, ?_⟩
  intro reflects
  obtain ⟨node, member, same⟩ := listed
  exact withdrawn (same ▸ ((reflects "api" node).mp member).2.2)

end HuddleCluster.Topology
