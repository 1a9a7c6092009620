import HuddleCluster.Lib.Labels
import HuddleCluster.Master.Leave
import HuddleCluster.Scheduler.Listing

set_option autoImplicit false

namespace HuddleCluster.Topology

open Master (NodeRecord Registry RegistryUpdate listNodes)
open Scheduler (dict?)

-- A normal value is str(value).strip().lower().
structure Settings where
  master : Master.Settings
  normal : Json → String

def Settings.name (cfg : Settings) (text : String) : String := cfg.normal (.str text)

def metadataOf (nodes : Registry) (nodeId : String) : Option Json := (nodes.nodes.get? nodeId).map NodeRecord.metadata

def Changed (before after : Registry) (nodeId : String) : Prop :=
  metadataOf after nodeId ≠ none ∧ metadataOf after nodeId ≠ metadataOf before nodeId

instance (before after : Registry) (nodeId : String) : Decidable (Changed before after nodeId) :=
  inferInstanceAs (Decidable (metadataOf after nodeId ≠ none ∧ metadataOf after nodeId ≠ metadataOf before nodeId))

def labelsIn (read : List (String × Json) → List String) (metadata : Json) : List String :=
  match dict? metadata with
  | none => []
  | some fields => read fields

def Names (read : List (String × Json) → List String) (nodes : Registry) (nodeId label : String) : Prop :=
  ∃ metadata ∈ metadataOf nodes nodeId, label ∈ labelsIn read metadata

instance (read : List (String × Json) → List String) (nodes : Registry) (nodeId label : String) :
    Decidable (Names read nodes nodeId label) :=
  inferInstanceAs (Decidable (∃ metadata ∈ metadataOf nodes nodeId, label ∈ labelsIn read metadata))

-- _sync_from_metadata of both managers. Metadata that is neither empty nor an object
-- has no get, so the refresh ends there.
def syncFrom (read : List (String × Json) → List String) : List NodeRecord → Labels String String → Labels String String
  | [], labels => labels
  | node :: rest, labels =>
      match dict? node.metadata with
      | none => labels
      | some fields => syncFrom read rest (Labels.addAll labels (read fields) node.nodeId)

-- The listing is in the order of the ids.
def aliveNodes (nodes : Registry) (registered : Finset String) : List NodeRecord :=
  if registered = ∅ then []
  else (listNodes nodes).filter fun node => decide (node.nodeId ∈ registered) && decide (node.status = .alive)

theorem mem_alive_nodes (nodes : Registry) (registered : Finset String) (node : NodeRecord) :
    node ∈ aliveNodes nodes registered ↔
      node.nodeId ∈ registered ∧ nodes.nodes.get? node.nodeId = some node ∧ node.status = .alive := by
  rw [aliveNodes]
  split
  · rename_i unregistered
    simp [unregistered]
  · rw [List.mem_filter, Master.mem_list_nodes]
    simp only [Bool.and_eq_true, decide_eq_true_eq]
    tauto

theorem names_of_listed (read : List (String × Json) → List String) (nodes : Registry) (nodeId label : String) :
    Names read nodes nodeId label ↔ ∃ node ∈ listNodes nodes, node.nodeId = nodeId ∧ label ∈ labelsIn read node.metadata := by
  constructor
  · rintro ⟨metadata, found, named⟩
    obtain ⟨node, held, rfl⟩ := Option.map_eq_some_iff.mp found
    have keyed := nodes.keyed nodeId node held
    exact ⟨node, (Master.mem_list_nodes nodes node).mpr (keyed ▸ held), keyed, named⟩
  · rintro ⟨node, listed, rfl, named⟩
    exact ⟨node.metadata, by simp [metadataOf, (Master.mem_list_nodes nodes node).mp listed], named⟩

-- A refresh adds what the metadata of the nodes names, and removes nothing.
theorem sync_only (read : List (String × Json) → List String) (nodes : List NodeRecord) (labels : Labels String String)
    (nodeId label : String) (member : nodeId ∈ Labels.members (syncFrom read nodes labels) label) :
    nodeId ∈ Labels.members labels label ∨ ∃ node ∈ nodes, node.nodeId = nodeId ∧ label ∈ labelsIn read node.metadata := by
  induction nodes generalizing labels with
  | nil => exact Or.inl member
  | cons node rest ih =>
      rw [syncFrom] at member
      split at member
      · exact Or.inl member
      · rename_i fields read'
        rcases ih _ member with before | later
        · rcases (Labels.mem_add_all _ _ _ _ _).mp before with here | old
          · exact Or.inr ⟨node, by simp, here.2.symm, by simp [labelsIn, read', here.1]⟩
          · exact Or.inl old
        · obtain ⟨other, inside, found⟩ := later
          exact Or.inr ⟨other, List.mem_cons_of_mem _ inside, found⟩

theorem sync_keeps (read : List (String × Json) → List String) (nodes : List NodeRecord) (labels : Labels String String)
    (nodeId label : String) (member : nodeId ∈ Labels.members labels label) :
    nodeId ∈ Labels.members (syncFrom read nodes labels) label := by
  induction nodes generalizing labels with
  | nil => exact member
  | cons node rest ih =>
      rw [syncFrom]
      split
      · exact member
      · exact ih _ ((Labels.mem_add_all _ _ _ _ _).mpr (Or.inr member))

theorem sync_names (read : List (String × Json) → List String) (nodes : List NodeRecord) (labels : Labels String String)
    (whole : ∀ node ∈ nodes, (dict? node.metadata).isSome = true) (node : NodeRecord) (listed : node ∈ nodes) (label : String)
    (named : label ∈ labelsIn read node.metadata) : node.nodeId ∈ Labels.members (syncFrom read nodes labels) label := by
  induction nodes generalizing labels with
  | nil => cases listed
  | cons head rest ih =>
      rw [syncFrom]
      split
      · rename_i absent
        have present := whole head (by simp)
        rw [absent] at present
        cases present
      · rename_i fields found
        rcases List.mem_cons.mp listed with rfl | later
        · simp only [labelsIn, found] at named
          exact sync_keeps read rest _ _ _ ((Labels.mem_add_all _ _ _ _ _).mpr (Or.inl ⟨named, rfl⟩))
        · exact ih _ (fun other inside => whole other (List.mem_cons_of_mem _ inside)) later

theorem unchanged_names (read : List (String × Json) → List String) (before after : Registry) (nodeId label : String)
    (unchanged : ¬ Changed before after nodeId) (there : metadataOf after nodeId ≠ none) :
    Names read after nodeId label ↔ Names read before nodeId label := by
  have same : metadataOf after nodeId = metadataOf before nodeId := by
    by_contra other
    exact unchanged ⟨there, other⟩
  rw [Names, Names, same]

def lowerCase : Settings where
  master := {}
  normal := fun value => match value with
    | .str text => Text.strip text
    | _ => ""

def joined (nodeId : String) (metadata : List (String × Json)) : RegistryUpdate :=
  .receive (.join 0 (.obj [("node_id", .str nodeId), ("address", .str "10.0.0.1"), ("port", .int 8080), ("metadata", .obj metadata)]) none)

end HuddleCluster.Topology
