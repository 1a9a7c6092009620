import HuddleCluster.Lib.Outage
import HuddleCluster.Topology.Regions
import HuddleCluster.Topology.Services

set_option autoImplicit false

namespace HuddleCluster.Topology

-- A manager that keeps nodes under labels, services or regions, which it checks one
-- after the other.
structure Manager (μ ε : Type) where
  next : μ → ε → Option μ
  labels : μ → List String
  distinct : ∀ manager, (labels manager).Nodup
  isUp : μ → String → Bool

def services (cfg : Settings) : Manager ServiceDiscovery ServiceEvent where
  next := ServiceDiscovery.next cfg
  labels s := s.registry.entries.map Prod.fst
  distinct s := s.registry.nodup
  isUp s label := !(s.aliveNodesFor cfg label).isEmpty

def regions (cfg : Settings) : Manager MultiRegionManager RegionEvent where
  next := MultiRegionManager.next cfg
  labels s := s.registry.entries.map Prod.fst
  distinct s := s.registry.nodup
  isUp s label := !(s.aliveNodesForRegion cfg label).isEmpty

-- Where the thread stands in _check_service_health or _check_health: the labels still to
-- check, and one that was looked up and is not yet compared. The names, the round and the
-- calls of the callbacks are not in the program.
structure Watch (μ : Type) where
  manager : μ
  up : Finset String := ∅
  rest : List String := []
  measured : Option (String × Bool) := none
  names : List String := []
  round : List (String × Bool) := []
  levels : List (String × Bool) := []
  calls : List (String × Bool) := []

inductive WatchEvent (ε : Type) where
  | manage (event : ε)
  | check
  | measure
  | compare

namespace Watch

variable {μ ε : Type}

def compare (s : Watch μ) (label : String) (isUp : Bool) : Watch μ :=
  let seen := { s with measured := none, round := s.round ++ [(label, isUp)], levels := s.levels ++ [(label, isUp)] }
  if isUp = true ∧ label ∉ s.up then { seen with up := insert label s.up, calls := s.calls ++ [(label, true)] }
  else if isUp = false ∧ label ∈ s.up then { seen with up := s.up.erase label, calls := s.calls ++ [(label, false)] }
  else seen

def next (m : Manager μ ε) (s : Watch μ) : WatchEvent ε → Option (Watch μ)
  | .manage event => (m.next s.manager event).map fun manager => { s with manager := manager }
  | .check =>
      if s.rest = [] ∧ s.measured = none then some { s with rest := m.labels s.manager, names := m.labels s.manager, round := [] }
      else none
  | .measure =>
      match s.rest, s.measured with
      | label :: rest, none => some { s with rest := rest, measured := some (label, m.isUp s.manager label) }
      | _, _ => none
  | .compare => s.measured.map fun (label, isUp) => s.compare label isUp

abbrev WatchRun (m : Manager μ ε) := Runs.Run (Watch.next m) fun _ _ => True

def ofLabel (entries : List (String × Bool)) (label : String) : List Bool :=
  entries.filterMap fun entry => if entry.1 = label then some entry.2 else none

theorem of_label_snoc (entries : List (String × Bool)) (label query : String) (isUp : Bool) :
    ofLabel (entries ++ [(label, isUp)]) query = ofLabel entries query ++ if label = query then [isUp] else [] := by
  rw [ofLabel, List.filterMap_append]
  congr 1
  split <;> simp [*]

theorem compare_spec (s : Watch μ) (label query : String) (isUp : Bool) :
    (query ∈ (s.compare label isUp).up ↔ if label = query then isUp = true else query ∈ s.up) ∧
      ofLabel (s.compare label isUp).calls query =
        if label = query ∧ isUp ≠ decide (query ∈ s.up) then ofLabel s.calls query ++ [isUp] else ofLabel s.calls query := by
  unfold compare
  by_cases same : label = query
  · subst same
    cases isUp <;> by_cases before : label ∈ s.up <;> simp [before, of_label_snoc]
  · cases isUp <;> by_cases before : label ∈ s.up <;> simp [before, same, Ne.symm same, of_label_snoc]

theorem compare_rest (s : Watch μ) (label : String) (isUp : Bool) :
    (s.compare label isUp).measured = none ∧ (s.compare label isUp).rest = s.rest ∧ (s.compare label isUp).names = s.names ∧
      (s.compare label isUp).round = s.round ++ [(label, isUp)] ∧ (s.compare label isUp).levels = s.levels ++ [(label, isUp)] := by
  unfold compare
  split
  · exact ⟨rfl, rfl, rfl, rfl, rfl⟩
  · split <;> exact ⟨rfl, rfl, rfl, rfl, rfl⟩

-- The labels of a round are those that were compared, looked up or not yet come to.
structure Sound (s : Watch μ) : Prop where
  distinct : s.names.Nodup
  whole : s.round.map Prod.fst ++ (s.measured.map Prod.fst).toList ++ s.rest = s.names
  round : ∀ entry ∈ s.round, (entry.1 ∈ s.up ↔ entry.2 = true)
  watching : ∀ label, Outage.Watching false (ofLabel s.levels label) (decide (label ∈ s.up)) (ofLabel s.calls label)

theorem sound_compare (s : Watch μ) (label : String) (isUp : Bool) (sound : s.Sound) (here : s.measured = some (label, isUp)) :
    (s.compare label isUp).Sound := by
  have spec := fun query => compare_spec s label query isUp
  obtain ⟨measured, rest, names, round, levels⟩ := compare_rest s label isUp
  have whole := sound.whole
  rw [here] at whole
  refine ⟨names ▸ sound.distinct, ?_, ?_, ?_⟩
  · rw [measured, rest, names, round, ← whole]
    simp
  · intro entry member
    rw [round] at member
    rcases List.mem_append.mp member with before | new
    · have apart : label ≠ entry.1 := by
        have once := sound.distinct
        rw [← whole, List.append_assoc] at once
        exact fun same => (List.nodup_append.mp once).2.2 entry.1 (List.mem_map_of_mem before) label (by simp) same.symm
      rw [(spec entry.1).1, if_neg apart]
      exact sound.round entry before
    · rw [List.mem_singleton.mp new, (spec label).1, if_pos rfl]
  · intro query
    have before := sound.watching query
    rw [levels, of_label_snoc, (spec query).2]
    by_cases same : label = query
    · subst same
      have level : decide (label ∈ (s.compare label isUp).up) = isUp := by simp [(spec label).1]
      have seen := Outage.watching_seen false _ isUp _ _ before
      rw [level, if_pos rfl]
      by_cases kept : isUp = decide (label ∈ s.up)
      · rw [if_neg (by simp [kept])]
        rwa [if_pos kept] at seen
      · rw [if_pos ⟨rfl, kept⟩]
        rwa [if_neg kept] at seen
    · have level : (query ∈ (s.compare label isUp).up) = (query ∈ s.up) := by simp [(spec query).1, same]
      simp only [level, same, if_false, List.append_nil, false_and]
      exact before

theorem sound_next (m : Manager μ ε) (s : Watch μ) (event : WatchEvent ε) (after : Watch μ) (sound : s.Sound)
    (taken : s.next m event = some after) : after.Sound := by
  cases event with
  | manage event =>
      obtain ⟨manager, _, rfl⟩ := Option.map_eq_some_iff.mp taken
      exact { sound with }
  | check =>
      simp only [next] at taken
      split at taken
      · rename_i idle
        cases taken
        exact ⟨m.distinct s.manager, by simp [idle.2], by simp, sound.watching⟩
      · cases taken
  | measure =>
      simp only [next] at taken
      split at taken
      · rename_i label rest here idle
        cases taken
        have whole := sound.whole
        rw [here, idle] at whole
        exact { sound with whole := by simpa using whole }
      · cases taken
  | compare =>
      obtain ⟨⟨label, isUp⟩, here, rfl⟩ := Option.map_eq_some_iff.mp taken
      exact sound_compare s label isUp sound here

end Watch

open Watch

-- The callbacks for a service or a region alternate, first up and then down, the last of
-- them tells how it stands, and a round that has ended leaves all labels as it found them.
theorem transitions_alternate {μ ε : Type} (m : Manager μ ε) (manager : μ) (events : List (WatchEvent ε)) (s : Watch μ)
    (run : WatchRun m { manager := manager } events s) :
    (∀ label, (false :: ofLabel s.calls label).IsChain (· ≠ ·) ∧
    (ofLabel s.calls label).getLastD false = decide (label ∈ s.up)) ∧
      (s.rest = [] → s.measured = none → ∀ label ∈ s.names, (label, decide (label ∈ s.up)) ∈ s.round) := by
  have sound : s.Sound := by
    refine Runs.run_invariant (Watch.next m) _ Watch.Sound ?_ _ s events ?_ run
    · exact fun state event after held _ taken => sound_next m state event after held taken
    · exact ⟨List.nodup_nil, rfl, by simp, fun label => Outage.watching_fresh false⟩
  refine ⟨fun label => Outage.reports_alternate false _ _ _ (sound.watching label), ?_⟩
  intro ended idle label member
  have whole := sound.whole
  rw [ended, idle] at whole
  simp only [Option.map_none, Option.toList_none, List.append_nil] at whole
  obtain ⟨⟨same, isUp⟩, found, rfl⟩ := List.mem_map.mp (whole ▸ member)
  have level : decide (same ∈ s.up) = isUp := by simp [sound.round _ found]
  exact level ▸ found

-- A node joins under a service and dies.
def joinsAndDies : List (WatchEvent ServiceEvent) :=
  [.manage (.update (joined "a" [("services", .arr [.str "web"])])), .manage .refresh, .check, .measure, .compare,
    .manage (.update (.receive (.tick 100))), .check, .measure, .compare]

theorem transitions_joins_and_dies : ∃ s : Watch ServiceDiscovery, s.calls = [("web", true), ("web", false)] ∧
    ("web", false) ∈ s.round := by
  have followed : ∃ s ∈ Runs.follow (Watch.next (services lowerCase)) (fun _ _ => True) { manager := .start .empty } joinsAndDies,
      s.calls = [("web", true), ("web", false)] ∧ s.rest = [] ∧ s.measured = none ∧ s.names = ["web"] ∧ "web" ∉ s.up := by
    decide +kernel
  obtain ⟨s, reached, calls, ended, idle, names, down⟩ := followed
  have run := Runs.follow_run _ _ _ s _ reached
  have found := (transitions_alternate (services lowerCase) (.start .empty) joinsAndDies s run).2 ended idle "web" (by simp [names])
  exact ⟨s, calls, by simpa [down] using found⟩

end HuddleCluster.Topology
