import HuddleCluster.Ring.PromotionGates

set_option autoImplicit false

namespace HuddleCluster.Ring

open Cluster

namespace Cluster

def Marked (c : Cluster) (serverId : String) : Prop := ∃ m ∈ c.remediator, m.outerRingSince.contains serverId = true

instance (c : Cluster) (serverId : String) : Decidable (c.Marked serverId) :=
  match found : c.remediator with
  | none => isFalse fun marked => by
      obtain ⟨m, member, _⟩ := marked
      rw [found] at member
      cases member
  | some m => decidable_of_iff (m.outerRingSince.contains serverId = true) (by simp [Marked, found])

-- A promotion forgets the mark of a server that is cool.
def Forgets (c : Cluster) (r : Ref) : Prop := c.temperatureOf r ≤ c.coolThreshold ∨ ¬ c.Marked (c.idOf r)

instance (c : Cluster) (r : Ref) : Decidable (c.Forgets r) :=
  inferInstanceAs (Decidable (c.temperatureOf r ≤ c.coolThreshold ∨ ¬ c.Marked (c.idOf r)))

end Cluster

-- The mark of a server the outer ring loses is one that is forgotten: a refill
-- takes no marked server that is hot, and nobody removes a marked server.
def MarksFollow (cfg : Config) (c : Cluster) : Op → Prop
  | .removeServer serverId =>
      (c.innerRing.any (c.hasId serverId) = true → ∀ r ∈ c.refilled cfg, c.Forgets r) ∧
        (c.innerRing.any (c.hasId serverId) = false → c.outerRing.any (c.hasId serverId) = true → ¬ c.Marked serverId)
  | _ => True

-- The server has been in the outer ring at every moment since the move during
-- which the wall clock showed the given time.
def RestingSince (s : History Cluster) (r : Ref) (since : ℚ) : Prop :=
  ∃ recent origin older, s.current :: s.earlier = recent ++ origin :: older ∧ recent ≠ [] ∧
    (∀ state ∈ recent, r ∈ state.outerRing) ∧ ∃ m ∈ origin.remediator, m.time.now = since

-- What check_stale_cooling_ring would return at this moment.
def StaleRest (s : History Cluster) : Prop :=
  ∀ m ∈ s.current.remediator, ∀ found ∈ m.checkStaleCoolingRing.2, ∃ r ∈ s.current.outerRing, s.current.idOf r = found.1 ∧
    ∃ since, RestingSince s r since ∧ found.2.staleDwellSeconds ≤ m.time.now - since

structure Mirrors (a b : Cluster) : Prop where
  ids : b.idOf = a.idOf
  marks : ∀ n ∈ b.remediator, ∀ serverId since, n.outerRingSince.get? serverId = some since →
    (∃ r ∈ b.outerRing, a.idOf r = serverId ∧ ∃ m ∈ a.remediator, m.time.now = since) ∨
      ∃ m ∈ a.remediator, m.outerRingSince.get? serverId = some since ∧
        ∀ r ∈ a.outerRing, a.idOf r = serverId → r ∈ b.outerRing

theorem mirrors_same (a b : Cluster) (ids : b.idOf = a.idOf) (outer : ∀ r ∈ a.outerRing, r ∈ b.outerRing)
    (since : ∀ n ∈ b.remediator, ∃ m ∈ a.remediator, ∀ serverId time, n.outerRingSince.get? serverId = some time →
      m.outerRingSince.get? serverId = some time) : Mirrors a b := by
  refine ⟨ids, ?_⟩
  intro n found serverId time marked
  obtain ⟨m, member, kept⟩ := since n found
  exact Or.inr ⟨m, member, kept serverId time marked, fun r inside _ => outer r inside⟩

theorem mirrors_filed (a b : Cluster) (r : Ref) (ids : b.idOf = a.idOf)
    (pushed : b.outerRing = Heapq.heappush b.temperatureOf a.outerRing r)
    (reported : b.remediator = a.remediator.map fun m => m.afterEviction (a.idOf r)) : Mirrors a b := by
  have members := fun x => (Heapq.heappush_perm b.temperatureOf a.outerRing r).mem_iff (a := x)
  have kept : ∀ x ∈ a.outerRing, x ∈ b.outerRing := fun x inside => pushed ▸ (members x).mpr (List.mem_cons_of_mem r inside)
  have here : r ∈ b.outerRing := pushed ▸ (members r).mpr List.mem_cons_self
  refine ⟨ids, ?_⟩
  intro n found serverId time marked
  rw [reported] at found
  obtain ⟨m, member, rfl⟩ := Option.mem_map.mp found
  rcases (Remediator.filed_eviction m (a.idOf r)).since serverId time marked with earlier | ⟨named, fresh⟩
  · exact Or.inr ⟨m, member, earlier, fun x inside _ => kept x inside⟩
  · exact Or.inl ⟨r, here, named.symm, m, member, fresh.symm⟩

theorem motion_mirrors (a b : Cluster) (moved : Motion a b) : Mirrors a b := by
  cases moved with
  | calm same treated =>
      refine mirrors_same a b same.ids (fun r inside => same.outer ▸ inside) ?_
      intro n found
      rw [Option.mem_def] at found
      rw [found] at treated
      generalize before : a.remediator = was at treated
      cases treated with
      | some treats => exact ⟨_, rfl, treats.since⟩
  | evicted r reason moved reported =>
      rcases reported with ⟨outer, same⟩ | ⟨pushed, reported⟩
      · exact mirrors_same a b moved.ids (fun x inside => outer ▸ inside) fun n found =>
          ⟨n, same ▸ found, fun _ _ marked => marked⟩
      · exact mirrors_filed a b r moved.ids pushed reported
  | drained serverId drain moved reported => exact mirrors_filed a b drain.server moved.ids moved.outer reported

theorem recovery_since (m : Remediator) (serverId : String) :
    (m.recordRecovery serverId).outerRingSince = m.outerRingSince.erase serverId := by
  unfold Remediator.recordRecovery
  simp only
  split <;> rfl

theorem lifted_mirrors (a b : Cluster) (r : Ref) (forgets : a.Forgets r) (lifted : Lifted a b r) : Mirrors a b := by
  have left : ∀ x ∈ a.outerRing, x ≠ r → x ∈ b.outerRing := by
    intro x inside other
    have members := (Heapq.heappop_perm _ _ _ _ lifted.popped).mem_iff.mp inside
    exact (List.mem_cons.mp members).resolve_left other
  refine ⟨lifted.ids, ?_⟩
  intro n found serverId time marked
  -- Whether the recovery was recorded or not, the entry is another server's.
  have spared : ∃ m ∈ a.remediator, m.outerRingSince.get? serverId = some time ∧ serverId ≠ a.idOf r := by
    rw [lifted.remediator] at found
    split at found <;> rename_i cooled
    · obtain ⟨m, member, rfl⟩ := Option.mem_map.mp found
      rw [recovery_since, Dict.get_erase] at marked
      split at marked
      · cases marked
      · exact ⟨m, member, marked, by assumption⟩
    · refine ⟨n, found, marked, ?_⟩
      rintro rfl
      exact (forgets.resolve_left cooled) ⟨n, found, by rw [Dict.contains, marked]; rfl⟩
  obtain ⟨m, member, earlier, other⟩ := spared
  refine Or.inr ⟨m, member, earlier, ?_⟩
  intro x inside named
  exact left x inside fun same => other (same ▸ named.symm)

theorem promoted_mirrors (cfg : Config) (a b : Cluster) (r : Ref) (permitted : a.promotable cfg r = true) (lifted : Lifted a b r) :
    Mirrors a b := by
  refine lifted_mirrors a b r (Or.inl ?_) lifted
  simp only [promotable, Bool.and_eq_true] at permitted
  exact of_decide_eq_true permitted.2

theorem forgets_lifted (a b : Cluster) (r x : Ref) (lifted : Lifted a b r) (forgets : a.Forgets x) : b.Forgets x := by
  unfold Forgets at *
  rw [lifted.temperatures, lifted.cool, lifted.ids]
  refine forgets.imp_right fun unmarked marked => unmarked ?_
  obtain ⟨n, found, there⟩ := marked
  rw [lifted.remediator] at found
  split at found
  · obtain ⟨m, member, rfl⟩ := Option.mem_map.mp found
    refine ⟨m, member, ?_⟩
    rw [Dict.contains, recovery_since, Dict.get_erase] at there
    split at there
    · cases there
    · exact there
  · exact ⟨n, found, there⟩

theorem remove_mirrors (cfg : Config) (c : Cluster) (serverId : String) (follow : MarksFollow cfg c (.removeServer serverId)) :
    (c :: c.removeTrail cfg serverId).IsChain Mirrors := by
  unfold removeTrail
  split
  · rename_i present
    obtain ⟨x, member, named⟩ := List.any_eq_true.mp present
    have shorter := List.length_eraseP_of_mem member named
    have erased : Mirrors c { c with innerRing := c.innerRing.eraseP (c.hasId serverId) } :=
      mirrors_same _ _ rfl (fun _ inside => inside) fun n found => ⟨n, found, fun _ _ marked => marked⟩
    refine List.isChain_cons_cons.mpr ⟨erased, ?_⟩
    apply pull_linked cfg Mirrors Forgets
    · exact fun a b r forgets lifted _ => lifted_mirrors a b r forgets lifted
    · exact fun a b r x lifted _ forgets => forgets_lifted a b r x lifted forgets
    · intro r picked
      rw [shorter] at picked
      exact follow.1 present r picked
  · rename_i absent
    refine List.isChain_pair.mpr ?_
    rw [removeServer, if_neg absent]
    split
    · rename_i present
      have unmarked := follow.2 (by simpa using absent) present
      refine ⟨rfl, ?_⟩
      intro n found other time marked
      have different : other ≠ serverId := by
        rintro rfl
        exact unmarked ⟨n, found, by rw [Dict.contains, marked]; rfl⟩
      refine Or.inr ⟨n, found, marked, ?_⟩
      intro r inside named
      have heaped := Heapq.heapify_perm c.temperatureOf (c.outerRing.eraseP (c.hasId serverId))
      refine heaped.mem_iff.mpr ((List.mem_eraseP_of_neg ?_).mpr inside)
      simpa [hasId, named] using different
    · exact mirrors_same _ _ rfl (fun _ inside => inside) fun n found => ⟨n, found, fun _ _ marked => marked⟩

theorem add_mirrors (cfg : Config) (c : Cluster) (r : Ref) (forceInner : Bool) : Mirrors c (c.addServer cfg r forceInner) := by
  have added := added_add_server cfg c r forceInner
  have remediator : (c.addServer cfg r forceInner).remediator = c.remediator := by
    unfold addServer
    simp only
    split
    · rfl
    · split <;> rfl
  refine mirrors_same _ _ added.ids ?_ fun n found => ⟨n, remediator ▸ found, fun _ _ marked => marked⟩
  intro x inside
  rcases added.placed with ⟨_, _, outer, _⟩ | ⟨_, outer, _⟩
  · exact outer ▸ inside
  · exact outer ▸ (Heapq.heappush_perm c.temperatureOf c.outerRing r).mem_iff.mpr (List.mem_cons_of_mem r inside)

theorem routine_mirrors (cfg : Config) (c : Cluster) (op : Op) (routine : op.routine = true) (other : op.remediates = false) :
    Mirrors c (step cfg c op) := by
  have same := still_step cfg c op routine
  have kept := backdrop_step cfg c op routine other
  exact mirrors_same c _ same.ids (fun r inside => same.outer ▸ inside) fun n found =>
    ⟨n, kept.remediator ▸ found, fun _ _ marked => marked⟩

theorem mirrors_links (cfg : Config) : Links cfg Mirrors :=
  links_of_motion cfg Mirrors motion_mirrors fun a b r permitted lifted _ => promoted_mirrors cfg a b r permitted lifted

theorem trail_mirrors (cfg : Config) (c : Cluster) (op : Op) (follow : MarksFollow cfg c op) :
    (c :: c.trail cfg op).IsChain Mirrors := by
  cases op with
  | addServer r forceInner => exact List.isChain_pair.mpr (add_mirrors cfg c r forceInner)
  | removeServer serverId => exact remove_mirrors cfg c serverId follow
  | forceEvict serverId =>
      refine List.isChain_pair.mpr ?_
      rw [step, forceEvict]
      split
      · exact mirrors_same _ _ rfl (fun _ inside => inside) fun n found => ⟨n, found, fun _ _ marked => marked⟩
      · exact motion_mirrors _ _ (motion_evicted cfg c _ .manual)
  | rotate => exact rotate_linked cfg Mirrors (mirrors_links cfg) c
  | checkDrainingServers => exact check_linked cfg Mirrors (mirrors_links cfg) c
  | triggerRemediation serverId policy =>
      have treated : Motion c (c.triggerRemediation serverId policy) :=
        .calm ⟨.refl _, rfl, rfl, rfl, fun _ => rfl⟩
          (treated_map c _ _ (fun m => Remediator.treated_trigger m serverId policy) rfl) rfl
      exact List.isChain_pair.mpr (motion_mirrors c _ treated)
  | clearRemediationQuarantine serverId =>
      refine List.isChain_pair.mpr ⟨rfl, ?_⟩
      intro n found other time marked
      obtain ⟨m, member, rfl⟩ := Option.mem_map.mp found
      simp only [Remediator.clearQuarantine, Dict.get_erase] at marked
      split at marked
      · cases marked
      · exact Or.inr ⟨m, member, marked, fun r inside _ => inside⟩
  | _ => exact List.isChain_pair.mpr (routine_mirrors cfg c _ rfl rfl)

def MarksRest (s : History Cluster) : Prop :=
  ∀ m ∈ s.current.remediator, ∀ serverId since, m.outerRingSince.get? serverId = some since →
    ∃ r ∈ s.current.outerRing, s.current.idOf r = serverId ∧ RestingSince s r since

theorem resting_visit (s : History Cluster) (state : Cluster) (r : Ref) (since : ℚ) (resting : RestingSince s r since)
    (inside : r ∈ state.outerRing) : RestingSince (s.visit state) r since := by
  obtain ⟨recent, origin, older, whole, _, always, read⟩ := resting
  refine ⟨state :: recent, origin, older, ?_, by simp, List.forall_mem_cons.mpr ⟨inside, always⟩, read⟩
  exact congrArg (List.cons state) whole

theorem marks_visit (s : History Cluster) (state : Cluster) (rest : MarksRest s) (linked : Mirrors s.current state) :
    MarksRest (s.visit state) := by
  intro n found serverId time marked
  rcases linked.marks n found serverId time marked with ⟨r, inside, named, read⟩ | ⟨m, member, earlier, stays⟩
  · refine ⟨r, inside, (congrFun linked.ids r).trans named, [state], s.current, s.earlier, rfl, by simp, ?_, read⟩
    exact List.forall_mem_singleton.mpr inside
  · obtain ⟨r, inside, named, resting⟩ := rest m member serverId time earlier
    have still := stays r inside named
    exact ⟨r, still, (congrFun linked.ids r).trans named, resting_visit s state r time resting still⟩

theorem stale_rest (s : History Cluster) (rest : MarksRest s) : StaleRest s := by
  intro m found entry returned
  unfold Remediator.checkStaleCoolingRing at returned
  split at returned
  · simp only [List.mem_flatMap, List.mem_map, List.mem_filter, decide_eq_true_eq] at returned
    obtain ⟨policy, _, mark, ⟨listed, dwelt⟩, rfl⟩ := returned
    obtain ⟨r, inside, named, resting⟩ := rest m found mark.1 mark.2 ((Dict.get_mem _ _ _).mpr listed)
    exact ⟨r, inside, named, mark.2, resting, dwelt⟩
  · cases returned

-- At every moment of a run in which the marks follow their servers, the check
-- for stale servers returns resting servers only.
theorem stale_servers_rest (cfg : Config) (start : Cluster) (ops : List Op) (s : History Cluster)
    (unmarked : ∀ m ∈ start.remediator, m.outerRingSince = .empty)
    (run : PromotionRun cfg (fun s op => MarksFollow cfg s.current op) ⟨start, []⟩ ops s) :
    ClusterRun cfg (fun _ _ => True) start ops s.current ∧ s.Everywhere StaleRest := by
  have first : MarksRest ⟨start, []⟩ := by
    intro m found serverId time marked
    rw [unmarked m found] at marked
    cases marked
  constructor
  · exact History.run_current (Cluster.trail cfg) (step cfg) (trail_last cfg) _ _ s ops run
  · refine History.run_everywhere (Cluster.trail cfg) (fun s op => MarksFollow cfg s.current op) Mirrors MarksRest StaleRest
      ?_ ?_ start s ops first (stale_rest _ first) run
    · exact fun s op _ follow => trail_mirrors cfg s.current op follow
    · intro s state rest linked
      have kept := marks_visit s state rest linked
      exact ⟨kept, stale_rest _ kept⟩

instance (cfg : Config) (c : Cluster) (op : Op) : Decidable (MarksFollow cfg c op) :=
  match op with
  | .removeServer serverId =>
      inferInstanceAs (Decidable ((c.innerRing.any (c.hasId serverId) = true → ∀ r ∈ c.refilled cfg, c.Forgets r) ∧
        (c.innerRing.any (c.hasId serverId) = false → c.outerRing.any (c.hasId serverId) = true → ¬ c.Marked serverId)))
  | .addServer .. | .forceEvict .. | .rotate | .checkDrainingServers | .updateRamps | .getServer .. | .getServerContext ..
  | .requestWithRetry .. | .setMetrics .. | .updateTemperature .. | .recordLatency .. | .batchRecordLatency ..
  | .recordTokens .. | .recordStreaming .. | .canaryProbe .. | .loadState .. | .recordHardwareTelemetry ..
  | .startTrafficRamp .. | .stopTrafficRamp .. | .clearAffinity .. | .triggerRemediation .. | .clearRemediationQuarantine .. =>
      isTrue trivial

def stalePolicy : RemediationPolicy := 
  { name := "stale", trigger := .staleOuterRing, actionType := .pythonCallback, actionCallback := true }

def stalingCluster : Cluster :=
  .empty smallestRing (fun r => { id := toString r }) none
    (some { policies := [stalePolicy], time := ⟨fun ticks => 60 * ticks, 0⟩, reports := fun _ _ => ⟨.returned true, []⟩ }) none
    ⟨fun ticks => 60 * ticks, 0⟩

theorem staling_unmarked : ∀ m ∈ stalingCluster.remediator, m.outerRingSince = .empty := by
  intro m found
  cases found
  rfl

-- A server that was evicted and then removed is remediated a minute later.
theorem removed_server_stale : ∃ s ∈ Runs.follow (History.next (Cluster.trail smallestRing)) (fun _ _ => True) ⟨stalingCluster, []⟩
    [.addServer 0 true, .addServer 1 true, .forceEvict "0", .removeServer "0"],
    s.current.allServers = [1] ∧ ∃ m ∈ s.current.remediator, m.checkStaleCoolingRing.2 = [("0", stalePolicy)] :=
  ⟨_, rfl, by decide +kernel, _, rfl, by decide +kernel⟩

def restingRun : List Op :=
  [.addServer 0 true, .addServer 1 true, .addServer 2 false, .forceEvict "0", .removeServer "2", .rotate, .forceEvict "1",
    .clearRemediationQuarantine "0", .removeServer "0", .rotate]

theorem stale_servers_rest_refill : ∃ s ∈ Runs.follow (History.next (Cluster.trail smallestRing))
    (fun s op => MarksFollow smallestRing s.current op) ⟨stalingCluster, []⟩ restingRun, s.Everywhere StaleRest := by
  have taken : (Runs.follow (History.next (Cluster.trail smallestRing)) (fun s op => MarksFollow smallestRing s.current op)
      ⟨stalingCluster, []⟩ restingRun).isSome = true := by decide +kernel
  obtain ⟨s, reached⟩ := Option.isSome_iff_exists.mp taken
  exact ⟨s, reached, (stale_servers_rest smallestRing stalingCluster restingRun s staling_unmarked
    (Runs.follow_run _ _ _ s _ reached)).2⟩

end HuddleCluster.Ring
