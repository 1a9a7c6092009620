import HuddleCluster.Ring.Promotions

set_option autoImplicit false

namespace HuddleCluster.Ring

open Cluster

-- A server that a rotation evicted as overheated, with its temperature and the
-- threshold it had reached.
structure HeatEviction where
  server : Ref
  temperature : ℚ
  threshold : ℚ

namespace Cluster

def Unchanged (c : Cluster) (e : HeatEviction) : Prop := c.temperatureOf e.server = e.temperature

instance (c : Cluster) (e : HeatEviction) : Decidable (c.Unchanged e) :=
  inferInstanceAs (Decidable (c.temperatureOf e.server = e.temperature))

def heatEviction (c : Cluster) (r : Ref) : HeatEviction :=
  ⟨r, c.temperatureOf r, (c.objects r).effectiveHeatThreshold c.heatThreshold⟩

def heatEvictions (cfg : Config) (c : Cluster) : List HeatEviction :=
  ((c.beginRotate.toEvict cfg c.adaptThresholds.now).filter fun entry => decide (entry.2 = .overheated)).map fun entry =>
    c.beginRotate.heatEviction entry.1

end Cluster

-- A cluster, the evictions since which the temperature of their server has not
-- changed, and the servers that a later rotation has promoted all the same.
structure HeatWatch where
  cluster : Cluster
  evictions : List HeatEviction
  returned : List Ref

namespace HeatWatch

def start (c : Cluster) : HeatWatch := ⟨c, [], []⟩

def standing (cfg : Config) (s : HeatWatch) : List HeatEviction :=
  s.evictions.filter fun e => decide ((s.cluster.rotateStep1 cfg).Unchanged e)

def next (cfg : Config) (s : HeatWatch) (op : Op) : Option HeatWatch :=
  let after := step cfg s.cluster op
  match op with
  | .rotate => some
      { cluster := after
        evictions := (s.standing cfg ++ s.cluster.heatEvictions cfg).filter fun e => decide (after.Unchanged e)
        returned := s.returned ++ (s.cluster.promotedServers cfg).filter fun r => (s.standing cfg).any fun e => e.server == r }
  | _ => some { s with cluster := after, evictions := s.evictions.filter fun e => decide (after.Unchanged e) }

-- The threshold that each of them had reached is above the cool threshold in force.
def KeepsGap (cfg : Config) (s : HeatWatch) : Op → Prop
  | .rotate => ∀ e ∈ s.standing cfg, (s.cluster.rotateStep1 cfg).coolThreshold < e.threshold
  | _ => True

def Reached (s : HeatWatch) : Prop := ∀ e ∈ s.evictions, e.threshold ≤ e.temperature

end HeatWatch

def atTemperature (s : Server) (temperature : ℚ) : Server := { s with temperature := temperature }

theorem never_both_iff (s : Server) (heatThreshold coolThreshold : ℚ) :
    (∀ t, ¬ ((atTemperature s t).isOverheated heatThreshold = true ∧ (atTemperature s t).isCooled coolThreshold = true)) ↔
      coolThreshold < s.effectiveHeatThreshold heatThreshold := by
  have both (t : ℚ) : ((atTemperature s t).isOverheated heatThreshold = true ∧ (atTemperature s t).isCooled coolThreshold = true) ↔
      s.effectiveHeatThreshold heatThreshold ≤ t ∧ t ≤ coolThreshold := by
    simp only [Server.isOverheated, Server.isCooled, decide_eq_true_eq]
    rfl
  simp only [both]
  constructor
  · intro apart
    by_contra overlap
    exact apart coolThreshold ⟨not_lt.mp overlap, le_refl _⟩
  · intro gap t held
    exact absurd (held.1.trans held.2) (not_le.mpr gap)

theorem admitted_cooled (cfg : Config) (c : Cluster) (room ticks : Nat) (moved : Ref → ℚ) (order : List Ref) (r : Ref)
    (member : r ∈ c.admitted cfg room ticks moved order) : c.temperatureOf r ≤ c.coolThreshold := by
  induction order generalizing room ticks moved with
  | nil => cases room <;> simp [admitted] at member
  | cons head rest ih =>
      cases room with
      | zero => simp [admitted] at member
      | succ room =>
          rw [admitted] at member
          split at member
          · rename_i gates
            rcases List.mem_cons.mp member with here | later
            · subst here
              simp only [meetsGates, Bool.and_eq_true, Server.isCooled, decide_eq_true_eq] at gates
              exact gates.2
            · exact ih _ _ _ later
          · cases member

theorem evicted_overheated (cfg : Config) (c : Cluster) (e : HeatEviction) (member : e ∈ c.heatEvictions cfg) :
    e.threshold ≤ e.temperature := by
  obtain ⟨⟨r, reason⟩, chosen, rfl⟩ := List.mem_map.mp member
  obtain ⟨listed, hot⟩ := List.mem_filter.mp chosen
  obtain ⟨x, _, candidate⟩ := List.mem_filterMap.mp (List.mem_of_mem_take listed)
  obtain ⟨why, found, same⟩ := Option.map_eq_some_iff.mp candidate
  obtain ⟨rfl, rfl⟩ := Prod.mk.injEq .. ▸ same
  have overheated : why = .overheated := of_decide_eq_true hot
  subst overheated
  simp only [evictionCandidate] at found
  split at found
  · simp at found
  · split at found
    · rename_i test
      simp only [Bool.and_eq_true, Server.isOverheated, decide_eq_true_eq] at test
      exact test.1
    · cases found

theorem reached_step (cfg : Config) (s after : HeatWatch) (op : Op) (reached : s.Reached)
    (taken : HeatWatch.next cfg s op = some after) : after.Reached := by
  intro e member
  cases op with
  | rotate =>
      cases taken
      rcases List.mem_append.mp (List.mem_filter.mp member).1 with standing | evicted
      · exact reached e (List.mem_filter.mp standing).1
      · exact evicted_overheated cfg s.cluster e evicted
  | _ =>
      cases taken
      exact reached e (List.mem_filter.mp member).1

theorem none_returned (cfg : Config) (s : HeatWatch) (reached : s.Reached) (gap : s.KeepsGap cfg .rotate) :
    ((s.cluster.promotedServers cfg).filter fun r => (s.standing cfg).any fun e => e.server == r) = [] := by
  rw [List.filter_eq_nil_iff]
  intro r promoted returned
  obtain ⟨e, standing, same⟩ := List.any_eq_true.mp returned
  obtain ⟨evicted, unchanged⟩ := List.mem_filter.mp standing
  have here : e.server = r := by simpa using same
  have temperature : (s.cluster.rotateStep1 cfg).temperatureOf e.server = e.temperature := of_decide_eq_true unchanged
  rw [promoted_admitted] at promoted
  have cooled := admitted_cooled cfg _ _ _ _ _ r promoted
  rw [← here, temperature] at cooled
  exact absurd ((reached e evicted).trans cooled) (not_le.mpr (gap e standing))

theorem returned_step (cfg : Config) (s after : HeatWatch) (op : Op) (reached : s.Reached) (unreturned : s.returned = [])
    (gap : s.KeepsGap cfg op) (taken : HeatWatch.next cfg s op = some after) : after.returned = [] := by
  cases op with
  | rotate =>
      cases taken
      simp only [unreturned, List.nil_append]
      exact none_returned cfg s reached gap
  | _ =>
      cases taken
      exact unreturned

-- Weighted hysteresis: no temperature passes both tests exactly if the gap is
-- there, and while rotations keep the gap they take no overheated server back.
theorem weighted_hysteresis (cfg : Config) (c : Cluster) (ops : List Op) (s : HeatWatch)
    (run : Runs.Run (HeatWatch.next cfg) (HeatWatch.KeepsGap cfg) (HeatWatch.start c) ops s) :
    (∀ (server : Server) (heatThreshold coolThreshold : ℚ),
      (∀ t, ¬ ((atTemperature server t).isOverheated heatThreshold = true ∧
      (atTemperature server t).isCooled coolThreshold = true)) ↔
        coolThreshold < server.effectiveHeatThreshold heatThreshold) ∧ s.returned = [] := by
  refine ⟨never_both_iff, ?_⟩
  refine (Runs.run_invariant (HeatWatch.next cfg) (HeatWatch.KeepsGap cfg) (fun s => s.Reached ∧ s.returned = []) ?_ _ s ops ?_ run).2
  · intro state op after held gap taken
    exact ⟨reached_step cfg state after op held.1 taken, returned_step cfg state after op held.1 held.2 gap taken⟩
  · exact ⟨fun e member => absurd member List.not_mem_nil, rfl⟩

instance (cfg : Config) (s : HeatWatch) (op : Op) : Decidable (s.KeepsGap cfg op) :=
  match op with
  | .rotate => inferInstanceAs (Decidable (∀ e ∈ s.standing cfg, (s.cluster.rotateStep1 cfg).coolThreshold < e.threshold))
  | .addServer .. | .removeServer .. | .forceEvict .. | .checkDrainingServers | .updateRamps | .getServer .. | .getServerContext ..
  | .requestWithRetry .. | .setMetrics .. | .updateTemperature .. | .recordLatency .. | .batchRecordLatency .. | .recordTokens ..
  | .recordStreaming .. | .canaryProbe .. | .loadState .. | .recordHardwareTelemetry .. | .startTrafficRamp .. | .stopTrafficRamp ..
  | .clearAffinity .. | .triggerRemediation .. | .clearRemediationQuarantine .. => instDecidableTrue

def warmCluster (temperature weight : ℚ) (weightPos : 0 < weight) : Cluster :=
  .empty smallestRing
    (fun r => { id := toString r, temperature := if r = 0 then temperature else 0, weight := weight, weightPos := weightPos })
    none none none ⟨fun ticks => if ticks < 6 then 100 else 200, 0⟩

def twoRotations : List Op := [.addServer 0 true, .addServer 1 true, .rotate, .rotate]

theorem half_pos : (0 : ℚ) < 1 / 2 := by norm_num

theorem weighted_hysteresis_kept : ∃ s ∈ Runs.follow (HeatWatch.next smallestRing) (HeatWatch.KeepsGap smallestRing)
    (.start (warmCluster (6 / 10) 1 default_weight_pos)) twoRotations,
    s.evictions.map HeatEviction.server = [0] ∧ s.returned = [] := by
  obtain ⟨s, reached, evicted⟩ : ∃ s ∈ Runs.follow (HeatWatch.next smallestRing) (HeatWatch.KeepsGap smallestRing)
      (.start (warmCluster (6 / 10) 1 default_weight_pos)) twoRotations, s.evictions.map HeatEviction.server = [0] := by
    decide +kernel
  exact ⟨s, reached, evicted, (weighted_hysteresis smallestRing _ twoRotations s (Runs.follow_run _ _ _ s _ reached)).2⟩

-- At weight 1 / 2 a temperature of 3 / 10 passes both tests, and the server is
-- evicted and taken back.
theorem overheated_and_cooled :
    ((warmCluster (3 / 10) (1 / 2) half_pos).objects 0).isOverheated smallestRing.heatThreshold = true ∧
      ((warmCluster (3 / 10) (1 / 2) half_pos).objects 0).isCooled smallestRing.coolThreshold = true ∧
      ∃ s ∈ Runs.follow (HeatWatch.next smallestRing) (fun _ _ => True) (.start (warmCluster (3 / 10) (1 / 2) half_pos)) twoRotations,
        s.returned = [0] := by
  decide +kernel

end HuddleCluster.Ring
