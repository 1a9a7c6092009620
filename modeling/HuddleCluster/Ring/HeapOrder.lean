import HuddleCluster.Lib.HeapqOrder
import HuddleCluster.Ring.MoveChains

set_option autoImplicit false

namespace HuddleCluster.Ring

namespace Cluster

def CoolestFirst (c : Cluster) : Prop := ∀ r ∈ c.outerRing.head?, ∀ x ∈ c.outerRing, c.temperatureOf r ≤ c.temperatureOf x

instance (c : Cluster) : Decidable c.CoolestFirst := by
  unfold CoolestFirst
  infer_instance

def Heaped (c : Cluster) : Prop := Heapq.Ordered c.temperatureOf c.outerRing

-- The cluster once an operation has written temperatures in place, before it
-- moves any server.
def rewritten (cfg : Config) (c : Cluster) : Op → Cluster
  | .addServer _ _ | .removeServer _ | .forceEvict _ | .checkDrainingServers => c
  | .rotate => c.beginRotate
  | op => step cfg c op

-- The servers the first step of rotate sends out for their absolute latency,
-- with a temperature of at least 0.8.
def reheated (cfg : Config) (c : Cluster) : List Ref :=
  ((c.beginRotate.toEvict cfg c.adaptThresholds.now).filter fun entry => decide (entry.2 = .absoluteLatency)).map Prod.fst

-- No operation puts a server of the outer ring out of order with its parent or
-- children in the heap. The second part matters for an object added twice,
-- which can be in both rings at once.
def Undisturbed (cfg : Config) (c : Cluster) (op : Op) : Prop :=
  Heapq.Fits c.temperatureOf (c.rewritten cfg op).temperatureOf c.outerRing ∧
    (op matches .rotate → ∀ r ∈ c.reheated cfg, r ∈ c.outerRing → 8 / 10 ≤ c.beginRotate.temperatureOf r)

instance (cfg : Config) (c : Cluster) (op : Op) : Decidable (c.Undisturbed cfg op) := by
  unfold Undisturbed
  infer_instance

end Cluster

theorem heaped_coolest (c : Cluster) (heaped : c.Heaped) : c.CoolestFirst :=
  fun r head x member => Heapq.ordered_head c.temperatureOf c.outerRing r heaped head x member

theorem evicted_heaped (c d : Cluster) (r : Ref) (reason : EvictionReason) (heaped : c.Heaped)
    (cold : reason = .absoluteLatency → r ∈ c.outerRing → 8 / 10 ≤ c.temperatureOf r) (moved : Evicted c d r reason) :
    d.Heaped := by
  have same : ∀ x ∈ c.outerRing, d.temperatureOf x = c.temperatureOf x := by
    intro x member
    by_cases here : x = r
    · subst here
      rw [moved.temperature]
      split
      · rename_i latency
        exact max_eq_left (cold latency member)
      · rfl
    · exact (moved.others x here).2
  have kept := Heapq.ordered_congr c.temperatureOf d.temperatureOf c.outerRing same heaped
  rcases moved.placed with ⟨outer, _, _⟩ | ⟨outer, _⟩
  · rw [Cluster.Heaped, outer]
    exact Heapq.heappush_ordered d.temperatureOf c.outerRing r kept
  · rwa [Cluster.Heaped, outer]

theorem move_heaped (cfg : Config) (c d : Cluster) (heaped : c.Heaped) (moved : Move cfg steady c d) : d.Heaped := by
  cases moved with
  | calm same => rwa [Cluster.Heaped, same.temperatures, same.outer]
  | evicted r reason permitted _ moved => exact evicted_heaped c d r reason heaped (fun latency => absurd latency permitted) moved
  | promoted r _ moved =>
      rw [Cluster.Heaped, moved.temperatures]
      exact Heapq.heappop_ordered c.temperatureOf c.outerRing d.outerRing r moved.popped heaped
  | drained serverId drain moved =>
      rw [Cluster.Heaped, moved.outer]
      exact Heapq.heappush_ordered d.temperatureOf c.outerRing drain.server (moved.temperatures ▸ heaped)

theorem moves_heaped (cfg : Config) (c d : Cluster) (heaped : c.Heaped) (moved : Moves cfg steady c d) : d.Heaped := by
  induction moved with
  | refl => exact heaped
  | tail _ step ih => exact move_heaped cfg _ _ ih step

-- A server that is sent out for its latency and comes up again in the list was
-- raised to 0.8 the first time, so raising it again changes nothing.
theorem evict_all_heaped (cfg : Config) (evicted : List (Ref × EvictionReason)) (c : Cluster) (heaped : c.Heaped)
    (single : ∀ entry ∈ evicted, ∀ other ∈ evicted, entry.1 = other.1 → entry.2 = other.2)
    (cold : ∀ entry ∈ evicted, entry.2 = .absoluteLatency → entry.1 ∈ c.outerRing → 8 / 10 ≤ c.temperatureOf entry.1) :
    (c.evictAll cfg evicted).Heaped := by
  induction evicted generalizing c with
  | nil => exact heaped
  | cons entry rest ih =>
      have moved := evicted_move_to_outer cfg c entry.1 entry.2
      have kept := evicted_heaped _ _ _ _ heaped (cold entry (by simp)) moved
      refine ih _ kept (fun a inside b => single a (List.mem_cons_of_mem entry inside) b ∘ List.mem_cons_of_mem entry) ?_
      intro other member latency outside
      by_cases here : other.1 = entry.1
      · have reason := single other (List.mem_cons_of_mem entry member) entry (by simp) here
        rw [here, moved.temperature, if_pos (reason ▸ latency)]
        exact le_max_right _ _
      · rw [(moved.others other.1 here).2]
        refine cold other (List.mem_cons_of_mem entry member) latency ?_
        rcases moved.placed with ⟨outer, _, _⟩ | ⟨outer, _⟩
        · rw [outer] at outside
          rcases List.mem_cons.mp ((Heapq.heappush_perm _ _ _).mem_iff.mp outside) with same | before
          · exact absurd same here
          · exact before
        · exact outer ▸ outside

theorem to_evict_single (cfg : Config) (c : Cluster) (now : ℚ) :
    ∀ entry ∈ c.toEvict cfg now, ∀ other ∈ c.toEvict cfg now, entry.1 = other.1 → entry.2 = other.2 := by
  have reason : ∀ entry ∈ c.toEvict cfg now, c.evictionCandidate cfg now entry.1 = some entry.2 := by
    intro entry member
    have candidate := List.mem_of_mem_take member
    simp only [Cluster.candidates, List.mem_filterMap, Option.map_eq_some_iff] at candidate
    obtain ⟨r, _, reason, found, rfl⟩ := candidate
    exact found
  intro entry member other others same
  have here := reason entry member
  rw [same, reason other others] at here
  exact (Option.some.inj here).symm

theorem rotate_step1_heaped (cfg : Config) (c : Cluster) (heaped : c.Heaped) (undisturbed : c.Undisturbed cfg .rotate) :
    (c.rotateStep1 cfg).Heaped := by
  have quiet := quiet_begin_rotate c
  have fused : c.beginRotate.Heaped := by
    rw [Cluster.Heaped, quiet.outer]
    exact Heapq.fits_ordered _ _ _ undisturbed.1 heaped
  refine evict_all_heaped cfg _ c.beginRotate fused (to_evict_single cfg c.beginRotate _) ?_
  intro entry member latency outside
  rw [quiet.outer] at outside
  exact undisturbed.2 rfl entry.1 (List.mem_map.mpr ⟨entry, by simp [member, latency], rfl⟩) outside

theorem removed_heaped (cfg : Config) (c d : Cluster) (serverId : String) (result : Bool) (heaped : c.Heaped)
    (removed : Removed cfg c serverId d result) : d.Heaped := by
  cases removed with
  | inner d _ pulled =>
      have erased : Cluster.Heaped { c with innerRing := c.innerRing.eraseP (c.hasId serverId) } := heaped
      exact moves_heaped cfg _ d erased pulled
  | outer _ _ => exact Heapq.heapify_ordered c.temperatureOf _
  | missing _ _ => exact heaped

theorem step_heaped (cfg : Config) (c : Cluster) (op : Op) (heaped : c.Heaped) (undisturbed : c.Undisturbed cfg op) :
    (step cfg c op).Heaped := by
  cases op with
  | addServer r forceInner =>
      have added := added_add_server cfg c r forceInner
      change (c.addServer cfg r forceInner).Heaped
      rcases added.placed with ⟨_, _, outer, _⟩ | ⟨_, outer, _⟩
      · rwa [Cluster.Heaped, added.temperatures, outer]
      · rw [Cluster.Heaped, added.temperatures, outer]
        exact Heapq.heappush_ordered c.temperatureOf c.outerRing r heaped
  | removeServer serverId => exact removed_heaped cfg c _ serverId _ heaped (removed_remove_server cfg c serverId)
  | forceEvict serverId => exact moves_heaped cfg c _ heaped (moves_force_evict cfg c serverId)
  | rotate => exact moves_heaped cfg _ _ (rotate_step1_heaped cfg c heaped undisturbed) (moves_rotate_rest cfg c)
  | checkDrainingServers => exact moves_heaped cfg c _ heaped (moves_check_draining cfg c)
  | _ =>
      rw [Cluster.Heaped, (still_step cfg c _ rfl).outer]
      exact Heapq.fits_ordered _ _ _ undisturbed.1 heaped

-- In a run that never disturbs the heap in place, the head is the coolest
-- server: for the emergency server, for every server pulled in after a
-- removal, and for every server a rotation promotes.
theorem coolest_first (cfg : Config) (objects : Ref → Server) (adaptive : Option AdaptiveThresholdController)
    (remediator : Option Remediator) (hardwareManager : Option HardwareTelemetryManager) (monotonic : Clock)
    (ops : List Op) (c : Cluster)
    (run : ClusterRun cfg (Cluster.Undisturbed cfg) (.empty cfg objects adaptive remediator hardwareManager monotonic) ops c) :
    c.CoolestFirst ∧ (∀ r ∈ c.emergencyServer, ∀ x ∈ c.outerRing, c.temperatureOf r ≤ c.temperatureOf x) ∧
      (∀ serverId turns, (Cluster.pullFromOuter cfg turns
        { c with innerRing := c.innerRing.eraseP (c.hasId serverId) }).CoolestFirst) ∧
      (c.Undisturbed cfg .rotate → ∀ turns, (Cluster.promoteCooled cfg turns (c.rotateStep1 cfg)).CoolestFirst) := by
  have heaped : c.Heaped := by
    refine Runs.run_invariant (next cfg) (Cluster.Undisturbed cfg) Cluster.Heaped ?_ _ c ops ?_ run
    · intro state op after heaped undisturbed taken
      cases taken
      exact step_heaped cfg state op heaped undisturbed
    · intro pos _ _ a b atA
      simp [Cluster.empty] at atA
  refine ⟨heaped_coolest c heaped, ?_, ?_, ?_⟩
  · intro r chosen x member
    cases outer : c.outerRing with
    | nil => simp [outer] at member
    | cons first rest =>
        have head : c.outerRing.head? = some r := by simpa [Cluster.emergencyServer, outer] using chosen
        exact heaped_coolest c heaped r head x member
  · intro serverId turns
    have erased : Cluster.Heaped { c with innerRing := c.innerRing.eraseP (c.hasId serverId) } := heaped
    exact heaped_coolest _ (moves_heaped cfg _ _ erased (moves_pull cfg turns _))
  · intro undisturbed turns
    exact heaped_coolest _ (moves_heaped cfg _ _ (rotate_step1_heaped cfg c heaped undisturbed) (moves_promote_cooled cfg turns _))

def probedRun : Option Cluster :=
  Runs.follow (next {}) (fun _ _ => True)
    (.empty {} (fun r => { id := toString r }) none none none ⟨fun ticks => ticks, 0⟩)
    [.addServer 0 false, .addServer 1 false, .canaryProbe 0 (some (true, 800))]

theorem probed_head_not_coolest : ¬ ∀ c,
    ClusterRun {} (fun _ _ => True) (.empty {} (fun r => { id := toString r }) none none none ⟨fun ticks => ticks, 0⟩)
      [.addServer 0 false, .addServer 1 false, .canaryProbe 0 (some (true, 800))] c → c.CoolestFirst := by
  intro claim
  obtain ⟨c, reached, warm⟩ : ∃ c ∈ probedRun, ¬ c.CoolestFirst := by decide +kernel
  exact warm (claim c (Runs.follow_run _ _ _ c _ reached))

def undisturbedRun : Option Cluster :=
  Runs.follow (next smallestRing) (Cluster.Undisturbed smallestRing)
    (.empty smallestRing (fun r => { id := toString r, temperature := r }) none none none ⟨fun ticks => ticks, 0⟩)
    [.addServer 0 true, .addServer 2 false, .addServer 1 false, .recordLatency 0 900, .forceEvict "0", .rotate]

theorem coolest_first_undisturbed : ∃ c ∈ undisturbedRun,
    c.CoolestFirst ∧ (∀ r ∈ c.emergencyServer, ∀ x ∈ c.outerRing, c.temperatureOf r ≤ c.temperatureOf x) ∧
      (∀ serverId turns, (Cluster.pullFromOuter { minInnerSize := 1 } turns
        { c with innerRing := c.innerRing.eraseP (c.hasId serverId) }).CoolestFirst) ∧
      (c.Undisturbed { minInnerSize := 1 } .rotate → ∀ turns,
        (Cluster.promoteCooled { minInnerSize := 1 } turns (c.rotateStep1 { minInnerSize := 1 })).CoolestFirst) := by
  have taken : undisturbedRun.isSome = true := by decide +kernel
  obtain ⟨c, reached⟩ := Option.isSome_iff_exists.mp taken
  exact ⟨c, reached, coolest_first { minInnerSize := 1 } _ _ _ _ _ _ c (Runs.follow_run _ _ _ c _ reached)⟩

end HuddleCluster.Ring
