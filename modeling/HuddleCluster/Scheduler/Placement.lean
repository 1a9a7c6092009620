import HuddleCluster.Master.NodeMachine
import HuddleCluster.Scheduler.Listing
import HuddleCluster.Scheduler.Safe
import HuddleCluster.Scheduler.Preference

set_option autoImplicit false

namespace HuddleCluster.Scheduler

open ClusterScheduler
open Double (nearest)
open Master (NodeRecord Registry RegistryEvent)

def steadiness (node : NodeRecord) : ℚ := max tenth (nearest (1 / nearest (1 + nearest node.deathCount)))

def trust (node : NodeRecord) : ℚ := if node.status = .quarantined then 1 / 2 else 1

-- The score of a node that has just been seen, for a load factor.
def loaded (node : NodeRecord) (load : ℚ) : ℚ := product 1 (steadiness node) (trust node) load (warmup node.heartbeatCount)

-- The largest score that is rounded to 1.2 or less.
def ceiling : ℚ := 6 / 5 + 1 / 20000

def divisor (rps : ℚ) : ℚ := nearest (1 + nearest (rps / 100))

-- A load hint is no int that is too large for a float, and no -100, where the score is a
-- quotient by zero. Between -100 and 0 it raises the score.
structure LoadFits (node : NodeRecord) (requestsPerSec : Json) : Prop where
  small : requestsPerSec.overflows = false
  apart : ∀ rps, requestsPerSec.toFloat? = some (.finite rps) → divisor rps ≠ 0
  light : ∀ rps, requestsPerSec.toFloat? = some (.finite rps) → 0 < divisor rps → loaded node (nearest (1 / divisor rps)) ≤ ceiling

-- The divisor of −100 and of its neighbours among the doubles.
example : divisor (-100) = 0 ∧ 0 < divisor (-100 + 1 / 2 ^ 46) ∧ divisor (-100 - 1 / 2 ^ 46) < 0 := by decide +kernel

structure Fits (node : NodeRecord) : Prop where
  metrics : ∃ fields, dict? node.metrics = some fields ∧ LoadFits node (Json.get fields "requests_per_sec")
  metadata : dict? node.metadata ≠ none

theorem overflow_float (value : Json) (overflows : value.overflows = true) : value.toFloat? = none := by
  cases value with
  | int number => simp only [Json.toFloat?, if_pos overflows]
  | _ => cases overflows

theorem float_fits (value : Json) (number : Double) (read : value.toFloat? = some number) : value.overflows = false := by
  by_contra large
  rw [overflow_float value (by simpa using large)] at read
  cases read

theorem load_unread (value : Json) (unread : value.toFloat? = none) :
    loadFactor? value = if value.overflows then none else some 1 := by
  cases value with
  | null => rfl
  | _ => simp only [loadFactor?, unread]

theorem load_finite (value : Json) (rps : ℚ) (read : value.toFloat? = some (.finite rps)) :
    loadFactor? value = (divide? 1 (divisor rps)).map fun factor => max tenth (nearest factor) := by
  cases value with
  | null => cases read
  | _ => simp only [loadFactor?, read, divisor]

theorem load_other (value : Json) (number : Double) (read : value.toFloat? = some number) (other : ∀ rps, number ≠ .finite rps) :
    loadFactor? value = some tenth := by
  cases value with
  | null => cases read
  | _ =>
      cases number with
      | finite rps => exact absurd rfl (other rps)
      | infinite negative => simp only [loadFactor?, read]
      | nan => simp only [loadFactor?, read]

theorem product_mono (fresh steady trusted light young fresh' steady' trusted' light' young' : ℚ) (freshPos : 0 ≤ fresh)
    (steadyPos : 0 ≤ steady) (trustedPos : 0 ≤ trusted) (lightPos : 0 ≤ light) (youngPos : 0 ≤ young) (fresher : fresh ≤ fresh')
    (steadier : steady ≤ steady') (surer : trusted ≤ trusted') (lighter : light ≤ light') (younger : young ≤ young') :
    product fresh steady trusted light young ≤ product fresh' steady' trusted' light' young' := by
  have first := Double.nearest_nonneg _ (mul_nonneg freshPos steadyPos)
  have second := Double.nearest_nonneg _ (mul_nonneg first trustedPos)
  have third := Double.nearest_nonneg _ (mul_nonneg second lightPos)
  have one := Double.nearest_mono (mul_le_mul fresher steadier steadyPos (freshPos.trans fresher))
  have two := Double.nearest_mono (mul_le_mul one surer trustedPos (first.trans one))
  have three := Double.nearest_mono (mul_le_mul two lighter lightPos (second.trans two))
  exact Double.nearest_mono (mul_le_mul three younger youngPos (third.trans three))

theorem steadiness_bounds (node : NodeRecord) : 0 ≤ steadiness node ∧ steadiness node ≤ 1 := by
  have deaths : 0 ≤ nearest (node.deathCount : ℚ) := Double.nearest_nonneg _ (Nat.cast_nonneg _)
  have least : 1 ≤ nearest (1 + nearest (node.deathCount : ℚ)) := one_le_divisor _ deaths
  constructor
  · exact tenth_pos.le.trans (le_max_left _ _)
  · have part : 1 / nearest (1 + nearest (node.deathCount : ℚ)) ≤ 1 := (div_le_one (one_pos.trans_le least)).mpr least
    exact max_le (by decide +kernel) ((Double.nearest_mono part).trans Double.nearest_one.le)

theorem trust_bounds (node : NodeRecord) : 0 ≤ trust node ∧ trust node ≤ 1 := by
  rw [trust]
  split <;> norm_num

theorem warmup_le (heartbeats : Nat) : warmup heartbeats ≤ warmup 0 := by
  have beats : 0 ≤ nearest (nearest ((heartbeats : ℤ) : ℚ) / 50) :=
    Double.nearest_nonneg _ (div_nonneg (Double.nearest_nonneg _ (by simp)) (by norm_num))
  have start : nearest (nearest ((0 : ℤ) : ℚ) / 50) = 0 := by decide +kernel
  have bonus : 0 ≤ nearest (2 / 10) := Double.nearest_nonneg _ (by norm_num)
  have less : nearest (1 - nearest (nearest ((heartbeats : ℤ) : ℚ) / 50)) ≤
    nearest (1 - nearest (nearest ((0 : ℤ) : ℚ) / 50)) := by
    apply Double.nearest_mono
    rw [start]
    exact sub_le_sub_left beats 1
  have share := Double.nearest_mono (mul_le_mul_of_nonneg_right (max_le_max_left 0 less) bonus)
  exact Double.nearest_mono (add_le_add_right share 1)

theorem loaded_mono (node : NodeRecord) : Monotone (loaded node) := by
  intro light lighter le
  have first := Double.nearest_nonneg _ (mul_nonneg zero_le_one (steadiness_bounds node).1)
  have second := Double.nearest_nonneg _ (mul_nonneg first (trust_bounds node).1)
  have third := Double.nearest_mono (mul_le_mul_of_nonneg_left le second)
  exact Double.nearest_mono (mul_le_mul_of_nonneg_right third (warmup_nonneg _))

theorem loaded_one (node : NodeRecord) : loaded node 1 ≤ ceiling := by
  obtain ⟨steady, steadyLe⟩ := steadiness_bounds node
  obtain ⟨trusted, trustedLe⟩ := trust_bounds node
  have most : product 1 1 1 1 (warmup 0) ≤ ceiling := by decide +kernel
  exact (product_mono 1 _ _ 1 _ 1 1 1 1 _ zero_le_one steady trusted zero_le_one (warmup_nonneg _) (le_refl 1) steadyLe trustedLe
    (le_refl 1) (warmup_le node.heartbeatCount)).trans most

theorem loaded_tenth (node : NodeRecord) : loaded node tenth ≤ ceiling :=
  (loaded_mono node (by decide +kernel)).trans (loaded_one node)

-- Below −100 the quotient is negative and the factor is its floor.
theorem factor_fits (node : NodeRecord) (rps : ℚ) :
    loaded node (max tenth (nearest (1 / divisor rps))) ≤ ceiling ↔
      (0 < divisor rps → loaded node (nearest (1 / divisor rps)) ≤ ceiling) := by
  rw [(loaded_mono node).map_max, max_le_iff]
  refine ⟨fun within _ => within.2, fun light => ⟨loaded_tenth node, ?_⟩⟩
  by_cases above : 0 < divisor rps
  · exact light above
  · have quotient : nearest (1 / divisor rps) ≤ tenth := by
      have negative := Double.nearest_mono (one_div_nonpos.mpr (not_lt.mp above))
      rw [Double.nearest_zero] at negative
      exact negative.trans tenth_pos.le
    exact (loaded_mono node quotient).trans (loaded_tenth node)

theorem load_fits_iff (node : NodeRecord) (requestsPerSec : Json) :
    LoadFits node requestsPerSec ↔ ∃ load, loadFactor? requestsPerSec = some load ∧ loaded node load ≤ ceiling := by
  cases read : requestsPerSec.toFloat? with
  | none =>
      by_cases overflows : requestsPerSec.overflows = true
      · rw [load_unread requestsPerSec read, if_pos overflows]
        refine iff_of_false (fun fits => ?_) (by simp)
        rw [fits.small] at overflows
        cases overflows
      · rw [load_unread requestsPerSec read, if_neg overflows]
        exact iff_of_true ⟨by simpa using overflows, by simp [read], by simp [read]⟩ ⟨1, rfl, loaded_one node⟩
  | some number =>
      have small := float_fits requestsPerSec number read
      by_cases finite : ∃ rps, number = .finite rps
      · obtain ⟨rps, rfl⟩ := finite
        rw [load_finite requestsPerSec rps read]
        by_cases zero : divisor rps = 0
        · refine iff_of_false (fun fits => fits.apart rps read zero) ?_
          simp [divide?, zero]
        · simp only [divide?, if_neg zero, Option.map_some, Option.some.injEq, exists_eq_left']
          rw [factor_fits]
          constructor
          · exact fun fits => fits.light rps read
          · intro light
            refine ⟨small, fun other same => ?_, fun other same => ?_⟩
            · cases read.symm.trans same
              exact zero
            · cases read.symm.trans same
              exact light
      · have other : ∀ rps, number ≠ .finite rps := fun rps same => finite ⟨rps, same⟩
        rw [load_other requestsPerSec number read other]
        refine iff_of_true ⟨small, fun rps same => ?_, fun rps same => ?_⟩ ⟨tenth, rfl, loaded_tenth node⟩
        · exact absurd (Option.some.inj (read.symm.trans same)) (other rps)
        · exact absurd (Option.some.inj (read.symm.trans same)) (other rps)

theorem round_ceiling (score : ℚ) : nearest (Statistics.roundTo 4 score) ≤ 6 / 5 ↔ score ≤ ceiling := by
  constructor
  · intro rounded
    by_contra more
    rw [not_le, ceiling] at more
    have near := (abs_le.mp (Statistics.round_half_even_near (score * 10 ^ 4))).1
    have scaled : (12000 : ℚ) + 1 / 2 < score * 10 ^ 4 := by linarith
    have step : (12001 / 10000 : ℚ) ≤ Statistics.roundTo 4 score := by
      rw [Statistics.roundTo]
      generalize Statistics.roundHalfEven (score * 10 ^ 4) = units at near
      have above : ((12000 : ℤ) : ℚ) < units := by
        push_cast
        linarith
      have next : ((12001 : ℤ) : ℚ) ≤ units := Int.cast_le.mpr (Int.cast_lt.mp above)
      push_cast at next
      rw [le_div_iff₀ (by norm_num)]
      linarith
    have next : 6 / 5 < nearest (12001 / 10000) := by decide +kernel
    exact absurd (next.trans_le (Double.nearest_mono step)) (not_lt.mpr rounded)
  · intro within
    have edge : nearest (Statistics.roundTo 4 ceiling) ≤ 6 / 5 := by decide +kernel
    exact (Double.nearest_mono (Statistics.round_to_mono 4 score ceiling within)).trans edge

theorem of_status (now : ℚ) (node : NodeRecord) (text : String) :
    (NodeDict.of now node).hasStatus text = (node.status.text == text) := rfl

theorem of_eligible (now : ℚ) (node : NodeRecord) : (NodeDict.of now node).eligible = node.live := by
  simp only [NodeDict.eligible, of_status, NodeRecord.live]
  cases node.status <;> rfl

theorem fitness_of (now : ℚ) (node : NodeRecord) (live : node.live = true) : nodeFitness (.of now node) =
    (dict? node.metrics).bind fun metrics => (loadFactor? (Json.get metrics "requests_per_sec")).map fun load =>
      nearest (Statistics.roundTo 4
        (product (freshness (node.lastSeenAgo now)) (steadiness node) (trust node) load (warmup node.heartbeatCount))) := by
  have status : (NodeDict.of now node).getD "status" (.str "dead") = .str node.status.text := rfl
  have seen : (NodeDict.of now node).getD "last_seen_ago_sec" (.int 0) = .number (node.lastSeenAgo now) := rfl
  have deaths : (NodeDict.of now node).getD "death_count" (.int 0) = .int node.deathCount := rfl
  have beats : (NodeDict.of now node).getD "heartbeat_count" (.int 0) = .int node.heartbeatCount := rfl
  have serving : ¬ (NodeDict.isText (.str node.status.text) "dead" || NodeDict.isText (.str node.status.text) "leaving") = true := by
    cases phase : node.status <;> simp [NodeRecord.live, phase] at live <;> simp [NodeDict.isText, Master.Status.text]
  have quarantined : (if NodeDict.isText (.str node.status.text) "quarantined" then (1 : ℚ) / 2 else 1) = trust node := by
    rw [trust]
    cases node.status <;> rfl
  have least : nearest (1 + nearest (node.deathCount : ℚ)) ≠ 0 :=
    (one_pos.trans_le (one_le_divisor _ (Double.nearest_nonneg _ (Nat.cast_nonneg _)))).ne'
  have steady : stability? node.deathCount = some (steadiness node) := by
    simp only [stability?, divide?, Int.cast_natCast, if_neg least, Option.map_some, steadiness]
  simp only [nodeFitness, status, if_neg serving, seen, deaths, beats, Json.to_rational_finite, Json.toInt?, section_dict, of_metrics,
    steady, quarantined, Option.bind_eq_bind, Option.bind_some]
  congr 1
  funext metrics
  cases loadFactor? (Json.get metrics "requests_per_sec") with
  | none => rfl
  | some load => rfl

def Rated (now : ℚ) (node : NodeRecord) : Prop := ∃ fit, nodeFitness (.of now node) = some fit ∧ 0 ≤ fit ∧ fit ≤ 6 / 5

theorem rated_fits (now : ℚ) (node : NodeRecord) (live : node.live = true) (seen : node.lastHeartbeat ≤ now)
    (fields : List (String × Json)) (readable : dict? node.metrics = some fields)
    (fits : LoadFits node (Json.get fields "requests_per_sec")) : Rated now node := by
  obtain ⟨load, factored, within⟩ := (load_fits_iff node _).mp fits
  have light := load_factor_nonneg _ load factored
  have steady := (steadiness_bounds node).1
  have trusted := (trust_bounds node).1
  have young := warmup_nonneg node.heartbeatCount
  have ago : 0 ≤ node.lastSeenAgo now :=
    Double.nearest_nonneg _ (Statistics.round_to_nonneg 2 _ (Double.nearest_nonneg _ (sub_nonneg.mpr seen)))
  have fresh : freshness (node.lastSeenAgo now) ≤ 1 := by
    have aged : 0 ≤ nearest (node.lastSeenAgo now / 60) := Double.nearest_nonneg _ (div_nonneg ago (by norm_num))
    exact max_le zero_le_one ((Double.nearest_mono (sub_le_self 1 aged)).trans Double.nearest_one.le)
  have young' := freshness_nonneg (node.lastSeenAgo now)
  have score : product (freshness (node.lastSeenAgo now)) (steadiness node) (trust node) load (warmup node.heartbeatCount) ≤ ceiling :=
    (product_mono _ _ _ load _ 1 _ _ load _ young' steady trusted light young fresh (le_refl _) (le_refl _) (le_refl _)
      (le_refl _)).trans within
  refine ⟨_, by rw [fitness_of now node live, readable, Option.bind_some, factored, Option.map_some], ?_, ?_⟩
  · exact Double.nearest_nonneg _ (Statistics.round_to_nonneg 4 _ (product_nonneg _ _ _ _ _ young' steady trusted light young))
  · exact (round_ceiling _).mpr score

-- The listing right after the last heartbeat decides.
theorem fits_rated (node : NodeRecord) (live : node.live = true) (rated : Rated node.lastHeartbeat node) :
    ∃ fields, dict? node.metrics = some fields ∧ LoadFits node (Json.get fields "requests_per_sec") := by
  obtain ⟨fit, computed, _, within⟩ := rated
  have fresh : freshness (node.lastSeenAgo node.lastHeartbeat) = 1 := by
    rw [NodeRecord.lastSeenAgo, sub_self, Double.nearest_zero, Statistics.round_to_zero, Double.nearest_zero]
    decide +kernel
  rw [fitness_of _ node live] at computed
  obtain ⟨fields, readable, computed⟩ := Option.bind_eq_some_iff.mp computed
  obtain ⟨load, factored, rfl⟩ := Option.map_eq_some_iff.mp computed
  rw [fresh, round_ceiling] at within
  exact ⟨fields, readable, (load_fits_iff node _).mpr ⟨load, factored, within⟩⟩

-- A listing that reads the clock no earlier than the last heartbeats did.
def Later (registry : Registry) (now : String → ℚ) : Prop :=
  ∀ id node, registry.nodes.get? id = some node → node.lastHeartbeat ≤ now id

-- No pick on the nodes ends with an exception, whatever else the scheduler has done and
-- does, however the pick and its deployment are set up, while no clock is set far back.
def NeverRaises (registry : Registry) : Prop :=
  ∀ cfg, Halving cfg → ∀ openBreakers canary clock before s,
    PickRun cfg (fun _ _ => True) (.start openBreakers canary clock) before s →
    ∀ now, Later registry now → ∀ time affinityKey preferredRegion begun,
      pickNext cfg s (.pick time (nodes now registry) affinityKey preferredRegion) = some begun →
        ∀ after last, PickRun cfg (Timely cfg) begun after last →
          ∀ call, last.calls[s.calls.length]? = some call → call.phase ≠ .raised

structure Unharmed (registry : Registry) : Prop where
  rated : ∀ now, Later registry now → ∀ id node, registry.nodes.get? id = some node → node.live = true → Rated (now id) node
  picks : NeverRaises registry

theorem eligible_nodes (now : String → ℚ) (registry : Registry) (dict : NodeDict)
    (member : dict ∈ (nodes now registry).filter NodeDict.eligible) :
    ∃ node, registry.nodes.get? node.nodeId = some node ∧ node.live = true ∧ dict = .of (now node.nodeId) node := by
  obtain ⟨listed, eligible⟩ := List.mem_filter.mp member
  obtain ⟨node, found, rfl⟩ := (mem_nodes now registry dict).mp listed
  exact ⟨node, found, by rwa [of_eligible] at eligible, rfl⟩

theorem rated_placeable (now : ℚ) (node : NodeRecord) (rated : Rated now node) (metadata : dict? node.metadata ≠ none) :
    Placeable (.of now node) := by
  obtain ⟨fit, computed, _⟩ := rated
  exact ⟨by simp [computed], by rwa [section_dict, of_metadata]⟩

theorem warm_start (openBreakers : String → Bool) (canary : Option Canary) (clock : ℚ) : Warm (.start openBreakers canary clock) := by
  intro nodeId heat lastTime stored
  cases stored

theorem fits_unharmed (registry : Registry)
    (fits : ∀ id node, registry.nodes.get? id = some node → node.live = true → Fits node) : Unharmed registry := by
  have rated : ∀ now, Later registry now → ∀ id node, registry.nodes.get? id = some node → node.live = true →
    Rated (now id) node := by
    intro now later id node found live
    obtain ⟨fields, readable, load⟩ := (fits id node found live).metrics
    exact rated_fits (now id) node live (later id node found) fields readable load
  refine ⟨rated, ?_⟩
  intro cfg halving openBreakers canary clock before s reached now later time affinityKey preferredRegion begun entered after last run
  have warm : Warm s := Runs.run_invariant (pickNext cfg) (fun _ _ => True) Warm
    (fun state event next warm _ taken => warm_step cfg halving.nonneg state next event warm taken) _ s before
    (warm_start openBreakers canary clock) reached
  have safe : SafeCall s.calls.length begun := by
    refine ⟨warm_step cfg halving.nonneg s begun _ warm entered, ?_⟩
    cases entered
    refine ⟨_, List.getElem?_concat_length, safe_after_status cfg _ fun dict member => ?_⟩
    obtain ⟨node, found, live, rfl⟩ := eligible_nodes now registry dict member
    exact rated_placeable _ node (rated now later _ node found live) (fits _ node found live).metadata
  obtain ⟨mine, here, fine⟩ := (safe_run cfg halving s.calls.length begun last after safe run).safe
  rintro call there raised
  cases here.symm.trans there
  rw [raised] at fine
  exact fine

-- A pick with a region reads the metadata of every node.
theorem region_raises (registry : Registry) (now : String → ℚ) (later : Later registry now) (id : String) (node : NodeRecord)
    (found : registry.nodes.get? id = some node) (live : node.live = true) (unreadable : dict? node.metadata = none) :
    ¬ NeverRaises registry := by
  intro never
  have halving : Halving plain := ⟨by norm_num [plain], plain_halving⟩
  have member : NodeDict.of (now id) node ∈ (nodes now registry).filter NodeDict.eligible := by
    have name := registry.keyed id node found
    refine List.mem_filter.mpr ⟨(mem_nodes now registry _).mpr ⟨node, ?_, by rw [name]⟩, by rw [of_eligible, live]⟩
    rw [of_id, name, found]
  have nonempty : ¬ ((nodes now registry).filter NodeDict.eligible).isEmpty = true := by
    rw [List.isEmpty_iff]
    exact List.ne_nil_of_mem member
  have lost : narrowRegion plain (some "eu") ((nodes now registry).filter NodeDict.eligible) = none :=
    narrow_region_unreadable plain "eu" (by decide) _ _ member (by rw [regionOf, section_dict, of_metadata, unreadable, Option.map_none])
  generalize eligible : (nodes now registry).filter NodeDict.eligible = kept at nonempty lost
  have pooling : afterStatus plain kept = .pooling kept := by
    rw [afterStatus, settle, if_neg nonempty]
    rfl
  have entered : pickNext plain (.start noBreaker none 0) (.pick 0 (nodes now registry) none (some "eu")) =
      some { ClusterScheduler.start noBreaker none 0 with calls := [⟨0, none, some "eu", .pooling kept⟩] } := by
    simp only [pickNext, PickEvent.reading, pickStep, enter, eligible, pooling]
    rfl
  obtain ⟨head, tail, cons⟩ := List.exists_cons_of_ne_nil (mt List.isEmpty_iff.mpr nonempty)
  subst cons
  have raises := Runs.run_one (pickNext plain) (Timely plain)
    { ClusterScheduler.start noBreaker none 0 with calls := [⟨0, none, some "eu", .pooling (head :: tail)⟩] }
    { ClusterScheduler.start noBreaker none 0 with calls := [⟨0, none, some "eu", .raised⟩] } (.choosePool 0 0) trivial (by
      simp only [pickNext, PickEvent.reading, pickStep, choosePool, List.getElem?_cons_zero, ClusterScheduler.start, lost]
      rfl)
  exact never plain halving noBreaker none 0 [] _ .nil now later 0 none (some "eu") _ entered _ _ raises _ rfl rfl

def justSeen (registry : Registry) (id : String) : ℚ := ((registry.nodes.get? id).map NodeRecord.lastHeartbeat).getD 0

theorem heartbeats_harmless_iff (m : Master.Settings) (events : List RegistryEvent) :
    Unharmed (Registry.empty.run m events) ↔
      ∀ id node, (Registry.empty.run m events).nodes.get? id = some node → node.live = true → Fits node := by
  generalize Registry.empty.run m events = registry
  refine ⟨fun unharmed id node found live => ?_, fits_unharmed registry⟩
  have seen (other : String) (record : NodeRecord) (stored : registry.nodes.get? other = some record) :
      justSeen registry other = record.lastHeartbeat := by
    rw [justSeen, stored, Option.map_some, Option.getD_some]
  have later : Later registry (justSeen registry) := fun other record stored => (seen other record stored).ge
  constructor
  · have rated := unharmed.rated (justSeen registry) later id node found live
    rw [seen id node found] at rated
    exact fits_rated node live rated
  · intro unreadable
    exact region_raises registry (justSeen registry) later id node found live unreadable unharmed.picks

def textMetrics : List RegistryEvent := [.join 0 (Master.sampleJoin "a") none, .heartbeat 1 "a" (.obj [("metrics", .str "abc")])]

theorem text_metrics_harmful : ¬ Unharmed (Registry.empty.run {} textMetrics) := by
  intro unharmed
  have found : ∃ node ∈ (Registry.empty.run {} textMetrics).nodes.get? "a", node.live = true ∧ dict? node.metrics = none := by
    decide +kernel
  obtain ⟨node, found, live, unreadable⟩ := found
  have later : Later (Registry.empty.run {} textMetrics) (justSeen (Registry.empty.run {} textMetrics)) := by
    intro id other stored
    rw [justSeen, stored, Option.map_some, Option.getD_some]
  obtain ⟨fit, computed, _⟩ := unharmed.rated _ later "a" node found live
  rw [fitness_of _ node live, unreadable, Option.bind_none] at computed
  cases computed

end HuddleCluster.Scheduler
