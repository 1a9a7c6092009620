import HuddleCluster.Master.Leave
import HuddleCluster.Master.Listing
import HuddleCluster.Scheduler.Preference
import HuddleCluster.Scheduler.Safe

set_option autoImplicit false

namespace HuddleCluster.Autoscaler

open Master (NodeRecord Registry RegistryUpdate)
open Scheduler (ClusterScheduler PickEvent)
open Statistics (mean roundTo)

def aliveIds (nodes : Registry) : List String :=
  (nodes.nodes.values.filter fun node => decide (node.status = .alive)).map NodeRecord.nodeId

-- One value of the heat map in scheduler_stats(). A node that was never picked has
-- none there, and its heat is zero.
def heatValue (cfg : Scheduler.Settings) (s : ClusterScheduler) (now : ℚ) (nodeId : String) : Option ℚ :=
  (s.currentHeat cfg nodeId now).map (roundTo 4)

def heatKeys (s : ClusterScheduler) : List String := s.heat.entries.map Prod.fst

-- An exception while the stats are read is logged, and the tick goes on without.
def avgHeat (cfg : Scheduler.Settings) (scheduler : Option ClusterScheduler) (now : ℚ) : Option ℚ :=
  match scheduler with
  | none => none
  | some s =>
      match (heatKeys s).mapM (heatValue cfg s now) with
      | none => none
      | some heatVals => if heatVals.isEmpty then none else some (mean heatVals)

-- What a tick has passed to evaluate, with the nodes that were alive then and their
-- heats, if there was a scheduler.
structure Reading where
  alive : List String
  heat : Option (String → Option ℚ)
  avgHeat : Option ℚ

-- A master with its registry and its scheduler. The readings are not kept by the
-- program.
structure Scaling where
  nodes : Registry
  scheduler : Option ClusterScheduler
  readings : List Reading

inductive ScalingEvent where
  | update (event : RegistryUpdate)
  | pick (event : PickEvent)
  | tick (now : ℚ)

structure Settings where
  master : Master.Settings
  scheduler : Scheduler.Settings

namespace Scaling

def tick (cfg : Settings) (s : Scaling) (now : ℚ) : Scaling :=
  { s with readings := s.readings ++ [
      { alive := aliveIds s.nodes
        heat := s.scheduler.map fun scheduler => heatValue cfg.scheduler scheduler now
        avgHeat := Autoscaler.avgHeat cfg.scheduler s.scheduler now }] }

def next (cfg : Settings) (s : Scaling) : ScalingEvent → Option Scaling
  | .update event => some { s with nodes := s.nodes.update cfg.master event }
  | .pick event =>
      match s.scheduler with
      | none => none
      | some scheduler => (Scheduler.pickNext cfg.scheduler scheduler event).map fun after => { s with scheduler := some after }
  | .tick now => some (s.tick cfg now)

end Scaling

-- The mean heat of the alive nodes, or none without a scheduler or without nodes.
def Reading.Mean (reading : Reading) : Prop :=
  match reading.heat with
  | none => reading.avgHeat = none
  | some heat =>
      if reading.alive = [] then reading.avgHeat = none
      else ∃ heats, reading.alive.mapM heat = some heats ∧ reading.avgHeat = some (mean heats)

namespace Scaling

def Means (s : Scaling) : Prop := ∀ reading ∈ s.readings, reading.Mean

def warmth (cfg : Settings) (scheduler : ClusterScheduler) (now : ℚ) (nodeId : String) : ℚ :=
  (heatValue cfg.scheduler scheduler now nodeId).getD 0

def total (cfg : Settings) (scheduler : ClusterScheduler) (now : ℚ) (nodeIds : List String) : ℚ :=
  (nodeIds.map (warmth cfg scheduler now)).sum

-- The heat of the picked nodes that are not alive makes up for how many more nodes
-- were picked than are alive.
def MadeUp (cfg : Settings) (scheduler : ClusterScheduler) (now : ℚ) (alive : List String) : Prop :=
  alive.length * total cfg scheduler now ((heatKeys scheduler).filter fun nodeId => nodeId ∉ alive) =
    ((heatKeys scheduler).length - alive.length) * total cfg scheduler now ((heatKeys scheduler).filter fun nodeId => nodeId ∈ alive)

-- The heats can be computed: a cooldown of 0 and a clock that was set far back raise.
def Readable (cfg : Settings) (scheduler : ClusterScheduler) (now : ℚ) : Prop :=
  cfg.scheduler.cooldown ≠ 0 ∧ Scheduler.Mild cfg.scheduler scheduler now

instance (cfg : Settings) (scheduler : ClusterScheduler) (now : ℚ) : Decidable (Readable cfg scheduler now) :=
  inferInstanceAs (Decidable (_ ∧ _))

def InBalance (cfg : Settings) (s : Scaling) : ScalingEvent → Prop
  | .tick now => ∀ scheduler ∈ s.scheduler,
      if aliveIds s.nodes = [] then heatKeys scheduler = [] ∨ ¬ Readable cfg scheduler now
      else heatKeys scheduler ≠ [] ∧ Readable cfg scheduler now ∧ MadeUp cfg scheduler now (aliveIds s.nodes)
  | _ => True

end Scaling

open Scaling

theorem map_m_some {α β : Type} (f : α → Option β) (g : α → β) (items : List α)
    (known : ∀ item ∈ items, f item = some (g item)) :
    items.mapM f = some (items.map g) := by
  induction items with
  | nil => rfl
  | cons item rest ih =>
      rw [List.mapM_cons, known item List.mem_cons_self, ih fun other member => known other (List.mem_cons_of_mem _ member)]
      rfl

theorem alive_distinct (nodes : Registry) : (aliveIds nodes).Nodup :=
  (Master.registered_distinct nodes).sublist (List.filter_sublist.map _)

theorem heat_known (cfg : Settings) (scheduler : ClusterScheduler) (now : ℚ) (nodeId : String) (readable : Readable cfg scheduler now) :
    heatValue cfg.scheduler scheduler now nodeId = some (warmth cfg scheduler now nodeId) := by
  obtain ⟨heat, known⟩ := Scheduler.heat_defined cfg.scheduler readable.1 scheduler nodeId now readable.2
  rw [warmth, heatValue, known]
  rfl

theorem heat_unknown (cfg : Settings) (scheduler : ClusterScheduler) (now : ℚ) (picked : heatKeys scheduler ≠ [])
    (unreadable : ¬ Readable cfg scheduler now) :
    ∃ nodeId ∈ heatKeys scheduler, heatValue cfg.scheduler scheduler now nodeId = none := by
  by_cases stopped : cfg.scheduler.cooldown = 0
  · obtain ⟨nodeId, key⟩ := List.exists_mem_of_ne_nil _ picked
    refine ⟨nodeId, key, ?_⟩
    cases found : scheduler.heat.get? nodeId with
    | none => exact absurd key ((Dict.get_none _ _).mp found)
    | some entry => simp [heatValue, ClusterScheduler.currentHeat, ClusterScheduler.age?, found, Scheduler.divide?, stopped]
  · have early : ¬ Scheduler.Mild cfg.scheduler scheduler now := fun mild => unreadable ⟨stopped, mild⟩
    simp only [Scheduler.Mild, not_forall, not_lt] at early
    obtain ⟨⟨nodeId, heat, lastTime⟩, member, age, aged, old⟩ := early
    refine ⟨nodeId, List.mem_map_of_mem member, ?_⟩
    have found := (Dict.get_mem _ _ _).mpr member
    simp only [heatValue, ClusterScheduler.currentHeat, found, Option.mem_def.mp aged, Option.bind_some, ClusterScheduler.share?,
      if_pos old, Option.map_none]

theorem map_m_none {α β : Type} (f : α → Option β) (items : List α) (item : α) (member : item ∈ items) (unknown : f item = none) :
    items.mapM f = none := by
  induction items with
  | nil => cases member
  | cons head rest ih =>
      rw [List.mapM_cons]
      rcases List.mem_cons.mp member with rfl | later
      · rw [unknown]
        rfl
      · rw [ih later]
        cases f head <;> rfl

theorem warmth_unpicked (cfg : Settings) (scheduler : ClusterScheduler) (now : ℚ) (nodeId : String)
    (key : nodeId ∉ heatKeys scheduler) :
    warmth cfg scheduler now nodeId = 0 := by
  have found : scheduler.heat.get? nodeId = none := (Dict.get_none _ _).mpr key
  simp [warmth, heatValue, ClusterScheduler.currentHeat, found, Statistics.round_to_zero]

theorem avg_heat_mean (cfg : Settings) (scheduler : ClusterScheduler) (now : ℚ) (picked : heatKeys scheduler ≠ [])
    (readable : Readable cfg scheduler now) :
    avgHeat cfg.scheduler (some scheduler) now = some (mean ((heatKeys scheduler).map (warmth cfg scheduler now))) := by
  have known := map_m_some _ _ (heatKeys scheduler) fun nodeId _ => heat_known cfg scheduler now nodeId readable
  simp [avgHeat, known, picked]

theorem avg_heat_empty (cfg : Settings) (scheduler : ClusterScheduler) (now : ℚ) :
    avgHeat cfg.scheduler (some scheduler) now = none ↔ heatKeys scheduler = [] ∨ ¬ Readable cfg scheduler now := by
  by_cases unpicked : heatKeys scheduler = []
  · simp [avgHeat, unpicked]
  · by_cases readable : Readable cfg scheduler now
    · rw [avg_heat_mean cfg scheduler now unpicked readable]
      simp [unpicked, readable]
    · obtain ⟨nodeId, key, unknown⟩ := heat_unknown cfg scheduler now unpicked readable
      have failed := map_m_none _ _ nodeId key unknown
      simp [avgHeat, failed, readable]

theorem means_agree (cfg : Settings) (scheduler : ClusterScheduler) (now : ℚ) (alive : List String) (distinct : alive.Nodup)
    (populated : alive ≠ []) (picked : heatKeys scheduler ≠ []) :
    mean ((heatKeys scheduler).map (warmth cfg scheduler now)) = mean (alive.map (warmth cfg scheduler now)) ↔
      MadeUp cfg scheduler now alive := by
  have shared := Statistics.sum_spared (warmth cfg scheduler now) alive (heatKeys scheduler) distinct scheduler.heat.nodup
    fun nodeId unpicked => warmth_unpicked cfg scheduler now nodeId unpicked
  have parted := Statistics.sum_parted (warmth cfg scheduler now) (heatKeys scheduler) alive
  rw [Statistics.mean_same _ _ (by simpa using picked) (by simpa using populated), shared, parted, List.length_map, List.length_map, MadeUp,
    total, total]
  constructor
  · intro same
    linear_combination same
  · intro same
    linear_combination same

theorem reading_mean (cfg : Settings) (s : Scaling) (now : ℚ) :
    ({ alive := aliveIds s.nodes
       heat := s.scheduler.map fun scheduler => heatValue cfg.scheduler scheduler now
       avgHeat := avgHeat cfg.scheduler s.scheduler now } : Reading).Mean ↔ s.InBalance cfg (.tick now) := by
  cases attached : s.scheduler with
  | none => simp [Reading.Mean, InBalance, avgHeat, attached]
  | some scheduler =>
      simp only [Reading.Mean, InBalance, attached, Option.map_some, Option.mem_def, Option.some.injEq, forall_eq']
      by_cases nobody : aliveIds s.nodes = []
      · rw [if_pos nobody, if_pos nobody]
        exact avg_heat_empty cfg scheduler now
      · rw [if_neg nobody, if_neg nobody]
        constructor
        · intro agree
          obtain ⟨heats, known, same⟩ := agree
          have present : ¬ (heatKeys scheduler = [] ∨ ¬ Readable cfg scheduler now) := by
            rw [← avg_heat_empty cfg scheduler now, same]
            exact nofun
          obtain ⟨picked, reads⟩ := not_or.mp present
          have readable := not_not.mp reads
          rw [map_m_some _ _ _ fun nodeId _ => heat_known cfg scheduler now nodeId readable] at known
          rw [avg_heat_mean cfg scheduler now picked readable, ← Option.some.inj known] at same
          exact ⟨picked, readable, (means_agree cfg scheduler now _ (alive_distinct s.nodes) nobody picked).mp (Option.some.inj same)⟩
        · intro balanced
          obtain ⟨picked, readable, madeUp⟩ := balanced
          refine ⟨_, map_m_some _ _ _ fun nodeId _ => heat_known cfg scheduler now nodeId readable, ?_⟩
          rw [avg_heat_mean cfg scheduler now picked readable,
            (means_agree cfg scheduler now _ (alive_distinct s.nodes) nobody picked).mpr madeUp]

theorem means_step (cfg : Settings) (s after : Scaling) (event : ScalingEvent) (taken : s.next cfg event = some after) :
    after.Means ↔ s.Means ∧ s.InBalance cfg event := by
  cases event with
  | update event =>
      cases taken
      simp [Means, InBalance]
  | pick event =>
      simp only [next] at taken
      split at taken
      · cases taken
      · obtain ⟨scheduler, _, rfl⟩ := Option.map_eq_some_iff.mp taken
        simp [Means, InBalance]
  | tick now =>
      cases taken
      rw [← reading_mean]
      simp only [Means, tick, List.mem_append, List.mem_singleton, or_imp, forall_and, forall_eq]

-- In a run the ticks pass on the mean heat of the alive nodes exactly if at each the
-- heat map balances.
theorem heat_signal_iff (cfg : Settings) (nodes : Registry) (scheduler : Option ClusterScheduler) (events : List ScalingEvent)
    (s : Scaling) (run : Runs.Run (Scaling.next cfg) (fun _ _ => True) ⟨nodes, scheduler, []⟩ events s) :
    s.Means ↔ Runs.Run (Scaling.next cfg) (InBalance cfg) ⟨nodes, scheduler, []⟩ events s := by
  apply Runs.run_characterised (Scaling.next cfg) (InBalance cfg) (fun _ => True) Means _ _ s events trivial _ run
  · exact fun state after event _ taken => ⟨trivial, means_step cfg state after event taken⟩
  · exact nofun

instance (cfg : Settings) (scheduler : ClusterScheduler) (now : ℚ) (alive : List String) : Decidable (MadeUp cfg scheduler now alive) :=
  inferInstanceAs (Decidable (_ = _))

instance (cfg : Settings) (s : Scaling) (event : ScalingEvent) : Decidable (s.InBalance cfg event) :=
  match event with
  | .tick now => inferInstanceAs (Decidable (∀ scheduler ∈ s.scheduler,
      if aliveIds s.nodes = [] then heatKeys scheduler = [] ∨ ¬ Readable cfg scheduler now
      else heatKeys scheduler ≠ [] ∧ Readable cfg scheduler now ∧ MadeUp cfg scheduler now (aliveIds s.nodes)))
  | .update _ | .pick _ => instDecidableTrue

def plainSettings : Settings where
  master := {}
  scheduler := Scheduler.plain

def idle : Scaling := ⟨.empty, some (.start (fun _ => false) none 0), []⟩

def join (nodeId : String) : ScalingEvent := .update (.receive (.join 0 (Master.sampleJoin nodeId) none))

def pickedAt (i : Nat) (nodeId : String) : List ScalingEvent :=
  (Scheduler.wholePick i [Scheduler.serving nodeId "alive"] none).map .pick

theorem heat_signal_all_picked : ∃ s, Runs.Run (Scaling.next plainSettings) (fun _ _ => True) idle
      (join "a" :: join "b" :: pickedAt 0 "a" ++ pickedAt 1 "b" ++ pickedAt 2 "b" ++ [.tick 0]) s ∧
    s.readings.map Reading.avgHeat = [some (3 / 2)] ∧ s.Means := by
  obtain ⟨s, followed, signal⟩ : ∃ s ∈ Runs.follow (Scaling.next plainSettings) (InBalance plainSettings) idle
      (join "a" :: join "b" :: pickedAt 0 "a" ++ pickedAt 1 "b" ++ pickedAt 2 "b" ++ [.tick 0]),
      s.readings.map Reading.avgHeat = [some (3 / 2)] := by decide +kernel
  have balanced := Runs.follow_run _ _ _ s _ followed
  have run := Runs.run_free _ _ _ s _ balanced
  exact ⟨s, run, signal, (heat_signal_iff plainSettings _ _ _ s run).mpr balanced⟩

def departure : List ScalingEvent :=
  join "a" :: join "b" :: pickedAt 0 "a" ++ [.update (.beginLeave "a"), .update (.finishLeave "a"), .tick 0]

-- The picked node has left, and the one that is alive was never picked.
theorem departed_heat_counted : ∃ s, Runs.Run (Scaling.next plainSettings) (fun _ _ => True) idle departure s ∧
    (∃ reading ∈ s.readings, reading.alive = ["b"] ∧ reading.avgHeat = some 1) ∧ ¬ s.Means := by
  obtain ⟨s, followed, reading, member, alive, signal, heats⟩ :
    ∃ s ∈ Runs.follow (Scaling.next plainSettings) (fun _ _ => True) idle
      departure, ∃ reading ∈ s.readings, reading.alive = ["b"] ∧ reading.avgHeat = some 1 ∧
        reading.heat.map (fun heat => heat "b") = some (some 0) := by decide +kernel
  obtain ⟨heat, found, cold⟩ := Option.map_eq_some_iff.mp heats
  refine ⟨s, Runs.follow_run _ _ _ s _ followed, ⟨reading, member, alive, signal⟩, ?_⟩
  intro means
  have mean := means reading member
  simp [Reading.Mean, found, alive, signal, cold, Statistics.mean] at mean

end HuddleCluster.Autoscaler
