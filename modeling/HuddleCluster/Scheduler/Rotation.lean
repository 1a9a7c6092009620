import HuddleCluster.Lib.RoundRobin
import HuddleCluster.Scheduler.Pick

set_option autoImplicit false

namespace HuddleCluster.Scheduler

-- What a pick needs of the settings. Halving as an age goes by needs more numbers than
-- there are fractions, so they may be those of any ordered field. A heat and a score may
-- each be rounded.
structure Cooling (κ : Type*) [Field κ] [LinearOrder κ] where
  preferAlive : Bool := true
  share? : κ → Option κ
  heating : Rounding κ
  scoring : Rounding κ

structure Rota (κ : Type*) where
  heat : Dict String (κ × κ)
  workloadCount : Dict String Nat

-- A zero divisor raises.
def ratio? {κ : Type*} [Field κ] [LinearOrder κ] (a b : κ) : Option κ := if b = 0 then none else some (a / b)

namespace Rota

variable {κ : Type*}

def empty : Rota κ := ⟨.empty, .empty⟩

variable [Field κ] [LinearOrder κ]

def currentHeat (cfg : Cooling κ) (s : Rota κ) (nodeId : String) (now : κ) : Option κ :=
  match s.heat.get? nodeId with
  | none => some 0
  | some (heat, lastTime) => (cfg.share? (now - lastTime)).map fun share => cfg.heating.round (heat * share)

def score (cfg : Cooling κ) (s : Rota κ) (now : κ) (node : NodeDict) : Option κ :=
  match nodeFitness node with
  | none => none
  | some fit =>
      if fit < 0 then some (-1)
      else
        match s.currentHeat cfg node.nodeId now with
        | none => none
        | some heat => (ratio? (fit : κ) (cfg.scoring.round (1 + heat))).map cfg.scoring.round

def best (cfg : Cooling κ) (s : Rota κ) (now : κ) (nodes : List NodeDict) : Option (Option NodeDict) :=
  (Leader.scored (s.score cfg now) nodes).map fun scored =>
    match scored.argmax Prod.snd with
    | none => none
    | some (node, score) => if 0 ≤ score then some node else none

def select (cfg : Cooling κ) (s : Rota κ) (now : κ) (eligible : List NodeDict) : Option (Option NodeDict) :=
  if cfg.preferAlive then
    match s.best cfg now (eligible.filter fun node => node.hasStatus "alive") with
    | none => none
    | some (some node) => some (some node)
    | some none => s.best cfg now (eligible.filter fun node => node.hasStatus "quarantined")
  else s.best cfg now eligible

def applyHeat (cfg : Cooling κ) (s : Rota κ) (nodeId : String) (now : κ) : Option (Rota κ) :=
  (s.currentHeat cfg nodeId now).map fun heat => { s with heat := s.heat.set nodeId (cfg.heating.round (heat + 1), now) }

def countWorkload (s : Rota κ) (nodeId : String) : Rota κ :=
  { s with workloadCount := s.workloadCount.set nodeId (s.workloadCount.getD nodeId 0 + 1) }

-- The critical section of a pick without an affinity key and a limiter.
def place (cfg : Cooling κ) (s : Rota κ) (eligible : List NodeDict) (now : κ) : Option (Rota κ × Option NodeDict) :=
  match s.select cfg now eligible with
  | none => none
  | some none => some (s, none)
  | some (some node) =>
      (s.applyHeat cfg node.nodeId now).map fun warmed => (warmed.countWorkload node.nodeId, some node)

-- A pick that has no breaker, limiter, canary or region to ask about either.
def pick (cfg : Cooling κ) (s : Rota κ) (nodes : List NodeDict) (now : κ) : Option (Rota κ × Option NodeDict) :=
  let eligible := nodes.filter NodeDict.eligible
  if eligible.isEmpty then some (s, none) else s.place cfg eligible now

-- Of two nodes the cooler one has the higher score.
def Resolves (cfg : Cooling κ) (s : Rota κ) (nodes : List NodeDict) (now : κ) : Prop :=
  ∀ one ∈ nodes, ∀ other ∈ nodes, ∀ cool hot, s.currentHeat cfg one.nodeId now = some cool →
    s.currentHeat cfg other.nodeId now = some hot → cool < hot →
      ∃ high low, s.score cfg now one = some high ∧ s.score cfg now other = some low ∧ low < high

def warmth (share : κ → κ) (s : Rota κ) (now : κ) (nodeId : String) : κ :=
  match s.heat.get? nodeId with
  | none => 0
  | some (heat, lastTime) => heat * share (now - lastTime)

end Rota

inductive Reply where
  | raised
  | nobody
  | node (nodeId : String)
deriving DecidableEq, Repr

def Reply.of : Option String → Reply
  | none => .nobody
  | some nodeId => .node nodeId

-- The calls of pick one after the other. The answers are not kept by the program.
structure Serving (κ : Type*) where
  rota : Rota κ
  answers : List Reply

def Serving.call {κ : Type*} [Field κ] [LinearOrder κ] (cfg : Cooling κ) (s : Serving κ) (call : κ × List NodeDict) : Serving κ :=
  match s.rota.pick cfg call.2 call.1 with
  | none => { s with answers := s.answers ++ [.raised] }
  | some (rota, node) => ⟨rota, s.answers ++ [.of (node.map NodeDict.nodeId)]⟩

def serve {κ : Type*} [Field κ] [LinearOrder κ] (cfg : Cooling κ) (calls : List (κ × List NodeDict)) : Serving κ :=
  calls.foldl (Serving.call cfg) ⟨.empty, []⟩

-- The scores are exact, or fine enough at each call to tell different heats apart.
def Sharp {κ : Type*} [Field κ] [LinearOrder κ] (cfg : Cooling κ) (calls : List (κ × List NodeDict)) : Prop :=
  (∀ value, cfg.scoring.round value = value) ∨
    ∀ earlier call later, calls = earlier ++ call :: later → (serve cfg earlier).rota.Resolves cfg call.2 call.1

-- A listing of the same nodes, all of them alive and as fit as each other.
structure Level (ids : List String) (nodes : List NodeDict) : Prop where
  listed : nodes.map NodeDict.nodeId = ids
  alive : ∀ node ∈ nodes, node.hasStatus "alive" = true
  fitness : ∃ fit, 0 < fit ∧ ∀ node ∈ nodes, nodeFitness node = some fit

theorem level_at (ids : List String) (nodes : List NodeDict) (level : Level ids nodes) (i : Nat) (node : NodeDict)
    (here : nodes[i]? = some node) : ids.getD i "" = node.nodeId := by
  rw [← level.listed, List.getD_eq_getElem?_getD, List.getElem?_map, here, Option.map_some, Option.getD_some]

theorem level_eligible (ids : List String) (nodes : List NodeDict) (level : Level ids nodes) :
    nodes.filter NodeDict.eligible = nodes := by
  rw [List.filter_eq_self]
  intro node member
  have alive := (has_status_iff node "alive").mp (level.alive node member)
  simp [NodeDict.eligible, NodeDict.hasStatus, alive, NodeDict.isText]

section Rotation

variable {κ : Type*} [Field κ] [LinearOrder κ] (cfg : Cooling κ) (share : κ → κ)

-- The decay as a function of the time that has gone by. The heats themselves are exact.
structure Decays : Prop where
  defined : ∀ elapsed, 0 ≤ elapsed → cfg.share? elapsed = some (share elapsed)
  positive : ∀ elapsed, 0 ≤ elapsed → 0 < share elapsed
  splits : ∀ first second, 0 ≤ first → 0 ≤ second → share (first + second) = share first * share second
  falls : ∀ first second, 0 ≤ first → first ≤ second → share second ≤ share first
  exact : ∀ value, cfg.heating.round value = value

-- Where the rotation stands after some calls, the last of them not after the latest.
structure Rotates (ids : List String) (calls : Nat) (latest : κ) (s : Rota κ) : Prop where
  stamped : ∀ nodeId heat lastTime, s.heat.get? nodeId = some (heat, lastTime) → 0 ≤ heat ∧ lastTime ≤ latest
  turns : RoundRobin.Turns ids.length (calls % ids.length) fun i => s.warmth share latest (ids.getD i "")
  shares : ∀ i, i < ids.length → s.workloadCount.getD (ids.getD i "") 0 = RoundRobin.share ids.length calls i

variable {cfg share} (decays : Decays cfg share)
include decays

theorem fresh_whole : share 0 = 1 := by
  have twice := decays.splits 0 0 (le_refl 0) (le_refl 0)
  rw [add_zero] at twice
  exact (mul_eq_left₀ (decays.positive 0 (le_refl 0)).ne').mp twice.symm

theorem fading (elapsed : κ) (later : 0 ≤ elapsed) : share elapsed ≤ 1 := by
  rw [← fresh_whole decays]
  exact decays.falls 0 elapsed (le_refl 0) later

variable [IsStrictOrderedRing κ]

theorem current_warmth (s : Rota κ) (ids : List String) (calls : Nat) (now : κ) (rotates : Rotates share ids calls now s)
    (nodeId : String) : s.currentHeat cfg nodeId now = some (s.warmth share now nodeId) := by
  rw [Rota.currentHeat, Rota.warmth]
  cases stored : s.heat.get? nodeId with
  | none => rfl
  | some entry =>
      have before := (rotates.stamped nodeId entry.1 entry.2 stored).2
      simp only [decays.defined _ (sub_nonneg.mpr before), Option.map_some, decays.exact]

theorem warmth_later (s : Rota κ) (ids : List String) (calls : Nat) (latest now : κ) (rotates : Rotates share ids calls latest s)
    (later : latest ≤ now) (nodeId : String) :
    s.warmth share now nodeId = s.warmth share latest nodeId * share (now - latest) := by
  rw [Rota.warmth, Rota.warmth]
  cases stored : s.heat.get? nodeId with
  | none => exact (zero_mul _).symm
  | some entry =>
      have before := (rotates.stamped nodeId entry.1 entry.2 stored).2
      have whole : now - entry.2 = (latest - entry.2) + (now - latest) := by ring
      simp only [whole, mul_assoc]
      rw [decays.splits _ _ (sub_nonneg.mpr before) (sub_nonneg.mpr later)]

theorem warmth_nonneg (s : Rota κ) (ids : List String) (calls : Nat) (latest : κ) (rotates : Rotates share ids calls latest s)
    (nodeId : String) : 0 ≤ s.warmth share latest nodeId := by
  rw [Rota.warmth]
  split
  · exact le_refl 0
  · rename_i heat lastTime stored
    obtain ⟨warm, before⟩ := rotates.stamped nodeId heat lastTime stored
    exact mul_nonneg warm (decays.positive _ (sub_nonneg.mpr before)).le

theorem rotates_later (s : Rota κ) (ids : List String) (calls : Nat) (latest now : κ) (rotates : Rotates share ids calls latest s)
    (later : latest ≤ now) : Rotates share ids calls now s where
  stamped nodeId heat lastTime stored :=
    ⟨(rotates.stamped nodeId heat lastTime stored).1, (rotates.stamped nodeId heat lastTime stored).2.trans later⟩
  turns := by
    have elapsed := sub_nonneg.mpr later
    refine RoundRobin.turns_cool _ _ _ _ (share (now - latest)) (decays.positive _ elapsed)
      (fading decays _ elapsed) rotates.turns fun i _ => ?_
    exact warmth_later decays s ids calls latest now rotates later (ids.getD i "")
  shares := rotates.shares

def Cooling.value (cfg : Cooling κ) (fit heat : κ) : κ := cfg.scoring.round (fit / cfg.scoring.round (1 + heat))

omit decays in
theorem one_le_round (heat : κ) (warm : 0 ≤ heat) : 1 ≤ cfg.scoring.round (1 + heat) :=
  cfg.scoring.one.ge.trans (cfg.scoring.mono (le_add_of_nonneg_right warm))

omit decays in
theorem value_nonneg (fit heat : κ) (positive : 0 < fit) (warm : 0 ≤ heat) : 0 ≤ cfg.value fit heat :=
  cfg.scoring.round_nonneg _ (div_nonneg positive.le (zero_le_one.trans (one_le_round heat warm)))

omit decays in
theorem value_falls (fit cool hot : κ) (positive : 0 < fit) (warm : 0 ≤ cool) (le : cool ≤ hot) :
    cfg.value fit hot ≤ cfg.value fit cool :=
  cfg.scoring.mono (div_le_div_of_nonneg_left positive.le (one_pos.trans_le (one_le_round cool warm))
    (cfg.scoring.mono (add_le_add_right le 1)))

theorem equal_score (s : Rota κ) (ids : List String) (calls : Nat) (now : κ) (rotates : Rotates share ids calls now s)
    (node : NodeDict) (fit : ℚ) (positive : 0 < fit) (fitness : nodeFitness node = some fit) :
    s.score cfg now node = some (cfg.value fit (s.warmth share now node.nodeId)) := by
  have warm := warmth_nonneg decays s ids calls now rotates node.nodeId
  have divisor : cfg.scoring.round (1 + s.warmth share now node.nodeId) ≠ 0 :=
    (one_pos.trans_le (one_le_round _ warm)).ne'
  simp only [Rota.score, fitness, if_neg (not_lt.mpr positive.le), current_warmth decays s ids calls now rotates, ratio?, if_neg divisor,
    Option.map_some, Cooling.value]

theorem coolest_leads (s : Rota κ) (ids : List String) (calls : Nat) (latest : κ) (rotates : Rotates share ids calls latest s)
    (nodes : List NodeDict) (level : Level ids nodes) (node : NodeDict) (here : nodes[calls % ids.length]? = some node)
    (fit : κ) (positive : 0 < fit)
    (scoring : ∀ other ∈ nodes, s.score cfg latest other = some (cfg.value fit (s.warmth share latest other.nodeId)))
    (apart : ∀ one ∈ nodes, ∀ other ∈ nodes, s.warmth share latest one.nodeId < s.warmth share latest other.nodeId →
      cfg.value fit (s.warmth share latest other.nodeId) < cfg.value fit (s.warmth share latest one.nodeId)) :
    Leader.Leads (s.score cfg latest) nodes node (cfg.value fit (s.warmth share latest node.nodeId)) := by
  have warm := warmth_nonneg decays s ids calls latest rotates
  obtain ⟨inside, found⟩ := List.getElem?_eq_some_iff.mp here
  have member := List.mem_of_getElem? here
  have name := level_at ids nodes level _ node here
  have bound : nodes.length = ids.length := by rw [← level.listed, List.length_map]
  refine ⟨nodes.take (calls % ids.length), nodes.drop (calls % ids.length + 1), ?_, scoring node member, ?_, ?_⟩
  · rw [← found, List.getElem_cons_drop, List.take_append_drop]
  · intro other before
    obtain ⟨i, earlier, at_i⟩ := List.mem_take_iff_getElem.mp before
    have hotter := rotates.turns.ahead i (calls % ids.length) (by omega) (le_refl _) (by omega)
    rw [name, level_at ids nodes level i other (List.getElem?_eq_some_iff.mpr ⟨_, at_i⟩)] at hotter
    have listed := List.mem_of_mem_take before
    exact ⟨_, scoring other listed, apart node member other listed hotter⟩
  · intro other behind
    obtain ⟨i, after, at_i⟩ := List.mem_drop_iff_getElem.mp behind
    have cooler := rotates.turns.ordered (calls % ids.length) (calls % ids.length + 1 + i) (by omega) (by omega) (Or.inr (le_refl _))
    rw [name, level_at ids nodes level _ other (List.getElem?_eq_some_iff.mpr ⟨_, at_i⟩)] at cooler
    exact ⟨_, scoring other (List.mem_of_mem_drop behind), value_falls fit _ _ positive (warm node.nodeId) cooler⟩

omit decays [IsStrictOrderedRing κ] in
theorem best_of_leads (s : Rota κ) (now : κ) (nodes : List NodeDict) (value : NodeDict → κ)
    (scoring : ∀ other ∈ nodes, s.score cfg now other = some (value other)) (node : NodeDict) (member : node ∈ nodes)
    (nonneg : 0 ≤ value node) (leads : Leader.Leads (s.score cfg now) nodes node (value node)) :
    s.best cfg now nodes = some (some node) := by
  have ranked := Leader.scored_each _ _ nodes scoring
  rw [Rota.best, ranked, Option.map_some]
  cases highest : (nodes.map fun other => (other, value other)).argmax Prod.snd with
  | none =>
      rw [List.argmax_eq_none, List.map_eq_nil_iff] at highest
      simp [highest] at member
  | some top =>
      obtain ⟨best, score⟩ := top
      have first := Leader.argmax_leads _ nodes _ ranked best score highest
      obtain rfl := Leader.leads_unique _ _ _ _ _ _ first leads
      obtain ⟨amount, known, least⟩ := Leader.leads_bound _ _ _ _ first node member
      cases known.symm.trans (scoring node member)
      exact congrArg some (if_pos (nonneg.trans least))

-- What a call needs of the scores: that they are exact, or tell the heats at hand apart.
def Rota.Tells (cfg : Cooling κ) (s : Rota κ) (nodes : List NodeDict) (now : κ) : Prop :=
  (∀ value, cfg.scoring.round value = value) ∨ s.Resolves cfg nodes now

theorem best_coolest (s : Rota κ) (ids : List String) (calls : Nat) (latest : κ) (rotates : Rotates share ids calls latest s)
    (nodes : List NodeDict) (level : Level ids nodes) (tells : s.Tells cfg nodes latest) (node : NodeDict)
    (here : nodes[calls % ids.length]? = some node) : s.best cfg latest nodes = some (some node) := by
  obtain ⟨fit, positive, fitness⟩ := level.fitness
  have warm := warmth_nonneg decays s ids calls latest rotates
  have part : (0 : κ) < fit := Rat.cast_pos.mpr positive
  have scoring : ∀ other ∈ nodes, s.score cfg latest other = some (cfg.value fit (s.warmth share latest other.nodeId)) :=
    fun other member => equal_score decays s ids calls latest rotates other fit positive (fitness other member)
  have current := current_warmth decays s ids calls latest rotates
  have apart : ∀ one ∈ nodes, ∀ other ∈ nodes, s.warmth share latest one.nodeId < s.warmth share latest other.nodeId →
      cfg.value fit (s.warmth share latest other.nodeId) < cfg.value fit (s.warmth share latest one.nodeId) := by
    intro one member other listed cooler
    rcases tells with exact | resolves
    · have least : 0 < 1 + s.warmth share latest one.nodeId := add_pos_of_pos_of_nonneg one_pos (warm one.nodeId)
      simp only [Cooling.value, exact]
      exact div_lt_div_of_pos_left part least (add_lt_add_right cooler 1)
    · obtain ⟨high, low, first, second, less⟩ :=
        resolves one member other listed _ _ (current one.nodeId) (current other.nodeId) cooler
      cases first.symm.trans (scoring one member)
      cases second.symm.trans (scoring other listed)
      exact less
  have leads := coolest_leads decays s ids calls latest rotates nodes level node here fit part scoring apart
  exact best_of_leads s latest nodes _ scoring node (List.mem_of_getElem? here) (value_nonneg _ _ part (warm node.nodeId)) leads

def Rota.served (s : Rota κ) (nodeId : String) (heat now : κ) : Rota κ :=
  { s with heat := s.heat.set nodeId (heat + 1, now) }.countWorkload nodeId

omit [IsStrictOrderedRing κ] in
theorem warmth_served (s : Rota κ) (nodeId query : String) (heat now : κ) :
    (s.served nodeId heat now).warmth share now query = if query = nodeId then heat + 1 else s.warmth share now query := by
  have stored : (s.served nodeId heat now).heat.get? query = if query = nodeId then some (heat + 1, now) else s.heat.get? query :=
    Dict.get_set _ _ _ _
  by_cases same : query = nodeId
  · rw [if_pos same, Rota.warmth, stored, if_pos same]
    simp only [sub_self, fresh_whole decays, mul_one]
  · rw [if_neg same, Rota.warmth, Rota.warmth, stored, if_neg same]

omit decays [Field κ] [LinearOrder κ] [IsStrictOrderedRing κ] in
theorem distinct_at (ids : List String) (distinct : ids.Nodup) (i k : Nat) (one : i < ids.length) (other : k < ids.length) :
    ids.getD i "" = ids.getD k "" ↔ i = k := by
  rw [List.getD_eq_getElem _ _ one, List.getD_eq_getElem _ _ other]
  exact distinct.getElem_inj_iff

theorem rotates_served (s : Rota κ) (ids : List String) (distinct : ids.Nodup) (calls : Nat) (latest : κ)
    (rotates : Rotates share ids calls latest s) (nonempty : 0 < ids.length) (nodeId : String)
    (turn : ids.getD (calls % ids.length) "" = nodeId) :
    Rotates share ids (calls + 1) latest (s.served nodeId (s.warmth share latest nodeId) latest) where
  stamped query heat lastTime stored := by
    have held := stored
    rw [Rota.served, Rota.countWorkload, Dict.get_set] at held
    split at held
    · cases held
      exact ⟨add_nonneg (warmth_nonneg decays s ids calls latest rotates nodeId) zero_le_one, le_refl _⟩
    · exact rotates.stamped query heat lastTime held
  turns := by
    have position := Nat.mod_lt calls nonempty
    rw [← Nat.mod_add_mod]
    refine RoundRobin.turns_serve _ _ _ _ rotates.turns position ?_ ?_
    · rw [warmth_served decays, turn, if_pos rfl]
    · intro i inside other
      rw [warmth_served decays, ← turn, if_neg fun same => other ((distinct_at ids distinct i _ inside position).mp same)]
  shares i inside := by
    have position := Nat.mod_lt calls nonempty
    rw [RoundRobin.share_succ _ _ _ inside, ← rotates.shares i inside]
    have counted : (s.served nodeId (s.warmth share latest nodeId) latest).workloadCount =
        s.workloadCount.set nodeId (s.workloadCount.getD nodeId 0 + 1) := rfl
    have same := distinct_at ids distinct i _ inside position
    rw [counted, Dict.getD, Dict.get_set, ← turn]
    simp only [same]
    split
    · rename_i here
      rw [← here]
      rfl
    · rfl

theorem pick_rotates (s : Rota κ) (ids : List String) (distinct : ids.Nodup) (calls : Nat) (latest : κ)
    (rotates : Rotates share ids calls latest s) (nodes : List NodeDict) (level : Level ids nodes)
    (tells : s.Tells cfg nodes latest) :
    ∃ after, s.pick cfg nodes latest = some (after, nodes[calls % ids.length]?) ∧ Rotates share ids (calls + 1) latest after := by
  have size : nodes.length = ids.length := by rw [← level.listed, List.length_map]
  rw [Rota.pick, level_eligible ids nodes level]
  cases here : nodes[calls % ids.length]? with
  | none =>
      have empty : ids.length = 0 := by
        by_contra nonempty
        have position := Nat.mod_lt calls (Nat.pos_of_ne_zero nonempty)
        rw [List.getElem?_eq_none_iff] at here
        omega
      obtain rfl : nodes = [] := List.length_eq_zero_iff.mp (size.trans empty)
      refine ⟨s, rfl, rotates.stamped, ?_, fun i inside => by omega⟩
      rw [empty]
      exact RoundRobin.turns_none _ _
  | some node =>
      have best := best_coolest decays s ids calls latest rotates nodes level tells node here
      have nonempty : 0 < ids.length := size ▸ List.length_pos_of_mem (List.mem_of_getElem? here)
      have selected : s.select cfg latest nodes = some (some node) := by
        rw [Rota.select, List.filter_eq_self.mpr level.alive, best]
        exact ite_self _
      have listed : nodes.isEmpty = false := List.isEmpty_eq_false_iff.mpr (List.ne_nil_of_mem (List.mem_of_getElem? here))
      refine ⟨s.served node.nodeId (s.warmth share latest node.nodeId) latest, ?_, ?_⟩
      · simp only [listed, Bool.false_eq_true, if_false, Rota.place, selected, Rota.applyHeat,
          current_warmth decays s ids calls latest rotates, Option.map_some, decays.exact]
        rfl
      · exact rotates_served decays s ids distinct calls latest rotates nonempty node.nodeId (level_at ids nodes level _ node here)

-- The last call is not earlier than any before it.
theorem serve_rotates (ids : List String) (distinct : ids.Nodup) (calls : List (κ × List NodeDict))
    (ordered : (calls.map Prod.fst).Pairwise (· ≤ ·)) (level : ∀ call ∈ calls, Level ids call.2) (sharp : Sharp cfg calls) :
    (serve cfg calls).answers = (List.range calls.length).map (fun k => Reply.of ids[k % ids.length]?) ∧
      ∀ latest, (∀ call ∈ calls, call.1 ≤ latest) → Rotates share ids calls.length latest (serve cfg calls).rota := by
  induction calls using List.reverseRecOn with
  | nil =>
      refine ⟨rfl, fun latest _ => ⟨?_, ?_, ?_⟩⟩
      · intro nodeId heat lastTime stored
        cases stored
      · rw [List.length_nil, Nat.zero_mod]
        exact RoundRobin.turns_start _ _ fun _ _ => rfl
      · intro i _
        simp [serve, Rota.empty, RoundRobin.share, Dict.getD]
  | append_singleton calls call ih =>
      rw [List.map_append, List.pairwise_append] at ordered
      have tells : (serve cfg calls).rota.Tells cfg call.2 call.1 := sharp.imp id fun resolves => resolves calls call [] rfl
      have before : Sharp cfg calls := sharp.imp id fun resolves earlier other later whole =>
        resolves earlier other (later ++ [call]) (by rw [whole, List.append_assoc, List.cons_append])
      obtain ⟨answered, rotates⟩ := ih ordered.1 (fun other member => level other (List.mem_append_left _ member)) before
      have past : ∀ other ∈ calls, other.1 ≤ call.1 :=
        fun other member => ordered.2.2 other.1 (List.mem_map_of_mem member) call.1 (by simp)
      have here := level call (by simp)
      obtain ⟨after, picked, stands⟩ := pick_rotates decays _ ids distinct _ call.1 (rotates call.1 past) call.2 here tells
      have served : serve cfg (calls ++ [call]) =
          ⟨after, (serve cfg calls).answers ++ [Reply.of (call.2[calls.length % ids.length]?.map NodeDict.nodeId)]⟩ := by
        rw [serve, List.foldl_append, List.foldl_cons, List.foldl_nil, ← serve, Serving.call, picked]
      rw [served, List.length_append, List.length_singleton]
      refine ⟨?_, ?_⟩
      · rw [List.range_succ, List.map_append, answered, ← List.getElem?_map, here.listed]
        rfl
      · intro latest all
        exact rotates_later decays after ids _ call.1 latest stands (all call (by simp))

-- Nodes that stay alive and equally fit are picked in the order of the listing, again
-- and again, so none of them is ever more than one pick ahead.
theorem equal_nodes_rotate (ids : List String) (distinct : ids.Nodup) (calls : List (κ × List NodeDict))
    (ordered : (calls.map Prod.fst).Pairwise (· ≤ ·)) (level : ∀ call ∈ calls, Level ids call.2) (sharp : Sharp cfg calls) :
    (serve cfg calls).answers = (List.range calls.length).map (fun k => Reply.of ids[k % ids.length]?) ∧
      ∀ one ∈ ids, ∀ other ∈ ids,
        (serve cfg calls).rota.workloadCount.getD one 0 ≤ (serve cfg calls).rota.workloadCount.getD other 0 + 1 := by
  obtain ⟨answered, rotates⟩ := serve_rotates decays ids distinct calls ordered level sharp
  obtain ⟨latest, all⟩ : ∃ latest, ∀ call ∈ calls, call.1 ≤ latest := by
    obtain ⟨latest, bound⟩ := (calls.map Prod.fst).toFinset.exists_le
    exact ⟨latest, fun call member => bound call.1 (List.mem_toFinset.mpr (List.mem_map_of_mem member))⟩
  have shares := (rotates latest all).shares
  refine ⟨answered, ?_⟩
  intro one inside other there
  obtain ⟨i, bound, rfl⟩ := List.mem_iff_getElem.mp inside
  obtain ⟨k, limit, rfl⟩ := List.mem_iff_getElem.mp there
  have first := shares i bound
  have second := shares k limit
  rw [List.getD_eq_getElem _ _ bound] at first
  rw [List.getD_eq_getElem _ _ limit] at second
  rw [first, second]
  exact RoundRobin.share_near _ _ _ _

end Rotation

section Fractions

theorem ratio_fractions (a b : ℚ) : ratio? a b = divide? a b := by
  by_cases zero : b = 0
  · rw [ratio?, divide?, if_pos zero]
  · rw [ratio?, divide?, if_neg zero]

def Settings.cooling (cfg : Settings) : Cooling ℚ where
  preferAlive := cfg.preferAlive
  share? elapsed := (ClusterScheduler.age? cfg elapsed).bind (ClusterScheduler.share? cfg)
  heating := Double.rounding
  scoring := Double.rounding

def ClusterScheduler.rota (s : ClusterScheduler) : Rota ℚ := ⟨s.heat, s.workloadCount⟩

variable (cfg : Settings) (s : ClusterScheduler)

theorem rota_heat (nodeId : String) (now : ℚ) : s.rota.currentHeat cfg.cooling nodeId now = s.currentHeat cfg nodeId now := by
  have same : s.rota.heat = s.heat := rfl
  rw [Rota.currentHeat, ClusterScheduler.currentHeat, same]
  cases s.heat.get? nodeId with
  | none => rfl
  | some entry => rfl

theorem rota_score (now : ℚ) (node : NodeDict) : s.rota.score cfg.cooling now node = s.score cfg now node := by
  rw [Rota.score, ClusterScheduler.score]
  cases nodeFitness node with
  | none => rfl
  | some fit =>
      refine if_congr Iff.rfl rfl ?_
      rw [rota_heat]
      cases s.currentHeat cfg node.nodeId now with
      | none => rfl
      | some heat => exact congrArg (Option.map _) (ratio_fractions _ _)

theorem rota_best (now : ℚ) (nodes : List NodeDict) : s.rota.best cfg.cooling now nodes = s.best cfg now nodes := by
  have scores : s.rota.score cfg.cooling now = s.score cfg now := funext fun node => rota_score cfg s now node
  rw [Rota.best, ClusterScheduler.best, scores]
  change Option.map _ (Leader.scored (s.score cfg now) nodes) = Option.map _ (Leader.scored (s.score cfg now) nodes)
  cases Leader.scored (s.score cfg now) nodes with
  | none => rfl
  | some ranked =>
      refine congrArg some ?_
      beta_reduce
      cases ranked.argmax Prod.snd with
      | none => rfl
      | some top => rfl

theorem rota_select (now : ℚ) (eligible : List NodeDict) : s.rota.select cfg.cooling now eligible = s.select cfg now eligible := by
  rw [Rota.select, ClusterScheduler.select]
  refine if_congr Iff.rfl ?_ (rota_best cfg s now eligible)
  have alive := rota_best cfg s now (eligible.filter fun node => node.hasStatus "alive")
  have quarantined := rota_best cfg s now (eligible.filter fun node => node.hasStatus "quarantined")
  cases found : s.best cfg now (eligible.filter fun node => node.hasStatus "alive") with
  | none => simp only [alive, found]
  | some picked =>
      cases picked with
      | none => simp only [alive, found, quarantined]
      | some node => simp only [alive, found]

inductive Ended (s : ClusterScheduler) (i : Nat) (call : PickCall) (after : ClusterScheduler) :
    Option (Rota ℚ × Option NodeDict) → Prop where
  | raised (rota : after.rota = s.rota) (calls : after.calls = s.calls.set i { call with phase := .raised }) :
      Ended s i call after none
  | returned (node : Option NodeDict) (calls : after.calls = s.calls.set i { call with phase := .returned node }) :
      Ended s i call after (some (after.rota, node))

theorem choose_places (unlimited : cfg.rateLimiter = none) (i : Nat) (call : PickCall) (here : s.calls[i]? = some call)
    (eligible : List NodeDict) (choosing : call.phase = .choosing eligible) (unkeyed : call.affinityKey = none) (later : ℚ) :
    ∃ after, s.choose cfg i later = some after ∧ Ended s i call after (s.rota.place cfg.cooling eligible call.now) := by
  have unbound : s.boundNode call.affinityKey eligible = none := by
    rw [unkeyed]
    rfl
  simp only [ClusterScheduler.choose, here, choosing, unbound, Rota.place, rota_select]
  cases s.select cfg call.now eligible with
  | none => exact ⟨_, rfl, .raised rfl rfl⟩
  | some chosen =>
      cases chosen with
      | none => exact ⟨_, rfl, .returned none rfl⟩
      | some node =>
          have heated := rota_heat cfg s node.nodeId call.now
          simp only [ClusterScheduler.applyHeat, Rota.applyHeat, heated]
          cases s.currentHeat cfg node.nodeId call.now with
          | none => exact ⟨_, rfl, .raised rfl rfl⟩
          | some heat =>
              simp only [Option.map_some, ClusterScheduler.consume, unlimited, unkeyed]
              exact ⟨_, rfl, .returned (some node) rfl⟩

-- A call that has an eligible node and nothing else to ask about is one pick.
theorem pick_steps (unbroken : cfg.circuitBreaker = false) (unlimited : cfg.rateLimiter = none) (stable : s.canary = none)
    (nodes : List NodeDict) (now draw later : ℚ) (eligible : (nodes.filter NodeDict.eligible).isEmpty = false) :
    ∃ call pooled after, (s.enter cfg now nodes none none).choosePool cfg s.calls.length draw = some pooled ∧
      pooled.choose cfg s.calls.length later = some after ∧ pooled.rota = s.rota ∧
      Ended pooled s.calls.length call after (s.rota.pick cfg.cooling nodes now) := by
  have status : ClusterScheduler.afterStatus cfg (nodes.filter NodeDict.eligible) = .pooling (nodes.filter NodeDict.eligible) := by
    simp [ClusterScheduler.afterStatus, ClusterScheduler.settle, eligible, unbroken, unlimited]
  rw [Rota.pick, eligible, ClusterScheduler.enter, status]
  generalize nodes.filter NodeDict.eligible = kept at eligible ⊢
  obtain ⟨node, others, rfl⟩ := List.exists_cons_of_ne_nil (List.isEmpty_eq_false_iff.mp eligible)
  have pooled : ClusterScheduler.choosePool cfg { s with calls := s.calls ++ [⟨now, none, none, .pooling (node :: others)⟩] }
      s.calls.length draw = some { s with calls := s.calls ++ [⟨now, none, none, .choosing (node :: others)⟩] } := by
    simp only [ClusterScheduler.choosePool, List.getElem?_concat_length, stable, ClusterScheduler.narrowRegion,
      ClusterScheduler.setPhase, List.set_append_right _ _ (le_refl _), Nat.sub_self, List.set_cons_zero]
  obtain ⟨after, chosen, ended⟩ := choose_places cfg { s with calls := s.calls ++ [⟨now, none, none, .choosing (node :: others)⟩] }
    unlimited s.calls.length _ List.getElem?_concat_length (node :: others) rfl rfl later
  exact ⟨_, _, after, pooled, chosen, rfl, ended⟩

end Fractions

noncomputable def halving : Cooling ℝ where
  share? elapsed := some ((0.5 : ℝ) ^ (elapsed / 10.0))
  heating := .exact
  scoring := .exact

theorem halving_decays : Decays halving fun elapsed => (0.5 : ℝ) ^ (elapsed / 10.0) where
  defined _ _ := rfl
  positive elapsed _ := by positivity
  splits first second _ _ := by
    rw [add_div]
    exact Real.rpow_add (by norm_num) _ _
  falls first second _ later := Real.rpow_le_rpow_of_exponent_ge (by norm_num) (by norm_num) (by linarith)
  exact _ := rfl

def plainNode (nodeId : String) : NodeDict := ⟨nodeId, [("status", .str "alive")]⟩

def bothPlain : List NodeDict := [plainNode "a", plainNode "b"]

theorem both_level : Level ["a", "b"] bothPlain := by
  refine ⟨rfl, by decide, Double.nearest (6 / 5), by decide +kernel, ?_⟩
  decide +kernel

theorem equal_nodes_rotate_twice : (serve halving [(0, bothPlain), (0, bothPlain), (5, bothPlain)]).answers =
    [.node "a", .node "b", .node "a"] := by
  refine (equal_nodes_rotate halving_decays ["a", "b"] (by decide) _ ?_ ?_ (Or.inl fun _ => rfl)).1
  · norm_num
  · simpa using both_level

-- The default cooldown. Whole ages are all that the run below has, and there the halving is
-- exact.
def wholeAges : Settings where
  halve age := (1 / 2) ^ ⌊age⌋.toNat
  normal := fun _ => ""

-- The heat that is left after 53 cooldowns is lost in the sum of the score, and the first
-- node is picked each time.
theorem small_heat_lost : (serve wholeAges.cooling [(0, bothPlain), (530, bothPlain), (1060, bothPlain)]).answers =
      [.node "a", .node "a", .node "a"] ∧
    (serve wholeAges.cooling [(0, bothPlain), (530, bothPlain), (1060, bothPlain)]).rota.workloadCount.getD "a" 0 = 3 ∧
    (∀ first second : ℕ, wholeAges.halve (first + second) = wholeAges.halve first * wholeAges.halve second) := by
  refine ⟨by decide +kernel, by decide +kernel, fun first second => ?_⟩
  have floored (whole : ℕ) : ⌊(whole : ℚ)⌋.toNat = whole := by simp
  have sum : ((first : ℚ) + second) = ((first + second : ℕ) : ℚ) := (Nat.cast_add first second).symm
  simp only [wholeAges, sum, floored, pow_add]

end HuddleCluster.Scheduler
