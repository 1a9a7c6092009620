import HuddleCluster.Autoscaler.Decision
import HuddleCluster.Lib.Recent
import HuddleCluster.Lib.Runs

set_option autoImplicit false

namespace HuddleCluster.Autoscaler

open ClusterAutoScaler

-- A scaler with the cluster that it scales. The callback provides or removes the nodes
-- before the next evaluation; when that was and all events so far are not in the
-- program.
structure Scaled where
  scaler : ClusterAutoScaler := {}
  nodes : Int
  evaluated : ℚ := 0
  events : List ScaleEvent := []

inductive ScaleStep where
  | evaluate (now : ℚ) (avgHeat : Option ℚ)
  | drift (nodes : Int)

namespace Scaled

def event? (cfg : ScalerSettings) (s : Scaled) (now : ℚ) (avgHeat : Option ℚ) : Option ScaleEvent :=
  match (s.scaler.evaluate cfg now s.nodes avgHeat).1 with
  | .none => none
  | direction => some ⟨direction, (conditions cfg s.nodes avgHeat).2, s.nodes, delta cfg direction, now⟩

def evaluate (cfg : ScalerSettings) (s : Scaled) (now : ℚ) (avgHeat : Option ℚ) : Scaled where
  scaler := (s.scaler.evaluate cfg now s.nodes avgHeat).2
  nodes := s.nodes + delta cfg (s.scaler.evaluate cfg now s.nodes avgHeat).1
  evaluated := now
  events := s.events ++ (s.event? cfg now avgHeat).toList

def next (cfg : ScalerSettings) (s : Scaled) : ScaleStep → Option Scaled
  | .evaluate now avgHeat => some (s.evaluate cfg now avgHeat)
  | .drift nodes => some { s with nodes := nodes }

def times (s : Scaled) (direction : Decision) : List ℚ :=
  (s.events.filter fun event => decide (event.direction = direction)).map ScaleEvent.ts

end Scaled

abbrev ScaledRun (cfg : ScalerSettings) (allowed : Scaled → ScaleStep → Prop) := Runs.Run (Scaled.next cfg) allowed

-- What one evaluation does: nothing, or one event in a direction that is wanted and has
-- cooled down.
inductive Evaluated (cfg : ScalerSettings) (s : Scaled) (now : ℚ) (avgHeat : Option ℚ) (after : Scaled) : Prop where
  | idle (event : after.events = s.events) (nodes : after.nodes = s.nodes) (up : after.scaler.lastScaleUpTs = s.scaler.lastScaleUpTs)
      (down : after.scaler.lastScaleDownTs = s.scaler.lastScaleDownTs) (history : after.scaler.history = s.scaler.history)
      (cooling : UpWanted cfg s.nodes avgHeat → now - s.scaler.lastScaleUpTs < cfg.scaleUpCooldown)
      (coolingDown : DownWanted cfg s.nodes avgHeat → now - s.scaler.lastScaleDownTs < cfg.scaleDownCooldown)
  | up (event : ScaleEvent) (events : after.events = s.events ++ [event]) (direction : event.direction = .scaleUp) (ts : event.ts = now)
      (nodes : after.nodes = s.nodes + cfg.scaleUpStep) (up : after.scaler.lastScaleUpTs = now)
      (down : after.scaler.lastScaleDownTs = s.scaler.lastScaleDownTs)
      (history : after.scaler.history = Statistics.pushWindow 200 s.scaler.history event) (wanted : UpWanted cfg s.nodes avgHeat)
      (cooled : cfg.scaleUpCooldown ≤ now - s.scaler.lastScaleUpTs)
  | down (event : ScaleEvent) (events : after.events = s.events ++ [event]) (direction : event.direction = .scaleDown)
      (ts : event.ts = now) (nodes : after.nodes = s.nodes - cfg.scaleDownStep) (down : after.scaler.lastScaleDownTs = now)
      (up : after.scaler.lastScaleUpTs = s.scaler.lastScaleUpTs)
      (history : after.scaler.history = Statistics.pushWindow 200 s.scaler.history event) (wanted : DownWanted cfg s.nodes avgHeat)
      (cooled : cfg.scaleDownCooldown ≤ now - s.scaler.lastScaleDownTs)

theorem evaluated_evaluate (cfg : ScalerSettings) (s : Scaled) (now : ℚ) (avgHeat : Option ℚ) :
    Evaluated cfg s now avgHeat (s.evaluate cfg now avgHeat) := by
  have idle (cooled : (if s.scaler.cooling cfg now (conditions cfg s.nodes avgHeat).1 then .none else (conditions cfg s.nodes avgHeat).1) =
        Decision.none)
      (up : UpWanted cfg s.nodes avgHeat → now - s.scaler.lastScaleUpTs < cfg.scaleUpCooldown)
      (down : DownWanted cfg s.nodes avgHeat → now - s.scaler.lastScaleDownTs < cfg.scaleDownCooldown) :
      Evaluated cfg s now avgHeat (s.evaluate cfg now avgHeat) := by
    refine .idle ?_ ?_ ?_ ?_ ?_ up down <;> simp [Scaled.evaluate, Scaled.event?, ClusterAutoScaler.evaluate, cooled, delta]
  rcases conditions_cases cfg s.nodes avgHeat with ⟨wanted, decided⟩ | ⟨wanted, decided⟩ | ⟨⟨noUp, noDown⟩, decided⟩
  · have noDown := wanted_apart cfg s.nodes avgHeat wanted
    by_cases hot : now - s.scaler.lastScaleUpTs < cfg.scaleUpCooldown
    · exact idle (by rw [decided]; simp [cooling, hot]) (fun _ => hot) fun down => absurd down noDown
    · have ready : (if s.scaler.cooling cfg now (conditions cfg s.nodes avgHeat).1 then .none else (conditions cfg s.nodes avgHeat).1) =
          Decision.scaleUp := by simp [decided, cooling, hot]
      refine .up ⟨.scaleUp, (conditions cfg s.nodes avgHeat).2, s.nodes, cfg.scaleUpStep, now⟩ ?_ rfl rfl ?_ ?_ ?_ ?_ wanted
        (not_lt.mp hot) <;>
        simp [Scaled.evaluate, Scaled.event?, ClusterAutoScaler.evaluate, ready, delta, record, Statistics.pushWindow]
  · have noUp : ¬ UpWanted cfg s.nodes avgHeat := fun up => wanted_apart cfg s.nodes avgHeat up wanted
    by_cases hot : now - s.scaler.lastScaleDownTs < cfg.scaleDownCooldown
    · exact idle (by rw [decided]; simp [cooling, hot]) (fun up => absurd up noUp) fun _ => hot
    · have ready : (if s.scaler.cooling cfg now (conditions cfg s.nodes avgHeat).1 then .none else (conditions cfg s.nodes avgHeat).1) =
          Decision.scaleDown := by simp [decided, cooling, hot]
      refine .down ⟨.scaleDown, (conditions cfg s.nodes avgHeat).2, s.nodes, -cfg.scaleDownStep, now⟩ ?_ rfl rfl ?_ ?_ ?_ ?_ wanted
        (not_lt.mp hot) <;>
        simp [Scaled.evaluate, Scaled.event?, ClusterAutoScaler.evaluate, ready, delta, record, Statistics.pushWindow, sub_eq_add_neg]
  · exact idle (by rw [decided]; simp [cooling]) (fun up => absurd up noUp) fun down => absurd down noDown

def Spaced (cooldown : ℚ) (times : List ℚ) : Prop := (0 :: times).IsChain fun earlier later => earlier + cooldown ≤ later

theorem spaced_snoc (cooldown now : ℚ) (times : List ℚ) (spaced : Spaced cooldown times) (apart : cooldown ≤ now - times.getLastD 0) :
    Spaced cooldown (times ++ [now]) := by
  unfold Spaced at spaced ⊢
  rw [← List.cons_append, List.isChain_append]
  refine ⟨spaced, List.isChain_singleton now, ?_⟩
  intro last found first head
  obtain rfl := Option.some.inj head
  have same : times.getLastD 0 = last := by
    rw [List.getLast?_cons] at found
    rw [List.getLastD_eq_getLast?]
    exact Option.some.inj found
  rw [same] at apart
  linarith

structure Paced (cfg : ScalerSettings) (s : Scaled) : Prop where
  up : Spaced cfg.scaleUpCooldown (s.times .scaleUp)
  down : Spaced cfg.scaleDownCooldown (s.times .scaleDown)
  lastUp : s.scaler.lastScaleUpTs = (s.times .scaleUp).getLastD 0
  lastDown : s.scaler.lastScaleDownTs = (s.times .scaleDown).getLastD 0
  kept : s.scaler.history = s.events.drop (s.events.length - 200)

theorem times_snoc (s after : Scaled) (event : ScaleEvent) (direction : Decision) (events : after.events = s.events ++ [event]) :
    after.times direction = s.times direction ++ if event.direction = direction then [event.ts] else [] := by
  rw [Scaled.times, events, List.filter_append, List.map_append]
  congr 1
  split <;> simp [*]

theorem kept_snoc (s : Scaled) (event : ScaleEvent) (kept : s.scaler.history = s.events.drop (s.events.length - 200)) :
    Statistics.pushWindow 200 s.scaler.history event = (s.events ++ [event]).drop ((s.events ++ [event]).length - 200) := by
  rw [kept]
  exact Recent.push_window_last 200 s.events event

theorem paced_next (cfg : ScalerSettings) (s after : Scaled) (step : ScaleStep) (paced : Paced cfg s)
    (taken : s.next cfg step = some after) :
    Paced cfg after := by
  cases step with
  | drift nodes =>
      cases taken
      exact { paced with }
  | evaluate now avgHeat =>
      cases taken
      cases evaluated_evaluate cfg s now avgHeat with
      | idle events nodes up down history _ _ =>
          have times (direction : Decision) : (s.evaluate cfg now avgHeat).times direction = s.times direction := by
            rw [Scaled.times, events, Scaled.times]
          exact ⟨times _ ▸ paced.up, times _ ▸ paced.down, by rw [up, times, paced.lastUp], by rw [down, times, paced.lastDown],
            by rw [history, events, paced.kept]⟩
      | up event events direction ts nodes up down history wanted cooled =>
          have ups := times_snoc s _ event .scaleUp events
          have downs := times_snoc s _ event .scaleDown events
          rw [direction, if_pos rfl, ts] at ups
          rw [direction, if_neg (by decide), List.append_nil] at downs
          refine ⟨?_, downs ▸ paced.down, by rw [up, ups]; simp, by rw [down, downs, paced.lastDown], ?_⟩
          · rw [ups]
            exact spaced_snoc _ _ _ paced.up (paced.lastUp ▸ cooled)
          · rw [history, events]
            exact kept_snoc s event paced.kept
      | down event events direction ts nodes down up history wanted cooled =>
          have ups := times_snoc s _ event .scaleUp events
          have downs := times_snoc s _ event .scaleDown events
          rw [direction, if_neg (by decide), List.append_nil] at ups
          rw [direction, if_pos rfl, ts] at downs
          refine ⟨ups ▸ paced.up, ?_, by rw [up, ups, paced.lastUp], by rw [down, downs]; simp, ?_⟩
          · rw [downs]
            exact spaced_snoc _ _ _ paced.down (paced.lastDown ▸ cooled)
          · rw [history, events]
            exact kept_snoc s event paced.kept

-- Whatever the clock, the heat and the number of nodes do, two events in one direction are
-- a cooldown apart, and the history is the last 200 of them.
theorem scale_events_paced (cfg : ScalerSettings) (nodes : Int) (s : Scaled) (steps : List ScaleStep)
    (run : ScaledRun cfg (fun _ _ => True) { nodes := nodes } steps s) : Paced cfg s := by
  refine Runs.run_invariant (Scaled.next cfg) _ (Paced cfg) ?_ _ s steps ?_ run
  · exact fun state step after held _ taken => paced_next cfg state after step held taken
  · exact ⟨List.isChain_singleton 0, List.isChain_singleton 0, rfl, rfl, List.drop_nil.symm⟩

theorem scale_events_paced_hot : ∃ s : Scaled, s.times .scaleUp = [200, 330] ∧ Paced (steppedSettings 1 1) s := by
  have followed : ∃ s ∈ Runs.follow (Scaled.next (steppedSettings 1 1)) (fun _ _ => True) { nodes := 3 }
      [.evaluate 200 (some (9 / 10)), .evaluate 260 (some (9 / 10)), .drift 6, .evaluate 330 (some (9 / 10))],
        s.times .scaleUp = [200, 330] := by
    decide +kernel
  obtain ⟨s, reached, times⟩ := followed
  exact ⟨s, times, scale_events_paced (steppedSettings 1 1) 3 s _ (Runs.follow_run _ _ _ s _ reached)⟩

def distance (cfg : ScalerSettings) (nodes : Int) : Nat := (cfg.minNodes - nodes).toNat + (nodes - cfg.maxNodes).toNat

theorem distance_zero (cfg : ScalerSettings) (nodes : Int) :
    distance cfg nodes = 0 ↔ cfg.minNodes ≤ nodes ∧ nodes ≤ cfg.maxNodes := by
  unfold distance
  omega

-- Nobody else changes the number of nodes, and every evaluation waits for the cooldowns.
def Patient (cfg : ScalerSettings) (s : Scaled) : ScaleStep → Prop
  | .evaluate now _ => cfg.scaleUpCooldown ≤ now - s.evaluated ∧ cfg.scaleDownCooldown ≤ now - s.evaluated ∧ s.evaluated ≤ now
  | .drift _ => False

-- No event is newer than the last evaluation, and each evaluation so far has brought the
-- cluster one node closer.
structure Settling (cfg : ScalerSettings) (start s : Scaled) (steps : Nat) : Prop where
  up : s.scaler.lastScaleUpTs ≤ s.evaluated
  down : s.scaler.lastScaleDownTs ≤ s.evaluated
  closer : distance cfg s.nodes ≤ distance cfg start.nodes - steps

theorem settling_evaluate (cfg : ScalerSettings) (upOne : cfg.scaleUpStep = 1) (downOne : cfg.scaleDownStep = 1) (start s : Scaled)
    (steps : Nat) (now : ℚ) (avgHeat : Option ℚ) (settling : Settling cfg start s steps)
    (patient : Patient cfg s (.evaluate now avgHeat)) :
    Settling cfg start (s.evaluate cfg now avgHeat) (steps + 1) := by
  obtain ⟨upWait, downWait, later⟩ := patient
  have upCooled : ¬ now - s.scaler.lastScaleUpTs < cfg.scaleUpCooldown := by linarith [settling.up]
  have downCooled : ¬ now - s.scaler.lastScaleDownTs < cfg.scaleDownCooldown := by linarith [settling.down]
  have evaluated : (s.evaluate cfg now avgHeat).evaluated = now := rfl
  have closer := settling.closer
  have ordered := cfg.ordered
  cases evaluated_evaluate cfg s now avgHeat with
  | idle _ nodes up down _ cooling coolingDown =>
      have enough : ¬ s.nodes < cfg.minNodes := fun few => upCooled (cooling (Or.inl few))
      have within : ¬ cfg.maxNodes < s.nodes := fun many => downCooled (coolingDown (Or.inl many))
      refine ⟨by rw [up, evaluated]; linarith [settling.up], by rw [down, evaluated]; linarith [settling.down], ?_⟩
      rw [nodes, (distance_zero cfg s.nodes).mpr ⟨not_lt.mp enough, not_lt.mp within⟩]
      exact Nat.zero_le _
  | up _ _ _ _ nodes up down _ wanted _ =>
      have room := up_room cfg s.nodes avgHeat wanted
      refine ⟨by rw [up, evaluated], by rw [down, evaluated]; linarith [settling.down], ?_⟩
      rw [nodes, upOne]
      unfold distance at closer ⊢
      omega
  | down _ _ _ _ nodes down up _ wanted _ =>
      have room := down_room cfg s.nodes avgHeat wanted
      refine ⟨by rw [up, evaluated]; linarith [settling.up], by rw [down, evaluated], ?_⟩
      rw [nodes, downOne]
      unfold distance at closer ⊢
      omega

theorem settling_run (cfg : ScalerSettings) (upOne : cfg.scaleUpStep = 1) (downOne : cfg.scaleDownStep = 1) (start s : Scaled)
    (steps : List ScaleStep) (initial : Settling cfg start start 0) (run : ScaledRun cfg (Patient cfg) start steps s) :
    Settling cfg start s steps.length := by
  induction run with
  | nil => exact initial
  | snoc middle last steps step _ permitted taken ih =>
      rw [List.length_append, List.length_singleton]
      cases step with
      | evaluate now avgHeat =>
          cases taken
          exact settling_evaluate cfg upOne downOne start middle steps.length now avgHeat ih permitted
      | drift nodes => exact permitted.elim

-- A scaler that moves one node at a time brings the cluster into its bounds in as many
-- evaluations as nodes are missing or too many, and keeps it there.
theorem closed_loop_settles (cfg : ScalerSettings) (upOne : cfg.scaleUpStep = 1) (downOne : cfg.scaleDownStep = 1) (nodes : Int)
    (s : Scaled) (steps : List ScaleStep) (run : ScaledRun cfg (Patient cfg) { nodes := nodes } steps s) :
    distance cfg s.nodes ≤ distance cfg nodes - steps.length ∧
      (distance cfg nodes ≤ steps.length → cfg.minNodes ≤ s.nodes ∧ s.nodes ≤ cfg.maxNodes) := by
  have settling := settling_run cfg upOne downOne { nodes := nodes } s steps ⟨le_refl _, le_refl _, le_refl _⟩ run
  refine ⟨settling.closer, fun enough => (distance_zero cfg s.nodes).mp ?_⟩
  exact Nat.le_zero.mp (settling.closer.trans (Nat.sub_eq_zero_of_le enough).le)

instance (cfg : ScalerSettings) (s : Scaled) (step : ScaleStep) : Decidable (Patient cfg s step) :=
  match step with
  | .evaluate now _ => inferInstanceAs (Decidable (cfg.scaleUpCooldown ≤ now - s.evaluated ∧
      cfg.scaleDownCooldown ≤ now - s.evaluated ∧ s.evaluated ≤ now))
  | .drift _ => isFalse id

def crowded : Option Scaled :=
  Runs.follow (Scaled.next (steppedSettings 1 1)) (Patient (steppedSettings 1 1)) { nodes := 12 }
    [.evaluate 300 none, .evaluate 600 (some (1 / 2))]

theorem closed_loop_settles_crowded : ∃ s ∈ crowded, 1 ≤ s.nodes ∧ s.nodes ≤ 10 := by
  have taken : crowded.isSome = true := by decide +kernel
  obtain ⟨s, reached⟩ := Option.isSome_iff_exists.mp taken
  exact ⟨s, reached, (closed_loop_settles (steppedSettings 1 1) rfl rfl 12 s _ (Runs.follow_run _ _ _ s _ reached)).2 (by decide)⟩

end HuddleCluster.Autoscaler
