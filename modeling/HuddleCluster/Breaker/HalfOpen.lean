import HuddleCluster.Breaker.Turns
import HuddleCluster.Lib.Runs
import HuddleCluster.Master.NodeMachine

set_option autoImplicit false

namespace HuddleCluster.Breaker

open Master (NodeRecord Registry)

inductive BreakerEvent where
  | evaluate (now : ℚ) (listed : String → ℚ) (registry : Registry)
  | reset (nodeId : String)

instance (registry : Registry) (id : String) : Decidable (Cut registry id) :=
  decidable_of_iff (∃ node ∈ Master.listNodes registry, node.nodeId < id ∧ fatal node.metrics = true) <| by
    constructor
    · rintro ⟨node, listed, less, ends⟩
      exact ⟨node.nodeId, node, less, (Master.mem_list_nodes registry node).mp listed, ends⟩
    · rintro ⟨other, node, less, found, ends⟩
      have name := registry.keyed other node found
      exact ⟨node, (Master.mem_list_nodes registry node).mpr (name ▸ found), name ▸ less, ends⟩

-- The breakers and what a watcher of one node writes down: whether an evaluation
-- has run since its trip timed out, and what became of the breaker in each
-- evaluation that saw an error rate above the threshold while it was not open.
structure ProbeWatch where
  states : States
  due : Bool
  retrips : List (ℚ × Option BreakerState)

namespace ProbeWatch

def fresh : ProbeWatch := ⟨.empty, false, []⟩

def dueAfter (cfg : Settings) (id : String) (now : ℚ) (s : ProbeWatch) : Bool :=
  (s.states.get? id).any fun breaker => breaker.isOpen && (s.due || breaker.expired cfg now)

def phase (id : String) (s : ProbeWatch) : Phase := ((s.states.get? id).map BreakerState.state).getD .closed

def retripsAfter (cfg : Settings) (id : String) (now : ℚ) (registry : Registry) (node : NodeRecord) (after : States)
    (s : ProbeWatch) : List (ℚ × Option BreakerState) :=
  if ¬ Cut registry id ∧ (∃ rate ∈ rate? node.metrics, cfg.exceeds rate = true) ∧ s.phase id ≠ .opened then
    s.retrips ++ [(now, after.get? id)]
  else s.retrips

end ProbeWatch

-- The node is registered at every evaluation.
def probeStep (cfg : Settings) (id : String) (s : ProbeWatch) : BreakerEvent → Option ProbeWatch
  | .evaluate now listed registry =>
      (registry.nodes.get? id).map fun node =>
        let after := evaluate cfg now (Scheduler.nodes listed registry) s.states
        ⟨after, s.dueAfter cfg id now, s.retripsAfter cfg id now registry node after⟩
  | .reset nodeId => some { s with states := (reset nodeId s.states).2 }

abbrev ProbeRun (cfg : Settings) (id : String) (allowed : ProbeWatch → BreakerEvent → Prop) := Runs.Run (probeStep cfg id) allowed

-- pick does not leave out a node whose probe is due, and a failed probe trips
-- the breaker afresh.
structure Probed (id : String) (s : ProbeWatch) : Prop where
  allowed : s.due = true → s.states.isOpen id = false
  retripped : ∀ retrip ∈ s.retrips, ∃ breaker ∈ retrip.2, breaker.state = .opened ∧ breaker.trippedAt = some retrip.1

-- The evaluation that finds the timeout elapsed gets to the node and reads an
-- error rate that is no longer above the threshold.
def Recovered (cfg : Settings) (id : String) (s : ProbeWatch) : BreakerEvent → Prop
  | .evaluate now _ registry => ∀ breaker ∈ s.states.get? id, breaker.state = .opened → breaker.expired cfg now = true →
      ¬ Cut registry id ∧ ∃ node ∈ registry.nodes.get? id, ∃ rate ∈ rate? node.metrics, cfg.recovers rate = true
  | .reset _ => True

-- A half-open breaker belongs to a node whose probe is due.
def Tracked (id : String) (s : ProbeWatch) : Prop := ∀ breaker ∈ s.states.get? id, breaker.state = .halfOpen → s.due = true

theorem retrips_quiet (cfg : Settings) (id : String) (now : ℚ) (registry : Registry) (node : NodeRecord) (after : States)
    (s : ProbeWatch) (opened : s.phase id = .opened) : s.retripsAfter cfg id now registry node after = s.retrips :=
  if_neg fun noted => noted.2.2 opened

theorem due_after (cfg : Settings) (id : String) (now : ℚ) (s : ProbeWatch) (breaker : BreakerState)
    (held : s.states.get? id = some breaker) (opened : breaker.state ≠ .closed) :
    s.dueAfter cfg id now = (s.due || breaker.expired cfg now) := by
  simp [ProbeWatch.dueAfter, held, BreakerState.isOpen, opened]

theorem tracked_step (cfg : Settings) (id : String) (s after : ProbeWatch) (event : BreakerEvent) (tracked : Tracked id s)
    (taken : probeStep cfg id s event = some after) : Tracked id after := by
  cases event with
  | evaluate now listed registry =>
      obtain ⟨node, found, rfl⟩ := Option.map_eq_some_iff.mp taken
      have seen := evaluate_seen cfg now listed registry s.states id node found
      by_cases shut : ∀ breaker ∈ s.states.get? id, breaker.state = .closed
      · have trips := (closed_seen cfg now id registry node _ _ shut seen).1
        intro breaker held half
        have opened := (trips breaker held (by simp [half])).1
        simp [half] at opened
      · push Not at shut
        obtain ⟨breaker, held, opened⟩ := shut
        rw [Option.mem_def] at held
        rw [held] at seen
        obtain ⟨final, made, half, _⟩ := open_seen cfg now id registry node breaker _ opened seen
        rw [Option.mem_def] at made
        intro other same halfOpen
        rw [made] at same
        cases same
        rw [due_after cfg id now s breaker held opened, Bool.or_eq_true]
        exact (half halfOpen).imp_left (tracked breaker held)
  | reset nodeId =>
      cases taken
      rcases reset_spec nodeId id s.states with same | ⟨breaker, held, closed⟩
      · simpa only [Tracked, same] using tracked
      · intro other shown half
        rw [Option.mem_def] at held shown
        rw [held] at shown
        cases shown
        simp [closed] at half

-- While the breaker is closed an evaluation is no probe, and whatever it trips, it
-- trips by the rate it reads.
theorem probed_shut (cfg : Settings) (id : String) (now : ℚ) (listed : String → ℚ) (registry : Registry) (node : NodeRecord)
    (s after : ProbeWatch) (found : registry.nodes.get? id = some node) (probed : Probed id s)
    (shut : ∀ breaker ∈ s.states.get? id, breaker.state = .closed)
    (taken : probeStep cfg id s (.evaluate now listed registry) = some after) : Probed id after := by
  have seen := evaluate_seen cfg now listed registry s.states id node found
  simp only [probeStep, found, Option.map_some, Option.some.injEq] at taken
  subst taken
  have retrips := (closed_seen cfg now id registry node _ _ shut seen).2
  have idle : s.dueAfter cfg id now = false := by
    cases held : s.states.get? id with
    | none => simp [ProbeWatch.dueAfter, held]
    | some breaker => simp [ProbeWatch.dueAfter, held, BreakerState.isOpen, shut breaker held]
  refine ⟨fun due => by simp [idle] at due, ?_⟩
  intro retrip member
  simp only [ProbeWatch.retripsAfter] at member
  split at member
  · rename_i noted
    rcases List.mem_append.mp member with old | new
    · exact probed.retripped retrip old
    · rw [List.mem_singleton.mp new]
      exact retrips noted.1 noted.2.1
  · exact probed.retripped retrip member

theorem tripped_opened (id : String) (s : ProbeWatch) (breaker : BreakerState) (tracked : Tracked id s) (probed : Probed id s)
    (held : s.states.get? id = some breaker) (tripped : breaker.state ≠ .closed) : s.due = false ∧ breaker.state = .opened := by
  have isOpen : s.states.isOpen id = true := by simpa [States.isOpen, held, BreakerState.isOpen] using tripped
  have undue : s.due = false := by
    cases due : s.due with
    | false => rfl
    | true => simp [probed.allowed due] at isOpen
  refine ⟨undue, ?_⟩
  cases phase : breaker.state with
  | closed => exact absurd phase tripped
  | opened => rfl
  | halfOpen => simp [tracked breaker held phase] at undue

theorem probed_evaluate (cfg : Settings) (id : String) (now : ℚ) (listed : String → ℚ) (registry : Registry) (node : NodeRecord)
    (s after : ProbeWatch) (found : registry.nodes.get? id = some node) (tracked : Tracked id s) (probed : Probed id s)
    (taken : probeStep cfg id s (.evaluate now listed registry) = some after) :
    Probed id after ↔ Recovered cfg id s (.evaluate now listed registry) := by
  by_cases shut : ∀ breaker ∈ s.states.get? id, breaker.state = .closed
  · apply iff_of_true (probed_shut cfg id now listed registry node s after found probed shut taken)
    exact fun breaker held opened => absurd (shut breaker held) (by simp [opened])
  · push Not at shut
    obtain ⟨breaker, held, notClosed⟩ := shut
    rw [Option.mem_def] at held
    obtain ⟨undue, opened⟩ := tripped_opened id s breaker tracked probed held notClosed
    have seen := evaluate_seen cfg now listed registry s.states id node found
    simp only [probeStep, found, Option.map_some, Option.some.injEq] at taken
    subst taken
    rw [held] at seen
    obtain ⟨final, made, _, closes⟩ := open_seen cfg now id registry node breaker _ notClosed seen
    rw [Option.mem_def] at made
    have due : s.dueAfter cfg id now = breaker.expired cfg now := by
      rw [due_after cfg id now s breaker held notClosed, undue, Bool.false_or]
    have quiet : s.retripsAfter cfg id now registry node (evaluate cfg now (Scheduler.nodes listed registry) s.states) = s.retrips :=
      retrips_quiet cfg id now registry node _ s (by simp [ProbeWatch.phase, held, opened])
    have excluded : States.isOpen (evaluate cfg now (Scheduler.nodes listed registry) s.states) id = false ↔ final.state = .closed := by
      simp [States.isOpen, made, BreakerState.isOpen]
    have recovered : Recovered cfg id s (.evaluate now listed registry) ↔
        (breaker.expired cfg now = true → final.state = .closed) := by
      simp only [Recovered, held, Option.mem_some_iff, forall_eq', opened, forall_const, found, exists_eq_left']
      rw [closes]
    rw [recovered, ← excluded, ← due]
    exact ⟨fun probed => probed.allowed, fun allowed => ⟨allowed, by rw [quiet]; exact probed.retripped⟩⟩

theorem probed_step (cfg : Settings) (id : String) (s after : ProbeWatch) (event : BreakerEvent) (tracked : Tracked id s)
    (probed : Probed id s) (taken : probeStep cfg id s event = some after) : Probed id after ↔ Recovered cfg id s event := by
  cases event with
  | evaluate now listed registry =>
      cases found : registry.nodes.get? id with
      | none => simp [probeStep, found] at taken
      | some node => exact probed_evaluate cfg id now listed registry node s after found tracked probed taken
  | reset nodeId =>
      cases taken
      refine iff_of_true ⟨fun due => ?_, probed.retripped⟩ trivial
      rcases reset_spec nodeId id s.states with same | ⟨breaker, held, closed⟩
      · exact Eq.trans (by simp only [States.isOpen, same]) (probed.allowed due)
      · rw [Option.mem_def] at held
        simp [States.isOpen, held, BreakerState.isOpen, closed]

theorem half_open_probe_iff (cfg : Settings) (id : String) (events : List BreakerEvent) (last : ProbeWatch)
    (run : ProbeRun cfg id (fun _ _ => True) .fresh events last) :
    Runs.Always (probeStep cfg id) .fresh events (Probed id) ↔ ProbeRun cfg id (Recovered cfg id) .fresh events last := by
  apply Runs.run_always (probeStep cfg id) (Recovered cfg id) (Tracked id) (Probed id)
  · exact fun s event after tracked taken => tracked_step cfg id s after event tracked taken
  · exact fun s event after tracked probed taken => probed_step cfg id s after event tracked probed taken
  · simp [Tracked, ProbeWatch.fresh]
  · exact ⟨by simp [ProbeWatch.fresh], by simp [ProbeWatch.fresh]⟩
  · exact run

instance (cfg : Settings) (id : String) (s : ProbeWatch) (event : BreakerEvent) : Decidable (Recovered cfg id s event) := by
  cases event <;> simp only [Recovered] <;> infer_instance

def forwards (errorRate : ℚ) : Registry := Registry.empty.run {} [.join 0 (Master.sampleJoin "a") none,
  .heartbeat 0 "a" (.obj [("metrics", .obj [("error_rate", .number errorRate)])])]

def evaluation (now errorRate : ℚ) : BreakerEvent := .evaluate now (fun _ => now) (forwards errorRate)

-- The node is well again when its trip times out, and is tripped again later.
def recovers : List BreakerEvent := [evaluation 0 (9 / 10), evaluation 40 (1 / 10), evaluation 50 (9 / 10)]

def staysIll : List BreakerEvent := [evaluation 0 (9 / 10), evaluation 40 (9 / 10), evaluation 50 (9 / 10)]

theorem recovered_node_probed : ∃ last, ProbeRun {} "a" (fun _ _ => True) .fresh recovers last ∧
    Runs.Always (probeStep {} "a") .fresh recovers (Probed "a") := by
  have taken : (Runs.follow (probeStep {} "a") (Recovered {} "a") .fresh recovers).isSome = true := by decide +kernel
  obtain ⟨last, followed⟩ := Option.isSome_iff_exists.mp taken
  have permitted := Runs.follow_run _ _ _ last _ followed
  have run := Runs.run_free _ _ _ last _ permitted
  exact ⟨last, run, (half_open_probe_iff {} "a" _ last run).mpr permitted⟩

-- The breaker keeps the node out while half-open, and does not trip again.
theorem half_open_excludes : ∃ last, ProbeRun {} "a" (fun _ _ => True) .fresh staysIll last ∧ last.due = true ∧
    last.states.isOpen "a" = true ∧ (last.states.get? "a").map BreakerState.state = some .halfOpen ∧
      (last.states.get? "a").map BreakerState.trippedAt = some (some 0) ∧ ¬ Probed "a" last := by
  have reached : ∃ last ∈ Runs.follow (probeStep {} "a") (fun _ _ => True) .fresh staysIll, last.due = true ∧
      last.states.isOpen "a" = true ∧ (last.states.get? "a").map BreakerState.state = some .halfOpen ∧
        (last.states.get? "a").map BreakerState.trippedAt = some (some 0) := by decide +kernel
  obtain ⟨last, followed, due, excluded, phase, trippedAt⟩ := reached
  refine ⟨last, Runs.follow_run _ _ _ last _ followed, due, excluded, phase, trippedAt, ?_⟩
  intro probed
  rw [probed.allowed due] at excluded
  cases excluded

end HuddleCluster.Breaker
