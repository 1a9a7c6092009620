import HuddleCluster.Master.Leave
import HuddleCluster.Master.StateFile

set_option autoImplicit false

namespace HuddleCluster.Master

-- A payload on its way to the state file. The last field is not in the program:
-- whether a node was leaving when the payload was made.
structure Saved where
  payload : Json
  leaving : Bool

-- A master with its state file. Saves that run at the same time write in any order.
structure Process where
  members : Members
  captures : List Saved
  file : Option Saved

inductive ProcessEvent where
  | update (event : RegistryUpdate)
  | capture (now : ℚ)
  | write (i : Nat)
  | discard (i : Nat)
  | restart (now : ℚ)

def anyLeaving (r : Registry) : Bool := r.nodes.values.any fun node => decide (node.status = .leaving)

def loaded (now : ℚ) : Option Saved → Registry
  | none => .empty
  | some saved => Registry.loadSnapshot now saved.payload .empty

-- A process that stops takes its requests and its saves with it.
def processStep (m : Settings) (s : Process) : ProcessEvent → Option Process
  | .update event => (memberStep m s.members event).map fun members => { s with members := members }
  | .capture now =>
      some { s with captures := s.captures ++ [⟨s.members.registry.snapshot now, anyLeaving s.members.registry⟩] }
  | .write i => s.captures[i]?.map fun saved => { s with captures := s.captures.eraseIdx i, file := some saved }
  | .discard i => s.captures[i]?.map fun _ => { s with captures := s.captures.eraseIdx i }
  | .restart now => some ⟨⟨loaded now s.file, []⟩, [], s.file⟩

abbrev ProcessRun (m : Settings) (allowed : Process → ProcessEvent → Prop) := Runs.Run (processStep m) allowed

def Process.fresh : Process := ⟨⟨.empty, []⟩, [], none⟩

-- A node without a leave request under way is not leaving. Once it is silent for
-- longer than the timeout a tick leaves it dead or removes it, and a dead one is
-- removed by a tick after the purge limit.
structure NoZombie (m : Settings) (s : Process) : Prop where
  status : ∀ id node, s.members.registry.nodes.get? id = some node → id ∉ s.members.leaves → node.status ≠ .leaving
  dies : ∀ id node now, s.members.registry.nodes.get? id = some node → id ∉ s.members.leaves →
    m.timeout < now - node.lastHeartbeat →
      ∀ after, (s.members.registry.checkHeartbeats m now).nodes.get? id = some after → after.status = .dead
  purged : ∀ id node now limit, s.members.registry.nodes.get? id = some node → node.status = .dead →
    m.purgeAfter = some limit → limit < now - node.lastHeartbeat →
      (s.members.registry.checkHeartbeats m now).nodes.get? id = none

-- A restart loads a snapshot that was made when no node was leaving.
def Settled (s : Process) : ProcessEvent → Prop
  | .restart _ => ∀ saved ∈ s.file, saved.leaving = false
  | _ => True

def Genuine (s : Process) : Prop :=
  ∀ saved, saved ∈ s.captures ∨ s.file = some saved →
    ∃ now r, saved.payload = Registry.snapshot now r ∧ saved.leaving = anyLeaving r

theorem no_zombie_of (m : Settings) (s : Process)
    (status : ∀ id node, s.members.registry.nodes.get? id = some node → id ∉ s.members.leaves → node.status ≠ .leaving) :
    NoZombie m s := by
  refine ⟨status, ?_, ?_⟩
  · intro id node now found free silent after left
    rw [Registry.tick_node, found] at left
    simp only [nodeStep, Option.bind_some, NodeRecord.monitor] at left
    split at left
    · cases left
    · rw [← Option.some.inj left, NodeRecord.check]
      have late : node.timedOut m now = true := by simpa [NodeRecord.timedOut] using silent
      cases was : node.status with
      | dead => simp [NodeRecord.live, was]
      | leaving => exact absurd was (status id node found free)
      | alive | quarantined => simp [NodeRecord.live, was, late, NodeRecord.recordDeath]
  · intro id node now limit found dead purge silent
    rw [Registry.tick_node, found]
    have due : node.purgeDue m now = true := by simp [NodeRecord.purgeDue, dead, purge, silent]
    simp [nodeStep, NodeRecord.monitor, due]

theorem any_leaving (r : Registry) : anyLeaving r = false ↔ ∀ id node, r.nodes.get? id = some node → node.status ≠ .leaving := by
  rw [anyLeaving, List.any_eq_false]
  constructor
  · intro staying id node found
    simpa using staying node ((Dict.mem_values r.nodes node).mpr ⟨id, found⟩)
  · intro staying node member
    obtain ⟨id, found⟩ := (Dict.mem_values r.nodes node).mp member
    simpa using staying id node found

theorem leaving_before (m : Settings) (id : String) (before : Option NodeRecord) (event : RegistryUpdate) (node : NodeRecord)
    (updated : nodeUpdate m id before event = some node) (leaving : node.status = .leaving) :
    event = .beginLeave id ∨ event ≠ .finishLeave id ∧ ∃ old, before = some old ∧ old.status = .leaving := by
  cases event with
  | receive event =>
      refine Or.inr ⟨by simp, ?_⟩
      cases event with
      | heartbeat now nodeId data =>
          simp only [nodeUpdate, nodeStep] at updated
          split at updated
          · obtain ⟨old, held, rfl⟩ := Option.map_eq_some_iff.mp updated
            by_contra none
            have staying := (receive_data m now old data).2.2.2 fun was => none ⟨old, held, was⟩
            exact staying leaving
          · exact ⟨node, updated, leaving⟩
      | join now data tlsClientCn =>
          simp only [nodeUpdate, nodeStep] at updated
          split at updated
          · exact ⟨node, updated, leaving⟩
          · split at updated
            · rename_i request _ _
              rw [← Option.some.inj updated] at leaving
              exact absurd leaving (arrive_data m now tlsClientCn request before).2.2.2
            · exact ⟨node, updated, leaving⟩
      | tick now =>
          simp only [nodeUpdate, nodeStep] at updated
          obtain ⟨old, held, monitored⟩ := Option.bind_eq_some_iff.mp updated
          simp only [NodeRecord.monitor] at monitored
          split at monitored
          · cases monitored
          · rw [← Option.some.inj monitored, NodeRecord.check] at leaving
            split at leaving
            · simp [NodeRecord.recordDeath] at leaving
            · exact ⟨old, held, leaving⟩
  | beginLeave nodeId =>
      by_cases same : nodeId = id
      · exact Or.inl (by rw [same])
      · simp only [nodeUpdate, if_neg same] at updated
        exact Or.inr ⟨by simp, node, updated, leaving⟩
  | finishLeave nodeId =>
      by_cases same : nodeId = id
      · simp [nodeUpdate, same] at updated
      · simp only [nodeUpdate, if_neg same] at updated
        exact Or.inr ⟨by simpa using same, node, updated, leaving⟩

theorem no_zombie_update (m : Settings) (s after : Process) (event : RegistryUpdate) (clean : NoZombie m s)
    (taken : processStep m s (.update event) = some after) : NoZombie m after := by
  simp only [processStep] at taken
  obtain ⟨members, stepped, rfl⟩ := Option.map_eq_some_iff.mp taken
  apply no_zombie_of
  intro id node found free leaving
  have changed := member_step_node m s.members members event id stepped
  have leaves := leaves_step m s.members members event id stepped
  rw [changed] at found
  rcases leaving_before m id _ event node found leaving with rfl | ⟨other, old, held, was⟩
  · simp only [memberStep] at stepped
    split at stepped
    · rename_i unknown
      simp [nodeUpdate, unknown] at found
    · cases stepped
      exact free List.mem_cons_self
  · by_cases under : id ∈ s.members.leaves
    · rcases leaves.2 under with still | ended
      · exact free still
      · exact other ended
    · exact clean.status id old held under was

theorem genuine_step (m : Settings) (s after : Process) (event : ProcessEvent) (genuine : Genuine s)
    (taken : processStep m s event = some after) : Genuine after := by
  cases event with
  | update event =>
      obtain ⟨members, _, rfl⟩ := Option.map_eq_some_iff.mp taken
      exact genuine
  | capture now =>
      cases taken
      rintro saved (pending | written)
      · rcases List.mem_append.mp pending with old | new
        · exact genuine saved (Or.inl old)
        · rw [List.mem_singleton.mp new]
          exact ⟨now, s.members.registry, rfl, rfl⟩
      · exact genuine saved (Or.inr written)
  | write i =>
      obtain ⟨chosen, here, rfl⟩ := Option.map_eq_some_iff.mp taken
      rintro saved (pending | written)
      · exact genuine saved (Or.inl (List.mem_of_mem_eraseIdx pending))
      · rw [← Option.some.inj written]
        exact genuine chosen (Or.inl (List.mem_of_getElem? here))
  | discard i =>
      obtain ⟨chosen, _, rfl⟩ := Option.map_eq_some_iff.mp taken
      rintro saved (pending | written)
      · exact genuine saved (Or.inl (List.mem_of_mem_eraseIdx pending))
      · exact genuine saved (Or.inr written)
  | restart now =>
      cases taken
      rintro saved (pending | written)
      · cases pending
      · exact genuine saved (Or.inr written)

theorem restart_settled (m : Settings) (s after : Process) (now : ℚ) (genuine : Genuine s)
    (taken : processStep m s (.restart now) = some after) : NoZombie m after ↔ Settled s (.restart now) := by
  cases taken
  have clean : NoZombie m ⟨⟨loaded now s.file, []⟩, [], s.file⟩ ↔
      ∀ id node, (loaded now s.file).nodes.get? id = some node → node.status ≠ .leaving := by
    constructor
    · exact fun held id node found => held.status id node found (List.not_mem_nil)
    · exact fun status => no_zombie_of m _ fun id node found _ => status id node found
  rw [clean, Settled]
  cases place : s.file with
  | none => simp [loaded, Registry.empty]
  | some saved =>
      obtain ⟨time, r, payload, leaving⟩ := genuine saved (Or.inr place)
      simp only [loaded, payload, Registry.load_snapshot, Option.mem_some_iff, forall_eq', leaving, any_leaving]

theorem no_zombie_step (m : Settings) (s after : Process) (event : ProcessEvent) (genuine : Genuine s) (clean : NoZombie m s)
    (taken : processStep m s event = some after) : NoZombie m after ↔ Settled s event := by
  cases event with
  | update event => exact iff_of_true (no_zombie_update m s after event clean taken) trivial
  | capture now =>
      cases taken
      exact iff_of_true ⟨clean.status, clean.dies, clean.purged⟩ trivial
  | write i | discard i =>
      obtain ⟨chosen, _, rfl⟩ := Option.map_eq_some_iff.mp taken
      exact iff_of_true ⟨clean.status, clean.dies, clean.purged⟩ trivial
  | restart now => exact restart_settled m s after now genuine taken

theorem no_zombie_iff (m : Settings) (events : List ProcessEvent) (last : Process)
    (run : ProcessRun m (fun _ _ => True) .fresh events last) :
    Runs.Always (processStep m) .fresh events (NoZombie m) ↔ ProcessRun m Settled .fresh events last := by
  apply Runs.run_always (processStep m) Settled Genuine (NoZombie m)
  · exact fun s event after genuine taken => genuine_step m s after event genuine taken
  · exact fun s event after genuine clean taken => no_zombie_step m s after event genuine clean taken
  · rintro saved (pending | written)
    · cases pending
    · cases written
  · apply no_zombie_of
    intro id node found
    simp [Process.fresh, Registry.empty] at found
  · exact run

instance (s : Process) : (event : ProcessEvent) → Decidable (Settled s event)
  | .restart _ => inferInstanceAs (Decidable (∀ saved ∈ s.file, saved.leaving = false))
  | .update _ | .capture _ | .write _ | .discard _ => inferInstanceAs (Decidable True)

def joins (nodeId : String) : ProcessEvent := .update (.receive (.join 0 (sampleJoin nodeId) none))

def savedBeforeLeave : List ProcessEvent :=
  [joins "a", .capture 1, .update (.beginLeave "a"), .write 0, .update (.finishLeave "a"), .restart 2]

def savedDuringLeave : List ProcessEvent := [joins "a", .update (.beginLeave "a"), .capture 1, .write 0, .restart 2]

theorem saved_before_leave : ∃ last, ProcessRun {} Settled .fresh savedBeforeLeave last ∧
    Runs.Always (processStep {}) .fresh savedBeforeLeave (NoZombie {}) := by
  have taken : (Runs.follow (processStep {}) Settled .fresh savedBeforeLeave).isSome = true := by decide +kernel
  obtain ⟨last, followed⟩ := Option.isSome_iff_exists.mp taken
  have permitted := Runs.follow_run (processStep {}) Settled _ last _ followed
  exact ⟨last, permitted, (no_zombie_iff {} _ last (Runs.run_free _ _ _ _ _ permitted)).mpr permitted⟩

-- The snapshot is made while the leave runs its callback, and the process ends.
theorem saved_during_leave : ∃ last node, ProcessRun {} (fun _ _ => True) .fresh savedDuringLeave last ∧
    last.members.leaves = [] ∧ last.members.registry.nodes.get? "a" = some node ∧ node.status = .leaving ∧ ¬ NoZombie {} last := by
  have reached : ∃ last ∈ Runs.follow (processStep {}) (fun _ _ => True) .fresh savedDuringLeave,
      last.members.leaves = [] ∧ (last.members.registry.nodes.get? "a").map NodeRecord.status = some .leaving := by decide +kernel
  obtain ⟨last, followed, leaves, held⟩ := reached
  obtain ⟨node, found, status⟩ := Option.map_eq_some_iff.mp held
  refine ⟨last, node, Runs.follow_run _ _ _ last _ followed, leaves, found, status, ?_⟩
  intro clean
  exact clean.status "a" node found (by simp [leaves]) status

end HuddleCluster.Master
