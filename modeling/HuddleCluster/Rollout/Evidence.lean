import HuddleCluster.Rollout.Workers

set_option autoImplicit false

namespace HuddleCluster.Rollout

open Master (NodeRecord Registry RegistryUpdate)

-- The node was heard from since update_fn returned, or it has been alive all along, or the
-- registry is another master's.
def Since.Shown (since : Since) : Prop := 0 < since.beats ∨ since.replaced = true ∨ since.steady = true

-- A look that found the node alive, after update_fn had returned for it.
def Look.Proves (look : Look) : Prop := look.alive = true ∧ ∃ since ∈ look.since, since.Shown

-- Every node whose outcome is updated was found alive by such a look.
structure UpdatesProven (s : Updater) : Prop where
  marked : ∀ nodeId, s.statusOf nodeId = some .updated → ∃ mark ∈ s.updates, mark.nodeId = nodeId
  proven : ∀ mark ∈ s.updates, ∃ look ∈ mark.look, look.Proves

theorem is_alive_status (registry : Registry) (nodeId : String) :
    isAlive registry nodeId = true ↔ ∃ node, registry.nodes.get? nodeId = some node ∧ node.status = .alive := by
  simp [isAlive, Option.any_eq_true]

-- A node that was not alive is alive again only after a heartbeat or a join.
theorem alive_accepted (m : Master.Settings) (registry : Registry) (update : RegistryUpdate) (nodeId : String)
    (before : isAlive registry nodeId = false) (after : isAlive (registry.update m update) nodeId = true) :
    accepted m registry update = some nodeId := by
  obtain ⟨node, found, alive⟩ := (is_alive_status _ nodeId).mp after
  rw [Registry.update_node] at found
  have unchanged : ∀ other, registry.nodes.get? nodeId = some other → other.status ≠ .alive := by
    intro other held status
    rw [(is_alive_status registry nodeId).mpr ⟨other, held, status⟩] at before
    cases before
  cases update with
  | receive event =>
      cases event with
      | heartbeat now name data =>
          simp only [Master.nodeUpdate, Master.nodeStep] at found
          split at found
          · rename_i same
            subst same
            obtain ⟨old, held, received⟩ := Option.map_eq_some_iff.mp found
            cases data with
            | obj fields => simp [accepted, Registry.handleHeartbeat, held]
            | _ =>
                rw [← received] at alive
                exact absurd alive (unchanged old held)
          · exact absurd alive (unchanged node found)
      | join now data tlsClientCn =>
          simp only [Master.nodeUpdate, Master.nodeStep] at found
          simp only [accepted]
          split at found
          · exact absurd alive (unchanged node found)
          · split at found
            · rename_i _ request read same
              simp [read, same]
            · exact absurd alive (unchanged node found)
      | tick now =>
          simp only [Master.nodeUpdate, Master.nodeStep] at found
          obtain ⟨old, held, monitored⟩ := Option.bind_eq_some_iff.mp found
          simp only [NodeRecord.monitor] at monitored
          split at monitored
          · cases monitored
          · rw [← Option.some.inj monitored, NodeRecord.check] at alive
            split at alive
            · simp [NodeRecord.recordDeath] at alive
            · exact absurd alive (unchanged old held)
  | beginLeave name =>
      simp only [Master.nodeUpdate] at found
      split at found
      · obtain ⟨old, _, marked⟩ := Option.map_eq_some_iff.mp found
        rw [← marked] at alive
        cases alive
      · exact absurd alive (unchanged node found)
  | finishLeave name =>
      simp only [Master.nodeUpdate] at found
      split at found
      · cases found
      · exact absurd alive (unchanged node found)

def WorkerPhase.waits : WorkerPhase → Bool
  | .waiting _ | .polling _ => true
  | _ => false

structure Waited (registry : Registry) (worker : Worker) : Prop where
  since : worker.phase.waits = true → worker.since.isSome = true
  shown : isAlive registry worker.nodeId = true → ∀ since ∈ worker.since, since.Shown
  found : worker.phase = .found → ∃ look ∈ worker.look, look.Proves

structure Witnessed (s : Updater) : Prop where
  workers : ∀ worker ∈ s.workers, Waited s.registry worker
  updates : UpdatesProven s

theorem waited_hear (cfg : Settings) (registry : Registry) (update : RegistryUpdate) (worker : Worker)
    (waited : Waited registry worker) :
    Waited (registry.update cfg.master update)
      (worker.hear (registry.update cfg.master update) (accepted cfg.master registry update)) := by
  refine ⟨fun waits => ?_, ?_, waited.found⟩
  · simpa only [Worker.hear, Option.isSome_map] using waited.since waits
  · intro alive since member
    obtain ⟨old, held, rfl⟩ := Option.mem_map.mp member
    by_cases heard : accepted cfg.master registry update = some worker.nodeId
    · exact Or.inl (by simp [heard])
    · -- Without a heartbeat or a join the node was alive before.
      have before : isAlive registry worker.nodeId = true := by
        cases still : isAlive registry worker.nodeId with
        | true => rfl
        | false => exact absurd (alive_accepted cfg.master registry update _ still alive) heard
      change isAlive (registry.update cfg.master update) worker.nodeId = true at alive
      simpa only [Since.Shown, if_neg heard, alive, Bool.and_true] using waited.shown before old held

theorem waited_take_over (registry replaced : Registry) (worker : Worker) (waited : Waited registry worker) :
    Waited replaced (worker.takeOver replaced) := by
  refine ⟨fun waits => ?_, ?_, waited.found⟩
  · simpa only [Worker.takeOver, Option.isSome_map] using waited.since waits
  · intro _ since member
    obtain ⟨old, _, rfl⟩ := Option.mem_map.mp member
    exact Or.inr (Or.inl rfl)

theorem proven_kept (s after : Updater) (proven : UpdatesProven s) (updates : after.updates = s.updates)
    (older : ∀ nodeId, after.statusOf nodeId = some .updated → s.statusOf nodeId = some .updated) : UpdatesProven after := by
  constructor
  · intro nodeId status
    rw [updates]
    exact proven.marked nodeId (older nodeId status)
  · rw [updates]
    exact proven.proven

theorem status_same (s after : Updater) (outcomes : after.outcomes = s.outcomes) (nodeId : String)
    (status : after.statusOf nodeId = some .updated) : s.statusOf nodeId = some .updated := by
  rwa [Updater.statusOf, outcomes] at status

theorem witnessed_worker (s after : Updater) (i : Nat) (worker : Worker) (witnessed : Witnessed s)
    (here : s.workers[i]? = some worker) (frame : Frame s after) (moved : WorkerMoved s i worker after) : Witnessed after := by
  have own := witnessed.workers worker (List.mem_of_getElem? here)
  have replaced : ∀ next : Worker, after.workers = s.workers.set i next → Waited s.registry next →
      ∀ other ∈ after.workers, Waited after.registry other := by
    intro next workers waited other member
    rw [workers] at member
    rw [frame.registry]
    rcases List.mem_or_eq_of_mem_set member with old | rfl
    · exact witnessed.workers other old
    · exact waited
  -- Only the phase changes, and no node is found.
  have turned (phase : WorkerPhase) (waits : phase.waits = true → worker.phase.waits = true) (lost : phase ≠ .found) :
      Waited s.registry { worker with phase := phase } :=
    ⟨fun late => own.since (waits late), own.shown, fun found => absurd found lost⟩
  cases moved with
  | began was workers _ outcomes updates =>
      refine ⟨replaced _ workers (turned _ (by simp [WorkerPhase.waits]) (by simp)), proven_kept s after witnessed.updates updates ?_⟩
      intro nodeId status
      rw [outcomes nodeId] at status
      split at status
      · rename_i same
        rw [same, Updater.statusOf]
        cases held : s.outcomes.get? worker.nodeId with
        | none => simp [Dict.getD, held] at status
        | some outcome => simpa [Dict.getD, held] using status
      · exact status
  | returned deadline was workers _ outcomes updates =>
      refine ⟨replaced _ workers ⟨fun _ => rfl, ?_, by simp⟩,
        proven_kept s after witnessed.updates updates (status_same s after outcomes)⟩
      intro alive since member
      obtain rfl := Option.some.inj member
      exact Or.inr (Or.inr alive)
  | tested deadline next was choice workers _ outcomes updates =>
      refine ⟨replaced _ workers (turned next (fun _ => by simp [was, WorkerPhase.waits]) ?_),
        proven_kept s after witnessed.updates updates (status_same s after outcomes)⟩
      rcases choice with rfl | rfl <;> simp
  | polled deadline was workers _ outcomes updates =>
      have since := own.since (by simp [was, WorkerPhase.waits])
      refine ⟨replaced _ workers ⟨fun _ => since, own.shown, ?_⟩,
        proven_kept s after witnessed.updates updates (status_same s after outcomes)⟩
      intro found
      cases alive : isAlive s.registry worker.nodeId with
      | false => simp [alive] at found
      | true =>
          obtain ⟨known, held⟩ := Option.isSome_iff_exists.mp since
          exact ⟨_, rfl, rfl, known, held, own.shown alive known held⟩
  | succeeded was workers _ outcomes updates =>
      obtain ⟨look, looked, proves⟩ := own.found was
      refine ⟨replaced _ workers (turned _ (by simp [WorkerPhase.waits]) (by simp)), ?_⟩
      constructor
      · intro nodeId status
        rw [updates]
        rw [outcomes nodeId] at status
        split at status
        · rename_i same
          exact ⟨_, List.mem_append_right _ List.mem_cons_self, same.symm⟩
        · obtain ⟨mark, member, name⟩ := witnessed.updates.marked nodeId status
          exact ⟨mark, List.mem_append_left _ member, name⟩
      · rw [updates, List.forall_mem_append, List.forall_mem_singleton]
        exact ⟨witnessed.updates.proven, look, looked, proves⟩
  | failed was workers _ outcomes updates =>
      refine ⟨replaced _ workers (turned _ (by simp [WorkerPhase.waits]) (by simp)), proven_kept s after witnessed.updates updates ?_⟩
      intro nodeId status
      rw [outcomes nodeId] at status
      split at status
      · cases status
      · exact status

theorem witnessed_same (s after : Updater) (witnessed : Witnessed s) (registry : after.registry = s.registry)
    (workers : ∀ worker ∈ after.workers, worker ∈ s.workers ∨ worker.since = none ∧ worker.phase = .created)
    (updates : after.updates = s.updates)
    (older : ∀ nodeId, after.statusOf nodeId = some .updated → s.statusOf nodeId = some .updated) : Witnessed after := by
  constructor
  · intro worker member
    rw [registry]
    rcases workers worker member with old | ⟨unknown, created⟩
    · exact witnessed.workers worker old
    · refine ⟨fun waits => ?_, fun _ since known => ?_, fun found => ?_⟩
      · rw [created] at waits
        cases waits
      · rw [unknown] at known
        cases known
      · rw [created] at found
        cases found
  · exact proven_kept s after witnessed.updates updates older

theorem witnessed_advanced (cfg : Settings) (s after : Updater) (witnessed : Witnessed s) (moved : Advanced cfg s after) :
    Witnessed after := by
  cases moved with
  | listed nodes was found result =>
      subst result
      refine witnessed_same s _ witnessed rfl (fun _ => Or.inl) rfl ?_
      intro nodeId status
      rw [status_listed s _ nodes rfl] at status
      by_cases member : nodeId ∈ nodes.map NodeRecord.nodeId
      · rw [if_pos member] at status
        cases status
      · rwa [if_neg member] at status
  | spawned node todo batch rest was result =>
      refine witnessed_same s after witnessed (by rw [result]) ?_ (by rw [result]) (status_same s after (by rw [result]))
      intro worker member
      rw [result] at member
      rcases List.mem_append.mp member with old | new
      · exact Or.inl old
      · rw [List.mem_singleton.mp new]
        exact Or.inr ⟨rfl, rfl⟩
  | nothing _ result | emptied _ result | stopped _ _ _ _ result | entered _ _ _ _ result | waited _ _ _ _ _ _ _ _ result
    | released _ _ _ _ result | opened _ _ _ _ result | left _ _ _ result | launched _ _ _ result | joined _ _ _ _ result
    | broken _ _ _ _ _ _ result | passed _ _ _ _ result | ended _ _ _ result =>
      subst result
      exact witnessed_same s _ witnessed rfl (fun _ => Or.inl) rfl fun _ => id

theorem witnessed_step (cfg : Settings) (s after : Updater) (event : RolloutEvent) (witnessed : Witnessed s)
    (taken : rolloutStep cfg s event = some after) : Witnessed after := by
  cases rollout_stepped cfg s after event taken with
  | started now result =>
      subst result
      exact witnessed_same s _ witnessed rfl (by simp) rfl (by simp [Updater.statusOf])
  | paused _ result | resumed _ result | aborted _ _ result =>
      subst result
      exact witnessed_same s _ witnessed rfl (fun _ => Or.inl) rfl fun _ => id
  | advanced now _ moved => exact witnessed_advanced cfg s after witnessed moved
  | worked i worker here frame moved => exact witnessed_worker s after i worker witnessed here frame moved
  | observed update _ result =>
      subst result
      refine ⟨?_, proven_kept s _ witnessed.updates rfl fun _ => id⟩
      intro worker member
      obtain ⟨old, present, rfl⟩ := List.mem_map.mp member
      exact waited_hear cfg s.registry update old (witnessed.workers old present)
  | replaced registry _ result =>
      subst result
      refine ⟨?_, proven_kept s _ witnessed.updates rfl fun _ => id⟩
      intro worker member
      obtain ⟨old, present, rfl⟩ := List.mem_map.mp member
      exact waited_take_over s.registry registry old (witnessed.workers old present)

-- A node counts as updated once it was found alive after update_fn returned for it; unless
-- it has stayed alive since then, or the registry is another master's, it was heard from.
theorem updates_proven (cfg : Settings) (registry : Registry) (events : List RolloutEvent) (last : Updater)
    (run : RolloutRun cfg (fun _ _ => True) (attached registry) events last) : UpdatesProven last := by
  have witnessed : Witnessed last := by
    apply Runs.run_invariant (rolloutStep cfg) (fun _ _ => True) Witnessed _ (attached registry) last events _ run
    · exact fun s event after held _ taken => witnessed_step cfg s after event held taken
    · exact ⟨by simp [attached], ⟨by simp [attached, Updater.statusOf], by simp [attached]⟩⟩
  exact witnessed.updates

def restarted (heard : List RolloutEvent) : List RolloutEvent :=
  [.startRollout 0] ++ List.replicate 5 (.advance 0) ++ [.begin 0 0, .updateReturned 0 10] ++ heard ++
    [.testDeadline 0 11, .poll 0, .finish 0 11]

def heartbeatOf (nodeId : String) : RolloutEvent := .registry (.receive (.heartbeat 11 nodeId (.obj [])))

def silence : RolloutEvent := .registry (.receive (.tick 100))

-- A node that is found dead after update_fn returned, and then heard from again.
theorem updates_proven_heartbeat :
    ∃ last ∈ Runs.follow (rolloutStep {}) (fun _ _ => True) (attached (joined .empty "a")) (restarted [silence, heartbeatOf "a"]),
      last.updates = [⟨"a", some ⟨true, some ⟨1, false, false⟩⟩⟩] ∧ UpdatesProven last := by
  have reached : ∃ last ∈ Runs.follow (rolloutStep {}) (fun _ _ => True) (attached (joined .empty "a"))
      (restarted [silence, heartbeatOf "a"]), last.updates = [⟨"a", some ⟨true, some ⟨1, false, false⟩⟩⟩] := by decide +kernel
  obtain ⟨last, followed, updates⟩ := reached
  have run := Runs.follow_run (rolloutStep {}) (fun _ _ => True) _ last _ followed
  exact ⟨last, followed, updates, updates_proven {} _ _ last run⟩

-- The registry still has the node as alive when update_fn returns.
theorem silent_node_updated :
    ∃ last, RolloutRun {} (fun _ _ => True) (attached (joined .empty "a")) (restarted []) last ∧
      last.statusOf "a" = some .updated ∧
      ¬ ∀ mark ∈ last.updates, ∃ look ∈ mark.look, ∃ since ∈ look.since, 0 < since.beats := by
  have reached : ∃ last ∈ Runs.follow (rolloutStep {}) (fun _ _ => True) (attached (joined .empty "a")) (restarted []),
      last.statusOf "a" = some .updated ∧ last.updates = [⟨"a", some ⟨true, some ⟨0, false, true⟩⟩⟩] := by decide +kernel
  obtain ⟨last, followed, status, updates⟩ := reached
  refine ⟨last, Runs.follow_run _ _ _ last _ followed, status, ?_⟩
  intro heard
  obtain ⟨look, looked, since, known, beats⟩ := heard _ (by rw [updates]; exact List.mem_cons_self)
  cases looked
  cases known
  exact absurd beats (Nat.lt_irrefl 0)

end HuddleCluster.Rollout
