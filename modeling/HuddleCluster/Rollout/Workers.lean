import HuddleCluster.Rollout.Updater

set_option autoImplicit false

namespace HuddleCluster.Rollout

open Master (NodeRecord)

-- A worker thread touches its own record, its outcome and the two logs.
structure Frame (s after : Updater) : Prop where
  registry : after.registry = s.registry
  phase : after.phase = s.phase
  pauseEvent : after.pauseEvent = s.pauseEvent
  abortEvent : after.abortEvent = s.abortEvent
  control : after.control = s.control
  listed : after.listed = s.listed
  batchesStarted : after.batchesStarted = s.batchesStarted
  stopAt : after.stopAt = s.stopAt
  gateHeld : after.gateHeld = s.gateHeld

def Updater.statusOf (s : Updater) (nodeId : String) : Option OutcomeStatus := (s.outcomes.get? nodeId).map NodeOutcome.status

-- An outcome of one node is rewritten, and its status becomes the given one.
def Recorded (s after : Updater) (nodeId : String) (status : OutcomeStatus) : Prop :=
  ∀ other, after.statusOf other = if other = nodeId then some status else s.statusOf other

inductive WorkerMoved (s : Updater) (i : Nat) (worker : Worker) (after : Updater) : Prop where
  | began (was : worker.phase = .created) (workers : after.workers = s.workers.set i { worker with phase := .calling })
      (calls : after.calls = s.calls ++ [worker.nodeId])
      (outcomes : Recorded s after worker.nodeId (s.outcomes.getD worker.nodeId {}).status) (updates : after.updates = s.updates)
  | returned (deadline : ℚ) (was : worker.phase = .calling)
      (workers : after.workers = s.workers.set i { worker with
        phase := .waiting deadline, since := some { steady := isAlive s.registry worker.nodeId }, look := none })
      (calls : after.calls = s.calls) (outcomes : after.outcomes = s.outcomes) (updates : after.updates = s.updates)
  | tested (deadline : ℚ) (next : WorkerPhase) (was : worker.phase = .waiting deadline)
      (choice : next = .polling deadline ∨ next = .lost)
      (workers : after.workers = s.workers.set i { worker with phase := next })
      (calls : after.calls = s.calls) (outcomes : after.outcomes = s.outcomes) (updates : after.updates = s.updates)
  | polled (deadline : ℚ) (was : worker.phase = .polling deadline)
      (workers : after.workers = s.workers.set i { worker with
        phase := if isAlive s.registry worker.nodeId then .found else .waiting deadline
        look := some ⟨isAlive s.registry worker.nodeId, worker.since⟩ })
      (calls : after.calls = s.calls) (outcomes : after.outcomes = s.outcomes) (updates : after.updates = s.updates)
  | succeeded (was : worker.phase = .found) (workers : after.workers = s.workers.set i { worker with phase := .finished })
      (calls : after.calls = s.calls) (outcomes : Recorded s after worker.nodeId .updated)
      (updates : after.updates = s.updates ++ [⟨worker.nodeId, worker.look⟩])
  | failed (was : worker.phase = .calling ∨ worker.phase = .lost)
      (workers : after.workers = s.workers.set i { worker with phase := .finished })
      (calls : after.calls = s.calls) (outcomes : Recorded s after worker.nodeId .failed) (updates : after.updates = s.updates)

def RolloutEvent.byWorker : RolloutEvent → Bool
  | .begin _ _ | .updateReturned _ _ | .updateRaised _ _ _ | .testDeadline _ _ | .poll _ | .finish _ _ => true
  | _ => false

theorem recorded_outcome (s after : Updater) (nodeId : String) (f : NodeOutcome → NodeOutcome)
    (outcomes : after.outcomes = (s.setOutcome nodeId f).outcomes) :
    Recorded s after nodeId (f (s.outcomes.getD nodeId {})).status := by
  intro other
  by_cases same : other = nodeId
  · simp [Updater.statusOf, outcomes, Updater.setOutcome, same]
  · simp [Updater.statusOf, outcomes, Updater.setOutcome, same]

theorem frame_worker (s : Updater) (i : Nat) (worker : Worker) : Frame s (s.setWorker i worker) :=
  ⟨rfl, rfl, rfl, rfl, rfl, rfl, rfl, rfl, rfl⟩

theorem frame_outcome (s : Updater) (nodeId : String) (f : NodeOutcome → NodeOutcome) (i : Nat) (worker : Worker) :
    Frame s ((s.setOutcome nodeId f).setWorker i worker) := ⟨rfl, rfl, rfl, rfl, rfl, rfl, rfl, rfl, rfl⟩

theorem frame_logs (s t : Updater) (calls : List String) (updates : List UpdateMark) (frame : Frame s t) :
    Frame s { t with calls := calls, updates := updates } :=
  ⟨frame.registry, frame.phase, frame.pauseEvent, frame.abortEvent, frame.control, frame.listed, frame.batchesStarted, frame.stopAt,
    frame.gateHeld⟩

theorem worker_moved (cfg : Settings) (s after : Updater) (event : RolloutEvent) (worked : event.byWorker = true)
    (taken : rolloutStep cfg s event = some after) :
    ∃ i worker, s.workers[i]? = some worker ∧ Frame s after ∧ WorkerMoved s i worker after := by
  have found : ∀ (i : Nat) (f : Worker → Option Updater), s.worker i f = some after →
      ∃ worker, s.workers[i]? = some worker ∧ f worker = some after := by
    intro i f stepped
    cases here : s.workers[i]? with
    | none => simp [Updater.worker, here] at stepped
    | some worker => exact ⟨worker, rfl, by simpa [Updater.worker, here] using stepped⟩
  cases event with
  | begin i now =>
      obtain ⟨worker, here, stepped⟩ := found i _ taken
      refine ⟨i, worker, here, ?_⟩
      by_cases was : worker.phase = .created
      · simp only [Updater.begin, if_pos was] at stepped
        cases stepped
        refine ⟨frame_logs s _ _ s.updates (frame_outcome s worker.nodeId _ i _), .began was rfl rfl ?_ rfl⟩
        exact recorded_outcome s _ worker.nodeId (fun outcome => { outcome with startedAt := some now }) rfl
      · simp [Updater.begin, was] at stepped
  | updateReturned i now =>
      obtain ⟨worker, here, stepped⟩ := found i _ taken
      refine ⟨i, worker, here, ?_⟩
      by_cases was : worker.phase = .calling
      · simp only [Updater.updateReturned, if_pos was] at stepped
        cases stepped
        exact ⟨frame_worker s i _, .returned _ was rfl rfl rfl rfl⟩
      · simp [Updater.updateReturned, was] at stepped
  | updateRaised i now text =>
      obtain ⟨worker, here, stepped⟩ := found i _ taken
      refine ⟨i, worker, here, ?_⟩
      by_cases was : worker.phase = .calling
      · simp only [Updater.updateRaised, if_pos was] at stepped
        cases stepped
        refine ⟨frame_outcome s worker.nodeId _ i _, .failed (Or.inl was) rfl rfl ?_ rfl⟩
        exact recorded_outcome s _ worker.nodeId
          (fun outcome => { outcome with status := .failed, endedAt := some now, error := some text }) rfl
      · simp [Updater.updateRaised, was] at stepped
  | testDeadline i now =>
      obtain ⟨worker, here, stepped⟩ := found i _ taken
      refine ⟨i, worker, here, ?_⟩
      simp only [Updater.testDeadline] at stepped
      split at stepped
      · rename_i deadline was
        cases stepped
        refine ⟨frame_worker s i _, .tested deadline _ was ?_ rfl rfl rfl rfl⟩
        by_cases early : now < deadline
        · exact Or.inl (if_pos early)
        · exact Or.inr (if_neg early)
      · cases stepped
  | poll i =>
      obtain ⟨worker, here, stepped⟩ := found i _ taken
      refine ⟨i, worker, here, ?_⟩
      simp only [Updater.poll] at stepped
      split at stepped
      · rename_i deadline was
        cases stepped
        exact ⟨frame_worker s i _, .polled deadline was rfl rfl rfl rfl⟩
      · cases stepped
  | finish i now =>
      obtain ⟨worker, here, stepped⟩ := found i _ taken
      refine ⟨i, worker, here, ?_⟩
      simp only [Updater.finish] at stepped
      split at stepped
      · rename_i was
        cases stepped
        refine ⟨frame_logs s _ s.calls _ (frame_outcome s worker.nodeId _ i _), .succeeded was rfl rfl ?_ rfl⟩
        exact recorded_outcome s _ worker.nodeId (fun outcome => { outcome with status := .updated, endedAt := some now }) rfl
      · rename_i was
        cases stepped
        refine ⟨frame_outcome s worker.nodeId _ i _, .failed (Or.inr was) rfl rfl ?_ rfl⟩
        exact recorded_outcome s _ worker.nodeId
          (fun outcome => { outcome with status := .failed, endedAt := some now, error := some (Updater.lostText cfg) }) rfl
      · cases stepped
  | _ => simp [RolloutEvent.byWorker] at worked

theorem worker_moved_active (s after : Updater) (i : Nat) (worker : Worker) (moved : WorkerMoved s i worker after) :
    worker.phase ≠ .finished := by
  cases moved with
  | failed was => rcases was with calling | lost <;> simp [*]
  | _ => simp [*]

def Control.quiet : Control → Bool
  | .starting _ _ _ | .joining _ _ => false
  | _ => true

-- Between batches no worker thread is left.
def Rested (s : Updater) : Prop := s.control.quiet = true → ∀ worker ∈ s.workers, worker.phase = .finished

theorem worker_not_quiet (s after : Updater) (i : Nat) (worker : Worker) (rested : Rested s)
    (here : s.workers[i]? = some worker) (moved : WorkerMoved s i worker after) : s.control.quiet = false := by
  cases quiet : s.control.quiet with
  | false => rfl
  | true => exact absurd (rested quiet worker (List.mem_of_getElem? here)) (worker_moved_active s after i worker moved)

theorem status_listed (s after : Updater) (nodes : List NodeRecord)
    (outcomes : after.outcomes = .assign (nodes.map fun node => (node.nodeId, {})) s.outcomes) (nodeId : String) :
    after.statusOf nodeId = if nodeId ∈ nodes.map NodeRecord.nodeId then some .pending else s.statusOf nodeId := by
  rw [Updater.statusOf, outcomes, Dict.get_assign, Dict.last_find nodes NodeRecord.nodeId fun _ => ({} : NodeOutcome)]
  cases found : nodes.reverse.find? fun node => decide (node.nodeId = nodeId) with
  | none =>
      have absent : nodeId ∉ nodes.map NodeRecord.nodeId := by
        intro member
        obtain ⟨node, present, name⟩ := List.mem_map.mp member
        exact absurd name (by simpa using List.find?_eq_none.mp found node (List.mem_reverse.mpr present))
      rw [if_neg absent]
      rfl
  | some node =>
      have name : node.nodeId = nodeId := by simpa using List.find?_some found
      have present := List.mem_reverse.mp (List.mem_of_find?_eq_some found)
      rw [if_pos (List.mem_map.mpr ⟨node, present, name⟩)]
      rfl

inductive Advanced (cfg : Settings) (s after : Updater) : Prop where
  | nothing (was : s.control = .listing) (result : after = { s with control := .ending .done })
  | listed (nodes : List NodeRecord) (was : s.control = .listing) (found : nodes = sortedNodes cfg s.registry)
      (result : after = { s with
        outcomes := .assign (nodes.map fun node => (node.nodeId, {})) s.outcomes
        control := .top (batches cfg nodes)
        listed := nodes.map NodeRecord.nodeId })
  | emptied (was : s.control = .top []) (result : after = { s with control := .ending .done })
  | stopped (batch : List NodeRecord) (rest : List (List NodeRecord)) (told : s.abortEvent = true)
      (was : s.control = .top (batch :: rest) ∨ s.control = .before .pauseAbort batch rest ∨
        s.control = .before .gateAbort batch rest)
      (result : after = { s with control := .ending .aborted })
  | entered (batch : List NodeRecord) (rest : List (List NodeRecord)) (was : s.control = .top (batch :: rest))
      (clear : s.abortEvent = false) (result : after = s.goto .pauseTest batch rest)
  | waited (stage next : Stage) (phase : Phase) (batch : List NodeRecord) (rest : List (List NodeRecord))
      (was : s.control = .before stage batch rest) (short : next ≠ .gateLeave) (held : phase = s.phase ∨ phase = .paused)
      (result : after = { s.goto next batch rest with phase := phase })
  | released (batch : List NodeRecord) (rest : List (List NodeRecord)) (was : s.control = .before .gateLoop batch rest)
      (healthy : healthGateOk cfg s.registry = true) (result : after = { s with gateHeld := true }.goto .gateLeave batch rest)
  | opened (batch : List NodeRecord) (rest : List (List NodeRecord)) (was : s.control = .before .gateTest batch rest)
      (healthy : healthGateOk cfg s.registry = true) (result : after = { s with gateHeld := true }.startBatch batch rest)
  | left (batch : List NodeRecord) (rest : List (List NodeRecord)) (was : s.control = .before .gateLeave batch rest)
      (result : after = { s.startBatch batch rest with phase := .running })
  | spawned (node : NodeRecord) (todo batch : List NodeRecord) (rest : List (List NodeRecord))
      (was : s.control = .starting (node :: todo) batch rest)
      (result : after = { s with control := .starting todo batch rest, workers := s.workers ++ [{ nodeId := node.nodeId }] })
  | launched (batch : List NodeRecord) (rest : List (List NodeRecord)) (was : s.control = .starting [] batch rest)
      (result : after = { s with control := .joining batch rest })
  | joined (batch : List NodeRecord) (rest : List (List NodeRecord)) (was : s.control = .joining batch rest)
      (ended : ∀ worker ∈ s.workers, worker.phase = .finished) (result : after = { s with control := .verdict batch rest })
  | broken (node : NodeRecord) (batch : List NodeRecord) (rest : List (List NodeRecord))
      (was : s.control = .verdict batch rest) (member : node ∈ batch) (failed : s.hasFailed node.nodeId = true)
      (result : after = { s with control := .ending .failed })
  | passed (batch : List NodeRecord) (rest : List (List NodeRecord)) (was : s.control = .verdict batch rest)
      (fine : ∀ node ∈ batch, s.hasFailed node.nodeId = false) (result : after = { s with control := .top rest, gateHeld := false })
  | ended (now : ℚ) (phase : Phase) (was : s.control = .ending phase)
      (result : after = { s with phase := phase, endedAt := some now, control := .finished })

theorem before_advanced (cfg : Settings) (s : Updater) (stage : Stage) (batch : List NodeRecord)
    (rest : List (List NodeRecord)) (was : s.control = .before stage batch rest) :
    Advanced cfg s (s.beforeBatch cfg batch rest stage) := by
  cases stage with
  | pauseTest =>
      simp only [Updater.beforeBatch]
      split
      · exact .waited _ .pauseEnter s.phase batch rest was (by decide) (Or.inl rfl) rfl
      · exact .waited _ .gateTest s.phase batch rest was (by decide) (Or.inl rfl) rfl
  | pauseEnter => exact .waited _ .pauseLoop .paused batch rest was (by decide) (Or.inr rfl) rfl
  | pauseLoop =>
      simp only [Updater.beforeBatch]
      split
      · exact .waited _ .pauseAbort s.phase batch rest was (by decide) (Or.inl rfl) rfl
      · exact .waited _ .gateTest s.phase batch rest was (by decide) (Or.inl rfl) rfl
  | pauseAbort =>
      simp only [Updater.beforeBatch]
      split
      · rename_i told
        exact .stopped batch rest told (Or.inr (Or.inl was)) rfl
      · exact .waited _ .pauseLoop s.phase batch rest was (by decide) (Or.inl rfl) rfl
  | gateTest =>
      simp only [Updater.beforeBatch]
      split
      · rename_i healthy
        exact .opened batch rest was healthy rfl
      · exact .waited _ .gateEnter s.phase batch rest was (by decide) (Or.inl rfl) rfl
  | gateEnter => exact .waited _ .gateLoop .paused batch rest was (by decide) (Or.inr rfl) rfl
  | gateLoop =>
      simp only [Updater.beforeBatch]
      split
      · rename_i healthy
        exact .released batch rest was healthy rfl
      · exact .waited _ .gateAbort s.phase batch rest was (by decide) (Or.inl rfl) rfl
  | gateAbort =>
      simp only [Updater.beforeBatch]
      split
      · rename_i told
        exact .stopped batch rest told (Or.inr (Or.inr was)) rfl
      · exact .waited _ .gateLoop s.phase batch rest was (by decide) (Or.inl rfl) rfl
  | gateLeave => exact .left batch rest was rfl

theorem rollout_advanced (cfg : Settings) (s after : Updater) (now : ℚ) (taken : s.advance cfg now = some after) :
    Advanced cfg s after := by
  simp only [Updater.advance] at taken
  cases place : s.control with
  | idle => simp [place] at taken
  | finished => simp [place] at taken
  | listing =>
      simp only [place, Option.some.injEq, Updater.list] at taken
      split at taken
      · exact .nothing place taken.symm
      · exact .listed _ place rfl taken.symm
  | top rest =>
      cases rest with
      | nil =>
          simp only [place, Option.some.injEq] at taken
          exact .emptied place taken.symm
      | cons batch rest =>
          simp only [place, Option.some.injEq] at taken
          split at taken
          · rename_i told
            exact .stopped batch rest told (Or.inl place) taken.symm
          · rename_i clear
            exact .entered batch rest place (by simpa using clear) taken.symm
  | before stage batch rest =>
      simp only [place, Option.some.injEq] at taken
      rw [← taken]
      exact before_advanced cfg s stage batch rest place
  | starting todo batch rest =>
      cases todo with
      | nil =>
          simp only [place, Option.some.injEq] at taken
          exact .launched batch rest place taken.symm
      | cons node todo =>
          simp only [place, Option.some.injEq] at taken
          exact .spawned node todo batch rest place taken.symm
  | joining batch rest =>
      simp only [place] at taken
      split at taken
      · rename_i ended
        refine .joined batch rest place ?_ (Option.some.inj taken).symm
        intro worker member
        simpa using List.all_eq_true.mp ended worker member
      · cases taken
  | verdict batch rest =>
      simp only [place, Option.some.injEq] at taken
      split at taken
      · rename_i failure
        obtain ⟨node, member, failed⟩ := List.any_eq_true.mp failure
        exact .broken node batch rest place member failed taken.symm
      · rename_i clean
        refine .passed batch rest place ?_ taken.symm
        intro node member
        simpa using fun failed => clean (List.any_eq_true.mpr ⟨node, member, failed⟩)
  | ending phase =>
      simp only [place, Option.some.injEq] at taken
      exact .ended now phase place taken.symm

inductive Stepped (cfg : Settings) (s : Updater) (event : RolloutEvent) (after : Updater) : Prop where
  | started (now : ℚ) (result : after = { s with
      phase := .running, startedAt := some now, endedAt := none, outcomes := .empty, pauseEvent := false, abortEvent := false
      control := .listing, workers := [], listed := [], calls := [], batchesStarted := 0, stopAt := none, gateHeld := false })
  | paused (was : s.phase = .running) (result : after = { s with pauseEvent := true })
  | resumed (was : s.phase = .paused) (result : after = { s with phase := .running, pauseEvent := false })
  | aborted (asked : event = .abort) (was : s.phase = .running ∨ s.phase = .paused) (result : after = { s with
      abortEvent := true, pauseEvent := false
      stopAt := if (s.waiting || s.updating) && s.stopAt.isNone then some s.batchesStarted else s.stopAt })
  | advanced (now : ℚ) (asked : event = .advance now) (moved : Advanced cfg s after)
  | worked (i : Nat) (worker : Worker) (here : s.workers[i]? = some worker) (frame : Frame s after)
      (moved : WorkerMoved s i worker after)
  | observed (update : Master.RegistryUpdate) (asked : event = .registry update) (result : after = s.observe cfg update)
  | replaced (registry : Master.Registry) (asked : event = .replaced registry) (result : after = s.takeOver registry)

theorem rollout_stepped (cfg : Settings) (s after : Updater) (event : RolloutEvent)
    (taken : rolloutStep cfg s event = some after) : Stepped cfg s event after := by
  by_cases worked : event.byWorker = true
  · obtain ⟨i, worker, here, frame, moved⟩ := worker_moved cfg s after event worked taken
    exact .worked i worker here frame moved
  · cases event with
    | startRollout now =>
        by_cases active : s.phase = .running ∨ s.phase = .paused
        · simp [rolloutStep, Updater.startRollout, active] at taken
        · simp only [rolloutStep, Updater.startRollout, if_neg active] at taken
          exact .started now (Option.some.inj taken).symm
    | pause =>
        by_cases running : s.phase = .running
        · simp only [rolloutStep, Updater.pause, if_pos running] at taken
          exact .paused running (Option.some.inj taken).symm
        · simp [rolloutStep, Updater.pause, running] at taken
    | resume =>
        by_cases paused : s.phase = .paused
        · simp only [rolloutStep, Updater.resume, if_pos paused] at taken
          exact .resumed paused (Option.some.inj taken).symm
        · simp [rolloutStep, Updater.resume, paused] at taken
    | abort =>
        by_cases active : s.phase = .running ∨ s.phase = .paused
        · simp only [rolloutStep, Updater.abort, if_pos active] at taken
          exact .aborted rfl active (Option.some.inj taken).symm
        · simp [rolloutStep, Updater.abort, active] at taken
    | advance now => exact .advanced now rfl (rollout_advanced cfg s after now taken)
    | registry update => exact .observed update rfl (Option.some.inj taken).symm
    | replaced registry => exact .replaced registry rfl (Option.some.inj taken).symm
    | _ => simp [RolloutEvent.byWorker] at worked

theorem rested_advanced (cfg : Settings) (s after : Updater) (rested : Rested s) (moved : Advanced cfg s after) : Rested after := by
  have calm : s.control.quiet = true → after.workers = s.workers → Rested after := by
    intro quiet workers _ worker member
    rw [workers] at member
    exact rested quiet worker member
  cases moved with
  | nothing was result | listed _ was _ result | emptied was result | entered _ _ was _ result | waited _ _ _ _ _ was _ _ result
    | released _ _ was _ result | broken _ _ _ was _ _ result | passed _ _ was _ result | ended _ _ was result =>
      exact calm (by rw [was]; rfl) (by simp [result, Updater.goto])
  | stopped batch rest told was result =>
      apply calm _ (by rw [result])
      rcases was with was | was | was <;> rw [was] <;> rfl
  | opened _ _ _ _ result | left _ _ _ result | spawned _ _ _ _ _ result | launched _ _ _ result =>
      intro quiet
      rw [result] at quiet
      cases quiet
  | joined batch rest was ended result =>
      intro _ worker member
      rw [result] at member
      exact ended worker member

theorem rested_step (cfg : Settings) (s after : Updater) (event : RolloutEvent) (rested : Rested s)
    (taken : rolloutStep cfg s event = some after) : Rested after := by
  cases rollout_stepped cfg s after event taken with
  | started now result =>
      subst result
      intro _ worker member
      cases member
  | paused _ result | resumed _ result | aborted _ _ result =>
      subst result
      exact rested
  | advanced now _ moved => exact rested_advanced cfg s after rested moved
  | worked i worker here frame moved =>
      intro quiet
      rw [frame.control, worker_not_quiet s after i worker rested here moved] at quiet
      cases quiet
  | observed _ _ result | replaced _ _ result =>
      subst result
      intro quiet worker member
      obtain ⟨old, present, rfl⟩ := List.mem_map.mp member
      exact rested quiet old present

end HuddleCluster.Rollout
