import HuddleCluster.Api.Delivery

set_option autoImplicit false

namespace HuddleCluster.Api

namespace Dispatcher

def LiveAt (d : Dispatcher) (i : Nat) : Prop := WorkQueue.LiveAt WorkerPhase.live d.workers i

def Manned (d : Dispatcher) : Prop := WorkQueue.Manned WorkerPhase.live d.workers

-- While it runs there is a worker, and nothing that would stop it.
def Staffed (d : Dispatcher) : Prop := d.running = true → d.Manned ∧ none ∉ d.queue.waiting ∧ d.stopping = 0

-- A dispatcher is started when no mark of an earlier stop is left or still to come, and
-- no delivery raises in the last worker.
def Sound (d : Dispatcher) : DispatchEvent → Prop
  | .start => d.running = false → none ∉ d.queue.waiting ∧ d.stopping = 0
  | .work i (.deliver _) => d.running = true →
      ∀ item, d.workers[i]? = some (.delivering item) → item.signable = false → ∃ j, j ≠ i ∧ d.LiveAt j
  | _ => True

theorem manned_live (d : Dispatcher) (i : Nat) (phase : WorkerPhase) (there : i < d.workers.length) (live : phase.live = true) :
    (d.setWorker i phase).Manned := WorkQueue.manned_set WorkerPhase.live d.workers i phase there live

theorem staffed_kept (d after : Dispatcher) (staffed : d.Staffed) (running : after.running = true → d.running = true)
    (manned : d.Manned → after.Manned) (unmarked : none ∉ d.queue.waiting → none ∉ after.queue.waiting)
    (stopping : after.stopping = d.stopping) : after.Staffed := by
  intro runs
  obtain ⟨present, clear, idle⟩ := staffed (running runs)
  exact ⟨manned present, unmarked clear, stopping.trans idle⟩

theorem put_unmarked (q : WorkQueue WebhookDelivery) (item : WebhookDelivery) (clear : none ∉ q.waiting) :
    none ∉ (q.put Webhooks.queueSize (some item)).waiting := by
  unfold WorkQueue.put
  split
  · simp [clear]
  · exact clear

theorem staffed_raised (d : Dispatcher) (i : Nat) (item : WebhookDelivery) (staffed : d.Staffed)
    (here : d.workers[i]? = some (.delivering item)) :
    ({ d with lost := d.lost ++ [item] }.setWorker i .ended).Staffed ↔
      (d.running = true → ∃ j, j ≠ i ∧ d.LiveAt j) := by
  have there : i < d.workers.length := (List.getElem?_eq_some_iff.mp here).1
  have others := WorkQueue.manned_ended WorkerPhase.live d.workers i .ended there rfl
  constructor
  · exact fun still runs => others.mp (still runs).1
  · exact fun other runs => ⟨others.mpr (other runs), (staffed runs).2⟩

theorem sound_work (d : Dispatcher) (i : Nat) (turn : Turn) (fine : ∀ report, turn = .deliver report → ∀ item,
    d.workers[i]? = some (.delivering item) → item.signable = true) : d.Sound (.work i turn) := by
  cases turn with
  | deliver report =>
      intro _ item here unsent
      rw [fine report rfl item here] at unsent
      cases unsent
  | _ => trivial

theorem staffed_work (cfg : DeliverySettings) (d : Dispatcher) (i : Nat) (turn : Turn) (after : Dispatcher) (staffed : d.Staffed)
    (taken : d.work cfg i turn = some after) : after.Staffed ↔ d.Sound (.work i turn) := by
  unfold work at taken
  split at taken
  · rename_i here
    have there : i < d.workers.length := (List.getElem?_eq_some_iff.mp here).1
    cases taken
    refine iff_of_true ?_ trivial
    by_cases runs : d.running = true
    · rw [if_pos runs]
      exact staffed_kept d _ staffed id (fun _ => manned_live d i .waiting there rfl) id rfl
    · exact fun still => absurd still runs
  · rename_i here
    have there : i < d.workers.length := (List.getElem?_eq_some_iff.mp here).1
    obtain ⟨⟨item, queue⟩, found, rfl⟩ := Option.map_eq_some_iff.mp taken
    obtain ⟨waiting, _, _⟩ := WorkQueue.take_spec d.queue queue item found
    refine iff_of_true ?_ trivial
    cases item with
    | none => exact fun runs => absurd (waiting ▸ List.mem_cons_self) (staffed runs).2.1
    | some item =>
        refine staffed_kept d _ staffed id (fun _ => manned_live _ i (.delivering item) there rfl) (fun clear => ?_) rfl
        exact fun marked => clear (waiting ▸ List.mem_cons_of_mem _ marked)
  · rename_i here
    have there : i < d.workers.length := (List.getElem?_eq_some_iff.mp here).1
    split at taken
    · cases taken
      exact iff_of_true (staffed_kept d _ staffed id (fun _ => manned_live d i .looking there rfl) id rfl) trivial
    · cases taken
  · rename_i item report here
    have there : i < d.workers.length := (List.getElem?_eq_some_iff.mp here).1
    have signed := deliver_signable cfg report item
    split at taken
    · rename_i raised
      cases taken
      rw [staffed_raised d i item staffed here]
      have unsent : item.signable = false := by
        rw [raised] at signed
        simpa using signed
      constructor
      · exact fun other runs _ _ _ => other runs
      · exact fun sound runs => sound runs item here unsent
    · rename_i record delivered
      cases taken
      refine iff_of_true (staffed_kept d _ staffed id (fun _ => manned_live _ i .looking there rfl) id rfl) ?_
      refine sound_work d i _ fun _ _ other same => ?_
      obtain rfl : item = other := by simpa using here.symm.trans same
      rw [delivered] at signed
      simpa using signed
  · cases taken

theorem staffed_step (cfg : DeliverySettings) (d : Dispatcher) (event : DispatchEvent) (after : Dispatcher) (staffed : d.Staffed)
    (taken : d.next cfg event = some after) : after.Staffed ↔ d.Sound event := by
  cases event with
  | start =>
      simp only [next] at taken
      split at taken
      · rename_i runs
        cases taken
        exact iff_of_true staffed fun stopped => by simp [runs] at stopped
      · rename_i stopped
        cases taken
        have newcomer := WorkQueue.manned_new WorkerPhase.live d.workers .looking rfl
        constructor
        · exact fun still _ => (still rfl).2
        · exact fun sound _ => ⟨newcomer, sound (by simpa using stopped)⟩
  | stop =>
      simp only [next] at taken
      split at taken
      · cases taken
        exact iff_of_true (fun runs => by cases runs) trivial
      · cases taken
        exact iff_of_true staffed trivial
  | mark =>
      simp only [next] at taken
      split at taken
      · rename_i pending
        cases taken
        exact iff_of_true (fun runs => absurd (staffed runs).2.2 (by omega)) trivial
      · cases taken
  | put call =>
      simp only [next, Dispatcher.put] at taken
      split at taken
      · cases taken
        exact iff_of_true (staffed_kept d _ staffed id id (put_unmarked d.queue _) rfl) trivial
      · cases taken
  | gather call now =>
      simp only [next, gather] at taken
      split at taken
      · cases taken
        exact iff_of_true (staffed_kept d _ staffed id id id rfl) trivial
      · cases taken
  | dispatch event data =>
      simp only [next] at taken
      split at taken <;> cases taken <;> exact iff_of_true (staffed_kept d _ staffed id id id rfl) trivial
  | work worker turn => exact staffed_work cfg d worker turn after staffed taken
  | register subscription | unregister webhookId | testPing targetId now =>
      cases taken
      exact iff_of_true (staffed_kept d _ staffed id id id rfl) trivial

end Dispatcher

open Dispatcher

-- A dispatcher has a worker and nothing to stop it, whenever it runs, exactly if no
-- start comes too early and no delivery takes the last worker down.
theorem dispatcher_staffed_iff (cfg : DeliverySettings) (d : Dispatcher) (events : List DispatchEvent)
    (run : DispatchRun cfg (fun _ _ => True) {} events d) :
    Runs.Always (Dispatcher.next cfg) {} events Staffed ↔ DispatchRun cfg Sound {} events d := by
  refine Runs.run_always (Dispatcher.next cfg) Sound (fun _ => True) Staffed (fun _ _ _ _ _ => trivial) ?_ {} d events trivial ?_ run
  · exact fun state event after _ staffed taken => staffed_step cfg state event after staffed taken
  · exact fun runs => by cases runs

-- A secret that is no text takes the only worker down.
theorem unstaffed_unsignable : ∃ d, d.running = true ∧ d.workers.all (fun phase => !phase.live) = true ∧
    ¬ DispatchRun threeTries Sound {} (beginDispatch (.int 7) ++ [.work 0 (.deliver (answered 200))]) d := by
  have followed : ∃ d ∈ Runs.follow (Dispatcher.next threeTries) (fun _ _ => True) {}
      (beginDispatch (.int 7) ++ [.work 0 (.deliver (answered 200))]),
        d.running = true ∧ d.workers.all (fun phase => !phase.live) = true := by
    decide +kernel
  obtain ⟨d, reached, runs, down⟩ := followed
  refine ⟨d, runs, down, fun sound => ?_⟩
  have run := Runs.follow_run _ _ _ d _ reached
  have staffed := (dispatcher_staffed_iff threeTries d _ run).mpr sound _ [] d (List.append_nil _) run
  obtain ⟨i, phase, here, live⟩ := (staffed runs).1
  have dead := List.all_eq_true.mp down phase (List.mem_of_getElem? here)
  simp [live] at dead

def DispatchEvent.report? : DispatchEvent → Option Report
  | .work _ (.deliver report) => some report
  | _ => none

namespace Dispatcher

-- Turns of one worker that leave the queue empty and all of it recorded in order, with
-- the given answers of the receivers.
structure Drains (cfg : DeliverySettings) (i : Nat) (items : List WebhookDelivery) (reports : List Report) (d : Dispatcher)
    (events : List DispatchEvent) (after : Dispatcher) : Prop where
  alone : ∀ event ∈ events, ∃ turn, event = .work i turn
  answered : events.filterMap DispatchEvent.report? = reports
  run : DispatchRun cfg (fun _ _ => True) d events after
  empty : after.queue.waiting = []
  recorded : after.recorded.map Prod.fst = d.recorded.map Prod.fst ++ items

section Draining

variable (cfg : DeliverySettings) (i : Nat)

theorem alone_cons (turn : Turn) (events : List DispatchEvent) (rest : ∀ event ∈ events, ∃ turn, event = .work i turn) :
    ∀ event ∈ .work i turn :: events, ∃ turn, event = .work i turn := by
  intro event member
  rcases List.mem_cons.mp member with rfl | later
  · exact ⟨turn, rfl⟩
  · exact rest event later

theorem run_cons (d middle after : Dispatcher) (turn : Turn) (events : List DispatchEvent) (taken : d.work cfg i turn = some middle)
    (rest : DispatchRun cfg (fun _ _ => True) middle events after) :
    DispatchRun cfg (fun _ _ => True) d (.work i turn :: events) after :=
  Runs.run_append (Dispatcher.next cfg) _ d middle after [.work i turn] events
    (Runs.run_one (Dispatcher.next cfg) _ d middle (.work i turn) trivial taken) rest

theorem drains_look (items : List WebhookDelivery) (reports : List Report) (d after : Dispatcher) (events : List DispatchEvent)
    (runs : d.running = true) (here : d.workers[i]? = some .looking)
    (rest : Drains cfg i items reports (d.setWorker i .waiting) events after) :
    Drains cfg i items reports d (.work i .look :: events) after := by
  have taken : d.work cfg i .look = some (d.setWorker i .waiting) := by simp [work, here, runs]
  exact ⟨alone_cons i .look events rest.alone, rest.answered, run_cons cfg i d _ after .look events taken rest.run, rest.empty,
    rest.recorded⟩

theorem drains_get (items : List WebhookDelivery) (reports : List Report) (item : WebhookDelivery) (queue : WorkQueue WebhookDelivery)
    (d after : Dispatcher) (events : List DispatchEvent) (here : d.workers[i]? = some .waiting)
    (found : d.queue.take = some (some item, queue))
    (rest : Drains cfg i items reports ({ d with queue := queue }.setWorker i (.delivering item)) events after) :
    Drains cfg i items reports d (.work i .get :: events) after := by
  have taken : d.work cfg i .get = some ({ d with queue := queue }.setWorker i (.delivering item)) := by
    simp [work, here, found, WorkerPhase.afterGet]
  exact ⟨alone_cons i .get events rest.alone, rest.answered, run_cons cfg i d _ after .get events taken rest.run, rest.empty,
    rest.recorded⟩

def record (d : Dispatcher) (i : Nat) (item : WebhookDelivery) (made : DeliveryRecord) : Dispatcher :=
  { d with
    history := Statistics.pushWindow cfg.maxHistory d.history made
    recorded := d.recorded ++ [(item, made)] }.setWorker i .looking

theorem drains_deliver (items : List WebhookDelivery) (reports : List Report) (item : WebhookDelivery) (report : Report)
    (made : DeliveryRecord) (d after : Dispatcher) (events : List DispatchEvent) (here : d.workers[i]? = some (.delivering item))
    (delivered : item.deliver cfg report = some made) (rest : Drains cfg i items reports (d.record cfg i item made) events after) :
    Drains cfg i (item :: items) (report :: reports) d (.work i (.deliver report) :: events) after := by
  have taken : d.work cfg i (.deliver report) = some (d.record cfg i item made) := by simp only [work, here, delivered, record]
  refine ⟨alone_cons i _ events rest.alone, congrArg (List.cons report) rest.answered,
    run_cons cfg i d _ after _ events taken rest.run, rest.empty, ?_⟩
  rw [rest.recorded]
  simp [record, setWorker]

theorem here_set (d : Dispatcher) (before after : WorkerPhase) (here : d.workers[i]? = some before) :
    (d.setWorker i after).workers[i]? = some after := by
  simp [setWorker, (List.getElem?_eq_some_iff.mp here).1]

theorem deliver_some (item : WebhookDelivery) (report : Report) (signable : item.signable = true) :
    ∃ made, item.deliver cfg report = some made :=
  Option.isSome_iff_exists.mp (by unfold WebhookDelivery.deliver; rw [if_pos signable]; rfl)

theorem drains_waiting (items : List WebhookDelivery) (reports : List Report) (d : Dispatcher) (runs : d.running = true)
    (here : d.workers[i]? = some .waiting) (whole : d.queue.waiting = items.map some)
    (signable : ∀ item ∈ items, item.signable = true) (enough : reports.length = items.length) :
    ∃ events after, Drains cfg i items reports d events after := by
  induction items generalizing d reports with
  | nil =>
      obtain rfl := List.eq_nil_of_length_eq_zero enough
      exact ⟨[], d, by simp, rfl, .nil, by simpa using whole, by simp⟩
  | cons item rest ih =>
      obtain ⟨report, later, rfl⟩ := List.exists_cons_of_length_eq_add_one enough
      obtain ⟨made, delivered⟩ := deliver_some cfg item report (signable item List.mem_cons_self)
      set queue : WorkQueue WebhookDelivery := { d.queue with waiting := rest.map some, taken := d.queue.taken ++ [item] } with queueDef
      have found : d.queue.take = some (some item, queue) := by simp [WorkQueue.take, whole, queueDef]
      set grabbed := { d with queue := queue }.setWorker i (.delivering item)
      have got : grabbed.workers[i]? = some (.delivering item) := here_set i { d with queue := queue } .waiting _ here
      have looked : (grabbed.record cfg i item made).workers[i]? = some .looking := here_set i _ (.delivering item) .looking got
      obtain ⟨events, after, drained⟩ := ih later ((grabbed.record cfg i item made).setWorker i .waiting) runs
        (here_set i _ .looking .waiting looked) rfl (fun other member => signable other (List.mem_cons_of_mem item member))
        (Nat.succ.inj enough)
      have looks := drains_look cfg i rest later (grabbed.record cfg i item made) after events runs looked drained
      have delivers := drains_deliver cfg i rest later item report made grabbed after _ got delivered looks
      exact ⟨_, after, drains_get cfg i _ _ item queue d after _ here found delivers⟩

end Draining

end Dispatcher

-- A worker of a running dispatcher can empty the queue by itself, whatever the
-- receivers answer.
theorem queue_drained (cfg : DeliverySettings) (d : Dispatcher) (i : Nat) (phase : WorkerPhase) (items : List WebhookDelivery)
    (reports : List Report) (runs : d.running = true) (here : d.workers[i]? = some phase) (live : phase.live = true)
    (whole : d.queue.waiting = items.map some) (signable : ∀ item ∈ phase.held ++ items, item.signable = true)
    (enough : reports.length = (phase.held ++ items).length) :
    ∃ events after, Drains cfg i (phase.held ++ items) reports d events after := by
  have all (item : WebhookDelivery) (member : item ∈ items) := signable item (List.mem_append_right _ member)
  have fromLooking (d : Dispatcher) (reports : List Report) (runs : d.running = true) (here : d.workers[i]? = some .looking)
      (whole : d.queue.waiting = items.map some) (enough : reports.length = items.length) :
      ∃ events after, Drains cfg i items reports d events after := by
    obtain ⟨events, after, drained⟩ := drains_waiting cfg i items reports (d.setWorker i .waiting) runs
      (here_set i d .looking .waiting here) whole all enough
    exact ⟨_, after, drains_look cfg i items reports d after events runs here drained⟩
  cases phase with
  | looking => exact fromLooking d reports runs here whole enough
  | waiting => exact drains_waiting cfg i items reports d runs here whole all enough
  | delivering item =>
      obtain ⟨report, later, rfl⟩ := List.exists_cons_of_length_eq_add_one enough
      obtain ⟨made, delivered⟩ := deliver_some cfg item report (signable item (by simp [WorkerPhase.held]))
      obtain ⟨events, after, drained⟩ := fromLooking (d.record cfg i item made) later runs
        (here_set i _ (.delivering item) .looking here) whole (Nat.succ.inj enough)
      exact ⟨_, after, drains_deliver cfg i items later item report made d after events here delivered drained⟩
  | ended => cases live

theorem queue_drained_once : ∃ d, d.queue.waiting = [some ⟨hook .null, "node.dead", 5, .null⟩] ∧
    ∃ events after, Drains threeTries 0 [⟨hook .null, "node.dead", 5, .null⟩] [answered 200] d events after := by
  let waiting : WorkQueue WebhookDelivery := { waiting := [some ⟨hook .null, "node.dead", 5, .null⟩] }
  let d : Dispatcher := { running := true, queue := waiting, workers := [.looking] }
  refine ⟨d, rfl, ?_⟩
  exact queue_drained threeTries d 0 .looking [⟨hook .null, "node.dead", 5, .null⟩] [answered 200] rfl rfl rfl rfl (by decide) rfl

end HuddleCluster.Api
