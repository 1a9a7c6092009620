import HuddleCluster.Api.Attempts
import HuddleCluster.Lib.OrderStatistics
import HuddleCluster.Lib.Runs
import HuddleCluster.Lib.WorkQueue

set_option autoImplicit false

namespace HuddleCluster.Api

-- Where a thread stands in _worker_loop.
inductive WorkerPhase where
  | looking
  | waiting
  | delivering (item : WebhookDelivery)
  | ended

namespace WorkerPhase

def held : WorkerPhase → List WebhookDelivery
  | .delivering item => [item]
  | _ => []

def live : WorkerPhase → Bool
  | .ended => false
  | _ => true

def afterGet : Option WebhookDelivery → WorkerPhase
  | none => .ended
  | some item => .delivering item

end WorkerPhase

-- A call of dispatch that has found the dispatcher running, and one of dispatch or
-- test_ping with what it has still to put into the queue.
inductive CallPhase where
  | checked (event : String) (data : Json)
  | enqueueing (rest : List WebhookDelivery)

-- The worker threads, old ones too, and the calls that are under way; stopping is the
-- number of calls of stop that have yet to leave their mark. What was recorded and
-- what was lost to an exception is not in the program.
structure Dispatcher where
  subscriptions : Dict String WebhookSubscription := .empty
  running : Bool := false
  queue : WorkQueue WebhookDelivery := {}
  workers : List WorkerPhase := []
  calls : List CallPhase := []
  stopping : Nat := 0
  history : List DeliveryRecord := []
  recorded : List (WebhookDelivery × DeliveryRecord) := []
  lost : List WebhookDelivery := []

-- get(timeout=0.5) gives up only while the queue is empty.
inductive Turn where
  | look
  | get
  | timeout
  | deliver (report : Report)

inductive DispatchEvent where
  | register (subscription : WebhookSubscription)
  | unregister (webhookId : String)
  | dispatch (event : String) (data : Json)
  | gather (call : Nat) (now : ℚ)
  | testPing (targetId : Option String) (now : ℚ)
  | put (call : Nat)
  | start
  | stop
  | mark
  | work (worker : Nat) (turn : Turn)

namespace Dispatcher

def matched (d : Dispatcher) (event : String) (now : ℚ) (data : Json) : List WebhookDelivery :=
  (d.subscriptions.values.filter fun subscription => subscription.isMatch event).map fun subscription =>
    ⟨subscription, event, now, data⟩

def pinged (d : Dispatcher) : Option String → List WebhookSubscription
  | none | some "" => d.subscriptions.values
  | some targetId => (d.subscriptions.get? targetId).toList

def pings (targets : List WebhookSubscription) (now : ℚ) : List WebhookDelivery :=
  targets.map fun subscription => ⟨subscription, "webhook.test", now, .obj [
    ("message", .str "HuddleCluster synthetic test ping"),
    ("targets_count", .int targets.length)]⟩

def setWorker (d : Dispatcher) (i : Nat) (phase : WorkerPhase) : Dispatcher := { d with workers := d.workers.set i phase }

def work (cfg : DeliverySettings) (d : Dispatcher) (i : Nat) (turn : Turn) : Option Dispatcher :=
  match d.workers[i]?, turn with
  | some .looking, .look => some (d.setWorker i (if d.running then .waiting else .ended))
  | some .waiting, .get =>
      d.queue.take.map fun (item, queue) =>
        { d with queue := queue }.setWorker i (.afterGet item)
  | some .waiting, .timeout => if d.queue.waiting.isEmpty then some (d.setWorker i .looking) else none
  | some (.delivering item), .deliver report =>
      match item.deliver cfg report with
      | none => some ({ d with lost := d.lost ++ [item] }.setWorker i .ended)
      | some record =>
          some ({ d with
            history := Statistics.pushWindow cfg.maxHistory d.history record
            recorded := d.recorded ++ [(item, record)] }.setWorker i .looking)
  | _, _ => none

def put (d : Dispatcher) (call : Nat) : Option Dispatcher :=
  match d.calls[call]? with
  | some (.enqueueing (item :: rest)) =>
      some { d with queue := d.queue.put Webhooks.queueSize (some item), calls := d.calls.set call (.enqueueing rest) }
  | _ => none

def gather (d : Dispatcher) (call : Nat) (now : ℚ) : Option Dispatcher :=
  match d.calls[call]? with
  | some (.checked event data) => some { d with calls := d.calls.set call (.enqueueing (d.matched event now data)) }
  | _ => none

def next (cfg : DeliverySettings) (d : Dispatcher) : DispatchEvent → Option Dispatcher
  | .register subscription => some { d with subscriptions := d.subscriptions.set subscription.webhookId subscription }
  | .unregister webhookId => some { d with subscriptions := d.subscriptions.erase webhookId }
  | .dispatch event data => if d.running then some { d with calls := d.calls ++ [.checked event data] } else some d
  | .gather call now => d.gather call now
  | .testPing targetId now => some { d with calls := d.calls ++ [.enqueueing (pings (d.pinged targetId) now)] }
  | .put call => d.put call
  | .start => if d.running then some d else some { d with running := true, workers := d.workers ++ [.looking] }
  | .stop => if d.running then some { d with running := false, stopping := d.stopping + 1 } else some d
  | .mark =>
      if 0 < d.stopping then some { d with queue := d.queue.put Webhooks.queueSize none, stopping := d.stopping - 1 } else none
  | .work worker turn => d.work cfg worker turn

end Dispatcher

abbrev DispatchRun (cfg : DeliverySettings) (allowed : Dispatcher → DispatchEvent → Prop) := Runs.Run (Dispatcher.next cfg) allowed

-- An item is put for a subscription that asked for its event, or for a test.
def Asked (item : WebhookDelivery) : Prop := item.event = "webhook.test" ∨ item.subscription.isMatch item.event = true

def CallPhase.asked : CallPhase → Prop
  | .checked _ _ => True
  | .enqueueing rest => ∀ item ∈ rest, Asked item

-- Every item that was taken is recorded, lost or in the hands of one worker.
structure Accounted (cfg : DeliverySettings) (d : Dispatcher) : Prop where
  fifo : d.queue.Fifo Webhooks.queueSize
  shared : (d.recorded.map Prod.fst ++ d.lost ++ WorkQueue.hands WorkerPhase.held d.workers).Perm d.queue.taken
  kept : d.history = (d.recorded.map Prod.snd).drop (d.recorded.length - cfg.maxHistory)
  honest : ∀ entry ∈ d.recorded, ∃ answers, Settled cfg answers entry.1 entry.2
  unsent : ∀ item ∈ d.lost, item.signable = false
  accepted : ∀ item ∈ d.queue.accepted, Asked item
  coming : ∀ call ∈ d.calls, call.asked

theorem accounted_fresh (cfg : DeliverySettings) : Accounted cfg {} :=
  ⟨WorkQueue.fifo_empty _, .refl _, by simp, by simp, by simp, by simp, by simp⟩

theorem matched_asked (d : Dispatcher) (event : String) (now : ℚ) (data : Json) :
    (CallPhase.enqueueing (d.matched event now data)).asked := by
  intro item member
  obtain ⟨subscription, found, rfl⟩ := List.mem_map.mp member
  exact Or.inr (List.mem_filter.mp found).2

section Steps

variable (cfg : DeliverySettings) (d : Dispatcher) (accounted : Accounted cfg d)
include accounted

theorem accounted_worker (i : Nat) (before after : WorkerPhase) (here : d.workers[i]? = some before) (idle : before.held = [])
    (still : after.held = []) : Accounted cfg (d.setWorker i after) := by
  have shared := WorkQueue.shared_set WorkerPhase.held _ _ d.workers i before after here accounted.shared
  rw [idle, still] at shared
  exact { accounted with shared := shared }

theorem accounted_take (i : Nat) (item : Option WebhookDelivery) (queue : WorkQueue WebhookDelivery)
    (here : d.workers[i]? = some .waiting) (taken : d.queue.take = some (item, queue)) :
    Accounted cfg ({ d with queue := queue }.setWorker i (.afterGet item)) := by
  obtain ⟨_, moved, same⟩ := WorkQueue.take_spec d.queue queue item taken
  have fifo := WorkQueue.fifo_take _ d.queue queue item accounted.fifo taken
  have grabbed : (WorkerPhase.afterGet item).held = item.toList := by cases item <;> rfl
  have shared := WorkQueue.shared_set WorkerPhase.held _ _ d.workers i .waiting (.afterGet item) here accounted.shared
  rw [grabbed] at shared
  refine { accounted with fifo := fifo, shared := ?_, accepted := same ▸ accounted.accepted }
  exact moved ▸ shared.trans List.perm_append_comm

theorem accounted_lost (i : Nat) (item : WebhookDelivery) (here : d.workers[i]? = some (.delivering item))
    (unsent : item.signable = false) : Accounted cfg ({ d with lost := d.lost ++ [item] }.setWorker i .ended) := by
  have shared := WorkQueue.shared_set WorkerPhase.held _ _ d.workers i (.delivering item) .ended here accounted.shared
  refine { accounted with shared := ?_, unsent := ?_ }
  · refine List.Perm.trans ?_ shared
    simp only [Dispatcher.setWorker, WorkerPhase.held, List.append_assoc]
    exact ((List.perm_append_comm_assoc _ _ _).append_left _).trans (List.perm_append_comm_assoc _ _ _)
  · intro other member
    rcases List.mem_append.mp member with before | new
    · exact accounted.unsent other before
    · exact (List.mem_singleton.mp new) ▸ unsent

theorem accounted_record (i : Nat) (item : WebhookDelivery) (report : Report) (record : DeliveryRecord)
    (here : d.workers[i]? = some (.delivering item)) (delivered : item.deliver cfg report = some record) :
    Accounted cfg ({ d with
      history := Statistics.pushWindow cfg.maxHistory d.history record
      recorded := d.recorded ++ [(item, record)] }.setWorker i .looking) := by
  have shared := WorkQueue.shared_set WorkerPhase.held _ _ d.workers i (.delivering item) .looking here accounted.shared
  refine { accounted with shared := ?_, kept := ?_, honest := ?_ }
  · refine List.Perm.trans ?_ shared
    simp only [Dispatcher.setWorker, WorkerPhase.held, List.map_append, List.map_singleton, List.append_assoc]
    exact List.perm_append_comm_assoc _ _ _
  · have whole := Statistics.push_window_all cfg.maxHistory [] (d.recorded.map Prod.snd ++ [record]) (Nat.zero_le _)
    have before := Statistics.push_window_all cfg.maxHistory [] (d.recorded.map Prod.snd) (Nat.zero_le _)
    rw [List.foldl_append, before] at whole
    simpa [Dispatcher.setWorker, accounted.kept] using whole
  · intro entry member
    rcases List.mem_append.mp member with before | new
    · exact accounted.honest entry before
    · obtain rfl := List.mem_singleton.mp new
      exact ⟨report.answers, deliver_settled cfg report item record delivered⟩

theorem accounted_put (item : Option WebhookDelivery) (calls : List CallPhase) (stopping : Nat) (asked : ∀ entry ∈ item, Asked entry)
    (coming : ∀ call ∈ calls, call.asked) :
    Accounted cfg { d with queue := d.queue.put Webhooks.queueSize item, calls := calls, stopping := stopping } := by
  refine { accounted with fifo := WorkQueue.fifo_put _ d.queue item accounted.fifo, shared := ?_, accepted := ?_, coming := coming }
  · exact (WorkQueue.put_taken Webhooks.queueSize d.queue item).symm ▸ accounted.shared
  · intro entry member
    rcases WorkQueue.put_accepted _ d.queue item entry member with before | new
    · exact accounted.accepted entry before
    · exact asked entry new

theorem accounted_work (i : Nat) (turn : Turn) (after : Dispatcher) (taken : d.work cfg i turn = some after) :
    Accounted cfg after := by
  unfold Dispatcher.work at taken
  split at taken
  · rename_i here
    cases taken
    exact accounted_worker cfg d accounted i .looking _ here rfl (by split <;> rfl)
  · rename_i here
    obtain ⟨⟨item, queue⟩, found, rfl⟩ := Option.map_eq_some_iff.mp taken
    exact accounted_take cfg d accounted i item queue here found
  · rename_i here
    split at taken
    · cases taken
      exact accounted_worker cfg d accounted i .waiting .looking here rfl rfl
    · cases taken
  · rename_i item report here
    split at taken
    · rename_i raised
      cases taken
      refine accounted_lost cfg d accounted i item here ?_
      by_contra signable
      have done := (deliver_signable cfg report item).mpr (by simpa using signable)
      simp [raised] at done
    · rename_i record delivered
      cases taken
      exact accounted_record cfg d accounted i item report record here delivered
  · cases taken

theorem accounted_calls (calls : List CallPhase) (coming : ∀ call ∈ calls, call.asked) : Accounted cfg { d with calls := calls } :=
  { accounted with coming := coming }

theorem coming_new (call : CallPhase) (asked : call.asked) : ∀ other ∈ d.calls ++ [call], other.asked := by
  intro other member
  rcases List.mem_append.mp member with before | new
  · exact accounted.coming other before
  · exact (List.mem_singleton.mp new) ▸ asked

theorem coming_set (i : Nat) (call : CallPhase) (asked : call.asked) : ∀ other ∈ d.calls.set i call, other.asked := by
  intro other member
  rcases List.mem_or_eq_of_mem_set member with before | rfl
  · exact accounted.coming other before
  · exact asked

theorem accounted_next (event : DispatchEvent) (after : Dispatcher) (taken : d.next cfg event = some after) :
    Accounted cfg after := by
  cases event with
  | register subscription =>
      cases taken
      exact { accounted with }
  | unregister webhookId =>
      cases taken
      exact { accounted with }
  | dispatch event data =>
      simp only [Dispatcher.next] at taken
      split at taken
      · cases taken
        exact accounted_calls cfg d accounted _ (coming_new cfg d accounted _ trivial)
      · cases taken
        exact accounted
  | gather call now =>
      simp only [Dispatcher.next, Dispatcher.gather] at taken
      split at taken
      · cases taken
        exact accounted_calls cfg d accounted _ (coming_set cfg d accounted call _ (matched_asked d _ now _))
      · cases taken
  | testPing targetId now =>
      cases taken
      refine accounted_calls cfg d accounted _ (coming_new cfg d accounted _ ?_)
      intro item member
      obtain ⟨subscription, _, rfl⟩ := List.mem_map.mp member
      exact Or.inl rfl
  | put call =>
      simp only [Dispatcher.next, Dispatcher.put] at taken
      split at taken
      · rename_i item rest here
        cases taken
        have asked := accounted.coming _ (List.mem_of_getElem? here)
        refine accounted_put cfg d accounted (some item) _ d.stopping ?_ (coming_set cfg d accounted call _ ?_)
        · rintro _ ⟨⟩
          exact asked item (by simp)
        · exact fun other member => asked other (List.mem_cons_of_mem item member)
      · cases taken
  | start =>
      simp only [Dispatcher.next] at taken
      split at taken
      · cases taken
        exact accounted
      · cases taken
        exact { accounted with shared := (WorkQueue.hands_new WorkerPhase.held d.workers .looking rfl).symm ▸ accounted.shared }
  | stop =>
      simp only [Dispatcher.next] at taken
      split at taken <;> cases taken <;> exact { accounted with }
  | mark =>
      simp only [Dispatcher.next] at taken
      split at taken
      · cases taken
        exact accounted_put cfg d accounted none d.calls _ (by simp) accounted.coming
      · cases taken
  | work worker turn => exact accounted_work cfg d accounted worker turn after taken

end Steps

-- Whatever the threads do, no item that found room in the queue is lost or delivered
-- twice, but for those that raise.
theorem deliveries_accounted (cfg : DeliverySettings) (d : Dispatcher) (events : List DispatchEvent)
    (run : DispatchRun cfg (fun _ _ => True) {} events d) : Accounted cfg d := by
  refine Runs.run_invariant _ _ (Accounted cfg) ?_ {} d events (accounted_fresh cfg) run
  exact fun state event after held _ taken => accounted_next cfg state held event after taken

def threeTries : DeliverySettings := { positive := by decide }

def hook (secret : Json) : WebhookSubscription := ⟨"wh-1", "https://hooks", ["node.dead"], secret, [], 0, true, by decide⟩

def answered (status : Int) : Report := ⟨"1", fun _ => .response status, 0, 1, 1⟩

def beginDispatch (secret : Json) : List DispatchEvent :=
  [.register (hook secret), .start, .dispatch "node.dead" .null, .gather 0 5, .put 0, .work 0 .look, .work 0 .get]

theorem accounted_refused : ∃ d, d.history.map DeliveryRecord.attempts = [3] ∧ Accounted threeTries d := by
  have followed : ∃ d ∈ Runs.follow (Dispatcher.next threeTries) (fun _ _ => True) {}
      (beginDispatch .null ++ [.work 0 (.deliver (answered 500))]), d.history.map DeliveryRecord.attempts = [3] := by
    decide +kernel
  obtain ⟨d, reached, tried⟩ := followed
  exact ⟨d, tried, deliveries_accounted threeTries d _ (Runs.follow_run _ _ _ d _ reached)⟩

end HuddleCluster.Api
