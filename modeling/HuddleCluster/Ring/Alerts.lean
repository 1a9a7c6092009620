import HuddleCluster.Lib.Json
import HuddleCluster.Lib.OrderStatistics
import HuddleCluster.Lib.Runs
import HuddleCluster.Lib.WorkQueue

set_option autoImplicit false

namespace HuddleCluster.Ring

structure AlertEvent where
  event : String
  level : String
  timestamp : ℚ
  serverId : Option String
  data : Json

structure AlertSettings where
  alertWebhooks : List String
  alertOn : List String := ["eviction", "degraded", "circuit_breaker", "retry_exhausted"]

namespace Alerts

def queueSize : Nat := 1000

def historySize : Nat := 100

-- Where a thread stands in _alert_delivery_loop; posting tells how many of the URLs
-- have been sent to.
inductive Phase where
  | waiting
  | idle
  | posting (draining : Bool) (alert : AlertEvent) (count : Nat)
  | draining
  | grabbing
  | ended

namespace Phase

def held : Phase → List AlertEvent
  | .posting _ alert _ => [alert]
  | _ => []

def live : Phase → Bool
  | .ended => false
  | _ => true

def sent (urls : List String) : Phase → List (AlertEvent × String)
  | .posting _ alert count => (urls.take count).map (Prod.mk alert)
  | _ => []

def afterGet : Option AlertEvent → Phase
  | none => .draining
  | some alert => .posting false alert 0

def afterGrab : Option AlertEvent → Phase
  | none => .draining
  | some alert => .posting true alert 0

end Phase

inductive StopPhase where
  | looking
  | marking

inductive Turn where
  | get
  | look
  | post

inductive Step where
  | fire (alert : AlertEvent)
  | put (call : Nat)
  | start
  | stop
  | find (call : Nat)
  | mark (call : Nat)
  | work (thread : Nat) (turn : Turn)

end Alerts

-- The threads that deliver, the last of them the one that stop knows, and the calls of
-- _fire_alert and of stop that are under way. What was fired, dropped, delivered and
-- sent is not in the program.
structure Alerts where
  running : Bool := false
  queue : WorkQueue AlertEvent := {}
  threads : List Alerts.Phase := []
  pending : List AlertEvent := []
  stops : List Alerts.StopPhase := []
  history : List AlertEvent := []
  fired : List AlertEvent := []
  dropped : List AlertEvent := []
  delivered : List AlertEvent := []
  sent : List (AlertEvent × String) := []

namespace Alerts

def setThread (s : Alerts) (i : Nat) (phase : Phase) : Alerts := { s with threads := s.threads.set i phase }

def fire (cfg : AlertSettings) (s : Alerts) (alert : AlertEvent) : Alerts :=
  if cfg.alertWebhooks = [] ∨ alert.event ∉ cfg.alertOn then s
  else { s with
    history := Statistics.pushWindow historySize s.history alert
    pending := s.pending ++ [alert]
    fired := s.fired ++ [alert] }

def put (s : Alerts) (call : Nat) : Option Alerts :=
  s.pending[call]?.map fun alert =>
    { s with
      pending := s.pending.eraseIdx call
      queue := s.queue.put queueSize (some alert)
      dropped := if s.queue.waiting.length < queueSize then s.dropped else s.dropped ++ [alert] }

-- A POST that fails is only logged.
def post (cfg : AlertSettings) (s : Alerts) (i : Nat) (draining : Bool) (alert : AlertEvent) (count : Nat) : Alerts :=
  match cfg.alertWebhooks[count]? with
  | some url => { s with sent := s.sent ++ [(alert, url)] }.setThread i (.posting draining alert (count + 1))
  | none => { s with delivered := s.delivered ++ [alert] }.setThread i (if draining then .draining else .waiting)

def work (cfg : AlertSettings) (s : Alerts) (i : Nat) (turn : Turn) : Option Alerts :=
  match s.threads[i]?, turn with
  | some .waiting, .get =>
      match s.queue.take with
      | none => some (s.setThread i .idle)
      | some (alert, queue) => some ({ s with queue := queue }.setThread i (.afterGet alert))
  | some .idle, .look => some (s.setThread i (if s.running then .waiting else .ended))
  | some .draining, .look => some (s.setThread i (if s.queue.waiting.isEmpty then .ended else .grabbing))
  | some .grabbing, .get =>
      match s.queue.take with
      | none => some (s.setThread i .ended)
      | some (alert, queue) => some ({ s with queue := queue }.setThread i (.afterGrab alert))
  | some (.posting draining alert count), .post => some (s.post cfg i draining alert count)
  | _, _ => none

def next (cfg : AlertSettings) (s : Alerts) : Step → Option Alerts
  | .fire alert => some (s.fire cfg alert)
  | .put call => s.put call
  | .start =>
      if s.running then some s
      else some { s with running := true, threads := if cfg.alertWebhooks = [] then s.threads else s.threads ++ [.waiting] }
  | .stop => some { s with running := false, stops := s.stops ++ [.looking] }
  | .find call =>
      match s.stops[call]? with
      | some .looking =>
          if s.threads.getLast?.any Phase.live then some { s with stops := s.stops.set call .marking }
          else some { s with stops := s.stops.eraseIdx call }
      | _ => none
  | .mark call =>
      match s.stops[call]? with
      | some .marking =>
          -- put waits for room
          if s.queue.waiting.length < queueSize then
            some { s with queue := s.queue.put queueSize none, stops := s.stops.eraseIdx call }
          else none
      | _ => none
  | .work thread turn => s.work cfg thread turn

end Alerts

abbrev AlertRun (cfg : AlertSettings) (allowed : Alerts → Alerts.Step → Prop) := Runs.Run (Alerts.next cfg) allowed

-- What was fired is accepted, dropped or about to be put; what was accepted waits, is in
-- the hands of one thread, or has been sent once to every URL.
structure AlertsAccounted (cfg : AlertSettings) (s : Alerts) : Prop where
  fifo : s.queue.Fifo Alerts.queueSize
  offered : (s.pending ++ (s.queue.accepted ++ s.dropped)).Perm s.fired
  shared : (s.delivered ++ WorkQueue.hands Alerts.Phase.held s.threads).Perm s.queue.taken
  posted : (s.delivered.flatMap (fun alert => cfg.alertWebhooks.map (Prod.mk alert)) ++
    WorkQueue.hands (Alerts.Phase.sent cfg.alertWebhooks) s.threads).Perm s.sent
  kept : s.history = s.fired.drop (s.fired.length - Alerts.historySize)
  wanted : ∀ alert ∈ s.fired, alert.event ∈ cfg.alertOn

open Alerts

section Steps

variable (cfg : AlertSettings) (s : Alerts) (accounted : AlertsAccounted cfg s)
include accounted

theorem alerts_fire (alert : AlertEvent) : AlertsAccounted cfg (s.fire cfg alert) := by
  unfold fire
  split
  · exact accounted
  · rename_i listened
    obtain ⟨_, listed⟩ := not_or.mp listened
    refine { accounted with offered := ?_, kept := ?_, wanted := ?_ }
    · simp only [List.append_assoc]
      refine List.Perm.trans ?_ (accounted.offered.append_right [alert])
      simp only [List.append_assoc]
      exact List.Perm.append_left _ (List.perm_append_comm.trans (by simp))
    · have before := Statistics.push_window_all historySize [] s.fired (Nat.zero_le _)
      have whole := Statistics.push_window_all historySize [] (s.fired ++ [alert]) (Nat.zero_le _)
      rw [List.foldl_append, before] at whole
      simpa [accounted.kept] using whole
    · intro other member
      rcases List.mem_append.mp member with before | new
      · exact accounted.wanted other before
      · rw [List.mem_singleton.mp new]
        exact not_not.mp listed

theorem alerts_put (call : Nat) (after : Alerts) (taken : s.put call = some after) : AlertsAccounted cfg after := by
  obtain ⟨alert, here, rfl⟩ := Option.map_eq_some_iff.mp taken
  have chosen : (alert :: s.pending.eraseIdx call).Perm s.pending := by
    obtain ⟨there, rfl⟩ := List.getElem?_eq_some_iff.mp here
    exact List.getElem_cons_eraseIdx_perm there
  refine { accounted with fifo := WorkQueue.fifo_put _ s.queue _ accounted.fifo, offered := ?_, shared := ?_ }
  · refine List.Perm.trans ?_ ((chosen.append_right _).trans accounted.offered)
    dsimp only
    split
    · rename_i room
      rw [WorkQueue.put_room queueSize s.queue _ room]
      simp only [Option.toList_some, List.append_assoc, List.cons_append]
      exact ((List.perm_middle.append_left _).trans List.perm_middle)
    · rename_i full
      rw [WorkQueue.put_full queueSize s.queue _ full]
      simp only [List.cons_append, ← List.append_assoc]
      exact List.perm_append_singleton _ _
  · exact (WorkQueue.put_taken queueSize s.queue (some alert)).symm ▸ accounted.shared

theorem alerts_thread (i : Nat) (before after : Phase) (here : s.threads[i]? = some before) (idle : before.held = [])
    (unsent : before.sent cfg.alertWebhooks = []) (still : after.held = []) (silent : after.sent cfg.alertWebhooks = []) :
    AlertsAccounted cfg (s.setThread i after) := by
  have shared := WorkQueue.shared_set Phase.held _ _ s.threads i before after here accounted.shared
  have posted := WorkQueue.shared_set (Phase.sent cfg.alertWebhooks) _ _ s.threads i before after here accounted.posted
  rw [idle, still] at shared
  rw [unsent, silent] at posted
  exact { accounted with shared := shared, posted := posted }

theorem alerts_take (i : Nat) (before after : Phase) (alert : Option AlertEvent) (queue : WorkQueue AlertEvent)
    (here : s.threads[i]? = some before) (idle : before.held = []) (unsent : before.sent cfg.alertWebhooks = [])
    (taken : s.queue.take = some (alert, queue)) (grabbed : after.held = alert.toList)
    (silent : after.sent cfg.alertWebhooks = []) : AlertsAccounted cfg ({ s with queue := queue }.setThread i after) := by
  obtain ⟨_, moved, same⟩ := WorkQueue.take_spec s.queue queue alert taken
  have fifo := WorkQueue.fifo_take _ s.queue queue alert accounted.fifo taken
  have shared := WorkQueue.shared_set Phase.held _ _ s.threads i before after here accounted.shared
  have posted := WorkQueue.shared_set (Phase.sent cfg.alertWebhooks) _ _ s.threads i before after here accounted.posted
  rw [idle, grabbed] at shared
  rw [unsent, silent] at posted
  refine { accounted with fifo := fifo, offered := same ▸ accounted.offered, shared := ?_, posted := posted }
  exact moved ▸ shared.trans List.perm_append_comm

theorem alerts_post (i : Nat) (draining : Bool) (alert : AlertEvent) (count : Nat)
    (here : s.threads[i]? = some (.posting draining alert count)) : AlertsAccounted cfg (s.post cfg i draining alert count) := by
  unfold post
  split
  · rename_i url found
    have shared := WorkQueue.shared_set Phase.held _ _ s.threads i _ (.posting draining alert (count + 1)) here accounted.shared
    have posted := WorkQueue.shared_set (Phase.sent cfg.alertWebhooks) _ _ s.threads i _ (.posting draining alert (count + 1)) here
      accounted.posted
    have more : (cfg.alertWebhooks.take (count + 1)).map (Prod.mk alert) =
        (cfg.alertWebhooks.take count).map (Prod.mk alert) ++ [(alert, url)] := by
      rw [List.take_add_one, found, Option.toList_some, List.map_append, List.map_singleton]
    simp only [Phase.sent, more, List.append_assoc] at posted
    refine { accounted with shared := (List.perm_append_left_iff _).mp shared, posted := ?_ }
    exact ((List.perm_append_left_iff _).mp posted).trans List.perm_append_comm
  · rename_i missing
    have all : cfg.alertWebhooks.take count = cfg.alertWebhooks :=
      List.take_of_length_le (List.getElem?_eq_none_iff.mp missing)
    generalize back : (if draining then Phase.draining else Phase.waiting) = after
    have idle : after.held = [] := by rw [← back]; cases draining <;> rfl
    have unsent : after.sent cfg.alertWebhooks = [] := by rw [← back]; cases draining <;> rfl
    have shared := WorkQueue.shared_set Phase.held _ _ s.threads i _ after here accounted.shared
    have posted := WorkQueue.shared_set (Phase.sent cfg.alertWebhooks) _ _ s.threads i _ after here accounted.posted
    rw [idle] at shared
    rw [unsent, Phase.sent, all] at posted
    refine { accounted with shared := ?_, posted := ?_ }
    · refine List.Perm.trans ?_ shared
      simp only [setThread, List.append_assoc]
      exact List.perm_append_comm_assoc _ _ _
    · refine List.Perm.trans ?_ posted
      simp only [setThread, List.flatMap_append, List.flatMap_singleton, List.append_assoc]
      exact List.perm_append_comm_assoc _ _ _

theorem alerts_work (i : Nat) (turn : Turn) (after : Alerts) (taken : s.work cfg i turn = some after) :
    AlertsAccounted cfg after := by
  unfold work at taken
  split at taken
  · rename_i here
    split at taken
    · cases taken
      exact alerts_thread cfg s accounted i .waiting .idle here rfl rfl rfl rfl
    · rename_i alert queue found
      cases taken
      exact alerts_take cfg s accounted i .waiting _ alert queue here rfl rfl found (by cases alert <;> rfl) (by cases alert <;> rfl)
  · rename_i here
    cases taken
    exact alerts_thread cfg s accounted i .idle _ here rfl rfl (by split <;> rfl) (by split <;> rfl)
  · rename_i here
    cases taken
    exact alerts_thread cfg s accounted i .draining _ here rfl rfl (by split <;> rfl) (by split <;> rfl)
  · rename_i here
    split at taken
    · cases taken
      exact alerts_thread cfg s accounted i .grabbing .ended here rfl rfl rfl rfl
    · rename_i alert queue found
      cases taken
      exact alerts_take cfg s accounted i .grabbing _ alert queue here rfl rfl found (by cases alert <;> rfl) (by cases alert <;> rfl)
  · rename_i draining alert count here
    cases taken
    exact alerts_post cfg s accounted i draining alert count here
  · cases taken

theorem alerts_next (event : Step) (after : Alerts) (taken : s.next cfg event = some after) : AlertsAccounted cfg after := by
  cases event with
  | fire alert =>
      cases taken
      exact alerts_fire cfg s accounted alert
  | put call => exact alerts_put cfg s accounted call after taken
  | start =>
      simp only [next] at taken
      split at taken
      · cases taken
        exact accounted
      · cases taken
        split
        · exact { accounted with }
        · have held := WorkQueue.hands_new Phase.held s.threads .waiting rfl
          have sent := WorkQueue.hands_new (Phase.sent cfg.alertWebhooks) s.threads .waiting rfl
          exact { accounted with shared := held.symm ▸ accounted.shared, posted := sent.symm ▸ accounted.posted }
  | stop =>
      cases taken
      exact { accounted with }
  | find call =>
      simp only [next] at taken
      split at taken
      · split at taken <;> cases taken <;> exact { accounted with }
      · cases taken
  | mark call =>
      simp only [next] at taken
      split at taken
      · split at taken
        · rename_i room
          cases taken
          refine { accounted with fifo := WorkQueue.fifo_put _ s.queue _ accounted.fifo, offered := ?_, shared := ?_ }
          · simpa [WorkQueue.put_room queueSize s.queue none room] using accounted.offered
          · exact (WorkQueue.put_taken queueSize s.queue none).symm ▸ accounted.shared
        · cases taken
      · cases taken
  | work thread turn => exact alerts_work cfg s accounted thread turn after taken

end Steps

-- Whatever the threads do and the receivers answer, no alert that found room is lost or
-- sent twice to one URL.
theorem alerts_accounted (cfg : AlertSettings) (s : Alerts) (steps : List Step)
    (run : AlertRun cfg (fun _ _ => True) {} steps s) : AlertsAccounted cfg s := by
  refine Runs.run_invariant _ _ (AlertsAccounted cfg) ?_ {} s steps ?_ run
  · exact fun state event after held _ taken => alerts_next cfg state held event after taken
  · exact ⟨WorkQueue.fifo_empty _, .refl _, .refl _, .refl _, by simp, by simp⟩

theorem alerts_accounted_once : ∃ s, s.sent.map Prod.snd = ["a", "b"] ∧ s.queue.waiting = [] ∧
    AlertsAccounted ⟨["a", "b"], ["eviction"]⟩ s := by
  have followed : ∃ s ∈ Runs.follow (Alerts.next ⟨["a", "b"], ["eviction"]⟩) (fun _ _ => True) {}
      [.start, .fire ⟨"eviction", "WARNING", 0, some "s", .obj []⟩, .fire ⟨"promotion", "INFO", 0, some "s", .obj []⟩, .put 0,
        .work 0 .get, .work 0 .post, .work 0 .post, .work 0 .post], s.sent.map Prod.snd = ["a", "b"] ∧ s.queue.waiting = [] := by
    decide +kernel
  obtain ⟨s, reached, sent, empty⟩ := followed
  exact ⟨s, sent, empty, alerts_accounted ⟨["a", "b"], ["eviction"]⟩ s _ (Runs.follow_run _ _ _ s _ reached)⟩

namespace Alerts

def Manned (s : Alerts) : Prop := WorkQueue.Manned Phase.live s.threads

-- No alert waits that no thread is there for.
def Attended (s : Alerts) : Prop := s.Manned ∨ s.queue.waiting.reduceOption = []

-- An alert is put while a thread is there, and the last thread does not end on the word
-- of an empty queue that is empty no more.
def Watched (s : Alerts) : Step → Prop
  | .put _ => s.queue.waiting.length < queueSize → s.Manned
  | .work i .look => s.threads[i]? = some .idle → s.running = false →
      (∃ j, j ≠ i ∧ WorkQueue.LiveAt Phase.live s.threads j) ∨ s.queue.waiting.reduceOption = []
  | _ => True

theorem manned_thread (s : Alerts) (i : Nat) (before after : Phase) (here : s.threads[i]? = some before) (live : after.live = true) :
    (s.setThread i after).Manned :=
  WorkQueue.manned_set Phase.live s.threads i after (List.getElem?_eq_some_iff.mp here).1 live

theorem manned_post (cfg : AlertSettings) (s : Alerts) (i : Nat) (draining : Bool) (alert : AlertEvent) (count : Nat)
    (here : s.threads[i]? = some (.posting draining alert count)) : (s.post cfg i draining alert count).Manned := by
  unfold post
  split
  · exact manned_thread { s with sent := _ } i _ _ here rfl
  · exact manned_thread { s with delivered := _ } i _ _ here (by cases draining <;> rfl)

theorem attended_work (cfg : AlertSettings) (s : Alerts) (i : Nat) (turn : Turn) (after : Alerts)
    (taken : s.work cfg i turn = some after) : after.Attended ↔ s.Watched (.work i turn) := by
  unfold work at taken
  split at taken
  · rename_i here
    split at taken
    · cases taken
      exact iff_of_true (Or.inl (manned_thread s i _ _ here rfl)) trivial
    · rename_i alert queue found
      cases taken
      exact iff_of_true (Or.inl (manned_thread { s with queue := queue } i _ _ here (by cases alert <;> rfl))) trivial
  · rename_i here
    cases taken
    by_cases runs : s.running = true
    · rw [if_pos runs]
      refine iff_of_true (Or.inl (manned_thread s i _ _ here rfl)) fun _ stopped => ?_
      simp [runs] at stopped
    · rw [if_neg runs]
      have others := WorkQueue.manned_ended Phase.live s.threads i .ended (List.getElem?_eq_some_iff.mp here).1 rfl
      refine (or_congr others Iff.rfl).trans ⟨fun left _ _ => left, fun left => left here (by simpa using runs)⟩
  · rename_i here
    cases taken
    refine iff_of_true ?_ fun idle => by simp [here] at idle
    split
    · rename_i empty
      exact Or.inr (by simp [setThread, List.isEmpty_iff.mp empty, List.reduceOption])
    · exact Or.inl (manned_thread s i _ _ here rfl)
  · rename_i here
    split at taken
    · rename_i missing
      cases taken
      refine iff_of_true (Or.inr ?_) trivial
      unfold WorkQueue.take at missing
      split at missing
      · rename_i empty
        simp [setThread, empty, List.reduceOption]
      · cases missing
    · rename_i alert queue found
      cases taken
      exact iff_of_true (Or.inl (manned_thread { s with queue := queue } i _ _ here (by cases alert <;> rfl))) trivial
  · rename_i draining alert count here
    cases taken
    exact iff_of_true (Or.inl (manned_post cfg s i draining alert count here)) trivial
  · cases taken

theorem attended_put (s : Alerts) (call : Nat) (after : Alerts) (attended : s.Attended) (taken : s.put call = some after) :
    after.Attended ↔ s.Watched (.put call) := by
  obtain ⟨alert, _, rfl⟩ := Option.map_eq_some_iff.mp taken
  by_cases room : s.queue.waiting.length < queueSize
  · have waits : (s.queue.put queueSize (some alert)).waiting.reduceOption ≠ [] := by
      rw [WorkQueue.put_room queueSize s.queue _ room, List.reduceOption_append]
      simp [List.reduceOption]
    constructor
    · exact fun still _ => still.resolve_right waits
    · exact fun watched => Or.inl (watched room)
  · refine iff_of_true ?_ fun fits => absurd fits room
    unfold Attended
    rw [WorkQueue.put_full queueSize s.queue _ room]
    exact attended

theorem attended_step (cfg : AlertSettings) (s : Alerts) (event : Step) (after : Alerts) (attended : s.Attended)
    (taken : s.next cfg event = some after) : after.Attended ↔ s.Watched event := by
  cases event with
  | fire alert =>
      cases taken
      unfold fire
      split <;> exact iff_of_true attended trivial
  | put call => exact attended_put s call after attended taken
  | start =>
      simp only [next] at taken
      split at taken
      · cases taken
        exact iff_of_true attended trivial
      · cases taken
        split
        · exact iff_of_true attended trivial
        · exact iff_of_true (Or.inl (WorkQueue.manned_new Phase.live s.threads .waiting rfl)) trivial
  | stop =>
      cases taken
      exact iff_of_true attended trivial
  | find call =>
      simp only [next] at taken
      split at taken
      · split at taken <;> cases taken <;> exact iff_of_true attended trivial
      · cases taken
  | mark call =>
      simp only [next] at taken
      split at taken
      · split at taken
        · rename_i room
          cases taken
          refine iff_of_true (attended.imp id fun empty => ?_) trivial
          rw [WorkQueue.put_room queueSize s.queue none room, List.reduceOption_append, empty]
          rfl
        · cases taken
      · cases taken
  | work thread turn => exact attended_work cfg s thread turn after taken

end Alerts

-- No alert is ever left without a thread, exactly if each is put while there is one, and
-- none comes between the last look at an empty queue and the end of the last thread.
theorem alerts_attended_iff (cfg : AlertSettings) (s : Alerts) (steps : List Step)
    (run : AlertRun cfg (fun _ _ => True) {} steps s) :
    Runs.Always (Alerts.next cfg) {} steps Attended ↔ AlertRun cfg Watched {} steps s := by
  refine Runs.run_always (Alerts.next cfg) Watched (fun _ => True) Attended (fun _ _ _ _ _ => trivial) ?_ {} s steps trivial ?_ run
  · exact fun state event after _ attended taken => attended_step cfg state event after attended taken
  · exact Or.inr rfl

-- An alert that comes after the thread has given up waiting, just before stop.
theorem alert_stranded : ∃ s steps, s.threads.all (fun phase => !phase.live) = true ∧
    s.queue.waiting.reduceOption.map AlertEvent.event = ["eviction"] ∧ ¬ AlertRun ⟨["a"], ["eviction"]⟩ Watched {} steps s := by
  let steps : List Step := [.start, .work 0 .get, .fire ⟨"eviction", "WARNING", 0, some "s", .obj []⟩, .put 0, .stop, .work 0 .look]
  have followed : ∃ s ∈ Runs.follow (Alerts.next ⟨["a"], ["eviction"]⟩) (fun _ _ => True) {} steps,
      s.threads.all (fun phase => !phase.live) = true ∧ s.queue.waiting.reduceOption.map AlertEvent.event = ["eviction"] := by
    decide +kernel
  obtain ⟨s, reached, ended, waits⟩ := followed
  refine ⟨s, steps, ended, waits, fun watched => ?_⟩
  have run := Runs.follow_run _ _ _ s _ reached
  have attended := (alerts_attended_iff ⟨["a"], ["eviction"]⟩ s steps run).mpr watched steps [] s (List.append_nil _) run
  rcases attended with ⟨i, phase, here, live⟩ | none
  · have dead := List.all_eq_true.mp ended phase (List.mem_of_getElem? here)
    simp [live] at dead
  · simp [none] at waits

end HuddleCluster.Ring
