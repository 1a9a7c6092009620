import HuddleCluster.Lib.Recent
import HuddleCluster.Ring.RemediationLimit

set_option autoImplicit false

namespace HuddleCluster.Ring

namespace Remediator

-- The states of a server that is kept from traffic.
def held (m : Remediator) (serverId : String) : Prop :=
  m.states.get? serverId = some .quarantined ∨ m.states.get? serverId = some .healing ∨ m.states.get? serverId = some .deadLetter

-- Servers are kept from traffic only in these states, the first of them only where an
-- action has not come back; nothing is ever verified.
structure Settled (m : Remediator) (busy : List String) : Prop where
  quarantined : ∀ serverId ∈ m.quarantinedServers, m.held serverId
  running : ∀ serverId, m.states.get? serverId = some .quarantined → serverId ∈ busy
  unverified : ∀ serverId, m.states.get? serverId ≠ some .verifying

end Remediator

namespace RemediationWatch

-- The servers of the actions that still run, or have raised out of their calls.
def busy (w : RemediationWatch) : List String := (w.running ++ w.lost).map RunningAction.serverId

structure Counted (w : RemediationWatch) : Prop where
  actions : w.remediator.totalActions =
    w.remediator.successfulActions + w.remediator.failedActions + w.running.length + w.lost.length
  succeeded : w.remediator.successfulActions = w.log.countP RemediationEntry.success
  failed : w.remediator.failedActions = w.log.countP fun entry => decide (entry.reason = Remediator.finishedReason false)
  throttled : w.remediator.throttledActions = w.log.countP fun entry => decide (entry.reason = Remediator.throttledReason)
  kept : w.remediator.remediationHistory = Recent.last 100 w.log

structure Accounted (w : RemediationWatch) : Prop where
  counted : w.Counted
  settled : w.remediator.Settled w.busy

end RemediationWatch

namespace Remediator

variable (m after : Remediator) (busy : List String) (serverId : String)

theorem settled_same (settled : m.Settled busy) (states : after.states = m.states)
    (quarantined : after.quarantinedServers = m.quarantinedServers) : after.Settled busy := by
  refine ⟨fun other member => ?_, fun other => ?_, fun other => ?_⟩
  · unfold held
    rw [states]
    exact settled.quarantined other (quarantined ▸ member)
  · rw [states]
    exact settled.running other
  · rw [states]
    exact settled.unverified other

theorem settled_set (state : RemediationState) (left : List String) (settled : m.Settled busy)
    (states : after.states = m.states.set serverId state) (verified : state ≠ .verifying)
    (starts : state = .quarantined → serverId ∈ left) (others : ∀ other ∈ busy, other ≠ serverId → other ∈ left)
    (free : serverId ∈ after.quarantinedServers → state = .quarantined ∨ state = .healing ∨ state = .deadLetter)
    (quarantined : ∀ other ∈ after.quarantinedServers, other ≠ serverId → other ∈ m.quarantinedServers) : after.Settled left := by
  have shown (other : String) : after.states.get? other = if other = serverId then some state else m.states.get? other := by
    rw [states, Dict.get_set]
  refine ⟨fun other member => ?_, fun other => ?_, fun other => ?_⟩
  · unfold held
    rw [shown]
    by_cases same : other = serverId
    · simpa [same] using free (same ▸ member)
    · simpa [same, held] using settled.quarantined other (quarantined other member same)
  · rw [shown]
    by_cases same : other = serverId
    · simpa [same] using starts
    · simpa [same] using fun busyNow => others other (settled.running other busyNow) same
  · rw [shown]
    by_cases same : other = serverId
    · simpa [same] using verified
    · simpa [same] using settled.unverified other

theorem recovery_settled (settled : m.Settled busy) : (m.recordRecovery serverId).Settled busy := by
  have released (after : Remediator) (states : after.states = m.states.set serverId .recovered)
      (quarantined : after.quarantinedServers = m.quarantinedServers.filter fun other => decide (other ≠ serverId)) :
      after.Settled busy := by
    refine settled_set m after busy serverId .recovered busy settled states (by decide) (by simp) (fun other inside _ => inside) ?_ ?_
    · rw [quarantined]
      simp
    · intro other member _
      rw [quarantined] at member
      exact (List.mem_filter.mp member).1
  unfold recordRecovery
  dsimp only
  split
  · exact released _ rfl rfl
  · exact released _ rfl rfl
  · exact settled_same _ _ _ settled rfl rfl

theorem clear_settled (settled : m.Settled busy) : (m.clearQuarantine serverId).Settled busy := by
  refine settled_set m _ busy serverId .healthy busy settled rfl (by decide) (by simp) (fun other inside _ => inside) ?_ ?_
  · simp [clearQuarantine, discard]
  · exact fun other member _ => (List.mem_filter.mp member).1

end Remediator

namespace RemediationWatch

structure Recorded (w after : RemediationWatch) (success : Bool) (reason : String) : Prop where
  entry : ∃ entry : RemediationEntry, entry.success = success ∧ entry.reason = reason ∧ after.log = w.log ++ [entry] ∧
    after.remediator.remediationHistory = if 100 < (w.remediator.remediationHistory ++ [entry]).length then
      (w.remediator.remediationHistory ++ [entry]).drop 1 else w.remediator.remediationHistory ++ [entry]

-- The newest entry is the last one of the history also where the oldest was dropped.
theorem newest_entry (history : List RemediationEntry) (entry : RemediationEntry) :
    (if 100 < (history ++ [entry]).length then (history ++ [entry]).drop 1 else history ++ [entry]).getLast?.toList = [entry] := by
  split
  · rename_i long
    have nonempty : history ≠ [] := by
      rintro rfl
      simp at long
    rw [List.drop_append_of_le_length (List.length_pos_iff.mpr nonempty), List.getLast?_concat]
    rfl
  · rw [List.getLast?_concat]
    rfl

theorem recorded_history (w : RemediationWatch) (m : Remediator) (serverId : String) (policy : RemediationPolicy) (success : Bool)
    (reason : String) (running lost : List RunningAction) (history : m.remediationHistory = w.remediator.remediationHistory) :
    Recorded w { w with
      remediator := m.recordHistory serverId policy success reason
      running := running
      log := w.log ++ (m.recordHistory serverId policy success reason).remediationHistory.getLast?.toList
      lost := lost } success reason := by
  refine ⟨m.newEntry serverId policy success reason, rfl, rfl, ?_, ?_⟩
  · simp only [Remediator.recordHistory, newest_entry]
  · simp only [Remediator.recordHistory, history]

inductive Begun (w : RemediationWatch) (action : RunningAction) (after : RemediationWatch) : Prop where
  | refused (remediator : after.remediator = w.remediator) (running : after.running = w.running) (log : after.log = w.log)
      (lost : after.lost = w.lost)
  | throttled (states : after.remediator.states = w.remediator.states.set action.serverId .deadLetter)
      (quarantined : after.remediator.quarantinedServers = w.remediator.quarantinedServers)
      (total : after.remediator.totalActions = w.remediator.totalActions)
      (successful : after.remediator.successfulActions = w.remediator.successfulActions)
      (failed : after.remediator.failedActions = w.remediator.failedActions)
      (throttled : after.remediator.throttledActions = w.remediator.throttledActions + 1)
      (running : after.running = w.running) (lost : after.lost = w.lost)
      (recorded : Recorded w after false Remediator.throttledReason)
  | started (states : after.remediator.states = w.remediator.states.set action.serverId .quarantined)
      (quarantined : ∀ other ∈ after.remediator.quarantinedServers, other ∈ w.remediator.quarantinedServers ∨
        other = action.serverId)
      (total : after.remediator.totalActions = w.remediator.totalActions + 1)
      (successful : after.remediator.successfulActions = w.remediator.successfulActions)
      (failed : after.remediator.failedActions = w.remediator.failedActions)
      (throttled : after.remediator.throttledActions = w.remediator.throttledActions)
      (running : after.running = w.running ++ [action]) (lost : after.lost = w.lost) (log : after.log = w.log)
      (history : after.remediator.remediationHistory = w.remediator.remediationHistory)

theorem begin_cases (w after : RemediationWatch) (serverId : String) (policy : RemediationPolicy)
    (taken : remediationNext w (.begin serverId policy) = some after) : Begun w ⟨serverId, policy⟩ after := by
  by_cases enabled : (w.remediator.enabled && policy.enabled) = true
  · by_cases room : (w.remediator.checkHourlyRateLimit serverId (w.remediator.effectiveRetries policy)).2 = true
    · simp only [remediationNext, Remediator.beginRemediation, enabled, room, if_true] at taken
      cases taken
      refine .started rfl ?_ rfl rfl rfl rfl rfl rfl rfl rfl
      intro other member
      by_cases known : serverId ∈ w.remediator.quarantinedServers
      · exact Or.inl (by simpa [Remediator.quarantine, Remediator.checkHourlyRateLimit, known] using member)
      · simpa [Remediator.quarantine, Remediator.checkHourlyRateLimit, known] using member
    · simp only [remediationNext, Remediator.beginRemediation, enabled, room, if_true, Bool.false_eq_true, if_false] at taken
      cases taken
      exact .throttled rfl rfl rfl rfl rfl rfl rfl rfl (recorded_history w _ serverId policy false _ _ _ rfl)
  · simp only [remediationNext, Remediator.beginRemediation, enabled, Bool.false_eq_true, if_false, List.append_nil] at taken
    cases taken
    exact .refused rfl rfl rfl rfl

inductive Finished (w : RemediationWatch) (action : RunningAction) (i : Nat) (after : RemediationWatch) : Prop where
  | raised (remediator : after.remediator = w.remediator) (running : after.running = w.running.eraseIdx i)
      (lost : after.lost = w.lost ++ [action]) (log : after.log = w.log)
  | ended (success : Bool)
      (states : after.remediator.states = w.remediator.states.set action.serverId (if success then .healing else .deadLetter))
      (quarantined : after.remediator.quarantinedServers = w.remediator.quarantinedServers)
      (total : after.remediator.totalActions = w.remediator.totalActions)
      (successful : after.remediator.successfulActions = w.remediator.successfulActions + success.toNat)
      (failed : after.remediator.failedActions = w.remediator.failedActions + (!success).toNat)
      (throttled : after.remediator.throttledActions = w.remediator.throttledActions)
      (running : after.running = w.running.eraseIdx i) (lost : after.lost = w.lost)
      (recorded : Recorded w after success (Remediator.finishedReason success))

theorem finish_cases (w after : RemediationWatch) (i : Nat) (outcome : ActionOutcome)
    (taken : remediationNext w (.finish i outcome) = some after) :
    ∃ action, w.running[i]? = some action ∧ Finished w action i after := by
  simp only [remediationNext] at taken
  split at taken
  · cases taken
  · rename_i action place
    refine ⟨action, place, ?_⟩
    split at taken
    · cases taken
      exact .raised rfl rfl rfl rfl
    · rename_i success _
      cases taken
      cases success with
      | false => exact .ended false rfl rfl rfl rfl rfl rfl rfl rfl (recorded_history w _ _ _ _ _ _ _ rfl)
      | true => exact .ended true rfl rfl rfl rfl rfl rfl rfl rfl (recorded_history w _ _ _ _ _ _ _ rfl)

theorem begin_settled (w after : RemediationWatch) (action : RunningAction) (begun : Begun w action after)
    (settled : w.remediator.Settled w.busy) : after.remediator.Settled after.busy := by
  cases begun with
  | refused remediator running _ lost =>
      rw [remediator, busy, running, lost]
      exact settled
  | throttled states quarantined _ _ _ _ running lost _ =>
      rw [busy, running, lost]
      refine Remediator.settled_set _ _ _ action.serverId .deadLetter _ settled states (by decide) (by simp) ?_ (by simp) ?_
      · exact fun other held _ => held
      · exact fun other member _ => quarantined ▸ member
  | started states quarantined _ _ _ _ running lost _ _ =>
      rw [busy, running, lost]
      refine Remediator.settled_set _ _ _ action.serverId .quarantined _ settled states (by decide) (by simp) ?_ (by simp) ?_
      · intro other held _
        simp only [busy, List.map_append, List.mem_append] at held ⊢
        exact held.imp_left Or.inl
      · exact fun other member apart => (quarantined other member).resolve_right apart

theorem busy_erased (w : RemediationWatch) (action : RunningAction) (i : Nat) (place : w.running[i]? = some action) (other : String)
    (held : other ∈ w.busy) (apart : other ≠ action.serverId) :
    other ∈ (w.running.eraseIdx i ++ w.lost).map RunningAction.serverId := by
  obtain ⟨found, member, rfl⟩ := List.mem_map.mp held
  refine List.mem_map_of_mem (List.mem_append.mpr ((List.mem_append.mp member).imp_left ?_))
  intro inside
  obtain ⟨j, there⟩ := List.mem_iff_getElem?.mp inside
  have elsewhere : j ≠ i := by
    intro same
    rw [same, place] at there
    exact apart (congrArg RunningAction.serverId (Option.some.inj there).symm)
  exact List.mem_eraseIdx_iff_getElem?.mpr ⟨j, elsewhere, there⟩

theorem finish_settled (w after : RemediationWatch) (action : RunningAction) (i : Nat) (place : w.running[i]? = some action)
    (finished : Finished w action i after) (settled : w.remediator.Settled w.busy) : after.remediator.Settled after.busy := by
  cases finished with
  | raised remediator running lost _ =>
      rw [remediator, busy, running, lost]
      refine ⟨settled.quarantined, fun serverId shown => ?_, settled.unverified⟩
      have held := settled.running serverId shown
      rw [← List.append_assoc, List.map_append, List.mem_append]
      by_cases same : serverId = action.serverId
      · exact Or.inr (by simp [same])
      · exact Or.inl (busy_erased w action i place serverId held same)
  | ended success states quarantined _ _ _ _ running lost _ =>
      rw [busy, running, lost]
      refine Remediator.settled_set _ _ _ action.serverId _ _ settled states ?_ ?_ ?_ ?_ ?_
      · cases success <;> simp
      · cases success <;> simp
      · exact fun other held apart => busy_erased w action i place other held apart
      · cases success <;> simp
      · exact fun other member _ => quarantined ▸ member

theorem recorded_kept (w after : RemediationWatch) (success : Bool) (reason : String) (recorded : Recorded w after success reason)
    (kept : w.remediator.remediationHistory = Recent.last 100 w.log) :
    after.remediator.remediationHistory = Recent.last 100 after.log := by
  obtain ⟨entry, _, _, log, history⟩ := recorded.entry
  rw [history, log, kept]
  exact Recent.last_trimmed 100 w.log entry

theorem recorded_counts (w after : RemediationWatch) (success : Bool) (reason : String) (recorded : Recorded w after success reason) :
    after.log.countP RemediationEntry.success = w.log.countP RemediationEntry.success + success.toNat ∧
      ∀ other : String, after.log.countP (fun entry => decide (entry.reason = other)) =
        w.log.countP (fun entry => decide (entry.reason = other)) + (decide (reason = other)).toNat := by
  obtain ⟨entry, rfl, rfl, log, _⟩ := recorded.entry
  rw [log]
  refine ⟨?_, fun other => ?_⟩
  · cases succeeded : entry.success <;> simp [succeeded]
  · by_cases same : entry.reason = other <;> simp [same]

theorem begin_counted (w after : RemediationWatch) (action : RunningAction) (begun : Begun w action after) (counted : w.Counted) :
    after.Counted := by
  cases begun with
  | refused remediator running log lost =>
      refine ⟨?_, ?_, ?_, ?_, ?_⟩
      · rw [remediator, running, lost, counted.actions]
      · rw [remediator, log, counted.succeeded]
      · rw [remediator, log, counted.failed]
      · rw [remediator, log, counted.throttled]
      · rw [remediator, log, counted.kept]
  | throttled _ _ total successful failed throttled running lost recorded =>
      obtain ⟨successes, reasons⟩ := recorded_counts w after _ _ recorded
      refine ⟨?_, ?_, ?_, ?_, recorded_kept w after _ _ recorded counted.kept⟩
      · rw [total, successful, failed, running, lost, counted.actions]
      · rw [successful, successes, counted.succeeded]
        rfl
      · rw [failed, reasons, counted.failed]
        simp [Remediator.throttledReason, Remediator.finishedReason]
      · rw [throttled, reasons, counted.throttled]
        simp
  | started _ _ total successful failed throttled running lost log history =>
      refine ⟨?_, ?_, ?_, ?_, ?_⟩
      · rw [total, successful, failed, running, lost, counted.actions, List.length_append, List.length_singleton]
        omega
      · rw [successful, log, counted.succeeded]
      · rw [failed, log, counted.failed]
      · rw [throttled, log, counted.throttled]
      · rw [history, log, counted.kept]

theorem finish_counted (w after : RemediationWatch) (action : RunningAction) (i : Nat) (place : w.running[i]? = some action)
    (finished : Finished w action i after) (counted : w.Counted) : after.Counted := by
  have inside := (List.getElem?_eq_some_iff.mp place).1
  have shorter := List.length_eraseIdx_of_lt inside
  cases finished with
  | raised remediator running lost log =>
      refine ⟨?_, ?_, ?_, ?_, ?_⟩
      · rw [remediator, running, lost, counted.actions, shorter, List.length_append, List.length_singleton]
        omega
      · rw [remediator, log, counted.succeeded]
      · rw [remediator, log, counted.failed]
      · rw [remediator, log, counted.throttled]
      · rw [remediator, log, counted.kept]
  | ended success _ _ total successful failed throttled running lost recorded =>
      obtain ⟨successes, reasons⟩ := recorded_counts w after _ _ recorded
      refine ⟨?_, ?_, ?_, ?_, recorded_kept w after _ _ recorded counted.kept⟩
      · rw [total, successful, failed, running, lost, counted.actions, shorter]
        cases success <;> simp <;> omega
      · rw [successful, successes, counted.succeeded]
      · rw [failed, reasons, counted.failed]
        cases success <;> simp [Remediator.finishedReason]
      · rw [throttled, reasons, counted.throttled]
        cases success <;> simp [Remediator.throttledReason, Remediator.finishedReason]

theorem accounted_still (w : RemediationWatch) (m : Remediator) (accounted : w.Accounted)
    (total : m.totalActions = w.remediator.totalActions) (successful : m.successfulActions = w.remediator.successfulActions)
    (failed : m.failedActions = w.remediator.failedActions) (throttled : m.throttledActions = w.remediator.throttledActions)
    (history : m.remediationHistory = w.remediator.remediationHistory) (settled : m.Settled w.busy) :
    Accounted { w with remediator := m } := by
  have counted := accounted.counted
  exact ⟨⟨by rw [total, successful, failed, counted.actions], successful.trans counted.succeeded, failed.trans counted.failed,
    throttled.trans counted.throttled, history.trans counted.kept⟩, settled⟩

theorem accounted_next (w : RemediationWatch) (event : RemediationEvent) (after : RemediationWatch) (accounted : w.Accounted)
    (taken : remediationNext w event = some after) : after.Accounted := by
  have settled := accounted.settled
  cases event with
  | begin serverId policy =>
      have begun := begin_cases w after serverId policy taken
      exact ⟨begin_counted w after _ begun accounted.counted, begin_settled w after _ begun settled⟩
  | finish i outcome =>
      obtain ⟨action, place, finished⟩ := finish_cases w after i outcome taken
      exact ⟨finish_counted w after action i place finished accounted.counted, finish_settled w after action i place finished settled⟩
  | recordEviction serverId =>
      cases taken
      unfold Remediator.recordEviction
      split <;> exact accounted_still w _ accounted rfl rfl rfl rfl rfl (Remediator.settled_same _ _ _ settled rfl rfl)
  | recordRecovery serverId =>
      cases taken
      refine accounted_still w _ accounted ?_ ?_ ?_ ?_ ?_ (Remediator.recovery_settled _ _ serverId settled)
      all_goals
        unfold Remediator.recordRecovery
        dsimp only
        split <;> rfl
  | clearQuarantine serverId =>
      cases taken
      exact accounted_still w _ accounted rfl rfl rfl rfl rfl (Remediator.clear_settled _ _ serverId settled)
  | checkStale =>
      cases taken
      unfold Remediator.checkStaleCoolingRing
      split <;> exact accounted_still w _ accounted rfl rfl rfl rfl rfl (Remediator.settled_same _ _ _ settled rfl rfl)
  | addPolicy policy =>
      cases taken
      exact accounted_still w _ accounted rfl rfl rfl rfl rfl (Remediator.settled_same _ _ _ settled rfl rfl)
  | wait =>
      cases taken
      exact accounted_still w _ accounted rfl rfl rfl rfl rfl (Remediator.settled_same _ _ _ settled rfl rfl)

end RemediationWatch

-- However calls and running actions interleave: every action started is one that worked,
-- one that failed, one that raised out of its call or one that still runs, every call that
-- was not refused and came to its end is in the log once, the history is its last hundred
-- entries, and a server is kept from traffic only while it is shown as quarantined, healing
-- or dead-lettered.
theorem remediation_accounted (enabled : Bool) (defaultMaxRetries : Int) (policies : List RemediationPolicy) (time : Clock)
    (reports : String → Nat → ActionReport) (events : List RemediationEvent) (last : RemediationWatch)
    (run : RemediationRun (.fresh enabled defaultMaxRetries policies time reports) events last) : last.Accounted := by
  refine Runs.run_invariant remediationNext _ RemediationWatch.Accounted ?_ _ last events ?_ run
  · exact fun w event after held _ taken => RemediationWatch.accounted_next w event after held taken
  · exact ⟨⟨rfl, rfl, rfl, rfl, rfl⟩, ⟨by simp [RemediationWatch.fresh], by simp [RemediationWatch.fresh],
      by simp [RemediationWatch.fresh]⟩⟩

-- Two calls for a server while the one action that it may have in an hour runs, and one whose
-- target is no URL.
theorem remediation_accounted_twice : ∃ last : RemediationWatch,
    last.remediator.remediationHistory.map RemediationEntry.reason = ["Rate limit exceeded: dead-lettered", "Action completed"] ∧
      last.remediator.states.get? "t" = some .quarantined ∧ last.running.length = 0 ∧ last.Accounted := by
  let restart : RemediationPolicy :=
    { name := "restart", trigger := .manual, actionType := .localCommand, actionTarget := "restart", maxRetriesPerHour := 1 }
  let hook : RemediationPolicy := { name := "hook", trigger := .manual, actionType := .httpWebhook, actionTarget := "example.com/hook" }
  have followed : ∃ last ∈ Runs.follow remediationNext (fun _ _ => True)
      (.fresh true 3 [] ⟨fun ticks => ticks, 0⟩ fun _ _ => ⟨.raised, []⟩)
      [.begin "s" restart, .begin "s" restart, .finish 0 (.exited 0), .begin "t" hook, .finish 0 .unsendable],
        last.remediator.remediationHistory.map RemediationEntry.reason = ["Rate limit exceeded: dead-lettered", "Action completed"] ∧
          last.remediator.states.get? "t" = some .quarantined ∧ last.running.length = 0 := by
    decide +kernel
  obtain ⟨last, reached, reasons, stays, idle⟩ := followed
  exact ⟨last, reasons, stays, idle, remediation_accounted true 3 [] _ _ _ last (Runs.follow_run _ _ _ last _ reached)⟩

end HuddleCluster.Ring
