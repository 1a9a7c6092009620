import HuddleCluster.Lib.Runs
import HuddleCluster.Lib.SlidingWindow
import HuddleCluster.Ring.Remediator

set_option autoImplicit false

namespace HuddleCluster.Ring

open SlidingWindow (Start Admitted Keeps window peak)

-- An action outside the lock, between the two parts of the call that has started it.
structure RunningAction where
  serverId : String
  policy : RemediationPolicy

-- What threads do to a remediator.
inductive RemediationEvent where
  | begin (serverId : String) (policy : RemediationPolicy)
  | finish (i : Nat) (outcome : ActionOutcome)
  | recordEviction (serverId : String)
  | recordRecovery (serverId : String)
  | clearQuarantine (serverId : String)
  | checkStale
  | addPolicy (policy : RemediationPolicy)
  | wait

-- The actions that are running. What has been started, every entry the history ever got
-- and the actions that raised out of their calls are not in the program.
structure RemediationWatch where
  remediator : Remediator
  running : List RunningAction
  started : List (String × Start ℚ)
  log : List RemediationEntry
  lost : List RunningAction

def RemediationWatch.fresh (enabled : Bool) (defaultMaxRetries : Int) (policies : List RemediationPolicy) (time : Clock)
    (reports : String → Nat → ActionReport) : RemediationWatch where
  remediator := {
    enabled := enabled
    defaultMaxRetries := defaultMaxRetries
    policies := policies
    time := time
    reports := reports }
  running := []
  started := []
  log := []
  lost := []

def remediationNext (w : RemediationWatch) : RemediationEvent → Option RemediationWatch
  | .begin serverId policy =>
      match w.remediator.beginRemediation serverId policy with
      | (begun, none) =>
          let recorded := if w.remediator.enabled && policy.enabled then begun.remediationHistory.getLast?.toList else []
          some { w with remediator := begun, log := w.log ++ recorded }
      | (begun, some time) =>
          some { w with
            remediator := begun
            running := w.running ++ [⟨serverId, policy⟩]
            started := w.started ++ [(serverId, ⟨time, w.remediator.effectiveRetries policy⟩)] }
  | .finish i outcome =>
      match w.running[i]? with
      | none => none
      | some action =>
          match action.policy.executeActionPayload outcome with
          | none => some { w with running := w.running.eraseIdx i, lost := w.lost ++ [action] }
          | some success =>
              let finished := w.remediator.finishRemediation action.serverId action.policy success
              some { w with
                remediator := finished
                running := w.running.eraseIdx i
                log := w.log ++ finished.remediationHistory.getLast?.toList }
  | .recordEviction serverId => some { w with remediator := (w.remediator.recordEviction serverId).1 }
  | .recordRecovery serverId => some { w with remediator := w.remediator.recordRecovery serverId }
  | .clearQuarantine serverId => some { w with remediator := w.remediator.clearQuarantine serverId }
  | .checkStale => some { w with remediator := w.remediator.checkStaleCoolingRing.1 }
  | .addPolicy policy => some { w with remediator := { w.remediator with policies := w.remediator.policies ++ [policy] } }
  | .wait => some { w with remediator := { w.remediator with time := w.remediator.time.tick } }

abbrev RemediationRun := Runs.Run remediationNext fun _ _ => True

def startsOn (started : List (String × Start ℚ)) (serverId : String) : List (Start ℚ) :=
  (started.filter fun entry => decide (entry.1 = serverId)).map Prod.snd

theorem starts_on_append (started : List (String × Start ℚ)) (entry : String × Start ℚ) (serverId : String) :
    startsOn (started ++ [entry]) serverId = startsOn started serverId ++ if entry.1 = serverId then [entry.2] else [] := by
  rw [startsOn, List.filter_append, List.map_append, startsOn]
  by_cases same : entry.1 = serverId <;> simp [same]

-- The attempts of a server that are kept are those of the actions started on it
-- in the last hour, and each of these had room.
structure Limited (w : RemediationWatch) : Prop where
  forward : ∀ n, w.remediator.time.reading n ≤ w.remediator.time.reading (n + 1)
  admitted : ∀ serverId, Admitted 3600 (startsOn w.started serverId)
  keeps : ∀ serverId, Keeps 3600 w.remediator.time.now (startsOn w.started serverId) (w.remediator.attemptTimestamps.getD serverId [])

theorem clock_forward (clock : Clock) (forward : ∀ n, clock.reading n ≤ clock.reading (n + 1)) : clock.now ≤ clock.tick.now :=
  forward clock.ticks

theorem limited_quiet (w after : RemediationWatch) (limited : Limited w) (started : after.started = w.started)
    (attempts : after.remediator.attemptTimestamps = w.remediator.attemptTimestamps)
    (time : after.remediator.time = w.remediator.time ∨ after.remediator.time = w.remediator.time.tick) : Limited after := by
  have reading : after.remediator.time.reading = w.remediator.time.reading := by
    rcases time with same | ticked <;> simp [*, Clock.tick]
  have later : w.remediator.time.now ≤ after.remediator.time.now := by
    rcases time with same | ticked
    · exact (congrArg Clock.now same).ge
    · exact ticked ▸ clock_forward _ limited.forward
  refine ⟨by simpa only [reading] using limited.forward, by rw [started]; exact limited.admitted, fun serverId => ?_⟩
  rw [started, attempts]
  exact SlidingWindow.keeps_later 3600 _ _ _ _ (limited.keeps serverId) later

inductive Begun (m : Remediator) (serverId : String) (policy : RemediationPolicy) (kept : List ℚ) :
    Remediator × Option ℚ → Prop where
  | disabled : Begun m serverId policy kept (m, none)
  | throttled (after : Remediator) (attempts : after.attemptTimestamps = m.attemptTimestamps.set serverId kept)
      (time : after.time = m.time.tick.tick) : Begun m serverId policy kept (after, none)
  | started (after : Remediator) (room : (kept.length : Int) < m.effectiveRetries policy)
      (attempts : after.attemptTimestamps = m.attemptTimestamps.set serverId (kept ++ [m.time.tick.now]))
      (time : after.time = m.time.tick.tick) : Begun m serverId policy kept (after, some m.time.tick.now)

theorem begin_begun (m : Remediator) (serverId : String) (policy : RemediationPolicy) (kept : List ℚ)
    (pruned : (m.attemptTimestamps.getD serverId []).filter (fun time => decide (m.time.now - 3600 < time)) = kept) :
    Begun m serverId policy kept (m.beginRemediation serverId policy) := by
  simp only [Remediator.beginRemediation, Remediator.checkHourlyRateLimit, pruned]
  split
  · split
    · rename_i room
      exact .started _ (by simpa using room) (by simp [Remediator.quarantine, Dict.getD]) rfl
    · exact .throttled _ rfl rfl
  · exact .disabled

theorem limited_begin (w after : RemediationWatch) (serverId : String) (policy : RemediationPolicy) (limited : Limited w)
    (taken : remediationNext w (.begin serverId policy) = some after) : Limited after := by
  have pruned := SlidingWindow.keeps_prune 3600 _ _ _ _ (limited.keeps serverId) (le_refl w.remediator.time.now)
  have begun := begin_begun w.remediator serverId policy _ pruned
  have later := clock_forward w.remediator.time limited.forward
  have last := le_trans later (clock_forward w.remediator.time.tick limited.forward)
  simp only [remediationNext] at taken
  generalize w.remediator.beginRemediation serverId policy = outcome at begun taken
  cases begun with
  | disabled =>
      cases taken
      exact limited_quiet w _ limited rfl rfl (Or.inl rfl)
  | throttled begun attempts time =>
      cases taken
      refine ⟨by simp only [time]; exact limited.forward, limited.admitted, fun other => ?_⟩
      simp only [attempts, time, Dict.getD, Dict.get_set]
      by_cases same : other = serverId
      · rw [if_pos same, same]
        exact SlidingWindow.keeps_later 3600 _ _ _ _ ⟨_, le_refl _, rfl⟩ last
      · rw [if_neg same]
        exact SlidingWindow.keeps_later 3600 _ _ _ _ (limited.keeps other) last
  | started begun room attempts time =>
      cases taken
      refine ⟨by simp only [time]; exact limited.forward, fun other => ?_, fun other => ?_⟩
      · rw [starts_on_append]
        by_cases same : other = serverId
        · rw [if_pos same.symm, same]
          refine .snoc _ _ w.remediator.time.now (limited.admitted serverId) later ?_
          rwa [List.length_map] at room
        · rw [if_neg (Ne.symm same), List.append_nil]
          exact limited.admitted other
      · simp only [starts_on_append, attempts, time, Dict.getD, Dict.get_set]
        by_cases same : other = serverId
        · rw [if_pos same, if_pos same.symm, same]
          exact SlidingWindow.keeps_later 3600 _ _ _ _ (SlidingWindow.keeps_snoc 3600 _ (by norm_num) _ ⟨_, _⟩ later) last
        · rw [if_neg same, if_neg (Ne.symm same), List.append_nil]
          exact SlidingWindow.keeps_later 3600 _ _ _ _ (limited.keeps other) last

theorem limited_finish (w after : RemediationWatch) (i : Nat) (outcome : ActionOutcome) (limited : Limited w)
    (taken : remediationNext w (.finish i outcome) = some after) : Limited after := by
  simp only [remediationNext] at taken
  split at taken
  · cases taken
  · split at taken
    · cases taken
      exact limited_quiet w _ limited rfl rfl (Or.inl rfl)
    · rename_i success _
      cases taken
      cases success <;> exact limited_quiet w _ limited rfl rfl (Or.inr rfl)

theorem limited_step (w after : RemediationWatch) (event : RemediationEvent) (limited : Limited w)
    (taken : remediationNext w event = some after) : Limited after := by
  cases event with
  | begin serverId policy => exact limited_begin w after serverId policy limited taken
  | finish i outcome => exact limited_finish w after i outcome limited taken
  | recordEviction serverId =>
      cases taken
      refine limited_quiet w _ limited rfl ?_ ?_ <;> simp only [Remediator.recordEviction] <;> split <;> simp
  | recordRecovery serverId =>
      cases taken
      refine limited_quiet w _ limited rfl ?_ (Or.inl ?_) <;> simp only [Remediator.recordRecovery] <;> split <;> rfl
  | clearQuarantine serverId =>
      cases taken
      exact limited_quiet w _ limited rfl rfl (Or.inl rfl)
  | checkStale =>
      cases taken
      refine limited_quiet w _ limited rfl ?_ ?_ <;> simp only [Remediator.checkStaleCoolingRing] <;> split <;> simp
  | addPolicy policy =>
      cases taken
      exact limited_quiet w _ limited rfl rfl (Or.inl rfl)
  | wait =>
      cases taken
      exact limited_quiet w _ limited rfl rfl (Or.inr rfl)

-- The limit in force is that of some policy used in the window.
theorem hourly_limit (enabled : Bool) (defaultMaxRetries : Int) (policies : List RemediationPolicy) (time : Clock)
    (reports : String → Nat → ActionReport) (forward : ∀ n, time.reading n ≤ time.reading (n + 1)) (events : List RemediationEvent)
    (last : RemediationWatch) (run : RemediationRun (.fresh enabled defaultMaxRetries policies time reports) events last)
    (serverId : String) (t : ℚ) :
    ((window 3600 t (startsOn last.started serverId)).length : Int) ≤ peak (window 3600 t (startsOn last.started serverId)) := by
  have fresh : Limited (.fresh enabled defaultMaxRetries policies time reports) :=
    ⟨forward, fun _ => .nil, fun _ => ⟨_, le_refl _, rfl⟩⟩
  have limited := Runs.run_invariant remediationNext (fun _ _ => True) Limited
    (fun w event after held _ taken => limited_step w after event held taken) _ last events fresh run
  exact SlidingWindow.admitted_bounded 3600 _ (limited.admitted serverId) t

def twicePolicy : RemediationPolicy :=
  { name := "twice", trigger := .manual, actionType := .pythonCallback, actionCallback := true, maxRetriesPerHour := 2 }

def defaultPolicy : RemediationPolicy :=
  { name := "default", trigger := .staleOuterRing, actionType := .localCommand, actionTarget := "restart", maxRetriesPerHour := 0 }

-- Two policies, four attempts, and the first action still at work.
def sharedAttempts : List RemediationEvent :=
  [.begin "a" twicePolicy, .begin "a" twicePolicy, .finish 1 (.returned true), .begin "a" twicePolicy, .begin "a" defaultPolicy]

theorem hourly_limit_shared : ∃ last,
    RemediationRun (.fresh true 3 [twicePolicy] ⟨fun n => n, 0⟩ fun _ _ => ⟨.raised, []⟩) sharedAttempts last ∧
      last.running.map RunningAction.serverId = ["a", "a"] ∧ (window 3600 9 (startsOn last.started "a")).length = 3 ∧
        peak (window 3600 9 (startsOn last.started "a")) = 3 ∧
          ((window 3600 9 (startsOn last.started "a")).length : Int) ≤ peak (window 3600 9 (startsOn last.started "a")) := by
  have reached : ∃ last ∈ Runs.follow remediationNext (fun _ _ => True)
      (.fresh true 3 [twicePolicy] ⟨fun n => n, 0⟩ fun _ _ => ⟨.raised, []⟩) sharedAttempts,
      last.running.map RunningAction.serverId = ["a", "a"] ∧ (window 3600 9 (startsOn last.started "a")).length = 3 ∧
        peak (window 3600 9 (startsOn last.started "a")) = 3 := by decide +kernel
  obtain ⟨last, followed, running, count, top⟩ := reached
  have run := Runs.follow_run _ _ _ last _ followed
  have forward : ∀ n : Nat, (n : ℚ) ≤ ((n + 1 : Nat) : ℚ) := fun n => by exact_mod_cast Nat.le_succ n
  exact ⟨last, run, running, count, top, hourly_limit true 3 [twicePolicy] ⟨fun n => n, 0⟩ _ forward _ last run "a" 9⟩

end HuddleCluster.Ring
