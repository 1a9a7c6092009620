import HuddleCluster.Ring.Hedging

set_option autoImplicit false

namespace HuddleCluster.Ring

open Statistics

-- What a call knows of time. The timeouts of its waits, in seconds, are not kept by
-- the program; none is a wait without a bound.
structure HedgeClock where
  timeoutMs : Option ℚ
  delaySec : Option ℚ := none
  waits : List (Option ℚ) := []
deriving DecidableEq

structure HedgePacing extends HedgingConfig where
  hedgingDelayFloorMs : ℚ := 25

namespace HedgePacing

def delayFloorMs (cfg : HedgePacing) : ℚ := max 1 cfg.hedgingDelayFloorMs

def hedgingDelay (cfg : HedgePacing) (c : Cluster) (hedgingDelayMs : Option ℚ) : ℚ :=
  match hedgingDelayMs with
  | some delayMs => max (1 / 1000) (delayMs / 1000)
  | none =>
      let p95Candidates := (c.innerRing.map fun r => (c.objects r).metrics.p95Latency).filter fun p95 => decide (0 < p95)
      let clusterP95 :=
        if !p95Candidates.isEmpty then mean p95Candidates
        else if !c.p95Window.isEmpty then median c.p95Window
        else cfg.delayFloorMs
      max cfg.delayFloorMs clusterP95 / 1000

end HedgePacing

namespace HedgeClock

-- A timeout of zero is no timeout.
def timeoutSec (clock : HedgeClock) : Option ℚ :=
  match clock.timeoutMs with
  | none => none
  | some timeoutMs => if timeoutMs = 0 then none else some (timeoutMs / 1000)

-- The timeout of the wait with which a call enters a phase, if there is one.
def waitOn (clock : HedgeClock) (delaySec : ℚ) : Phase → Option (Option ℚ)
  | .delayed .. => some (some delaySec)
  | .waiting _ =>
      match clock.timeoutSec with
      | none => some none
      | some timeout => some (if timeout - delaySec = 0 then none else some (max (1 / 1000) (timeout - delaySec)))
  | .racing .. => some (clock.timeoutSec.map fun timeout => timeout - delaySec)
  | .fallback .. => some clock.timeoutSec
  | _ => none

def enter (clock : HedgeClock) (delaySec : ℚ) (phase : Phase) : HedgeClock :=
  { clock with waits := clock.waits ++ (clock.waitOn delaySec phase).toList }

def waited (clock : HedgeClock) : ℚ := (clock.waits.map fun wait => wait.getD 0).sum

def deadline (clock : HedgeClock) : Option ℚ :=
  match clock.timeoutMs with
  | none => none
  | some timeoutMs => if 0 < timeoutMs then some (timeoutMs / 1000) else none

def InTime (clock : HedgeClock) : Prop := ∀ deadline ∈ clock.deadline, none ∉ clock.waits ∧ clock.waited ≤ deadline

end HedgeClock

namespace Call

def pairs (call : Call) (c : Cluster) : Bool :=
  match call.phase with
  | .choosing primary true => (Hedging.backupFor c primary).isSome
  | _ => false

-- The waits that a call has behind it where it stands.
def Keeps (call : Call) (clock : HedgeClock) : Prop :=
  match call.phase with
  | .counted | .routed _ | .direct _ | .unchecked _ => clock.waits = []
  | .delayed .. | .choosing .. | .launching .. => clock.waits = [some (clock.delaySec.getD 0)]
  | .racing .. => clock.waits = [some (clock.delaySec.getD 0), clock.timeoutSec.map fun timeout => timeout - clock.delaySec.getD 0]
  | .waiting _ | .fallback .. | .returned _ | .raised => True

-- The hedging delay is within the deadline, a primary that gets no backup has a
-- millisecond left after it, and no race ends with one copy done that has failed.
def Paces (call : Call) (clock : HedgeClock) (c : Cluster) : HedgeEvent → Prop
  | .checkBudget _ => ∀ deadline ∈ clock.deadline, clock.delaySec.getD 0 ≤ deadline
  | .chooseBackup _ => ∀ deadline ∈ clock.deadline, call.pairs c = true ∨ clock.delaySec.getD 0 + 1 / 1000 ≤ deadline
  | .race _ _ => ∀ _deadline ∈ clock.deadline, ∀ backup, (call.copy backup).done = true → (call.copy !backup).done = false →
      call.copy backup = .succeeded
  | _ => True

end Call

structure Paced where
  hedging : Hedging
  clocks : List HedgeClock

-- A call enters with its timeout, the delay of a call is computed, or anything
-- else happens.
inductive PacedEvent where
  | hedgedRequest (timeoutMs : Option ℚ) (hedgingDelayMs : Option ℚ) (allowHedging : Bool) (affinityKey : Option String)
  | computeDelay (i : Nat)
  | step (event : HedgeEvent)

namespace Paced

def start (c : Cluster) : Paced := ⟨.idle c, []⟩

def computeDelay (cfg : HedgePacing) (s : Paced) (i : Nat) : Option Paced :=
  match s.hedging.calls[i]?, s.clocks[i]? with
  | some call, some clock =>
      match call.phase, clock.delaySec with
      | .unchecked _, none =>
          some { s with
            clocks := s.clocks.set i { clock with delaySec := some (cfg.hedgingDelay s.hedging.cluster call.hedgingDelayMs) } }
      | _, _ => none
  | _, _ => none

-- A call starts to wait when it comes to another place. The delay has to be there
-- before the budget is checked.
def turn (cfg : HedgePacing) (s : Paced) (event : HedgeEvent) (i : Nat) : Option Paced :=
  match hedgeStep cfg.toHedgingConfig s.hedging event, s.hedging.calls[i]?, s.clocks[i]? with
  | some after, some call, some clock =>
      match after.calls[i]? with
      | none => none
      | some next =>
          if next.phase = call.phase then some { s with hedging := after }
          else
            match call.phase, clock.delaySec with
            | .unchecked _, none => none
            | _, delaySec => some ⟨after, s.clocks.set i (clock.enter (delaySec.getD 0) next.phase)⟩
  | _, _, _ => none

def next (cfg : HedgePacing) (s : Paced) : PacedEvent → Option Paced
  | .hedgedRequest timeoutMs hedgingDelayMs allowHedging affinityKey =>
      some ⟨s.hedging.enter allowHedging hedgingDelayMs affinityKey, s.clocks ++ [{ timeoutMs := timeoutMs }]⟩
  | .computeDelay i => s.computeDelay cfg i
  | .step event =>
      match event.caller with
      | some i => s.turn cfg event i
      | none =>
          match event with
          | .operate op => some { s with hedging := { s.hedging with cluster := Ring.step cfg.cluster s.hedging.cluster op } }
          | _ => none

def InTime (s : Paced) : Prop := ∀ clock ∈ s.clocks, clock.InTime

def Paces (s : Paced) : PacedEvent → Prop
  | .step event => ∀ i ∈ event.caller, ∀ call ∈ s.hedging.calls[i]?, ∀ clock ∈ s.clocks[i]?,
    call.Paces clock s.hedging.cluster event
  | _ => True

structure Consistent (s : Paced) : Prop where
  lengths : s.clocks.length = s.hedging.calls.length
  keeps : ∀ (i : Nat) (call : Call) (clock : HedgeClock), s.hedging.calls[i]? = some call → s.clocks[i]? = some clock →
    call.Keeps clock

end Paced

theorem deadline_timeout (clock : HedgeClock) (deadline : ℚ) (found : clock.deadline = some deadline) :
    clock.timeoutSec = some deadline ∧ 0 < deadline := by
  unfold HedgeClock.deadline at found
  split at found
  · cases found
  · rename_i timeoutMs limited
    split at found
    · rename_i positive
      cases found
      exact ⟨by simp [HedgeClock.timeoutSec, limited, positive.ne'], by positivity⟩
    · cases found

theorem keeps_decided (call : Call) (clock : HedgeClock) (won : Prop) [Decidable won] (server : Ref) :
    ({ call with phase := if won then .returned server else .raised } : Call).Keeps clock := by
  by_cases here : won <;> simp [Call.Keeps, here]

theorem keeps_in_turn (c : Cluster) (call next : Call) (event : HedgeEvent) (clock : HedgeClock) (keeps : call.Keeps clock)
    (turn : CallTurn c call event next) (moved : next.phase ≠ call.phase) :
    next.Keeps (clock.enter (clock.delaySec.getD 0) next.phase) := by
  cases turn with
  | executed i backup => cases backup <;> exact absurd rfl moved
  | calledDirectly i failed => cases failed <;> trivial
  | waited | heard => exact keeps_decided call _ _ _
  | unrouted | alone | answered | failed | fellBack | unfinished | won | lost => trivial
  | routed _ _ _ phase | hedged _ _ phase | unhedged _ _ phase | checked _ _ _ phase | missed _ _ _ phase | paired _ _ _ phase =>
      simp only [Call.Keeps, phase] at keeps
      simp [Call.Keeps, HedgeClock.enter, HedgeClock.waitOn, keeps]
  | launched _ _ _ phase =>
      simp only [Call.Keeps, phase] at keeps
      simp only [Call.Keeps, HedgeClock.enter, HedgeClock.waitOn, keeps]
      rfl

theorem wait_decided (clock : HedgeClock) (delaySec : ℚ) (won : Prop) [Decidable won] (server : Ref) :
    clock.waitOn delaySec (if won then .returned server else .raised) = none := by
  split <;> rfl

theorem enter_quiet (clock : HedgeClock) (delaySec : ℚ) (phase : Phase) (quiet : clock.waitOn delaySec phase = none) :
    clock.enter delaySec phase = clock := by
  rw [HedgeClock.enter, quiet, Option.toList_none, List.append_nil]

theorem in_time_enter (clock : HedgeClock) (delaySec : ℚ) (phase : Phase) (wait : Option ℚ)
    (waits : clock.waitOn delaySec phase = some wait) : (clock.enter delaySec phase).InTime ↔
      ∀ deadline ∈ clock.deadline, none ∉ clock.waits ∧ wait ≠ none ∧ clock.waited + wait.getD 0 ≤ deadline := by
  have waited : (clock.enter delaySec phase).waited = clock.waited + wait.getD 0 := by
    simp [HedgeClock.enter, HedgeClock.waited, waits]
  have bounded : none ∉ (clock.enter delaySec phase).waits ↔ none ∉ clock.waits ∧ wait ≠ none := by
    simp [HedgeClock.enter, waits, eq_comm]
  simp only [HedgeClock.InTime, waited, bounded, and_assoc]
  rfl

theorem in_time_raced (clock : HedgeClock) (primary secondary : Ref) (waits : clock.waits = [some (clock.delaySec.getD 0)]) :
    (clock.enter (clock.delaySec.getD 0) (.racing primary secondary)).InTime := by
  rw [in_time_enter clock _ _ _ rfl]
  intro deadline found
  obtain ⟨timeout, _⟩ := deadline_timeout clock deadline found
  simp [HedgeClock.waited, waits, timeout]

theorem in_time_free (clock : HedgeClock) (delaySec : ℚ) (phase : Phase) (free : clock.deadline = none) :
    (clock.enter delaySec phase).InTime := by
  intro deadline found
  change deadline ∈ clock.deadline at found
  rw [free] at found
  cases found

-- What is left after the delay must be a millisecond: nothing left is no bound, and
-- less is raised to one.
theorem in_time_alone (clock : HedgeClock) (primary : Ref) (waits : clock.waits = [some (clock.delaySec.getD 0)]) :
    (clock.enter (clock.delaySec.getD 0) (.waiting primary)).InTime ↔
      ∀ deadline ∈ clock.deadline, clock.delaySec.getD 0 + 1 / 1000 ≤ deadline := by
  cases found : clock.deadline with
  | none => exact iff_of_true (in_time_free clock _ _ found) nofun
  | some deadline =>
      obtain ⟨timeout, _⟩ := deadline_timeout clock deadline found
      have remain : clock.waitOn (clock.delaySec.getD 0) (.waiting primary) =
          some (if deadline - clock.delaySec.getD 0 = 0 then none else some (max (1 / 1000) (deadline - clock.delaySec.getD 0))) := by
        simp only [HedgeClock.waitOn, timeout]
      have spent : clock.waited = clock.delaySec.getD 0 := by simp [HedgeClock.waited, waits]
      have bounded : none ∉ clock.waits := by simp [waits]
      rw [in_time_enter clock _ _ _ remain, found, spent]
      simp only [Option.mem_def, Option.some.injEq, forall_eq', bounded, not_false_eq_true, true_and]
      split
      · rename_i spentAll
        simp only [ne_eq, not_true_eq_false, false_and, false_iff, not_le]
        linarith
      · simp only [ne_eq, reduceCtorEq, not_false_eq_true, true_and, Option.getD_some]
        constructor
        · intro bound
          linarith [le_max_left (1 / 1000) (deadline - clock.delaySec.getD 0)]
        · intro left
          rw [max_eq_right (by linarith)]
          linarith

theorem in_time_fallen (clock : HedgeClock) (primary secondary : Ref) (backup : Bool)
    (waits : clock.waits = [some (clock.delaySec.getD 0), clock.timeoutSec.map fun timeout => timeout - clock.delaySec.getD 0]) :
    (clock.enter (clock.delaySec.getD 0) (.fallback primary secondary backup)).InTime ↔ clock.deadline = none := by
  cases found : clock.deadline with
  | none => exact iff_of_true (in_time_free clock _ _ found) rfl
  | some deadline =>
      obtain ⟨timeout, positive⟩ := deadline_timeout clock deadline found
      have spent : clock.waited = deadline := by simp [HedgeClock.waited, waits, timeout]
      rw [in_time_enter clock _ _ _ rfl, found, spent, timeout]
      simp [positive]

theorem in_time_turn (c : Cluster) (call next : Call) (event : HedgeEvent) (clock : HedgeClock) (keeps : call.Keeps clock)
    (inTime : clock.InTime) (turn : CallTurn c call event next) (moved : next.phase ≠ call.phase) :
    (clock.enter (clock.delaySec.getD 0) next.phase).InTime ↔ call.Paces clock c event := by
  have quiet (phase : Phase) (unwatched : clock.waitOn (clock.delaySec.getD 0) phase = none) :
      (clock.enter (clock.delaySec.getD 0) phase).InTime := by
    rw [enter_quiet clock _ phase unwatched]
    exact inTime
  cases turn with
  | executed i backup => cases backup <;> exact absurd rfl moved
  | unrouted | routed | hedged | unhedged | answered | failed | missed => exact iff_of_true (quiet _ rfl) trivial
  | calledDirectly i failed => cases failed <;> exact iff_of_true (quiet _ rfl) trivial
  | waited | heard => exact iff_of_true (quiet _ (wait_decided clock _ _ _)) trivial
  | checked i primary budgetOk phase =>
      simp only [Call.Keeps, phase] at keeps
      rw [in_time_enter clock _ _ _ rfl]
      simp [Call.Paces, HedgeClock.waited, keeps]
  | paired i primary secondary phase backup =>
      refine iff_of_true (quiet _ rfl) ?_
      intro deadline _
      simp [Call.pairs, phase, backup]
  | alone i primary budgetOk phase unpaired =>
      simp only [Call.Keeps, phase] at keeps
      have single : call.pairs c = false := by
        cases budgetOk <;> simp [Call.pairs, phase, unpaired]
      rw [in_time_alone clock primary keeps]
      simp [Call.Paces, single]
  | launched i primary secondary phase =>
      simp only [Call.Keeps, phase] at keeps
      exact iff_of_true (in_time_raced clock primary secondary keeps) trivial
  | unfinished i backupFirst primary secondary phase first second =>
      refine iff_of_true (quiet _ rfl) ?_
      intro deadline _ backup done
      cases backup
      · exact absurd (done.symm.trans first) nofun
      · exact absurd (done.symm.trans second) nofun
  | won i backupFirst primary secondary server phase succeeded =>
      refine iff_of_true (quiet _ rfl) ?_
      intro deadline _ backup done other
      have looked : call.picked backupFirst = backup := by
        cases backup <;> simp_all [Call.copy, Call.picked]
      rwa [looked] at succeeded
  | lost i backupFirst primary secondary phase first second =>
      refine iff_of_true (quiet _ rfl) ?_
      intro deadline _ backup _ other
      cases backup
      · exact absurd (second.symm.trans other) nofun
      · exact absurd (first.symm.trans other) nofun
  | fellBack i backupFirst backup primary secondary phase unsuccessful done other =>
      simp only [Call.Keeps, phase] at keeps
      rw [in_time_fallen clock primary secondary _ keeps]
      constructor
      · intro free deadline found
        rw [free] at found
        cases found
      · intro paces
        by_contra timed
        obtain ⟨deadline, found⟩ := Option.ne_none_iff_exists'.mp timed
        exact unsuccessful (paces deadline found backup done other)

theorem paces_same (c : Cluster) (call next : Call) (event : HedgeEvent) (clock : HedgeClock) (turn : CallTurn c call event next)
    (same : next.phase = call.phase) : call.Paces clock c event := by
  cases turn with
  | checked _ _ _ phase | paired _ _ _ phase | alone _ _ _ phase | unfinished _ _ _ _ phase | won _ _ _ _ _ phase | lost _ _ _ _ phase
  | fellBack _ _ _ _ _ phase => exact absurd (same.trans phase) nofun
  | _ => trivial

theorem keeps_phase (call next : Call) (clock : HedgeClock) (same : next.phase = call.phase) (keeps : call.Keeps clock) :
    next.Keeps clock := by
  rwa [Call.Keeps, same]

theorem set_same {α : Type} (items : List α) (i : Nat) (item : α) (found : items[i]? = some item) : items.set i item = items := by
  obtain ⟨inside, rfl⟩ := List.getElem?_eq_some_iff.mp found
  exact List.set_getElem_self inside

theorem paced_turn (cfg : HedgePacing) (s after : Paced) (event : HedgeEvent) (i : Nat) (caller : event.caller = some i)
    (taken : s.turn cfg event i = some after) :
    ∃ call clock next later, s.hedging.calls[i]? = some call ∧ s.clocks[i]? = some clock ∧
      CallTurn s.hedging.cluster call event next ∧ after.hedging.calls = s.hedging.calls.set i next ∧
      after.clocks = s.clocks.set i later ∧
      ((next.phase = call.phase ∧ later = clock) ∨
        (next.phase ≠ call.phase ∧ later = clock.enter (clock.delaySec.getD 0) next.phase)) := by
  simp only [Paced.turn] at taken
  split at taken
  · rename_i moved call clock stepped found timed
    obtain ⟨turned, next, found', turn, same⟩ := hedge_turn cfg.toHedgingConfig s.hedging moved event i caller stepped
    obtain rfl : turned = call := Option.some.inj (found'.symm.trans found)
    have inside := (List.getElem?_eq_some_iff.mp found).1
    rw [same, List.getElem?_set_self inside] at taken
    simp only at taken
    split at taken
    · rename_i stays
      cases taken
      exact ⟨turned, clock, next, clock, found, timed, turn, same, (set_same s.clocks i clock timed).symm, Or.inl ⟨stays, rfl⟩⟩
    · rename_i leaves
      split at taken
      · cases taken
      · cases taken
        exact ⟨turned, clock, next, _, found, timed, turn, same, rfl, Or.inr ⟨leaves, rfl⟩⟩
  · cases taken

theorem kept_set (calls : List Call) (clocks : List HedgeClock) (i : Nat) (next : Call) (later : HedgeClock)
    (keeps : ∀ (j : Nat) (call : Call) (clock : HedgeClock), calls[j]? = some call → clocks[j]? = some clock → call.Keeps clock)
    (here : next.Keeps later) (j : Nat) (call : Call) (clock : HedgeClock) (found : (calls.set i next)[j]? = some call)
    (timed : (clocks.set i later)[j]? = some clock) : call.Keeps clock := by
  rw [List.getElem?_set] at found timed
  by_cases same : i = j
  · rw [if_pos same] at found timed
    split at found
    · split at timed
      · cases found
        cases timed
        exact here
      · cases timed
    · cases found
  · rw [if_neg same] at found timed
    exact keeps j call clock found timed

theorem consistent_step (cfg : HedgePacing) (s after : Paced) (event : PacedEvent) (consistent : s.Consistent)
    (taken : s.next cfg event = some after) : after.Consistent := by
  obtain ⟨lengths, keeps⟩ := consistent
  cases event with
  | hedgedRequest timeoutMs hedgingDelayMs allowHedging affinityKey =>
      cases taken
      refine ⟨by simp [Hedging.enter, lengths], ?_⟩
      intro i call clock found timed
      simp only [Hedging.enter, List.getElem?_append] at found timed
      rw [lengths] at timed
      split at found
      · rename_i inside
        rw [if_pos inside] at timed
        exact keeps i call clock found timed
      · rename_i outside
        rw [if_neg outside] at timed
        obtain rfl := List.mem_singleton.mp (List.mem_of_getElem? found)
        obtain rfl := List.mem_singleton.mp (List.mem_of_getElem? timed)
        rfl
  | computeDelay i =>
      simp only [Paced.next, Paced.computeDelay] at taken
      split at taken
      · rename_i call clock found timed
        split at taken
        · rename_i primary phase _
          cases taken
          refine ⟨by simp [lengths], ?_⟩
          have here := keeps i call clock found timed
          have set := kept_set s.hedging.calls s.clocks i call
            { clock with delaySec := some (cfg.hedgingDelay s.hedging.cluster call.hedgingDelayMs) } keeps
            (by simpa only [Call.Keeps, phase] using here)
          rwa [set_same _ i call found] at set
        · cases taken
      · cases taken
  | step event =>
      cases caller : event.caller with
      | some i =>
          simp only [Paced.next, caller] at taken
          obtain ⟨call, clock, next, later, found, timed, turn, calls, clocks, change⟩ := paced_turn cfg s after event i caller taken
          have here := keeps i call clock found timed
          refine ⟨by rw [calls, clocks, List.length_set, List.length_set, lengths], ?_⟩
          rw [calls, clocks]
          apply kept_set _ _ i next later keeps
          rcases change with ⟨stays, rfl⟩ | ⟨leaves, rfl⟩
          · exact keeps_phase call next later stays here
          · exact keeps_in_turn s.hedging.cluster call next event clock here turn leaves
      | none =>
          simp only [Paced.next, caller] at taken
          split at taken
          · cases taken
            exact ⟨lengths, keeps⟩
          · cases taken

theorem in_time_step (cfg : HedgePacing) (s after : Paced) (event : PacedEvent) (consistent : s.Consistent) (inTime : s.InTime)
    (taken : s.next cfg event = some after) : after.InTime ↔ s.Paces event := by
  have replaced (i : Nat) (clock later : HedgeClock) (timed : s.clocks[i]? = some clock) :
      (∀ x ∈ s.clocks.set i later, x.InTime) ↔ later.InTime := by
    have inside := (List.getElem?_eq_some_iff.mp timed).1
    constructor
    · exact fun all => all later (List.mem_set inside later)
    · intro here x member
      rcases List.mem_or_eq_of_mem_set member with old | rfl
      · exact inTime x old
      · exact here
  cases event with
  | hedgedRequest timeoutMs hedgingDelayMs allowHedging affinityKey =>
      cases taken
      refine iff_of_true ?_ trivial
      simp only [Paced.InTime, List.forall_mem_append, List.mem_singleton, forall_eq]
      refine ⟨inTime, ?_⟩
      intro deadline found
      exact ⟨List.not_mem_nil, (deadline_timeout _ deadline found).2.le⟩
  | computeDelay i =>
      simp only [Paced.next, Paced.computeDelay] at taken
      split at taken
      · rename_i call clock found timed
        split at taken
        · cases taken
          refine iff_of_true ?_ trivial
          exact (replaced i clock _ timed).mpr (inTime clock (List.mem_of_getElem? timed))
        · cases taken
      · cases taken
  | step event =>
      cases caller : event.caller with
      | some i =>
          simp only [Paced.next, caller] at taken
          obtain ⟨call, clock, next, later, found, timed, turn, calls, clocks, change⟩ := paced_turn cfg s after event i caller taken
          have here := consistent.keeps i call clock found timed
          have soFar := inTime clock (List.mem_of_getElem? timed)
          have asked : s.Paces (.step event) ↔ call.Paces clock s.hedging.cluster event := by
            simp [Paced.Paces, caller, found, timed]
          rw [Paced.InTime, clocks, replaced i clock later timed, asked]
          rcases change with ⟨stays, rfl⟩ | ⟨leaves, rfl⟩
          · exact iff_of_true soFar (paces_same s.hedging.cluster call next event later turn stays)
          · exact in_time_turn s.hedging.cluster call next event clock here soFar turn leaves
      | none =>
          simp only [Paced.next, caller] at taken
          split at taken
          · cases taken
            refine iff_of_true inTime ?_
            intro i member
            cases member
          · cases taken

-- All along a run the waits of the calls that have a timeout are bounded and within
-- it, exactly if every step paces itself.
theorem hedge_deadline_iff (cfg : HedgePacing) (c : Cluster) (events : List PacedEvent) (last : Paced)
    (run : Runs.Run (Paced.next cfg) (fun _ _ => True) (.start c) events last) :
    Runs.Always (Paced.next cfg) (.start c) events Paced.InTime ↔ Runs.Run (Paced.next cfg) Paced.Paces (.start c) events last := by
  apply Runs.run_always (Paced.next cfg) Paced.Paces Paced.Consistent Paced.InTime
  · exact fun s event after => consistent_step cfg s after event
  · exact fun s event after => in_time_step cfg s after event
  · exact ⟨rfl, fun i call clock found => by simp [Paced.start, Hedging.idle] at found⟩
  · exact fun clock member => absurd member List.not_mem_nil
  · exact run

instance (call : Call) (clock : HedgeClock) (c : Cluster) (event : HedgeEvent) : Decidable (call.Paces clock c event) :=
  match event with
  | .checkBudget _ => inferInstanceAs (Decidable (∀ deadline ∈ clock.deadline, clock.delaySec.getD 0 ≤ deadline))
  | .chooseBackup _ =>
      inferInstanceAs (Decidable (∀ deadline ∈ clock.deadline, call.pairs c = true ∨ clock.delaySec.getD 0 + 1 / 1000 ≤ deadline))
  | .race _ _ => inferInstanceAs (Decidable (∀ _deadline ∈ clock.deadline, ∀ backup, (call.copy backup).done = true →
      (call.copy !backup).done = false → call.copy backup = .succeeded))
  | .hedgedRequest .. | .route .. | .choosePath _ | .callDirectly .. | .execute .. | .waitPrimary _ | .finishWaiting _ | .launch _
  | .waitOther _ | .operate _ => instDecidableTrue

instance (s : Paced) (event : PacedEvent) : Decidable (s.Paces event) :=
  match event with
  | .step event => inferInstanceAs (Decidable (∀ i ∈ event.caller, ∀ call ∈ s.hedging.calls[i]?, ∀ clock ∈ s.clocks[i]?,
      call.Paces clock s.hedging.cluster event))
  | .hedgedRequest .. | .computeDelay _ => instDecidableTrue

-- One call that hedges after 20 ms, up to its choice of a backup.
def timedCall (timeoutMs : ℚ) : List PacedEvent :=
  [.hedgedRequest (some timeoutMs) (some 20) true none, .step (.route 0 0), .step (.choosePath 0), .computeDelay 0,
    .step (.checkBudget 0), .step (.waitPrimary 0), .step (.chooseBackup 0)]

theorem hedge_deadline_raced : ∃ last ∈ Runs.follow (Paced.next {}) (fun _ _ => True) (.start hedgingPair)
      (timedCall 100 ++ [.step (.launch 0)]),
    last.clocks.map HedgeClock.waits = [[some (20 / 1000), some (80 / 1000)]] ∧
      Runs.Always (Paced.next {}) (.start hedgingPair) (timedCall 100 ++ [.step (.launch 0)]) Paced.InTime := by
  obtain ⟨last, restricted, waits⟩ : ∃ last ∈ Runs.follow (Paced.next {}) Paced.Paces (.start hedgingPair)
      (timedCall 100 ++ [.step (.launch 0)]), last.clocks.map HedgeClock.waits = [[some (20 / 1000), some (80 / 1000)]] := by
    decide +kernel
  have permitted := Runs.follow_run (Paced.next {}) Paced.Paces _ last _ restricted
  exact ⟨last, Runs.follow_free _ _ _ last _ restricted, waits,
    (hedge_deadline_iff {} hedgingPair _ last (Runs.run_free _ _ _ _ _ permitted)).mpr permitted⟩

def loneServer : Cluster :=
  (Cluster.empty {} (fun r => { id := toString r }) none none none ⟨fun ticks => ticks, 0⟩).addServer {} 0 true

-- With no backup and no time left after the delay the primary is waited for without
-- a bound.
theorem unbounded_wait : ¬ Runs.Always (Paced.next {}) (.start loneServer) (timedCall 20) Paced.InTime := by
  intro claim
  obtain ⟨last, followed, late⟩ : ∃ last ∈ Runs.follow (Paced.next {}) (fun _ _ => True) (.start loneServer) (timedCall 20),
      last.clocks = [⟨some 20, some (20 / 1000), [some (20 / 1000), none]⟩] := by decide +kernel
  have inTime := claim (timedCall 20) [] last (List.append_nil _) (Runs.follow_run _ _ _ last _ followed)
  have bounded := inTime _ (late ▸ List.mem_singleton_self _) (20 / 1000) rfl
  exact bounded.1 (by simp)

end HuddleCluster.Ring
