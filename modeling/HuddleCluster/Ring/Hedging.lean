import HuddleCluster.Ring.Operations

set_option autoImplicit false

namespace HuddleCluster.Ring

structure HedgingConfig where
  cluster : Config := {}
  hedgingEnabled : Bool := false
  hedgingBudgetRatio : ℚ := 5 / 100

def HedgingConfig.budgetRatio (cfg : HedgingConfig) : ℚ := max (1 / 100) (min 1 cfg.hedgingBudgetRatio)

-- A future of the executor. It may have failed with a timeout of its own, which
-- the first wait cannot tell from the end of the hedging delay.
inductive Future where
  | idle
  | running (server : Ref)
  | succeeded
  | raised (timeout : Bool)
deriving DecidableEq, Repr

def Future.done : Future → Bool
  | .succeeded | .raised _ => true
  | .idle | .running _ => false

inductive Phase where
  | counted
  | routed (primary : Ref)
  | direct (primary : Ref)
  | unchecked (primary : Ref)
  | delayed (primary : Ref) (budgetOk : Bool)
  | choosing (primary : Ref) (budgetOk : Bool)
  | waiting (primary : Ref)
  | launching (primary secondary : Ref)
  | racing (primary secondary : Ref)
  | fallback (primary secondary : Ref) (backup : Bool)
  | returned (server : Ref)
  | raised
deriving DecidableEq, Repr

-- One call of hedged_request: its arguments, where it stands, and the futures
-- of its primary and of its backup.
structure Call where
  allowHedging : Bool
  hedgingDelayMs : Option ℚ
  affinityKey : Option String
  phase : Phase := .counted
  first : Future := .idle
  second : Future := .idle
deriving DecidableEq, Repr

-- The counters when a backup had been counted.
structure Launch where
  totalRequests : Nat
  hedgedRequests : Nat
deriving DecidableEq, Repr

-- The launches are not kept by the program.
structure Hedging where
  cluster : Cluster
  calls : List Call
  totalRequests : Nat
  hedgedRequests : Nat
  wins : Nat
  throttled : Nat
  launches : List Launch

namespace Hedging

def idle (c : Cluster) : Hedging where
  cluster := c
  calls := []
  totalRequests := 0
  hedgedRequests := 0
  wins := 0
  throttled := 0
  launches := []

structure Effect where
  call : Call
  cluster : Cluster
  wins : Nat := 0
  throttled : Nat := 0

def thread (s : Hedging) (i : Nat) (f : Call → Option Effect) : Option Hedging :=
  match s.calls[i]? with
  | none => none
  | some call =>
      (f call).map fun effect =>
        { s with
          cluster := effect.cluster
          calls := s.calls.set i effect.call
          wins := s.wins + effect.wins
          throttled := s.throttled + effect.throttled }

def enter (s : Hedging) (allowHedging : Bool) (hedgingDelayMs : Option ℚ) (affinityKey : Option String) : Hedging :=
  { s with
    totalRequests := s.totalRequests + 1
    calls := s.calls ++ [{ allowHedging := allowHedging, hedgingDelayMs := hedgingDelayMs, affinityKey := affinityKey }] }

def route (s : Hedging) (draw : ℚ) (call : Call) : Option Effect :=
  match call.phase, s.cluster.getServer call.affinityKey draw with
  | .counted, (none, after) => some ⟨{ call with phase := .raised }, after, 0, 0⟩
  | .counted, (some primary, after) => some ⟨{ call with phase := .routed primary }, after, 0, 0⟩
  | _, _ => none

def canHedge (cfg : HedgingConfig) (call : Call) : Bool :=
  call.allowHedging && (cfg.hedgingEnabled || call.hedgingDelayMs.isSome)

def choosePath (cfg : HedgingConfig) (s : Hedging) (call : Call) : Option Effect :=
  match call.phase with
  | .routed primary =>
      some ⟨{ call with phase := if canHedge cfg call then .unchecked primary else .direct primary }, s.cluster, 0, 0⟩
  | _ => none

-- How a call of fn on a server ended shows in the metrics of the server.
def recordCall (c : Cluster) (r : Ref) (failed : Bool) (elapsedMs : ℚ) : Cluster :=
  let timed := c.recordLatency r elapsedMs
  if failed then timed.modifyMetrics r ServerMetrics.recordError else timed

def callDirectly (s : Hedging) (failed : Bool) (elapsedMs : ℚ) (call : Call) : Option Effect :=
  match call.phase with
  | .direct primary =>
      some ⟨{ call with phase := if failed then .raised else .returned primary }, recordCall s.cluster primary failed elapsedMs, 0, 0⟩
  | _ => none

def ratio (s : Hedging) : ℚ := s.hedgedRequests / max 1 s.totalRequests

def budgetOk (cfg : HedgingConfig) (s : Hedging) : Bool :=
  decide (s.totalRequests < 10) || decide (s.ratio < cfg.budgetRatio)

-- The budget is checked under the lock, then the primary is submitted.
def checkBudget (cfg : HedgingConfig) (s : Hedging) (call : Call) : Option Effect :=
  match call.phase with
  | .unchecked primary =>
      some ⟨{ call with phase := .delayed primary (budgetOk cfg s), first := .running primary }, s.cluster, 0,
        if budgetOk cfg s then 0 else 1⟩
  | _ => none

-- A thread of the executor ends its call of fn, whatever became of the caller.
def execute (s : Hedging) (backup : Bool) (result : Future) (elapsedMs : ℚ) (call : Call) : Option Effect :=
  match if backup then call.second else call.first, result.done with
  | .running r, true =>
      some ⟨if backup then { call with second := result } else { call with first := result },
        recordCall s.cluster r (decide (result ≠ .succeeded)) elapsedMs, 0, 0⟩
  | _, _ => none

def waitPrimary (s : Hedging) (call : Call) : Option Effect :=
  match call.phase, call.first with
  | .delayed primary _, .succeeded => some ⟨{ call with phase := .returned primary }, s.cluster, 0, 0⟩
  | .delayed _ false, .raised false => some ⟨{ call with phase := .raised }, s.cluster, 0, 0⟩
  | .delayed primary budgetOk, _ => some ⟨{ call with phase := .choosing primary budgetOk }, s.cluster, 0, 0⟩
  | _, _ => none

def backupFor (c : Cluster) (primary : Ref) : Option Ref :=
  let others := fun ring : List Ref => ring.filter fun r => decide (c.idOf r ≠ c.idOf primary)
  let candidates := if (others c.innerRing).isEmpty then others c.outerRing else others c.innerRing
  candidates.argmin c.temperatureOf

def chooseBackup (s : Hedging) (call : Call) : Option Effect :=
  match call.phase with
  | .choosing primary budgetOk =>
      match backupFor s.cluster primary, budgetOk with
      | some secondary, true => some ⟨{ call with phase := .launching primary secondary }, s.cluster, 0, 0⟩
      | _, _ => some ⟨{ call with phase := .waiting primary }, s.cluster, 0, 0⟩
  | _ => none

-- The wait ends with the future or with its own timeout.
def finishWaiting (s : Hedging) (call : Call) : Option Effect :=
  match call.phase with
  | .waiting primary =>
      some ⟨{ call with phase := if call.first = .succeeded then .returned primary else .raised }, s.cluster, 0, 0⟩
  | _ => none

def launch (s : Hedging) (i : Nat) : Option Hedging :=
  match s.calls[i]? with
  | none => none
  | some call =>
      match call.phase with
      | .launching primary secondary =>
          some { s with
            calls := s.calls.set i { call with phase := .racing primary secondary, second := .running secondary }
            hedgedRequests := s.hedgedRequests + 1
            launches := s.launches ++ [⟨s.totalRequests, s.hedgedRequests + 1⟩] }
      | _ => none

def win (s : Hedging) (server secondary : Ref) : Nat := if s.cluster.idOf server = s.cluster.idOf secondary then 1 else 0

-- The set of finished futures has no order: with both done either may come out
-- first, which the flag decides.
def race (s : Hedging) (backupFirst : Bool) (call : Call) : Option Effect :=
  match call.phase with
  | .racing primary secondary =>
      if call.first.done || call.second.done then
        let backup := call.second.done && (backupFirst || !call.first.done)
        let server := if backup then secondary else primary
        if (if backup then call.second else call.first) = .succeeded then
          some ⟨{ call with phase := .returned server }, s.cluster, s.win server secondary, 0⟩
        else if call.first.done && call.second.done then some ⟨{ call with phase := .raised }, s.cluster, 0, 0⟩
        else some ⟨{ call with phase := .fallback primary secondary !backup }, s.cluster, 0, 0⟩
      else some ⟨{ call with phase := .raised }, s.cluster, 0, 0⟩
  | _ => none

def waitOther (s : Hedging) (call : Call) : Option Effect :=
  match call.phase with
  | .fallback primary secondary backup =>
      let server := if backup then secondary else primary
      if (if backup then call.second else call.first) = .succeeded then
        some ⟨{ call with phase := .returned server }, s.cluster, s.win server secondary, 0⟩
      else some ⟨{ call with phase := .raised }, s.cluster, 0, 0⟩
  | _ => none

end Hedging

-- A call enters, one of its steps runs, a thread of the executor ends its work,
-- or anything else happens to the cluster.
inductive HedgeEvent where
  | hedgedRequest (allowHedging : Bool) (hedgingDelayMs : Option ℚ) (affinityKey : Option String)
  | route (i : Nat) (draw : ℚ)
  | choosePath (i : Nat)
  | callDirectly (i : Nat) (failed : Bool) (elapsedMs : ℚ)
  | checkBudget (i : Nat)
  | execute (i : Nat) (backup : Bool) (result : Future) (elapsedMs : ℚ)
  | waitPrimary (i : Nat)
  | chooseBackup (i : Nat)
  | finishWaiting (i : Nat)
  | launch (i : Nat)
  | race (i : Nat) (backupFirst : Bool)
  | waitOther (i : Nat)
  | operate (op : Op)

def hedgeStep (cfg : HedgingConfig) (s : Hedging) : HedgeEvent → Option Hedging
  | .hedgedRequest allowHedging hedgingDelayMs affinityKey => some (s.enter allowHedging hedgingDelayMs affinityKey)
  | .route i draw => s.thread i (s.route draw)
  | .choosePath i => s.thread i (s.choosePath cfg)
  | .callDirectly i failed elapsedMs => s.thread i (s.callDirectly failed elapsedMs)
  | .checkBudget i => s.thread i (s.checkBudget cfg)
  | .execute i backup result elapsedMs => s.thread i (s.execute backup result elapsedMs)
  | .waitPrimary i => s.thread i s.waitPrimary
  | .chooseBackup i => s.thread i s.chooseBackup
  | .finishWaiting i => s.thread i s.finishWaiting
  | .launch i => s.launch i
  | .race i backupFirst => s.thread i (s.race backupFirst)
  | .waitOther i => s.thread i s.waitOther
  | .operate op => some { s with cluster := step cfg.cluster s.cluster op }

def HedgeEvent.caller : HedgeEvent → Option Nat
  | .hedgedRequest .. | .operate _ => none
  | .route i _ | .choosePath i | .callDirectly i _ _ | .checkBudget i | .execute i _ _ _ | .waitPrimary i | .chooseBackup i
  | .finishWaiting i | .launch i | .race i _ | .waitOther i => some i

def Call.copy (call : Call) (backup : Bool) : Future := if backup then call.second else call.first

def Call.picked (call : Call) (backupFirst : Bool) : Bool := call.second.done && (backupFirst || !call.first.done)

-- Everything that a step may do to its call, in a given cluster.
inductive CallTurn (c : Cluster) (call : Call) : HedgeEvent → Call → Prop where
  | unrouted (i : Nat) (draw : ℚ) (phase : call.phase = .counted) : CallTurn c call (.route i draw) { call with phase := .raised }
  | routed (i : Nat) (draw : ℚ) (primary : Ref) (phase : call.phase = .counted) :
      CallTurn c call (.route i draw) { call with phase := .routed primary }
  | hedged (i : Nat) (primary : Ref) (phase : call.phase = .routed primary) :
      CallTurn c call (.choosePath i) { call with phase := .unchecked primary }
  | unhedged (i : Nat) (primary : Ref) (phase : call.phase = .routed primary) :
      CallTurn c call (.choosePath i) { call with phase := .direct primary }
  | calledDirectly (i : Nat) (failed : Bool) (elapsedMs : ℚ) (primary : Ref) (phase : call.phase = .direct primary) :
      CallTurn c call (.callDirectly i failed elapsedMs) { call with phase := if failed then .raised else .returned primary }
  | checked (i : Nat) (primary : Ref) (budgetOk : Bool) (phase : call.phase = .unchecked primary) :
      CallTurn c call (.checkBudget i) { call with phase := .delayed primary budgetOk, first := .running primary }
  | executed (i : Nat) (backup : Bool) (result : Future) (elapsedMs : ℚ) (server : Ref) (running : call.copy backup = .running server)
      (done : result.done = true) :
      CallTurn c call (.execute i backup result elapsedMs)
        (if backup then { call with second := result } else { call with first := result })
  | answered (i : Nat) (primary : Ref) (budgetOk : Bool) (phase : call.phase = .delayed primary budgetOk)
      (succeeded : call.first = .succeeded) : CallTurn c call (.waitPrimary i) { call with phase := .returned primary }
  | failed (i : Nat) (primary : Ref) (phase : call.phase = .delayed primary false) (raised : call.first = .raised false) :
      CallTurn c call (.waitPrimary i) { call with phase := .raised }
  | missed (i : Nat) (primary : Ref) (budgetOk : Bool) (phase : call.phase = .delayed primary budgetOk) :
      CallTurn c call (.waitPrimary i) { call with phase := .choosing primary budgetOk }
  | paired (i : Nat) (primary secondary : Ref) (phase : call.phase = .choosing primary true)
      (backup : Hedging.backupFor c primary = some secondary) :
      CallTurn c call (.chooseBackup i) { call with phase := .launching primary secondary }
  | alone (i : Nat) (primary : Ref) (budgetOk : Bool) (phase : call.phase = .choosing primary budgetOk)
      (unpaired : budgetOk = true → Hedging.backupFor c primary = none) :
      CallTurn c call (.chooseBackup i) { call with phase := .waiting primary }
  | waited (i : Nat) (primary : Ref) (phase : call.phase = .waiting primary) :
      CallTurn c call (.finishWaiting i) { call with phase := if call.first = .succeeded then .returned primary else .raised }
  | launched (i : Nat) (primary secondary : Ref) (phase : call.phase = .launching primary secondary) :
      CallTurn c call (.launch i) { call with phase := .racing primary secondary, second := .running secondary }
  | unfinished (i : Nat) (backupFirst : Bool) (primary secondary : Ref) (phase : call.phase = .racing primary secondary)
      (first : call.first.done = false) (second : call.second.done = false) :
      CallTurn c call (.race i backupFirst) { call with phase := .raised }
  | won (i : Nat) (backupFirst : Bool) (primary secondary server : Ref) (phase : call.phase = .racing primary secondary)
      (succeeded : call.copy (call.picked backupFirst) = .succeeded) :
      CallTurn c call (.race i backupFirst) { call with phase := .returned server }
  | lost (i : Nat) (backupFirst : Bool) (primary secondary : Ref) (phase : call.phase = .racing primary secondary)
      (first : call.first.done = true) (second : call.second.done = true)
      (unsuccessful : call.copy (call.picked backupFirst) ≠ .succeeded) :
      CallTurn c call (.race i backupFirst) { call with phase := .raised }
  | fellBack (i : Nat) (backupFirst backup : Bool) (primary secondary : Ref) (phase : call.phase = .racing primary secondary)
      (unsuccessful : call.copy backup ≠ .succeeded) (done : (call.copy backup).done = true)
      (other : (call.copy !backup).done = false) :
      CallTurn c call (.race i backupFirst) { call with phase := .fallback primary secondary !backup }
  | heard (i : Nat) (backup : Bool) (primary secondary server : Ref) (phase : call.phase = .fallback primary secondary backup) :
      CallTurn c call (.waitOther i) { call with phase := if call.copy backup = .succeeded then .returned server else .raised }

abbrev HedgeRun (cfg : HedgingConfig) (allowed : Hedging → HedgeEvent → Prop) := Runs.Run (hedgeStep cfg) allowed

theorem thread_turn (s after : Hedging) (i : Nat) (f : Call → Option Hedging.Effect) (taken : s.thread i f = some after) :
    ∃ call effect, s.calls[i]? = some call ∧ f call = some effect ∧ after.calls = s.calls.set i effect.call := by
  simp only [Hedging.thread] at taken
  split at taken
  · cases taken
  · rename_i call found
    obtain ⟨effect, moved, rfl⟩ := Option.map_eq_some_iff.mp taken
    exact ⟨call, effect, found, moved, rfl⟩

theorem route_turn (s : Hedging) (i : Nat) (draw : ℚ) (call : Call) (effect : Hedging.Effect) (moved : s.route draw call = some effect) :
    CallTurn s.cluster call (.route i draw) effect.call := by
  simp only [Hedging.route] at moved
  split at moved
  · rename_i phase _
    cases moved
    exact .unrouted i draw phase
  · rename_i primary _ phase _
    cases moved
    exact .routed i draw primary phase
  · cases moved

theorem path_turn (cfg : HedgingConfig) (s : Hedging) (i : Nat) (call : Call) (effect : Hedging.Effect)
    (moved : s.choosePath cfg call = some effect) : CallTurn s.cluster call (.choosePath i) effect.call := by
  simp only [Hedging.choosePath] at moved
  split at moved
  · rename_i primary phase
    cases moved
    by_cases hedged : Hedging.canHedge cfg call = true
    · simp only [hedged, if_true]
      exact .hedged i primary phase
    · simp only [hedged, Bool.false_eq_true, if_false]
      exact .unhedged i primary phase
  · cases moved

theorem execute_turn (s : Hedging) (i : Nat) (backup : Bool) (result : Future) (elapsedMs : ℚ) (call : Call) (effect : Hedging.Effect)
    (moved : s.execute backup result elapsedMs call = some effect) :
    CallTurn s.cluster call (.execute i backup result elapsedMs) effect.call := by
  simp only [Hedging.execute] at moved
  split at moved
  · rename_i server running done
    cases moved
    exact .executed i backup result elapsedMs server running done
  · cases moved

theorem wait_turn (s : Hedging) (i : Nat) (call : Call) (effect : Hedging.Effect) (moved : s.waitPrimary call = some effect) :
    CallTurn s.cluster call (.waitPrimary i) effect.call := by
  simp only [Hedging.waitPrimary] at moved
  split at moved
  · rename_i primary budgetOk phase succeeded
    cases moved
    exact .answered i primary budgetOk phase succeeded
  · rename_i primary phase raised
    cases moved
    exact .failed i primary phase raised
  · rename_i primary budgetOk phase _ _
    cases moved
    exact .missed i primary budgetOk phase
  · cases moved

theorem choose_turn (s : Hedging) (i : Nat) (call : Call) (effect : Hedging.Effect) (moved : s.chooseBackup call = some effect) :
    CallTurn s.cluster call (.chooseBackup i) effect.call := by
  simp only [Hedging.chooseBackup] at moved
  split at moved
  · rename_i primary budgetOk phase
    split at moved
    · rename_i secondary backup
      cases moved
      exact .paired i primary secondary phase backup
    · rename_i unpaired
      cases moved
      refine .alone i primary _ phase ?_
      rintro rfl
      exact Option.eq_none_iff_forall_ne_some.mpr fun secondary backup => unpaired secondary backup rfl
  · cases moved

theorem race_turn (s : Hedging) (i : Nat) (backupFirst : Bool) (call : Call) (effect : Hedging.Effect)
    (moved : s.race backupFirst call = some effect) : CallTurn s.cluster call (.race i backupFirst) effect.call := by
  unfold Hedging.race at moved
  split at moved
  · rename_i primary secondary phase
    by_cases finished : (call.first.done || call.second.done) = true
    · rw [if_pos finished] at moved
      change (if call.copy (call.picked backupFirst) = .succeeded then _ else _) = _ at moved
      by_cases succeeded : call.copy (call.picked backupFirst) = .succeeded
      · rw [if_pos succeeded] at moved
        cases moved
        exact .won i backupFirst primary secondary _ phase succeeded
      · rw [if_neg succeeded] at moved
        by_cases both : (call.first.done && call.second.done) = true
        · rw [if_pos both] at moved
          cases moved
          obtain ⟨first, second⟩ := (Bool.and_eq_true_iff ..).mp both
          exact .lost i backupFirst primary secondary phase first second succeeded
        · rw [if_neg both] at moved
          cases moved
          have looked : (call.copy (call.picked backupFirst)).done = true ∧ (call.copy !call.picked backupFirst).done = false := by
            cases first : call.first.done <;> cases second : call.second.done <;> simp_all [Call.copy, Call.picked]
          exact .fellBack i backupFirst (call.picked backupFirst) primary secondary phase succeeded looked.1 looked.2
    · rw [if_neg finished] at moved
      cases moved
      obtain ⟨first, second⟩ := (Bool.or_eq_false_iff ..).mp (Bool.eq_false_iff.mpr finished)
      exact .unfinished i backupFirst primary secondary phase first second
  · cases moved

theorem hear_turn (s : Hedging) (i : Nat) (call : Call) (effect : Hedging.Effect) (moved : s.waitOther call = some effect) :
    CallTurn s.cluster call (.waitOther i) effect.call := by
  unfold Hedging.waitOther at moved
  split at moved
  · rename_i primary secondary backup phase
    change (if call.copy backup = .succeeded then _ else _) = _ at moved
    have heard : CallTurn s.cluster call (.waitOther i) _ := .heard i backup primary secondary (if backup then secondary else primary) phase
    by_cases succeeded : call.copy backup = .succeeded
    · rw [if_pos succeeded] at moved heard
      cases moved
      exact heard
    · rw [if_neg succeeded] at moved heard
      cases moved
      exact heard
  · cases moved

theorem hedge_turn (cfg : HedgingConfig) (s after : Hedging) (event : HedgeEvent) (i : Nat) (caller : event.caller = some i)
    (taken : hedgeStep cfg s event = some after) :
    ∃ call next, s.calls[i]? = some call ∧ CallTurn s.cluster call event next ∧ after.calls = s.calls.set i next := by
  have threaded (f : Call → Option Hedging.Effect)
    (turn : ∀ call effect, f call = some effect → CallTurn s.cluster call event effect.call)
      (moved : s.thread i f = some after) :
      ∃ call next, s.calls[i]? = some call ∧ CallTurn s.cluster call event next ∧ after.calls = s.calls.set i next := by
    obtain ⟨call, effect, found, made, same⟩ := thread_turn s after i f moved
    exact ⟨call, effect.call, found, turn call effect made, same⟩
  cases event with
  | hedgedRequest | operate => cases caller
  | route j draw => cases caller; exact threaded _ (route_turn s i draw) taken
  | choosePath j => cases caller; exact threaded _ (path_turn cfg s i) taken
  | execute j backup result elapsedMs => cases caller; exact threaded _ (execute_turn s i backup result elapsedMs) taken
  | waitPrimary j => cases caller; exact threaded _ (wait_turn s i) taken
  | chooseBackup j => cases caller; exact threaded _ (choose_turn s i) taken
  | race j backupFirst => cases caller; exact threaded _ (race_turn s i backupFirst) taken
  | waitOther j => cases caller; exact threaded _ (hear_turn s i) taken
  | callDirectly j failed elapsedMs =>
      cases caller
      refine threaded _ ?_ taken
      intro call effect moved
      simp only [Hedging.callDirectly] at moved
      split at moved
      · rename_i primary phase
        cases moved
        exact .calledDirectly i failed elapsedMs primary phase
      · cases moved
  | checkBudget j =>
      cases caller
      refine threaded _ ?_ taken
      intro call effect moved
      simp only [Hedging.checkBudget] at moved
      split at moved
      · rename_i primary phase
        cases moved
        exact .checked i primary _ phase
      · cases moved
  | finishWaiting j =>
      cases caller
      refine threaded _ ?_ taken
      intro call effect moved
      simp only [Hedging.finishWaiting] at moved
      split at moved
      · rename_i primary phase
        cases moved
        exact .waited i primary phase
      · cases moved
  | launch j =>
      cases caller
      simp only [hedgeStep, Hedging.launch] at taken
      split at taken
      · cases taken
      · rename_i call found
        split at taken
        · rename_i primary secondary phase
          cases taken
          exact ⟨call, _, found, .launched i primary secondary phase, rfl⟩
        · cases taken

def hedgingPair : Cluster :=
  ((Cluster.empty {} (fun r => { id := toString r }) none none none ⟨fun ticks => ticks, 0⟩).addServer {} 0 true).addServer {} 1 true

end HuddleCluster.Ring
