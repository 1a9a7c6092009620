import HuddleCluster.Ring.Hedging

set_option autoImplicit false

namespace HuddleCluster.Ring

def WithinBudget (cfg : HedgingConfig) (s : Hedging) : Prop :=
  ∀ launch ∈ s.launches, 10 ≤ launch.totalRequests →
    (launch.hedgedRequests : ℚ) ≤ cfg.budgetRatio * launch.totalRequests + 1

-- The calls whose look at the budget is still true: since then nobody has launched a
-- backup, and the tenth call has not entered.
structure BudgetWatch where
  hedging : Hedging
  current : List Nat := []

namespace BudgetWatch

def start (c : Cluster) : BudgetWatch := { hedging := .idle c }

def currentAfter (w : BudgetWatch) : HedgeEvent → List Nat
  | .checkBudget i => i :: w.current
  | .launch _ => []
  | .hedgedRequest .. => if w.hedging.totalRequests + 1 = 10 then [] else w.current
  | _ => w.current

def next (cfg : HedgingConfig) (w : BudgetWatch) (event : HedgeEvent) : Option BudgetWatch :=
  (hedgeStep cfg w.hedging event).map fun after => ⟨after, w.currentAfter event⟩

def InTurn (w : BudgetWatch) : HedgeEvent → Prop
  | .launch i => i ∈ w.current
  | _ => True

instance (w : BudgetWatch) (event : HedgeEvent) : Decidable (w.InTurn event) := by
  cases event <;> simp only [InTurn] <;> infer_instance

end BudgetWatch

abbrev BudgetRun (cfg : HedgingConfig) (allowed : BudgetWatch → HedgeEvent → Prop) := Runs.Run (BudgetWatch.next cfg) allowed

-- The call has a backup before it, for all that the budget check said.
def Phase.cleared : Phase → Bool
  | .delayed _ budgetOk | .choosing _ budgetOk => budgetOk
  | .launching _ _ => true
  | _ => false

-- The budget check, with equality let through.
def Affordable (cfg : HedgingConfig) (s : Hedging) : Prop := s.totalRequests < 10 ∨ s.ratio ≤ cfg.budgetRatio

structure BudgetWatch.Kept (cfg : HedgingConfig) (w : BudgetWatch) : Prop where
  cleared : ∀ i ∈ w.current, ∀ call, w.hedging.calls[i]? = some call → call.phase.cleared = true → Affordable cfg w.hedging
  within : WithinBudget cfg w.hedging

theorem thread_counters (s after : Hedging) (i : Nat) (f : Call → Option Hedging.Effect) (taken : s.thread i f = some after) :
    after.totalRequests = s.totalRequests ∧ after.hedgedRequests = s.hedgedRequests ∧ after.launches = s.launches := by
  simp only [Hedging.thread] at taken
  split at taken
  · cases taken
  · obtain ⟨effect, _, rfl⟩ := Option.map_eq_some_iff.mp taken
    exact ⟨rfl, rfl, rfl⟩

theorem launch_spec (s after : Hedging) (i : Nat) (taken : s.launch i = some after) :
    ∃ call, s.calls[i]? = some call ∧ call.phase.cleared = true ∧
      after.launches = s.launches ++ [⟨s.totalRequests, s.hedgedRequests + 1⟩] := by
  simp only [Hedging.launch] at taken
  split at taken
  · cases taken
  · rename_i call found
    split at taken
    · rename_i primary secondary phase
      cases taken
      exact ⟨call, found, by simp [phase, Phase.cleared], rfl⟩
    · cases taken

theorem affordable_same (cfg : HedgingConfig) (s after : Hedging) (total : after.totalRequests = s.totalRequests)
    (hedged : after.hedgedRequests = s.hedgedRequests) : Affordable cfg after ↔ Affordable cfg s := by
  simp only [Affordable, Hedging.ratio, total, hedged]

theorem budget_ok_affordable (cfg : HedgingConfig) (s : Hedging) (checked : Hedging.budgetOk cfg s = true) : Affordable cfg s := by
  simp only [Hedging.budgetOk, Bool.or_eq_true, decide_eq_true_eq] at checked
  exact checked.imp_right le_of_lt

theorem enter_affordable (cfg : HedgingConfig) (s : Hedging) (allowHedging : Bool) (hedgingDelayMs : Option ℚ)
    (affinityKey : Option String) (affordable : Affordable cfg s) (apart : s.totalRequests + 1 ≠ 10) :
    Affordable cfg (s.enter allowHedging hedgingDelayMs affinityKey) := by
  rcases affordable with few | share
  · exact Or.inl (show s.totalRequests + 1 < 10 by omega)
  · refine Or.inr (le_trans ?_ share)
    have more : max 1 s.totalRequests ≤ max 1 (s.totalRequests + 1) := max_le_max_left 1 (Nat.le_succ _)
    have positive : (0 : ℚ) < ((max 1 s.totalRequests : Nat) : ℚ) := by exact_mod_cast lt_of_lt_of_le Nat.one_pos (le_max_left _ _)
    simp only [Hedging.ratio, Hedging.enter]
    have grown : ((max 1 s.totalRequests : Nat) : ℚ) ≤ ((max 1 (s.totalRequests + 1) : Nat) : ℚ) := by exact_mod_cast more
    push_cast at positive grown ⊢
    exact div_le_div_of_nonneg_left (Nat.cast_nonneg _) positive grown

-- The bound after a launch is the budget check of the state before it, with equality let
-- through.
theorem launch_affordable (cfg : HedgingConfig) (s : Hedging) (affordable : Affordable cfg s) (many : 10 ≤ s.totalRequests) :
    ((s.hedgedRequests + 1 : Nat) : ℚ) ≤ cfg.budgetRatio * s.totalRequests + 1 := by
  have share := affordable.resolve_left (Nat.not_lt.mpr many)
  have positive : (0 : ℚ) < s.totalRequests := by exact_mod_cast lt_of_lt_of_le (by norm_num : 0 < 10) many
  have denominator : max 1 s.totalRequests = s.totalRequests := max_eq_right (by omega)
  rw [Hedging.ratio, denominator, div_le_iff₀ positive] at share
  push_cast
  linarith

theorem turn_cleared (c : Cluster) (call after : Call) (event : HedgeEvent) (turn : CallTurn c call event after)
    (other : ∀ i, event ≠ .checkBudget i) (cleared : after.phase.cleared = true) : call.phase.cleared = true := by
  cases turn with
  | checked i => exact absurd rfl (other i)
  | executed i backup =>
      cases backup <;> exact cleared
  | missed i primary budgetOk phase => simpa only [phase, Phase.cleared] using cleared
  | paired i primary secondary phase => simp only [phase, Phase.cleared]
  | calledDirectly i failed =>
      cases failed <;> cases cleared
  | waited i primary phase =>
      dsimp only at cleared
      split at cleared <;> cases cleared
  | heard i backup primary secondary server phase =>
      dsimp only at cleared
      split at cleared <;> cases cleared
  | _ => cases cleared

namespace BudgetWatch

theorem kept_turn (cfg : HedgingConfig) (w : BudgetWatch) (after : Hedging) (event : HedgeEvent) (i : Nat) (kept : w.Kept cfg)
    (caller : event.caller = some i) (other : ∀ j, event ≠ .checkBudget j) (taken : hedgeStep cfg w.hedging event = some after)
    (total : after.totalRequests = w.hedging.totalRequests) (hedged : after.hedgedRequests = w.hedging.hedgedRequests)
    (launches : after.launches = w.hedging.launches) : Kept cfg ⟨after, w.current⟩ := by
  obtain ⟨call, moved, found, turn, calls⟩ := hedge_turn cfg w.hedging after event i caller taken
  constructor
  · intro j member later here cleared
    rw [affordable_same cfg w.hedging after total hedged]
    rw [calls] at here
    by_cases same : j = i
    · subst same
      rw [List.getElem?_set_self (List.getElem?_eq_some_iff.mp found).1, Option.some.injEq] at here
      subst here
      exact kept.cleared j member call found (turn_cleared _ call moved event turn other cleared)
    · rw [List.getElem?_set_ne (Ne.symm same)] at here
      exact kept.cleared j member later here cleared
  · simpa only [WithinBudget, launches] using kept.within

theorem kept_check (cfg : HedgingConfig) (w : BudgetWatch) (after : Hedging) (i : Nat) (kept : w.Kept cfg)
    (taken : w.hedging.thread i (w.hedging.checkBudget cfg) = some after) : Kept cfg ⟨after, i :: w.current⟩ := by
  obtain ⟨total, hedged, launches⟩ := thread_counters w.hedging after i _ taken
  obtain ⟨call, effect, found, made, calls⟩ := thread_turn w.hedging after i _ taken
  constructor
  · intro j member later here cleared
    rw [affordable_same cfg w.hedging after total hedged]
    rw [calls] at here
    by_cases same : j = i
    · subst same
      rw [List.getElem?_set_self (List.getElem?_eq_some_iff.mp found).1, Option.some.injEq] at here
      subst here
      simp only [Hedging.checkBudget] at made
      split at made
      · cases made
        exact budget_ok_affordable cfg w.hedging cleared
      · cases made
    · rw [List.getElem?_set_ne (Ne.symm same)] at here
      exact kept.cleared j ((List.mem_cons.mp member).resolve_left same) later here cleared
  · simpa only [WithinBudget, launches] using kept.within

theorem kept_next (cfg : HedgingConfig) (w : BudgetWatch) (event : HedgeEvent) (v : BudgetWatch) (kept : w.Kept cfg)
    (inTurn : w.InTurn event) (taken : w.next cfg event = some v) : v.Kept cfg := by
  obtain ⟨after, stepped, rfl⟩ := Option.map_eq_some_iff.mp taken
  cases event with
  | hedgedRequest allowHedging hedgingDelayMs affinityKey =>
      cases stepped
      refine ⟨?_, kept.within⟩
      intro i member call found cleared
      simp only [currentAfter] at member
      split at member
      · cases member
      · rename_i apart
        refine enter_affordable cfg w.hedging allowHedging hedgingDelayMs affinityKey ?_ apart
        simp only [Hedging.enter, List.getElem?_append] at found
        split at found
        · exact kept.cleared i member call found cleared
        · rw [List.getElem?_singleton] at found
          split at found
          · cases found
            cases cleared
          · cases found
  | operate op =>
      cases stepped
      exact ⟨kept.cleared, kept.within⟩
  | launch i =>
      obtain ⟨call, found, cleared, launches⟩ := launch_spec w.hedging after i stepped
      refine ⟨fun j member => absurd member List.not_mem_nil, ?_⟩
      simp only [WithinBudget, launches, List.forall_mem_append, List.forall_mem_singleton]
      exact ⟨kept.within, launch_affordable cfg w.hedging (kept.cleared i inTurn call found cleared)⟩
  | checkBudget i => exact kept_check cfg w after i kept stepped
  | route i | choosePath i | callDirectly i | execute i | waitPrimary i | chooseBackup i | finishWaiting i | race i | waitOther i =>
      obtain ⟨total, hedged, launches⟩ := thread_counters w.hedging after i _ stepped
      exact kept_turn cfg w after _ i kept rfl (by simp) stepped total hedged launches

end BudgetWatch

-- When every call that launches a backup was the last to launch since it looked at the
-- budget, and did not look before the tenth call, the budget is kept.
theorem hedging_budget_kept (cfg : HedgingConfig) (c : Cluster) (events : List HedgeEvent) (last : BudgetWatch)
    (run : BudgetRun cfg BudgetWatch.InTurn (.start c) events last) : WithinBudget cfg last.hedging := by
  have start : BudgetWatch.Kept cfg (.start c) :=
    ⟨fun i member => absurd member List.not_mem_nil, fun launch member => absurd member List.not_mem_nil⟩
  exact (Runs.run_invariant (BudgetWatch.next cfg) BudgetWatch.InTurn (BudgetWatch.Kept cfg) (BudgetWatch.kept_next cfg)
    _ last events start run).within

instance (cfg : HedgingConfig) (s : Hedging) : Decidable (WithinBudget cfg s) := by
  simp only [WithinBudget]
  infer_instance

def tenCalls : List HedgeEvent := List.replicate 10 (.hedgedRequest true (some 20) none)

def untilChecked (i : Nat) : List HedgeEvent := [.route i 0, .choosePath i, .checkBudget i]

def untilLaunched (i : Nat) : List HedgeEvent := [.waitPrimary i, .chooseBackup i, .launch i]

theorem one_backup_within_budget : ∃ last ∈ Runs.follow (BudgetWatch.next {}) BudgetWatch.InTurn (.start hedgingPair)
      (tenCalls ++ untilChecked 0 ++ untilLaunched 0),
    last.hedging.launches = [⟨10, 1⟩] ∧ WithinBudget {} last.hedging := by
  have reached : ∃ last ∈ Runs.follow (BudgetWatch.next {}) BudgetWatch.InTurn (.start hedgingPair)
      (tenCalls ++ untilChecked 0 ++ untilLaunched 0), last.hedging.launches = [⟨10, 1⟩] := by decide +kernel
  obtain ⟨last, followed, logged⟩ := reached
  exact ⟨last, followed, logged, hedging_budget_kept {} hedgingPair _ last (Runs.follow_run _ _ _ last _ followed)⟩

-- Ten calls, two of which check the budget before either has launched.
theorem two_backups_exceed_budget : ∃ last, HedgeRun {} (fun _ _ => True) (.idle hedgingPair)
      (tenCalls ++ untilChecked 0 ++ untilChecked 1 ++ untilLaunched 0 ++ untilLaunched 1) last ∧
    last.launches = [⟨10, 1⟩, ⟨10, 2⟩] ∧ ¬ WithinBudget {} last := by
  have reached : ∃ last ∈ Runs.follow (hedgeStep {}) (fun _ _ => True) (.idle hedgingPair)
      (tenCalls ++ untilChecked 0 ++ untilChecked 1 ++ untilLaunched 0 ++ untilLaunched 1),
      last.launches = [⟨10, 1⟩, ⟨10, 2⟩] ∧ ¬ WithinBudget {} last := by decide +kernel
  obtain ⟨last, followed, logged, beyond⟩ := reached
  exact ⟨last, Runs.follow_run _ _ _ last _ followed, logged, beyond⟩

end HuddleCluster.Ring
