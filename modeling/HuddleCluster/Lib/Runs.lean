import Mathlib

set_option autoImplicit false

namespace Runs

variable {σ ε : Type*}

-- A run of a machine whose next state depends on the state and one event. The
-- events carry everything the machine does not choose itself, so one event at
-- one state has at most one outcome; none means the event cannot happen there.
inductive Run (next : σ → ε → Option σ) (allowed : σ → ε → Prop) (start : σ) : List ε → σ → Prop where
  | nil : Run next allowed start [] start
  | snoc (middle last : σ) (events : List ε) (event : ε)
      (before : Run next allowed start events middle) (permitted : allowed middle event)
      (taken : next middle event = some last) : Run next allowed start (events ++ [event]) last

theorem run_one (next : σ → ε → Option σ) (allowed : σ → ε → Prop) (start last : σ) (event : ε)
    (permitted : allowed start event) (taken : next start event = some last) :
    Run next allowed start [event] last :=
  .snoc start last [] event .nil permitted taken

theorem run_append (next : σ → ε → Option σ) (allowed : σ → ε → Prop) (start middle last : σ) (head tail : List ε)
    (before : Run next allowed start head middle) (after : Run next allowed middle tail last) :
    Run next allowed start (head ++ tail) last := by
  induction after with
  | nil => simpa using before
  | snoc middle last events event _ permitted taken ih =>
      rw [← List.append_assoc]
      exact .snoc middle last (head ++ events) event ih permitted taken

theorem run_invariant (next : σ → ε → Option σ) (allowed : σ → ε → Prop) (inv : σ → Prop)
    (preserved : ∀ state event after, inv state → allowed state event → next state event = some after → inv after)
    (start last : σ) (events : List ε) (initial : inv start) (run : Run next allowed start events last) : inv last := by
  induction run with
  | nil => exact initial
  | snoc middle last events event _ permitted taken ih =>
      exact preserved middle event last ih permitted taken

-- A quantity no step lowers from a state that satisfies the invariant is no
-- lower at the end of a run than at its start.
theorem run_monotone {κ : Type*} [Preorder κ] (next : σ → ε → Option σ) (allowed : σ → ε → Prop) (inv : σ → Prop)
    (measure : σ → κ)
    (preserved : ∀ state event after, inv state → allowed state event → next state event = some after → inv after)
    (grows : ∀ state event after, inv state → allowed state event → next state event = some after →
      measure state ≤ measure after)
    (start last : σ) (events : List ε) (initial : inv start) (run : Run next allowed start events last) :
    measure start ≤ measure last := by
  induction run with
  | nil => exact le_refl _
  | snoc middle last events event before permitted taken ih =>
      have held := run_invariant next allowed inv preserved start middle events initial before
      exact le_trans ih (grows middle event last held permitted taken)

-- A property that each step keeps exactly if the step is allowed holds at the end
-- of a run exactly if every step of the run was.
theorem run_characterised (next : σ → ε → Option σ) (allowed : σ → ε → Prop) (inv holds : σ → Prop)
    (step : ∀ state after event, inv state → next state event = some after →
      inv after ∧ (holds after ↔ holds state ∧ allowed state event))
    (start last : σ) (events : List ε) (initial : inv start) (fine : holds start)
    (run : Run next (fun _ _ => True) start events last) : holds last ↔ Run next allowed start events last := by
  constructor
  · intro final
    induction run with
    | nil => exact .nil
    | snoc middle last events event before _ taken ih =>
        have kept : inv middle := run_invariant next (fun _ _ => True) inv
          (fun state event after held _ taken => (step state after event held taken).1) start middle events initial before
        obtain ⟨earlier, permitted⟩ := (step middle last event kept taken).2.mp final
        exact .snoc middle last events event (ih earlier) permitted taken
  · intro restricted
    refine (run_invariant next allowed (fun state => inv state ∧ holds state) ?_ start last events ⟨initial, fine⟩ restricted).2
    intro state event after held permitted taken
    obtain ⟨kept, exactly⟩ := step state after event held.1 taken
    exact ⟨kept, exactly.mpr ⟨held.2, permitted⟩⟩

theorem run_free (next : σ → ε → Option σ) (allowed : σ → ε → Prop) (start last : σ) (events : List ε)
    (run : Run next allowed start events last) : Run next (fun _ _ => True) start events last := by
  induction run with
  | nil => exact .nil
  | snoc middle last events event _ _ taken ih => exact .snoc middle last events event ih trivial taken

theorem run_unique (next : σ → ε → Option σ) (allowed : σ → ε → Prop) (start last other : σ) (events : List ε)
    (run : Run next allowed start events last) (again : Run next (fun _ _ => True) start events other) : other = last := by
  induction run generalizing other with
  | nil =>
      generalize empty : ([] : List ε) = events at again
      cases again with
      | nil => rfl
      | snoc => simp at empty
  | snoc middle last events event _ _ taken ih =>
      generalize whole : events ++ [event] = all at again
      cases again with
      | nil => simp at whole
      | snoc between _ before item earlier _ reached =>
          obtain ⟨rfl, same⟩ := List.append_inj' whole rfl
          cases same
          rw [ih between earlier, taken] at reached
          exact (Option.some.inj reached).symm

-- What is seen of a machine, with some of its events left out, is a run of another one.
theorem run_seen {τ δ : Type*} (next : σ → ε → Option σ) (allowed : σ → ε → Prop) (inv : σ → Prop)
    (preserved : ∀ state event after, inv state → allowed state event → next state event = some after → inv after)
    (other : τ → δ → Option τ) (view : σ → τ) (seen : ε → Option δ)
    (still : ∀ state event after, inv state → seen event = none → next state event = some after → view after = view state)
    (keeps : ∀ state event after act, inv state → seen event = some act → next state event = some after →
      other (view state) act = some (view after))
    (start last : σ) (events : List ε) (initial : inv start) (run : Run next allowed start events last) :
    Run other (fun _ _ => True) (view start) (events.filterMap seen) (view last) := by
  induction run with
  | nil => exact .nil
  | snoc middle last events event before permitted taken ih =>
      have held := run_invariant next allowed inv preserved start middle events initial before
      cases sight : seen event with
      | none =>
          rw [still middle event last held sight taken, List.filterMap_append, List.filterMap_cons_none sight, List.filterMap_nil,
            List.append_nil]
          exact ih
      | some act =>
          rw [List.filterMap_append, List.filterMap_cons_some sight, List.filterMap_nil]
          exact .snoc _ _ _ act ih trivial (keeps middle event last act held sight taken)

def Always (next : σ → ε → Option σ) (start : σ) (events : List ε) (holds : σ → Prop) : Prop :=
  ∀ head tail middle, head ++ tail = events → Run next (fun _ _ => True) start head middle → holds middle

theorem always_snoc (next : σ → ε → Option σ) (start : σ) (events : List ε) (event : ε) (holds : σ → Prop)
    (always : Always next start (events ++ [event]) holds) : Always next start events holds := by
  intro head tail middle whole run
  exact always head (tail ++ [event]) middle (by rw [← List.append_assoc, whole]) run

-- A property that an allowed step keeps and any other step breaks holds all
-- along a run exactly if every step of the run was allowed.
theorem run_always (next : σ → ε → Option σ) (allowed : σ → ε → Prop) (inv holds : σ → Prop)
    (kept : ∀ state event after, inv state → next state event = some after → inv after)
    (step : ∀ state event after, inv state → holds state → next state event = some after →
      (holds after ↔ allowed state event))
    (start last : σ) (events : List ε) (initial : inv start) (fine : holds start)
    (run : Run next (fun _ _ => True) start events last) :
    Always next start events holds ↔ Run next allowed start events last := by
  have invariant : ∀ state head, Run next (fun _ _ => True) start head state → inv state := fun state head reached =>
    run_invariant next (fun _ _ => True) inv (fun s e a held _ taken => kept s e a held taken) start state head initial reached
  constructor
  · intro always
    induction run with
    | nil => exact .nil
    | snoc middle last events event before _ taken ih =>
        have earlier := always_snoc next start events event holds always
        have held : holds middle := earlier events [] middle (by simp) before
        have final : holds last := always (events ++ [event]) [] last (by simp) (.snoc middle last events event before trivial taken)
        have permitted := (step middle event last (invariant middle events before) held taken).mp final
        exact .snoc middle last events event (ih earlier) permitted taken
  · intro restricted
    clear run
    induction restricted with
    | nil =>
        intro head tail middle whole reached
        have empty : head = [] := (List.append_eq_nil_iff.mp whole).1
        subst empty
        rw [run_unique next allowed start start middle [] .nil reached]
        exact fine
    | snoc middle last events event before permitted taken ih =>
        have earlier := run_free next allowed start middle events before
        have held : holds middle := ih events [] middle (by simp) earlier
        have final := (step middle event last (invariant middle events earlier) held taken).mpr permitted
        intro head tail state whole reached
        rcases List.eq_nil_or_concat tail with empty | ⟨rest, item, longer⟩
        · subst empty
          rw [List.append_nil] at whole
          subst whole
          rw [run_unique next allowed start last state _ (.snoc middle last events event before permitted taken) reached]
          exact final
        · subst longer
          rw [List.concat_eq_append, ← List.append_assoc] at whole
          exact ih head rest state (List.append_inj' whole rfl).1 reached

def follow (next : σ → ε → Option σ) (allowed : σ → ε → Prop) [∀ state event, Decidable (allowed state event)] :
    σ → List ε → Option σ
  | state, [] => some state
  | state, event :: tail =>
      if allowed state event then
        match next state event with
        | none => none
        | some after => follow next allowed after tail
      else none

theorem follow_run (next : σ → ε → Option σ) (allowed : σ → ε → Prop) [∀ state event, Decidable (allowed state event)]
    (start last : σ) (events : List ε) (followed : follow next allowed start events = some last) :
    Run next allowed start events last := by
  induction events generalizing start with
  | nil =>
      cases followed
      exact .nil
  | cons event tail ih =>
      by_cases permitted : allowed start event
      · cases taken : next start event with
        | none => simp [follow, permitted, taken] at followed
        | some after =>
            have rest : follow next allowed after tail = some last := by
              simpa only [follow, if_pos permitted, taken] using followed
            have one := run_one next allowed start after event permitted taken
            exact run_append next allowed start after last [event] tail one (ih after rest)
      · simp [follow, permitted] at followed

theorem follow_free (next : σ → ε → Option σ) (allowed : σ → ε → Prop) [∀ state event, Decidable (allowed state event)]
    (start last : σ) (events : List ε) (followed : follow next allowed start events = some last) :
    follow next (fun _ _ => True) start events = some last := by
  induction events generalizing start with
  | nil => exact followed
  | cons event tail ih =>
      by_cases permitted : allowed start event
      · cases taken : next start event with
        | none => simp [follow, permitted, taken] at followed
        | some after =>
            simp only [follow, if_pos permitted, taken] at followed
            simpa only [follow, if_true, taken] using ih after followed
      · simp [follow, permitted] at followed

end Runs
