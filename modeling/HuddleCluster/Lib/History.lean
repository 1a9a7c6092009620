import HuddleCluster.Lib.Runs

set_option autoImplicit false

-- The states a program passes through while it handles one event, and the past
-- of a whole run, newest state first.
structure History (σ : Type*) where
  current : σ
  earlier : List σ

namespace History

variable {σ ε : Type*}

def visit (s : History σ) (state : σ) : History σ := ⟨state, s.current :: s.earlier⟩

def follow (s : History σ) (trail : List σ) : History σ := trail.foldl visit s

def next (trail : σ → ε → List σ) (s : History σ) (event : ε) : Option (History σ) := some (s.follow (trail s.current event))

-- At every moment of the past, with the past that moment had.
def Everywhere (holds : History σ → Prop) (s : History σ) : Prop :=
  ∀ state older, (state :: older) <:+ (s.current :: s.earlier) → holds ⟨state, older⟩

theorem follow_current (s : History σ) (trail : List σ) : (s.follow trail).current = trail.getLastD s.current := by
  induction trail generalizing s with
  | nil => rfl
  | cons state rest ih =>
      rw [List.getLastD_cons]
      exact ih (s.visit state)

theorem linked_append (link : σ → σ → Prop) (start : σ) (front back : List σ) (before : (start :: front).IsChain link)
    (after : (front.getLastD start :: back).IsChain link) : (start :: (front ++ back)).IsChain link := by
  induction front generalizing start with
  | nil => exact after
  | cons state rest ih =>
      rw [List.isChain_cons_cons] at before
      rw [List.getLastD_cons] at after
      exact List.isChain_cons_cons.mpr ⟨before.1, ih state before.2 after⟩

theorem last_append (start : σ) (front back : List σ) : (front ++ back).getLastD start = back.getLastD (front.getLastD start) := by
  induction front generalizing start with
  | nil => rfl
  | cons state rest ih =>
      rw [List.cons_append, List.getLastD_cons, List.getLastD_cons]
      exact ih state

theorem linked_last (link : σ → σ → Prop) (related : σ → σ → Prop) (reflexive : ∀ a, related a a)
    (grows : ∀ a b c, related a b → link b c → related a c) (start : σ) (trail : List σ)
    (linked : (start :: trail).IsChain link) : related start (trail.getLastD start) := by
  suffices general : ∀ origin, related origin start → related origin (trail.getLastD start) from general start (reflexive start)
  induction trail generalizing start with
  | nil => exact fun _ held => held
  | cons state rest ih =>
      intro origin held
      rw [List.isChain_cons_cons] at linked
      rw [List.getLastD_cons]
      exact ih state linked.2 origin (grows origin start state held linked.1)

theorem everywhere_first (holds : History σ → Prop) (state : σ) (first : holds ⟨state, []⟩) :
    Everywhere holds ⟨state, []⟩ := by
  intro other older suffixed
  have short := suffixed.length_le
  simp only [List.length_cons, List.length_nil] at short
  have empty : older = [] := List.eq_nil_of_length_eq_zero (by omega)
  subst empty
  have same := suffixed.eq_of_length rfl
  simp only [List.cons.injEq, and_true] at same
  exact same ▸ first

theorem everywhere_visit (holds : History σ → Prop) (s : History σ) (state : σ) (before : Everywhere holds s)
    (now : holds (s.visit state)) : Everywhere holds (s.visit state) := by
  intro other older suffixed
  rcases List.suffix_cons_iff.mp suffixed with whole | earlier
  · obtain ⟨rfl, rfl⟩ := List.cons.inj whole
    exact now
  · exact before other older earlier

-- One link of a trail: what it keeps, and what holds when it is made.
theorem follow_everywhere (link : σ → σ → Prop) (inv holds : History σ → Prop)
    (step : ∀ s state, inv s → link s.current state → inv (s.visit state) ∧ holds (s.visit state))
    (s : History σ) (trail : List σ) (linked : (s.current :: trail).IsChain link) (initial : inv s)
    (before : Everywhere holds s) : inv (s.follow trail) ∧ Everywhere holds (s.follow trail) := by
  induction trail generalizing s with
  | nil => exact ⟨initial, before⟩
  | cons state rest ih =>
      rw [List.isChain_cons_cons] at linked
      obtain ⟨kept, now⟩ := step s state initial linked.1
      exact ih (s.visit state) linked.2 kept (everywhere_visit holds s state before now)

theorem run_everywhere (trail : σ → ε → List σ) (allowed : History σ → ε → Prop) (link : σ → σ → Prop)
    (inv holds : History σ → Prop)
    (linked : ∀ s event, inv s → allowed s event → (s.current :: trail s.current event).IsChain link)
    (step : ∀ s state, inv s → link s.current state → inv (s.visit state) ∧ holds (s.visit state))
    (start : σ) (last : History σ) (events : List ε) (initial : inv ⟨start, []⟩) (first : holds ⟨start, []⟩)
    (run : Runs.Run (next trail) allowed ⟨start, []⟩ events last) : Everywhere holds last := by
  refine (Runs.run_invariant (next trail) allowed (fun s => inv s ∧ Everywhere holds s) ?_ _ last events
    ⟨initial, everywhere_first holds start first⟩ run).2
  intro s event after held permitted taken
  cases taken
  exact follow_everywhere link inv holds step s _ (linked s event held.1 permitted) held.1 held.2

-- Forgetting the past gives a run of the program itself.
theorem run_current (trail : σ → ε → List σ) (step : σ → ε → σ)
    (arrives : ∀ state event, (trail state event).getLastD state = step state event)
    (allowed : History σ → ε → Prop) (start last : History σ) (events : List ε)
    (run : Runs.Run (next trail) allowed start events last) :
    Runs.Run (fun state event => some (step state event)) (fun _ _ => True) start.current events last.current := by
  induction run with
  | nil => exact .nil
  | snoc middle last events event _ _ taken ih =>
      cases taken
      refine .snoc middle.current _ events event ih trivial ?_
      rw [follow_current, arrives]

end History
