import Mathlib

set_option autoImplicit false

-- The first of the items with the highest score, where a score may be missing.
namespace Leader

variable {α κ : Type*}

def scored (score : α → Option κ) (items : List α) : Option (List (α × κ)) :=
  items.mapM fun item => (score item).map fun value => (item, value)

theorem scored_cons (score : α → Option κ) (item : α) (items : List α) (ranked : List (α × κ))
    (computed : scored score (item :: items) = some ranked) :
    ∃ value rest, score item = some value ∧ scored score items = some rest ∧ ranked = (item, value) :: rest := by
  cases first : score item with
  | none => simp [scored, List.mapM_cons, first] at computed
  | some value =>
      cases others : scored score items with
      | none =>
          rw [scored] at others
          simp [scored, List.mapM_cons, first, others] at computed
      | some rest =>
          refine ⟨value, rest, rfl, rfl, ?_⟩
          rw [scored] at others
          simpa [scored, List.mapM_cons, first, others, eq_comm] using computed

theorem scored_member (score : α → Option κ) (items : List α) (ranked : List (α × κ)) (computed : scored score items = some ranked)
    (item : α) (member : item ∈ items) : ∃ value, score item = some value ∧ (item, value) ∈ ranked := by
  induction items generalizing ranked with
  | nil => cases member
  | cons head items ih =>
      obtain ⟨value, rest, first, others, rfl⟩ := scored_cons score head items ranked computed
      rcases List.mem_cons.mp member with rfl | later
      · exact ⟨value, first, List.mem_cons_self⟩
      · obtain ⟨found, known, inside⟩ := ih rest others later
        exact ⟨found, known, List.mem_cons_of_mem _ inside⟩

theorem scored_defined (score : α → Option κ) (items : List α) (defined : ∀ item ∈ items, ∃ value, score item = some value) :
    ∃ ranked, scored score items = some ranked := by
  induction items with
  | nil => exact ⟨[], rfl⟩
  | cons item items ih =>
      obtain ⟨value, first⟩ := defined item List.mem_cons_self
      obtain ⟨rest, others⟩ := ih fun other member => defined other (List.mem_cons_of_mem item member)
      rw [scored] at others
      exact ⟨(item, value) :: rest, by simp [scored, List.mapM_cons, first, others]⟩

theorem scored_each (score : α → Option κ) (value : α → κ) (items : List α)
    (known : ∀ item ∈ items, score item = some (value item)) :
    scored score items = some (items.map fun item => (item, value item)) := by
  induction items with
  | nil => rfl
  | cons item items ih =>
      have others := ih fun other member => known other (List.mem_cons_of_mem item member)
      rw [scored] at others
      simp [scored, List.mapM_cons, known item List.mem_cons_self, others]

theorem scored_none_iff (score : α → Option κ) (items : List α) :
    scored score items = none ↔ ∃ item ∈ items, score item = none := by
  constructor
  · intro missing
    by_contra all
    push Not at all
    obtain ⟨ranked, computed⟩ := scored_defined score items fun item member => Option.ne_none_iff_exists'.mp (all item member)
    cases missing.symm.trans computed
  · rintro ⟨item, member, missing⟩
    cases computed : scored score items with
    | none => rfl
    | some ranked =>
        obtain ⟨value, known, _⟩ := scored_member score items ranked computed item member
        cases missing.symm.trans known

variable [LinearOrder κ]

-- An item ahead of all that come before it and level with all that come after.
def Leads (score : α → Option κ) (items : List α) (item : α) (value : κ) : Prop :=
  ∃ front back, items = front ++ item :: back ∧ score item = some value ∧
    (∀ other ∈ front, ∃ less, score other = some less ∧ less < value) ∧
    (∀ other ∈ back, ∃ less, score other = some less ∧ less ≤ value)

theorem leads_alone (score : α → Option κ) (head : α) (first : κ) (known : score head = some first) :
    Leads score [head] head first :=
  ⟨[], [], rfl, known, by simp, by simp⟩

theorem leads_behind (score : α → Option κ) (head item : α) (items : List α) (first value : κ) (known : score head = some first)
    (leads : Leads score items item value) (beats : first < value) : Leads score (head :: items) item value := by
  obtain ⟨front, back, rfl, winner, ahead, level⟩ := leads
  refine ⟨head :: front, back, rfl, winner, ?_, level⟩
  intro other member
  rcases List.mem_cons.mp member with rfl | inside
  · exact ⟨first, known, beats⟩
  · exact ahead other inside

theorem leads_front (score : α → Option κ) (head item : α) (items : List α) (first value : κ) (known : score head = some first)
    (leads : Leads score items item value) (bound : value ≤ first) : Leads score (head :: items) head first := by
  obtain ⟨front, back, rfl, winner, ahead, level⟩ := leads
  refine ⟨[], front ++ item :: back, rfl, known, by simp, ?_⟩
  intro other member
  rcases List.mem_append.mp member with early | last
  · obtain ⟨less, scoring, below⟩ := ahead other early
    exact ⟨less, scoring, (below.trans_le bound).le⟩
  · rcases List.mem_cons.mp last with rfl | late
    · exact ⟨value, winner, bound⟩
    · obtain ⟨less, scoring, below⟩ := level other late
      exact ⟨less, scoring, below.trans bound⟩

theorem argmax_leads (score : α → Option κ) (items : List α) (ranked : List (α × κ)) (computed : scored score items = some ranked)
    (item : α) (value : κ) (highest : ranked.argmax Prod.snd = some (item, value)) : Leads score items item value := by
  induction items generalizing ranked item value with
  | nil =>
      cases computed
      cases highest
  | cons head items ih =>
      obtain ⟨first, rest, known, others, rfl⟩ := scored_cons score head items ranked computed
      rw [List.argmax_cons] at highest
      cases later : rest.argmax Prod.snd with
      | none =>
          have empty : rest = [] := List.argmax_eq_none.mp later
          have alone : items = [] := by
            by_contra more
            obtain ⟨other, member⟩ := List.exists_mem_of_ne_nil items more
            obtain ⟨_, _, inside⟩ := scored_member score items rest others other member
            rw [empty] at inside
            cases inside
          rw [later] at highest
          cases highest
          rw [alone]
          exact leads_alone score _ _ known
      | some best =>
          have leads := ih rest others best.1 best.2 later
          rw [later] at highest
          by_cases beats : first < best.2
          · simp only [if_pos beats] at highest
            cases highest
            exact leads_behind score head _ items first _ known leads beats
          · simp only [if_neg beats] at highest
            cases highest
            exact leads_front score _ best.1 items _ best.2 known leads (not_lt.mp beats)

theorem leads_bound (score : α → Option κ) (items : List α) (item : α) (value : κ) (leads : Leads score items item value)
    (other : α) (member : other ∈ items) : ∃ less, score other = some less ∧ less ≤ value := by
  obtain ⟨front, back, rfl, scoring, ahead, level⟩ := leads
  rcases List.mem_append.mp member with early | last
  · obtain ⟨less, known, below⟩ := ahead other early
    exact ⟨less, known, below.le⟩
  · rcases List.mem_cons.mp last with rfl | late
    · exact ⟨value, scoring, le_refl value⟩
    · exact level other late

theorem leads_member (score : α → Option κ) (items : List α) (item : α) (value : κ) (leads : Leads score items item value) :
    item ∈ items := by
  obtain ⟨front, back, rfl, _⟩ := leads
  simp

omit [LinearOrder κ] in
theorem split_cases (front back first last : List α) (item other : α) (split : front ++ item :: back = first ++ other :: last) :
    item = other ∨ (item ∈ first ∧ other ∈ back) ∨ (other ∈ front ∧ item ∈ last) := by
  rw [List.append_eq_append_iff] at split
  rcases split with ⟨between, rfl, rest⟩ | ⟨between, rfl, rest⟩
  · cases between with
    | nil =>
        cases rest
        exact Or.inl rfl
    | cons head between =>
        cases rest
        exact Or.inr (Or.inl ⟨by simp, by simp⟩)
  · cases between with
    | nil =>
        cases rest
        exact Or.inl rfl
    | cons head between =>
        cases rest
        exact Or.inr (Or.inr ⟨by simp, by simp⟩)

theorem leads_unique (score : α → Option κ) (items : List α) (item other : α) (value more : κ) (leads : Leads score items item value)
    (again : Leads score items other more) : other = item := by
  obtain ⟨front, back, whole, scoring, ahead, level⟩ := leads
  obtain ⟨first, last, split, known, before, after⟩ := again
  rcases split_cases front back first last item other (whole.symm.trans split) with same | ⟨early, late⟩ | ⟨early, late⟩
  · exact same.symm
  · obtain ⟨less, same, below⟩ := before item early
    obtain ⟨least, again, above⟩ := level other late
    cases scoring.symm.trans same
    cases known.symm.trans again
    exact absurd below (not_lt.mpr above)
  · obtain ⟨less, same, below⟩ := ahead other early
    obtain ⟨least, again, above⟩ := after item late
    cases known.symm.trans same
    cases scoring.symm.trans again
    exact absurd below (not_lt.mpr above)

end Leader
