import Mathlib.Logic.Basic

set_option autoImplicit false

abbrev Handler (σ ρ : Type*) := σ → ρ × σ

namespace Handler

variable {σ ρ α : Type*}

def answer (reply : ρ) : Handler σ ρ := fun s => (reply, s)

-- A check before a handler: its error is the answer, and what it finds goes on.
def require (check : σ → Except ρ α) (next : α → Handler σ ρ) : Handler σ ρ := fun s =>
  match check s with
  | .error reply => (reply, s)
  | .ok found => next found s

def commit (reply : ρ) (store : σ → σ) : Handler σ ρ := fun s => (reply, store s)

structure Refuses (refusal : ρ → Prop) (handle : Handler σ ρ) (s : σ) : Prop where
  refused : refusal (handle s).1
  unchanged : (handle s).2 = s

variable {refusal : ρ → Prop} {s : σ}

theorem refuses_answer (reply : ρ) : Refuses refusal (answer reply : Handler σ ρ) s ↔ refusal reply :=
  ⟨fun refuses => refuses.refused, fun refused => ⟨refused, rfl⟩⟩

theorem refuses_commit (reply : ρ) (store : σ → σ) : Refuses refusal (commit reply store) s ↔ refusal reply ∧ store s = s :=
  ⟨fun refuses => ⟨refuses.refused, refuses.unchanged⟩, fun both => ⟨both.1, both.2⟩⟩

theorem commit_accepted (reply : ρ) (store : σ → σ) (accepted : ¬ refusal reply) : ¬ Refuses refusal (commit reply store) s :=
  fun refuses => accepted refuses.refused

theorem require_error (check : σ → Except ρ α) (next : α → Handler σ ρ) (reply : ρ) (stops : check s = .error reply) :
    Refuses refusal (require check next) s ↔ refusal reply := by
  have same : require check next s = answer reply s := by simp only [require, stops, answer]
  constructor
  · intro refuses
    have refused := refuses.refused
    rwa [same] at refused
  · intro refused
    exact ⟨by rwa [same], by rw [same, answer]⟩

theorem require_ok (check : σ → Except ρ α) (next : α → Handler σ ρ) (found : α) (goes : check s = .ok found) :
    Refuses refusal (require check next) s ↔ Refuses refusal (next found) s := by
  have same : require check next s = next found s := by simp only [require, goes]
  constructor
  · intro refuses
    exact ⟨same ▸ refuses.refused, same ▸ refuses.unchanged⟩
  · intro refuses
    exact ⟨same ▸ refuses.refused, same ▸ refuses.unchanged⟩

-- A check whose every error is a refusal: the handler behind it is all that
-- matters where the check lets the request through.
theorem require_refusing (check : σ → Except ρ α) (next : α → Handler σ ρ)
    (errors : ∀ reply, check s = .error reply → refusal reply) :
    Refuses refusal (require check next) s ↔ ∀ found, check s = .ok found → Refuses refusal (next found) s := by
  cases outcome : check s with
  | error reply =>
      rw [require_error check next reply outcome]
      exact ⟨fun _ _ goes => (nomatch goes), fun _ => errors reply outcome⟩
  | ok found =>
      rw [require_ok check next found outcome]
      constructor
      · intro refuses other goes
        cases goes
        exact refuses
      · exact fun each => each found rfl

def Keeps (same : σ → σ → Prop) (handle : Handler σ ρ) : Prop := ∀ s, same s (handle s).2

theorem keeps_answer (same : σ → σ → Prop) (refl : ∀ s, same s s) (reply : ρ) : Keeps same (answer reply : Handler σ ρ) := refl

theorem keeps_commit (same : σ → σ → Prop) (reply : ρ) (store : σ → σ) (stores : ∀ s, same s (store s)) :
    Keeps same (commit reply store) := stores

theorem keeps_require (same : σ → σ → Prop) (refl : ∀ s, same s s) (check : σ → Except ρ α) (next : α → Handler σ ρ)
    (kept : ∀ s found, check s = .ok found → same s (next found s).2) : Keeps same (require check next) := by
  intro s
  unfold require
  cases outcome : check s with
  | error reply => exact refl s
  | ok found => exact kept s found outcome

end Handler
