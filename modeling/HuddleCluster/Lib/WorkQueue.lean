import Mathlib

set_option autoImplicit false

-- A queue of bounded size that threads put items into and take them from in order.
-- None is the mark that tells a thread to stop. What was accepted and what was taken
-- so far is not in the program.
structure WorkQueue (α : Type*) where
  waiting : List (Option α) := []
  accepted : List α := []
  taken : List α := []

namespace WorkQueue

variable {α φ : Type*}

def put (size : Nat) (q : WorkQueue α) (item : Option α) : WorkQueue α :=
  if q.waiting.length < size then { q with waiting := q.waiting ++ [item], accepted := q.accepted ++ item.toList } else q

def take (q : WorkQueue α) : Option (Option α × WorkQueue α) :=
  match q.waiting with
  | [] => none
  | item :: rest => some (item, { q with waiting := rest, taken := q.taken ++ item.toList })

structure Fifo (size : Nat) (q : WorkQueue α) : Prop where
  order : q.accepted = q.taken ++ q.waiting.reduceOption
  bounded : q.waiting.length ≤ size

theorem reduce_cons (item : Option α) (rest : List (Option α)) :
    (item :: rest).reduceOption = item.toList ++ rest.reduceOption := by
  cases item <;> simp [List.reduceOption]

theorem fifo_empty (size : Nat) : Fifo size ({} : WorkQueue α) := ⟨rfl, Nat.zero_le size⟩

theorem fifo_put (size : Nat) (q : WorkQueue α) (item : Option α) (fifo : Fifo size q) : Fifo size (q.put size item) := by
  unfold put
  split
  · rename_i room
    refine ⟨?_, ?_⟩
    · rw [fifo.order, List.append_assoc, List.reduceOption_append, reduce_cons]
      simp [List.reduceOption]
    · rw [List.length_append, List.length_singleton]
      exact room
  · exact fifo

theorem take_spec (q after : WorkQueue α) (item : Option α) (taken : q.take = some (item, after)) :
    q.waiting = item :: after.waiting ∧ after.taken = q.taken ++ item.toList ∧ after.accepted = q.accepted := by
  unfold take at taken
  split at taken
  · cases taken
  · cases taken
    exact ⟨by assumption, rfl, rfl⟩

theorem put_taken (size : Nat) (q : WorkQueue α) (item : Option α) : (q.put size item).taken = q.taken := by
  unfold put
  split <;> rfl

theorem fifo_take (size : Nat) (q after : WorkQueue α) (item : Option α) (fifo : Fifo size q)
    (taken : q.take = some (item, after)) : Fifo size after := by
  obtain ⟨waiting, moved, same⟩ := take_spec q after item taken
  have order := fifo.order
  have bounded := fifo.bounded
  rw [waiting, reduce_cons] at order
  rw [waiting, List.length_cons] at bounded
  exact ⟨by rw [same, order, moved, List.append_assoc], Nat.le_of_succ_le bounded⟩

theorem put_accepted (size : Nat) (q : WorkQueue α) (item : Option α) (query : α) (member : query ∈ (q.put size item).accepted) :
    query ∈ q.accepted ∨ item = some query := by
  unfold put at member
  split at member
  · rcases List.mem_append.mp member with before | new
    · exact Or.inl before
    · exact Or.inr (Option.mem_toList.mp new)
  · exact Or.inl member

theorem put_room (size : Nat) (q : WorkQueue α) (item : Option α) (room : q.waiting.length < size) :
    q.put size item = { q with waiting := q.waiting ++ [item], accepted := q.accepted ++ item.toList } := if_pos room

theorem put_full (size : Nat) (q : WorkQueue α) (item : Option α) (full : ¬ q.waiting.length < size) : q.put size item = q := if_neg full

def hands (held : φ → List α) (threads : List φ) : List α := threads.flatMap held

theorem hands_new (held : φ → List α) (threads : List φ) (thread : φ) (idle : held thread = []) :
    hands held (threads ++ [thread]) = hands held threads := by
  simp [hands, idle]

theorem hands_set (held : φ → List α) (threads : List φ) (i : Nat) (before after : φ) (here : threads[i]? = some before) :
    (held before ++ hands held (threads.set i after)).Perm (held after ++ hands held threads) := by
  induction threads generalizing i with
  | nil => simp at here
  | cons first rest ih =>
      cases i with
      | zero =>
          cases Option.some.inj here
          simp only [List.set_cons_zero, hands, List.flatMap_cons]
          exact List.perm_append_comm_assoc _ _ _
      | succ i =>
          have others := ih i here
          simp only [List.set_cons_succ, hands, List.flatMap_cons] at others ⊢
          refine (List.perm_append_comm_assoc _ _ _).trans ?_
          exact (others.append_left _).trans (List.perm_append_comm_assoc _ _ _)

-- What the threads have done and what they hold is all that was taken.
theorem shared_set (held : φ → List α) (done taken : List α) (threads : List φ) (i : Nat) (before after : φ)
    (here : threads[i]? = some before) (shared : (done ++ hands held threads).Perm taken) :
    (held before ++ (done ++ hands held (threads.set i after))).Perm (held after ++ taken) := by
  have given := hands_set held threads i before after here
  refine (List.perm_append_comm_assoc _ _ _).trans ((given.append_left done).trans ?_)
  exact (List.perm_append_comm_assoc _ _ _).trans (shared.append_left _)

section Live

variable (live : φ → Bool) (threads : List φ)

def LiveAt (i : Nat) : Prop := ∃ thread, threads[i]? = some thread ∧ live thread = true

def Manned : Prop := ∃ i, LiveAt live threads i

theorem live_set (i j : Nat) (thread : φ) (there : i < threads.length) :
    LiveAt live (threads.set i thread) j ↔ if j = i then live thread = true else LiveAt live threads j := by
  unfold LiveAt
  by_cases same : j = i
  · subst same
    simp [there]
  · simp [same, List.getElem?_set_ne (Ne.symm same)]

theorem manned_set (i : Nat) (thread : φ) (there : i < threads.length) (lives : live thread = true) :
    Manned live (threads.set i thread) := ⟨i, (live_set live threads i i thread there).mpr (by simpa using lives)⟩

theorem manned_new (thread : φ) (lives : live thread = true) : Manned live (threads ++ [thread]) :=
  ⟨threads.length, thread, by simp, lives⟩

theorem manned_ended (i : Nat) (thread : φ) (there : i < threads.length) (ends : live thread = false) :
    Manned live (threads.set i thread) ↔ ∃ j, j ≠ i ∧ LiveAt live threads j := by
  refine exists_congr fun j => (live_set live threads i j thread there).trans ?_
  by_cases same : j = i <;> simp [same, ends]

end Live

end WorkQueue
