import HuddleCluster.Lib.Runs

set_option autoImplicit false

-- A state that several writers save to one file. A writer first captures a
-- payload and writes it later, so the writes come in any order.
namespace Checkpoint

open Runs

variable {σ ε κ ρ : Type*}

-- A payload with the number of captures made before it, and the number of
-- updates that had taken effect.
structure Capture (ρ : Type*) where
  payload : ρ
  stamp : Nat
  applied : Nat

-- The captures on their way, and what the file holds of this life of the state.
-- The last three fields keep the number of captures, the stamps that have been
-- written, and the updates.
structure Saver (σ ε ρ : Type*) where
  state : σ
  pending : List (Capture ρ)
  file : Option (Capture ρ)
  captured : Nat
  written : List Nat
  updates : List ε

inductive Event (ε κ : Type*) where
  | update (event : ε)
  | capture (reading : κ)
  | write (i : Nat)
  | fail (i : Nat)

namespace Saver

def fresh (start : σ) : Saver σ ε ρ := ⟨start, [], none, 0, [], []⟩

def take (payload : κ → σ → ρ) (reading : κ) (s : Saver σ ε ρ) : Saver σ ε ρ :=
  { s with pending := s.pending ++ [⟨payload reading s.state, s.captured, s.updates.length⟩], captured := s.captured + 1 }

def store (i : Nat) (capture : Capture ρ) (s : Saver σ ε ρ) : Saver σ ε ρ :=
  { s with pending := s.pending.eraseIdx i, file := some capture, written := s.written ++ [capture.stamp] }

def Known (s : Saver σ ε ρ) (capture : Capture ρ) : Prop := capture ∈ s.pending ∨ s.file = some capture

end Saver

open Saver

def step (next : σ → ε → Option σ) (payload : κ → σ → ρ) (s : Saver σ ε ρ) : Event ε κ → Option (Saver σ ε ρ)
  | .update event => (next s.state event).map fun state => { s with state := state, updates := s.updates ++ [event] }
  | .capture reading => some (s.take payload reading)
  | .write i => s.pending[i]?.map fun capture => s.store i capture
  | .fail i => s.pending[i]?.map fun _ => { s with pending := s.pending.eraseIdx i }

-- A capture is written after all that the file has held, and the latest one
-- does not fail.
def InOrder (s : Saver σ ε ρ) : Event ε κ → Prop
  | .write i => ∀ capture, s.pending[i]? = some capture → ∀ held, s.file = some held → held.stamp < capture.stamp
  | .fail i => ∀ capture, s.pending[i]? = some capture → capture.stamp + 1 < s.captured
  | _ => True

-- Saves do not overlap, and none fails.
def Alone (s : Saver σ ε ρ) : Event ε κ → Prop
  | .capture _ => s.pending = []
  | .fail _ => False
  | _ => True

-- One capture at most is on its way, and it is newer than the file.
def Solo (s : Saver σ ε ρ) : Prop :=
  s.pending = [] ∨ ∃ capture, s.pending = [capture] ∧ ∀ held, s.file = some held → held.stamp < capture.stamp

-- The file has not gone back, and holds the latest capture when no writer is
-- left. What it holds shows the first updates.
structure Kept (next : σ → ε → Option σ) (payload : κ → σ → ρ) (start : σ) (s : Saver σ ε ρ) : Prop where
  forward : s.written.Pairwise (· < ·)
  latest : s.pending = [] → 0 < s.captured → ∃ capture, s.file = some capture ∧ capture.stamp + 1 = s.captured
  genuine : ∀ capture, s.file = some capture → ∃ reading shown,
    Run next (fun _ _ => True) start (s.updates.take capture.applied) shown ∧ capture.payload = payload reading shown

structure Orderly (next : σ → ε → Option σ) (payload : κ → σ → ρ) (start : σ) (s : Saver σ ε ρ) : Prop where
  run : Run next (fun _ _ => True) start s.updates s.state
  forward : s.written.Pairwise (· < ·)
  held : ∀ stamp ∈ s.written, ∃ capture, s.file = some capture ∧ stamp ≤ capture.stamp
  made : ∀ capture, s.Known capture → capture.stamp < s.captured ∧ capture.applied ≤ s.updates.length
  monotone : ∀ first second, s.Known first → s.Known second → first.stamp ≤ second.stamp → first.applied ≤ second.applied
  newest : 0 < s.captured → ∃ capture, s.Known capture ∧ capture.stamp + 1 = s.captured
  genuine : ∀ capture, s.Known capture → ∃ reading shown,
    Run next (fun _ _ => True) start (s.updates.take capture.applied) shown ∧ capture.payload = payload reading shown

theorem orderly_fresh (next : σ → ε → Option σ) (payload : κ → σ → ρ) (start : σ) :
    Orderly next payload start (.fresh start : Saver σ ε ρ) := by
  have unknown : ∀ capture, ¬ (Saver.fresh start : Saver σ ε ρ).Known capture := by
    simp [Known, Saver.fresh]
  exact ⟨.nil, List.Pairwise.nil, by simp [Saver.fresh], fun capture known => absurd known (unknown capture),
    fun first _ known => absurd known (unknown first), by simp [Saver.fresh], fun capture known => absurd known (unknown capture)⟩

theorem orderly_kept (next : σ → ε → Option σ) (payload : κ → σ → ρ) (start : σ) (s : Saver σ ε ρ)
    (orderly : Orderly next payload start s) : Kept next payload start s := by
  refine ⟨orderly.forward, fun idle positive => ?_, fun capture held => orderly.genuine capture (Or.inr held)⟩
  obtain ⟨capture, known, last⟩ := orderly.newest positive
  refine ⟨capture, known.resolve_left ?_, last⟩
  rw [idle]
  exact List.not_mem_nil

theorem orderly_update (next : σ → ε → Option σ) (payload : κ → σ → ρ) (start : σ) (s : Saver σ ε ρ) (event : ε)
    (state : σ)
    (orderly : Orderly next payload start s) (taken : next s.state event = some state) :
    Orderly next payload start { s with state := state, updates := s.updates ++ [event] } := by
  refine ⟨.snoc s.state state s.updates event orderly.run trivial taken, orderly.forward, orderly.held, ?_, orderly.monotone,
    orderly.newest, ?_⟩
  · intro capture known
    obtain ⟨before, shown⟩ := orderly.made capture known
    exact ⟨before, by simpa using Nat.le_succ_of_le shown⟩
  · intro capture known
    obtain ⟨reading, shown, run, same⟩ := orderly.genuine capture known
    refine ⟨reading, shown, ?_, same⟩
    rwa [List.take_append_of_le_length (orderly.made capture known).2]

theorem known_take (payload : κ → σ → ρ) (reading : κ) (s : Saver σ ε ρ) (capture : Capture ρ)
    (known : (s.take payload reading).Known capture) :
    s.Known capture ∨ capture = ⟨payload reading s.state, s.captured, s.updates.length⟩ := by
  rcases known with waiting | held
  · rcases List.mem_append.mp waiting with old | new
    · exact Or.inl (Or.inl old)
    · exact Or.inr (List.mem_singleton.mp new)
  · exact Or.inl (Or.inr held)

theorem orderly_take (next : σ → ε → Option σ) (payload : κ → σ → ρ) (start : σ) (reading : κ) (s : Saver σ ε ρ)
    (orderly : Orderly next payload start s) : Orderly next payload start (s.take payload reading) := by
  refine ⟨orderly.run, orderly.forward, orderly.held, ?_, ?_, ?_, ?_⟩
  · intro capture known
    rcases known_take payload reading s capture known with old | rfl
    · obtain ⟨before, shown⟩ := orderly.made capture old
      exact ⟨Nat.lt_succ_of_lt before, shown⟩
    · exact ⟨Nat.lt_succ_self _, le_refl _⟩
  · intro first second knownFirst knownSecond le
    rcases known_take payload reading s first knownFirst with oldFirst | rfl
    · rcases known_take payload reading s second knownSecond with oldSecond | rfl
      · exact orderly.monotone first second oldFirst oldSecond le
      · exact (orderly.made first oldFirst).2
    · rcases known_take payload reading s second knownSecond with oldSecond | rfl
      · exact absurd le (not_le.mpr (orderly.made second oldSecond).1)
      · exact le_refl _
  · exact fun _ => ⟨_, Or.inl (List.mem_append_right _ (List.mem_singleton_self _)), rfl⟩
  · intro capture known
    rcases known_take payload reading s capture known with old | rfl
    · exact orderly.genuine capture old
    · exact ⟨reading, s.state, by simpa [Saver.take] using orderly.run, rfl⟩

theorem known_store (i : Nat) (written : Capture ρ) (s : Saver σ ε ρ) (there : s.pending[i]? = some written) (capture : Capture ρ)
    (known : (s.store i written).Known capture) : s.Known capture := by
  rcases known with waiting | held
  · exact Or.inl (List.mem_of_mem_eraseIdx waiting)
  · cases held
    exact Or.inl (List.mem_of_getElem? there)

theorem pending_left (i : Nat) (gone other : Capture ρ) (pending : List (Capture ρ)) (there : pending[i]? = some gone)
    (different : other.stamp ≠ gone.stamp) (member : other ∈ pending) : other ∈ pending.eraseIdx i := by
  rw [List.mem_eraseIdx_iff_getElem?]
  obtain ⟨j, found⟩ := List.mem_iff_getElem?.mp member
  refine ⟨j, fun same => different ?_, found⟩
  subst same
  cases there.symm.trans found
  rfl

theorem orderly_store (next : σ → ε → Option σ) (payload : κ → σ → ρ) (start : σ) (i : Nat) (capture : Capture ρ)
    (s : Saver σ ε ρ) (orderly : Orderly next payload start s) (there : s.pending[i]? = some capture)
    (newer : ∀ held, s.file = some held → held.stamp < capture.stamp) : Orderly next payload start (s.store i capture) := by
  have before := known_store i capture s there
  have above : ∀ stamp ∈ s.written, stamp < capture.stamp := by
    intro stamp member
    obtain ⟨held, holds, le⟩ := orderly.held stamp member
    exact le.trans_lt (newer held holds)
  refine ⟨orderly.run, ?_, ?_, fun other known => orderly.made other (before other known),
    fun first second one two => orderly.monotone first second (before first one) (before second two), ?_,
    fun other known => orderly.genuine other (before other known)⟩
  · exact List.pairwise_append.mpr ⟨orderly.forward, List.pairwise_singleton _ _, by simpa using above⟩
  · intro stamp member
    refine ⟨capture, rfl, ?_⟩
    rcases List.mem_append.mp member with old | new
    · exact (above stamp old).le
    · exact (List.mem_singleton.mp new).le
  · intro positive
    obtain ⟨last, known, stamp⟩ := orderly.newest positive
    by_cases same : last.stamp = capture.stamp
    · exact ⟨capture, Or.inr rfl, by rw [← same]; exact stamp⟩
    · refine ⟨last, Or.inl ?_, stamp⟩
      rcases known with waiting | held
      · exact pending_left i capture last s.pending there same waiting
      · have late := newer last held
        have early := (orderly.made capture (Or.inl (List.mem_of_getElem? there))).1
        omega

theorem orderly_fail (next : σ → ε → Option σ) (payload : κ → σ → ρ) (start : σ) (i : Nat) (capture : Capture ρ)
    (s : Saver σ ε ρ) (orderly : Orderly next payload start s) (there : s.pending[i]? = some capture)
    (superseded : capture.stamp + 1 < s.captured) : Orderly next payload start { s with pending := s.pending.eraseIdx i } := by
  have before : ∀ other, Known { s with pending := s.pending.eraseIdx i } other → s.Known other := by
    rintro other (waiting | held)
    · exact Or.inl (List.mem_of_mem_eraseIdx waiting)
    · exact Or.inr held
  refine ⟨orderly.run, orderly.forward, orderly.held, fun other known => orderly.made other (before other known),
    fun first second one two => orderly.monotone first second (before first one) (before second two), ?_,
    fun other known => orderly.genuine other (before other known)⟩
  intro positive
  obtain ⟨last, known, stamp⟩ := orderly.newest positive
  refine ⟨last, ?_, stamp⟩
  rcases known with waiting | held
  · exact Or.inl (pending_left i capture last s.pending there (by omega) waiting)
  · exact Or.inr held

theorem orderly_step (next : σ → ε → Option σ) (payload : κ → σ → ρ) (start : σ) (s after : Saver σ ε ρ)
    (event : Event ε κ)
    (orderly : Orderly next payload start s) (inOrder : InOrder s event) (taken : step next payload s event = some after) :
    Orderly next payload start after := by
  cases event with
  | update event =>
      obtain ⟨state, made, rfl⟩ := Option.map_eq_some_iff.mp taken
      exact orderly_update next payload start s event state orderly made
  | capture reading =>
      cases taken
      exact orderly_take next payload start reading s orderly
  | write i =>
      obtain ⟨capture, there, rfl⟩ := Option.map_eq_some_iff.mp taken
      exact orderly_store next payload start i capture s orderly there (inOrder capture there)
  | fail i =>
      obtain ⟨capture, there, rfl⟩ := Option.map_eq_some_iff.mp taken
      exact orderly_fail next payload start i capture s orderly there (inOrder capture there)

theorem solo_write (s : Saver σ ε ρ) (i : Nat) (solo : Solo s) (capture : Capture ρ) (there : s.pending[i]? = some capture) :
    s.pending = [capture] ∧ ∀ held, s.file = some held → held.stamp < capture.stamp := by
  rcases solo with idle | ⟨own, waiting, newer⟩
  · rw [idle] at there
    cases there
  · rw [waiting] at there ⊢
    cases i with
    | zero =>
        cases there
        exact ⟨rfl, newer⟩
    | succ _ => cases there

theorem alone_in_order (s : Saver σ ε ρ) (event : Event ε κ) (solo : Solo s) (alone : Alone s event) : InOrder s event := by
  cases event with
  | write i => exact fun capture there => (solo_write s i solo capture there).2
  | fail i => exact absurd alone id
  | update | capture => trivial

theorem solo_take (next : σ → ε → Option σ) (payload : κ → σ → ρ) (start : σ) (reading : κ) (s : Saver σ ε ρ)
    (orderly : Orderly next payload start s) (idle : s.pending = []) : Solo (s.take payload reading) := by
  refine Or.inr ⟨⟨payload reading s.state, s.captured, s.updates.length⟩, by rw [take, idle]; rfl, fun held holds => ?_⟩
  exact (orderly.made held (Or.inr holds)).1

theorem solo_store (s : Saver σ ε ρ) (i : Nat) (solo : Solo s) (capture : Capture ρ) (there : s.pending[i]? = some capture) :
    Solo (s.store i capture) := by
  have only := (solo_write s i solo capture there).1
  refine Or.inl ?_
  rw [only] at there
  cases i with
  | zero => rw [store, only]; rfl
  | succ _ => cases there

theorem solo_step (next : σ → ε → Option σ) (payload : κ → σ → ρ) (start : σ) (s after : Saver σ ε ρ)
    (event : Event ε κ)
    (orderly : Orderly next payload start s) (solo : Solo s) (alone : Alone s event) (taken : step next payload s event = some after) :
    Solo after := by
  cases event with
  | update event =>
      obtain ⟨state, _, rfl⟩ := Option.map_eq_some_iff.mp taken
      exact solo
  | capture reading =>
      cases taken
      exact solo_take next payload start reading s orderly alone
  | write i =>
      obtain ⟨capture, there, rfl⟩ := Option.map_eq_some_iff.mp taken
      exact solo_store s i solo capture there
  | fail i => exact absurd alone id

theorem alone_kept (next : σ → ε → Option σ) (payload : κ → σ → ρ) (start : σ) (events : List (Event ε κ))
    (last : Saver σ ε ρ)
    (run : Run (step next payload) Alone (.fresh start) events last) : Kept next payload start last := by
  have sound : Orderly next payload start last ∧ Solo last := by
    refine Runs.run_invariant (step next payload) Alone (fun s => Orderly next payload start s ∧ Solo s) ?_ _ last events
      ⟨orderly_fresh next payload start, Or.inl rfl⟩ run
    rintro s event after ⟨orderly, solo⟩ alone taken
    exact ⟨orderly_step next payload start s after event orderly (alone_in_order s event solo alone) taken,
      solo_step next payload start s after event orderly solo alone taken⟩
  exact orderly_kept next payload start last sound.1

instance (s : Saver σ ε ρ) (event : Event ε κ) : Decidable (Alone s event) :=
  match event with
  | .capture _ => decidable_of_iff (s.pending.isEmpty = true) List.isEmpty_iff
  | .fail _ => isFalse id
  | .update _ => isTrue trivial
  | .write _ => isTrue trivial

end Checkpoint
