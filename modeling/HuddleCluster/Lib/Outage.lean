import Mathlib

set_option autoImplicit false

-- Watchers that are told of successes and failures, and speak up when the level
-- that they watch has changed.
namespace Outage

section Changes

variable {α : Type*} [DecidableEq α]

def changes (initial : α) : List α → List α
  | [] => []
  | level :: rest => if level = initial then changes initial rest else level :: changes level rest

theorem destutter_changes (initial : α) (levels : List α) :
    levels.destutter' (· ≠ ·) initial = initial :: changes initial levels := by
  induction levels generalizing initial with
  | nil => rfl
  | cons level rest ih =>
      rw [changes]
      by_cases same : level = initial
      · rw [if_pos same, List.destutter'_cons_neg _ (not_not.mpr same.symm), ih]
      · rw [if_neg same, List.destutter'_cons_pos _ (Ne.symm same), ih]

theorem changes_alternate (initial : α) (levels : List α) : (initial :: changes initial levels).IsChain (· ≠ ·) :=
  destutter_changes initial levels ▸ List.isChain_destutter' (· ≠ ·) levels initial

theorem changes_snoc (initial level : α) (levels : List α) :
    changes initial (levels ++ [level]) =
      if level = levels.getLastD initial then changes initial levels else changes initial levels ++ [level] := by
  induction levels generalizing initial with
  | nil => simp [changes]
  | cons first rest ih =>
      rw [List.cons_append, changes, changes, List.getLastD_cons]
      by_cases same : first = initial
      · subst same
        rw [if_pos rfl, if_pos rfl, ih]
      · rw [if_neg same, if_neg same, ih]
        split <;> rfl

theorem changes_last (initial : α) (levels : List α) : (changes initial levels).getLastD initial = levels.getLastD initial := by
  induction levels generalizing initial with
  | nil => rfl
  | cons level rest ih =>
      rw [changes, List.getLastD_cons]
      by_cases same : level = initial
      · rw [if_pos same, same, ih]
      · rw [if_neg same, List.getLastD_cons, ih]

structure Watching (initial : α) (levels : List α) (level : α) (reports : List α) : Prop where
  level : level = levels.getLastD initial
  reports : reports = changes initial levels

theorem watching_fresh (initial : α) : Watching initial [] initial [] := ⟨rfl, rfl⟩

theorem watching_seen (initial level next : α) (levels reports : List α) (watching : Watching initial levels level reports) :
    Watching initial (levels ++ [next]) next (if next = level then reports else reports ++ [next]) := by
  refine ⟨by simp, ?_⟩
  rw [changes_snoc, ← watching.level, ← watching.reports]

theorem reports_alternate (initial level : α) (levels reports : List α) (watching : Watching initial levels level reports) :
    (initial :: reports).IsChain (· ≠ ·) ∧ reports.getLastD initial = level := by
  rw [watching.reports, watching.level]
  exact ⟨changes_alternate initial levels, changes_last initial levels⟩

end Changes

-- Failures in a row, up to now.
def trailing (seen : List Bool) : Nat := (seen.reverse.takeWhile fun success => !success).length

theorem trailing_success (seen : List Bool) : trailing (seen ++ [true]) = 0 := by simp [trailing]

theorem trailing_failure (seen : List Bool) : trailing (seen ++ [false]) = trailing seen + 1 := by simp [trailing]

-- Whether there was no outage of a given length after each of the signals.
def levels (threshold : Nat) (seen : List Bool) : List Bool :=
  (List.range seen.length).map fun i => decide (trailing (seen.take (i + 1)) < threshold)

theorem levels_snoc (threshold : Nat) (seen : List Bool) (success : Bool) :
    levels threshold (seen ++ [success]) = levels threshold seen ++ [decide (trailing (seen ++ [success]) < threshold)] := by
  unfold levels
  rw [List.length_append, List.length_singleton, List.range_succ, List.map_append, List.map_singleton,
    List.take_of_length_le (by simp)]
  congr 1
  refine List.map_congr_left fun i member => ?_
  rw [List.take_append_of_le_length (List.mem_range.mp member)]

structure Counted (threshold : Nat) (seen : List Bool) (failures : Nat) (up : Bool) (reports : List Bool) : Prop where
  count : failures = trailing seen
  level : up = decide (trailing seen < threshold)
  watching : Watching true (levels threshold seen) up reports

theorem counted_fresh (threshold : Nat) (positive : 0 < threshold) : Counted threshold [] 0 true [] :=
  ⟨rfl, (decide_eq_true positive).symm, watching_fresh true⟩

theorem counted_success (threshold : Nat) (positive : 0 < threshold) (seen : List Bool) (failures : Nat) (up : Bool)
    (reports : List Bool) (counted : Counted threshold seen failures up reports) :
    Counted threshold (seen ++ [true]) 0 true (if up then reports else reports ++ [true]) := by
  have level : decide (trailing (seen ++ [true]) < threshold) = true := by simpa [trailing_success] using positive
  have watching := watching_seen true up true _ reports counted.watching
  refine ⟨(trailing_success seen).symm, level.symm, ?_⟩
  rw [levels_snoc, level]
  cases up <;> exact watching

theorem counted_failure (threshold : Nat) (seen : List Bool) (failures : Nat) (up : Bool) (reports : List Bool)
    (counted : Counted threshold seen failures up reports) :
    Counted threshold (seen ++ [false]) (failures + 1) (decide (failures + 1 < threshold))
      (if up = true ∧ threshold ≤ failures + 1 then reports ++ [false] else reports) := by
  have longer : trailing (seen ++ [false]) = failures + 1 := by rw [trailing_failure, counted.count]
  have watching := watching_seen true up (decide (failures + 1 < threshold)) _ reports counted.watching
  refine ⟨longer.symm, by rw [longer], ?_⟩
  rw [levels_snoc, longer]
  have level := counted.level
  rw [← counted.count] at level
  by_cases many : threshold ≤ failures + 1
  · have down : decide (failures + 1 < threshold) = false := by simpa using many
    rw [down] at watching ⊢
    cases up <;> simpa [many] using watching
  · have fine : decide (failures + 1 < threshold) = true := by simpa using many
    have before : up = true := by
      rw [level]
      exact decide_eq_true (by omega)
    rw [fine, before] at watching
    simpa [many, fine, before] using watching

end Outage
