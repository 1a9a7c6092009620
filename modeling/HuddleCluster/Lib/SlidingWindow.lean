import Mathlib

set_option autoImplicit false

namespace SlidingWindow

structure Start (κ : Type*) where
  time : κ
  limit : Int
deriving DecidableEq, Repr

variable {κ : Type*}

def peak (starts : List (Start κ)) : Int := (starts.map Start.limit).foldr max 0

theorem limit_le_peak (starts : List (Start κ)) (start : Start κ) (member : start ∈ starts) : start.limit ≤ peak starts := by
  induction starts with
  | nil => cases member
  | cons first rest ih =>
      rcases List.mem_cons.mp member with same | later
      · exact same ▸ le_max_left _ _
      · exact le_trans (ih later) (le_max_right _ _)

variable [LinearOrder κ]

def recent (edge : κ) (starts : List (Start κ)) : List (Start κ) := starts.filter fun start => decide (edge < start.time)

theorem recent_recent (edge later : κ) (starts : List (Start κ)) (order : edge ≤ later) :
    recent later (recent edge starts) = recent later starts := by
  rw [recent, recent, List.filter_filter]
  refine List.filter_congr fun start _ => ?_
  by_cases after : later < start.time
  · simp [after, lt_of_le_of_lt order after]
  · simp [after]

variable [AddCommGroup κ] [IsOrderedAddMonoid κ]

def window (length now : κ) (starts : List (Start κ)) : List (Start κ) :=
  starts.filter fun start => decide (now - length < start.time ∧ start.time ≤ now)

-- Each start has found room under its own limit. It takes place when the check
-- is over, and the clock may have moved on.
inductive Admitted (length : κ) : List (Start κ) → Prop where
  | nil : Admitted length []
  | snoc (starts : List (Start κ)) (start : Start κ) (checked : κ) (before : Admitted length starts) (order : checked ≤ start.time)
      (room : ((recent (checked - length) starts).length : Int) < start.limit) : Admitted length (starts ++ [start])

def Keeps (length now : κ) (starts : List (Start κ)) (kept : List κ) : Prop :=
  ∃ edge, edge ≤ now - length ∧ kept = (recent edge starts).map Start.time

-- A window that ends after the check holds nothing the check did not see.
theorem window_seen (length now checked : κ) (starts : List (Start κ)) (order : checked ≤ now) :
    (window length now starts).length ≤ (recent (checked - length) starts).length := by
  refine (List.monotone_filter_right starts fun start inside => ?_).length_le
  simp only [decide_eq_true_eq] at inside ⊢
  exact lt_of_le_of_lt (sub_le_sub_right order length) inside.1

theorem admitted_bounded (length : κ) (starts : List (Start κ)) (admitted : Admitted length starts) (now : κ) :
    ((window length now starts).length : Int) ≤ peak (window length now starts) := by
  induction admitted with
  | nil => exact le_refl 0
  | snoc starts start checked _ order room ih =>
      by_cases inside : now - length < start.time ∧ start.time ≤ now
      · have split : window length now (starts ++ [start]) = window length now starts ++ [start] := by
          rw [window, List.filter_append, window]
          congr 1
          simp [inside]
        have seen := window_seen length now checked starts (le_trans order inside.2)
        have top : start.limit ≤ peak (window length now (starts ++ [start])) := by
          rw [split]
          exact limit_le_peak _ start (by simp)
        refine le_trans ?_ top
        rw [split, List.length_append, List.length_singleton]
        push_cast
        omega
      · have same : window length now (starts ++ [start]) = window length now starts := by
          rw [window, List.filter_append, window]
          simp [inside]
        rw [same]
        exact ih

theorem keeps_prune (length now later : κ) (starts : List (Start κ)) (kept : List κ) (keeps : Keeps length now starts kept)
    (order : now ≤ later) : (kept.filter fun time => decide (later - length < time)) =
    (recent (later - length) starts).map Start.time := by
  obtain ⟨edge, below, rfl⟩ := keeps
  rw [List.filter_map, ← recent_recent edge (later - length) starts (le_trans below (sub_le_sub_right order length))]
  rfl

theorem keeps_later (length now later : κ) (starts : List (Start κ)) (kept : List κ) (keeps : Keeps length now starts kept)
    (order : now ≤ later) : Keeps length later starts kept := by
  obtain ⟨edge, below, same⟩ := keeps
  exact ⟨edge, le_trans below (sub_le_sub_right order length), same⟩

theorem keeps_snoc (length now : κ) (positive : 0 < length) (starts : List (Start κ)) (start : Start κ) (order : now ≤ start.time) :
    Keeps length now (starts ++ [start]) ((recent (now - length) starts).map Start.time ++ [start.time]) := by
  have inside : now - length < start.time := lt_of_lt_of_le (sub_lt_self now positive) order
  refine ⟨now - length, le_refl _, ?_⟩
  rw [recent, recent, List.filter_append, List.map_append]
  simp [inside]

end SlidingWindow
