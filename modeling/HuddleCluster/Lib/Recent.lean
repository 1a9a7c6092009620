import HuddleCluster.Lib.OrderStatistics

set_option autoImplicit false

-- A history of which only the last entries are kept.
namespace Recent

variable {α : Type*}

def last (size : Nat) (items : List α) : List α := items.drop (items.length - size)

@[simp] theorem last_nil (size : Nat) : last size ([] : List α) = [] := List.drop_nil

theorem last_length (size : Nat) (items : List α) : (last size items).length = min size items.length := by
  simp only [last, List.length_drop]
  omega

theorem last_whole (size : Nat) (items : List α) (few : items.length ≤ size) : last size items = items := by
  rw [last, Nat.sub_eq_zero_of_le few, List.drop_zero]

theorem last_last (few size : Nat) (fewer : few ≤ size) (items : List α) : last few (last size items) = last few items := by
  rw [last, last_length, last, List.drop_drop, last]
  congr 1
  omega

theorem last_snoc (size : Nat) (items : List α) (item : α) : last size (last size items ++ [item]) = last size (items ++ [item]) := by
  have length := last_length size items
  by_cases few : items.length ≤ size
  · rw [last_whole size items few]
  · have full : (last size items).length = size := by omega
    have start : items.length - size ≤ items.length := Nat.sub_le _ _
    rw [last, List.length_append, full, last, last, ← List.drop_append_of_le_length start, List.drop_drop]
    congr 1
    simp only [List.length_append, List.length_singleton]
    omega

theorem last_trimmed (size : Nat) (items : List α) (item : α) :
    (if size < (last size items ++ [item]).length then (last size items ++ [item]).drop 1 else last size items ++ [item]) =
      last size (items ++ [item]) := by
  have length := last_length size items
  rw [← last_snoc]
  split
  · rename_i full
    rw [List.length_append, List.length_singleton] at full
    have one : (last size items ++ [item]).length - size = 1 := by
      rw [List.length_append, List.length_singleton]
      omega
    exact (congrArg (fun extra => (last size items ++ [item]).drop extra) one).symm
  · rename_i room
    exact (last_whole size _ (not_lt.mp room)).symm

theorem push_window_last (size : Nat) (items : List α) (item : α) :
    Statistics.pushWindow size (last size items) item = last size (items ++ [item]) := by
  have length : (last size items ++ [item]).length = (last size items).length + 1 := by simp
  rw [← last_snoc, Statistics.pushWindow, ← length]
  rfl

end Recent
