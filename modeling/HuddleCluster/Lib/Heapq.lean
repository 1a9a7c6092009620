import Mathlib

set_option autoImplicit false

-- Python's heapq on a list, compared by a key. The loops are those of the
-- standard library: siftdown walks from a position towards the root, siftup
-- walks to a leaf along the smaller children and then back up.
namespace Heapq

variable {α κ : Type*} [LinearOrder κ]

def parent (pos : Nat) : Nat := (pos - 1) / 2

def exchange (heap : List α) (i j : Nat) : List α :=
  match heap[i]?, heap[j]? with
  | some a, some b => (heap.set i b).set j a
  | _, _ => heap

def less (key : α → κ) (heap : List α) (i j : Nat) : Bool :=
  match heap[i]?, heap[j]? with
  | some a, some b => decide (key a < key b)
  | _, _ => false

-- The fuel is the position itself, which every turn of the loop lowers.
def siftdown (key : α → κ) (start : Nat) : Nat → List α → Nat → List α
  | 0, heap, _ => heap
  | fuel + 1, heap, pos =>
      if start < pos ∧ less key heap pos (parent pos) = true then
        siftdown key start fuel (exchange heap pos (parent pos)) (parent pos)
      else heap

def smallerChild (key : α → κ) (heap : List α) (pos : Nat) : Nat :=
  if 2 * pos + 2 < heap.length ∧ less key heap (2 * pos + 1) (2 * pos + 2) = false then 2 * pos + 2 else 2 * pos + 1

-- The fuel is the length, which the position stays below while it grows.
def siftup (key : α → κ) (start : Nat) : Nat → List α → Nat → List α
  | 0, heap, pos => siftdown key start pos heap pos
  | fuel + 1, heap, pos =>
      if 2 * pos + 1 < heap.length then
        let child := smallerChild key heap pos
        siftup key start fuel (exchange heap pos child) child
      else siftdown key start pos heap pos

def heappush (key : α → κ) (heap : List α) (item : α) : List α :=
  siftdown key 0 heap.length (heap ++ [item]) heap.length

def heappop (key : α → κ) : List α → Option (α × List α)
  | [] => none
  | [item] => some (item, [])
  | item :: next :: rest =>
      let moved := (next :: rest).getLast (by simp) :: (next :: rest).dropLast
      some (item, siftup key 0 moved.length moved 0)

-- The items that so many pops take out, in their order.
def pops (key : α → κ) : Nat → List α → List α
  | 0, _ => []
  | count + 1, heap =>
      match heappop key heap with
      | none => []
      | some (item, rest) => item :: pops key count rest

def heapify (key : α → κ) (heap : List α) : List α :=
  (List.range (heap.length / 2)).reverse.foldl (fun state pos => siftup key pos state.length state pos) heap

theorem exchange_perm (heap : List α) (i j : Nat) : (exchange heap i j).Perm heap := by
  cases left : heap[i]? with
  | none => simp [exchange, left]
  | some a =>
      cases right : heap[j]? with
      | none => simp [exchange, left, right]
      | some b =>
          obtain ⟨iBound, rfl⟩ := List.getElem?_eq_some_iff.mp left
          obtain ⟨jBound, rfl⟩ := List.getElem?_eq_some_iff.mp right
          simpa only [exchange, left, right] using List.set_set_perm iBound jBound

theorem exchange_length (heap : List α) (i j : Nat) : (exchange heap i j).length = heap.length :=
  (exchange_perm heap i j).length_eq

theorem siftdown_perm (key : α → κ) (start fuel : Nat) (heap : List α) (pos : Nat) :
    (siftdown key start fuel heap pos).Perm heap := by
  induction fuel generalizing heap pos with
  | zero => exact .refl heap
  | succ fuel ih =>
      rw [siftdown]
      split
      · exact (ih _ _).trans (exchange_perm heap pos (parent pos))
      · exact .refl heap

theorem siftup_perm (key : α → κ) (start fuel : Nat) (heap : List α) (pos : Nat) :
    (siftup key start fuel heap pos).Perm heap := by
  induction fuel generalizing heap pos with
  | zero => exact siftdown_perm key start pos heap pos
  | succ fuel ih =>
      rw [siftup]
      split
      · exact (ih _ _).trans (exchange_perm heap pos _)
      · exact siftdown_perm key start pos heap pos

theorem heappush_perm (key : α → κ) (heap : List α) (item : α) : (heappush key heap item).Perm (item :: heap) :=
  (siftdown_perm key 0 heap.length (heap ++ [item]) heap.length).trans (List.perm_append_singleton item heap)

theorem heappop_perm (key : α → κ) (heap rest : List α) (item : α) (popped : heappop key heap = some (item, rest)) :
    heap.Perm (item :: rest) := by
  match heap, popped with
  | [only], popped =>
      simp only [heappop, Option.some.injEq, Prod.mk.injEq] at popped
      rw [popped.1, ← popped.2]
  | top :: next :: tail, popped =>
      simp only [heappop, Option.some.injEq, Prod.mk.injEq] at popped
      rw [← popped.1, ← popped.2]
      refine List.Perm.cons top ?_
      refine List.Perm.trans ?_ (siftup_perm key 0 _ _ 0).symm
      have whole := List.dropLast_append_getLast (l := next :: tail) (by simp)
      conv_lhs => rw [← whole]
      exact List.perm_append_singleton _ _

theorem heappop_length (key : α → κ) (heap rest : List α) (item : α) (popped : heappop key heap = some (item, rest)) :
    rest.length + 1 = heap.length := (heappop_perm key heap rest item popped).length_eq.symm

theorem heappop_head (key : α → κ) (item top : α) (rest left : List α) (popped : heappop key (item :: rest) = some (top, left)) :
    top = item := by
  cases rest <;> simp [heappop] at popped <;> exact popped.1.symm

theorem heappop_cons (key : α → κ) (item : α) (rest : List α) : ∃ left, heappop key (item :: rest) = some (item, left) := by
  cases rest <;> exact ⟨_, rfl⟩

theorem pops_perm (key : α → κ) (count : Nat) (heap : List α) (enough : heap.length ≤ count) : (pops key count heap).Perm heap := by
  induction count generalizing heap with
  | zero => exact (List.length_eq_zero_iff.mp (Nat.le_zero.mp enough)) ▸ .refl _
  | succ count ih =>
      cases heap with
      | nil => exact .refl _
      | cons item rest =>
          obtain ⟨left, popped⟩ := heappop_cons key item rest
          have shorter := heappop_length key _ left item popped
          rw [pops, popped]
          exact ((ih left (by omega)).cons item).trans (heappop_perm key _ left item popped).symm

theorem heapify_perm (key : α → κ) (heap : List α) : (heapify key heap).Perm heap := by
  have loop : ∀ (positions : List Nat) (state : List α),
      (positions.foldl (fun state pos => siftup key pos state.length state pos) state).Perm state := by
    intro positions
    induction positions with
    | nil => exact fun state => .refl state
    | cons pos tail ih => exact fun state => (ih _).trans (siftup_perm key pos state.length state pos)
  exact loop _ heap

end Heapq
