import HuddleCluster.Lib.Heapq

set_option autoImplicit false

namespace Heapq

variable {α κ : Type*} [LinearOrder κ]

def Edge (key : α → κ) (heap : List α) (p c : Nat) : Prop :=
  ∀ a b, heap[p]? = some a → heap[c]? = some b → key a ≤ key b

-- Every parent and child at or below the given root position are in order.
def OrderedFrom (key : α → κ) (start : Nat) (heap : List α) : Prop :=
  ∀ c, 0 < c → start ≤ parent c → Edge key heap (parent c) c

def Ordered (key : α → κ) (heap : List α) : Prop := OrderedFrom key 0 heap

-- The positions a walk from the root can reach.
inductive Descends (start : Nat) : Nat → Prop where
  | here : Descends start start
  | down (pos c : Nat) (above : Descends start pos) (positive : 0 < c) (step : parent c = pos) : Descends start c

-- What siftdown needs: only the edge into the walking position may be out of
-- order, and that position's children are already in order with its parent.
structure UpOrder (key : α → κ) (start : Nat) (heap : List α) (pos : Nat) : Prop where
  except : ∀ c, 0 < c → start ≤ parent c → c ≠ pos → Edge key heap (parent c) c
  grand : pos ≠ start → ∀ c, 0 < c → parent c = pos → Edge key heap (parent pos) c

-- What siftup keeps: no edge that touches the walking position is in the way.
structure HoleOrder (key : α → κ) (start : Nat) (heap : List α) (pos : Nat) : Prop where
  except : ∀ c, 0 < c → start ≤ parent c → c ≠ pos → parent c ≠ pos → Edge key heap (parent c) c
  grand : pos ≠ start → ∀ c, 0 < c → parent c = pos → Edge key heap (parent pos) c

theorem parent_lt (c : Nat) (positive : 0 < c) : parent c < c := by
  simp only [parent]
  omega

theorem parent_cases (c pos : Nat) (positive : 0 < c) (step : parent c = pos) : c = 2 * pos + 1 ∨ c = 2 * pos + 2 := by
  simp only [parent] at step
  omega

theorem descends_bound (start pos : Nat) (reached : Descends start pos) : start ≤ pos := by
  induction reached with
  | here => exact Nat.le_refl start
  | down pos c _ positive step ih =>
      have below := parent_lt c positive
      omega

theorem descends_parent (start pos : Nat) (reached : Descends start pos) (moved : pos ≠ start) :
    Descends start (parent pos) ∧ start ≤ parent pos := by
  cases reached with
  | here => exact absurd rfl moved
  | down above _ previous _ step =>
      rw [step]
      exact ⟨previous, descends_bound start above previous⟩

theorem exchange_get (heap : List α) (i j : Nat) (iBound : i < heap.length) (jBound : j < heap.length) (k : Nat) :
    (exchange heap i j)[k]? = if k = j then heap[i]? else if k = i then heap[j]? else heap[k]? := by
  simp only [exchange, List.getElem?_eq_getElem iBound, List.getElem?_eq_getElem jBound]
  by_cases atJ : k = j
  · subst k
    simp [jBound]
  · by_cases atI : k = i
    · subst k
      simp [atJ, Ne.symm atJ, iBound]
    · simp [atJ, atI, Ne.symm atJ, Ne.symm atI]

theorem less_spec (key : α → κ) (heap : List α) (i j : Nat) (smaller : less key heap i j = true) :
    ∃ a b, heap[i]? = some a ∧ heap[j]? = some b ∧ key a < key b := by
  cases left : heap[i]? with
  | none => simp [less, left] at smaller
  | some a =>
      cases right : heap[j]? with
      | none => simp [less, left, right] at smaller
      | some b => exact ⟨a, b, rfl, rfl, by simpa [less, left, right] using smaller⟩

theorem not_less_edge (key : α → κ) (heap : List α) (i j : Nat) (notSmaller : less key heap i j = false) :
    Edge key heap j i := by
  intro a b atJ atI
  simpa [less, atI, atJ] using notSmaller

theorem edge_of_lt (key : α → κ) (heap : List α) (i j : Nat) (a b : α) (atI : heap[i]? = some a)
    (atJ : heap[j]? = some b) (smaller : key a < key b) : Edge key heap i j := by
  intro x y atX atY
  rw [atI] at atX
  rw [atJ] at atY
  cases atX
  cases atY
  exact le_of_lt smaller

-- The value that moves down at a swap is the parent's, so the only edge that
-- can be wrong afterwards is the one above the new position.
theorem up_order_move (key : α → κ) (start : Nat) (heap : List α) (pos : Nat) (reached : Descends start pos)
    (moved : start < pos) (smaller : less key heap pos (parent pos) = true) (order : UpOrder key start heap pos) :
    UpOrder key start (exchange heap pos (parent pos)) (parent pos) := by
  obtain ⟨item, above, atPos, atParent, lower⟩ := less_spec key heap pos (parent pos) smaller
  have posBound := (List.getElem?_eq_some_iff.mp atPos).1
  have parentBound := (List.getElem?_eq_some_iff.mp atParent).1
  have positive : 0 < pos := by omega
  have below := parent_lt pos positive
  have get := exchange_get heap pos (parent pos) posBound parentBound
  have startParent := (descends_parent start pos reached (by omega)).2
  refine ⟨?_, ?_⟩
  · intro c cPositive inside different a b atA atB
    rw [get] at atA atB
    rw [if_neg different] at atB
    by_cases atHole : c = pos
    · -- the edge between the two swapped positions
      subst c
      rw [if_pos rfl, atPos] at atA
      rw [if_pos rfl, atParent] at atB
      cases atA
      cases atB
      exact le_of_lt lower
    · rw [if_neg atHole] at atB
      by_cases child : parent c = pos
      · -- a child of the old position now has the old parent above it
        rw [child, if_neg (by omega), if_pos rfl] at atA
        exact order.grand (by omega) c cPositive child a b atA atB
      · by_cases sibling : parent c = parent pos
        · rw [sibling, if_pos rfl, atPos] at atA
          cases atA
          have old := order.except c cPositive inside atHole above b (by rw [sibling]; exact atParent) atB
          exact le_trans (le_of_lt lower) old
        · rw [if_neg sibling, if_neg child] at atA
          exact order.except c cPositive inside atHole a b atA atB
  · intro notRoot c cPositive child a b atA atB
    have parentPositive : 0 < parent pos := by omega
    have grandBelow := parent_lt (parent pos) parentPositive
    have inside := (descends_parent start (parent pos) (descends_parent start pos reached (by omega)).1 notRoot).2
    rw [get, if_neg (by omega), if_neg (by omega)] at atA
    have upper := order.except (parent pos) parentPositive inside (by omega) a above atA atParent
    have cBelow := parent_lt c cPositive
    rw [get, if_neg (by omega)] at atB
    by_cases atHole : c = pos
    · rw [if_pos atHole, atParent] at atB
      cases atB
      exact upper
    · rw [if_neg atHole] at atB
      have old := order.except c cPositive (by rw [child]; exact startParent) atHole above b (by rw [child]; exact atParent) atB
      exact le_trans upper old

theorem up_order_done (key : α → κ) (start : Nat) (heap : List α) (pos : Nat)
    (closed : start < pos → Edge key heap (parent pos) pos) (order : UpOrder key start heap pos) : OrderedFrom key start heap := by
  intro c positive inside
  by_cases same : c = pos
  · subst c
    have below := parent_lt pos positive
    exact closed (by omega)
  · exact order.except c positive inside same

theorem siftdown_ordered (key : α → κ) (start fuel : Nat) (heap : List α) (pos : Nat) (enough : pos ≤ fuel)
    (reached : Descends start pos) (order : UpOrder key start heap pos) :
    OrderedFrom key start (siftdown key start fuel heap pos) := by
  induction fuel generalizing heap pos with
  | zero => exact up_order_done key start heap pos (fun moved => by omega) order
  | succ fuel ih =>
      rw [siftdown]
      split
      · rename_i going
        have below := parent_lt pos (by omega)
        exact ih _ _ (by omega) (descends_parent start pos reached (by omega)).1
          (up_order_move key start heap pos reached going.1 going.2 order)
      · rename_i stopped
        refine up_order_done key start heap pos (fun moved => ?_) order
        apply not_less_edge
        simpa [moved] using stopped

theorem smaller_child_spec (key : α → κ) (heap : List α) (pos : Nat) (bound : 2 * pos + 1 < heap.length) :
    0 < smallerChild key heap pos ∧ parent (smallerChild key heap pos) = pos ∧
      smallerChild key heap pos < heap.length ∧ ∀ c, 0 < c → parent c = pos → Edge key heap (smallerChild key heap pos) c := by
  simp only [smallerChild]
  split
  · rename_i right
    refine ⟨by omega, by unfold parent; omega, right.1, ?_⟩
    intro c positive child a b atA atB
    rcases parent_cases c pos positive child with left | same
    · subst c
      exact not_less_edge key heap _ _ right.2 a b atA atB
    · subst c
      rw [atA] at atB
      cases atB
      exact le_refl _
  · rename_i left
    refine ⟨by omega, by unfold parent; omega, bound, ?_⟩
    intro c positive child a b atA atB
    rcases parent_cases c pos positive child with same | right
    · subst c
      rw [atA] at atB
      cases atB
      exact le_refl _
    · subst c
      have inside := (List.getElem?_eq_some_iff.mp atB).1
      have smaller : less key heap (2 * pos + 1) (2 * pos + 2) = true := by
        by_contra different
        exact left ⟨inside, by simpa using different⟩
      obtain ⟨x, y, atX, atY, lower⟩ := less_spec key heap _ _ smaller
      exact edge_of_lt key heap _ _ x y atX atY lower a b atA atB

theorem hole_order_move (key : α → κ) (start : Nat) (heap : List α) (pos : Nat) (reached : Descends start pos)
    (bound : 2 * pos + 1 < heap.length) (order : HoleOrder key start heap pos) :
    HoleOrder key start (exchange heap pos (smallerChild key heap pos)) (smallerChild key heap pos) := by
  obtain ⟨childPositive, childOf, childBound, smallest⟩ := smaller_child_spec key heap pos bound
  generalize smallerChild key heap pos = child at childPositive childOf childBound smallest ⊢
  have below := parent_lt child childPositive
  have get := exchange_get heap pos child (by omega) childBound
  refine ⟨?_, ?_⟩
  · intro c positive inside notChild notUnder a b atA atB
    have cBelow := parent_lt c positive
    rw [get, if_neg notUnder] at atA
    rw [get, if_neg notChild] at atB
    by_cases under : parent c = pos
    · -- the other child, against the smaller one that moved up
      rw [if_pos under] at atA
      rw [if_neg (by omega)] at atB
      exact smallest c positive under a b atA atB
    · rw [if_neg under] at atA
      by_cases into : c = pos
      · -- the edge above the walking position, against its old child
        subst c
        rw [if_pos rfl] at atB
        have notRoot : pos ≠ start := by omega
        exact order.grand notRoot child childPositive childOf a b atA atB
      · rw [if_neg into] at atB
        exact order.except c positive inside into under a b atA atB
  · intro _ c positive under a b atA atB
    have cBelow := parent_lt c positive
    rw [get, if_neg (by omega), if_pos childOf] at atA
    rw [get, if_neg (by omega), if_neg (by omega)] at atB
    have inside := descends_bound start pos reached
    have edge := order.except c positive (by omega) (by omega) (by omega) a b
    rw [under] at edge
    exact edge atA atB

theorem hole_order_leaf (key : α → κ) (start : Nat) (heap : List α) (pos : Nat)
    (leaf : ¬ 2 * pos + 1 < heap.length) (order : HoleOrder key start heap pos) : UpOrder key start heap pos := by
  refine ⟨?_, order.grand⟩
  intro c positive inside different a b atA atB
  by_cases under : parent c = pos
  · have cBound := (List.getElem?_eq_some_iff.mp atB).1
    have cases := parent_cases c pos positive under
    omega
  · exact order.except c positive inside different under a b atA atB

theorem siftup_ordered (key : α → κ) (start fuel : Nat) (heap : List α) (pos : Nat) (enough : heap.length ≤ pos + fuel)
    (reached : Descends start pos) (order : HoleOrder key start heap pos) :
    OrderedFrom key start (siftup key start fuel heap pos) := by
  induction fuel generalizing heap pos with
  | zero =>
      exact siftdown_ordered key start pos heap pos (Nat.le_refl pos) reached
        (hole_order_leaf key start heap pos (by omega) order)
  | succ fuel ih =>
      rw [siftup]
      split
      · rename_i bound
        obtain ⟨childPositive, childOf, _, _⟩ := smaller_child_spec key heap pos bound
        have below := parent_lt _ childPositive
        refine ih _ _ ?_ (.down pos _ reached childPositive childOf) (hole_order_move key start heap pos reached bound order)
        rw [exchange_length]
        omega
      · rename_i leaf
        exact siftdown_ordered key start pos heap pos (Nat.le_refl pos) reached (hole_order_leaf key start heap pos leaf order)

theorem heappush_ordered (key : α → κ) (heap : List α) (item : α) (ordered : Ordered key heap) :
    Ordered key (heappush key heap item) := by
  have reached : ∀ pos, Descends 0 pos := by
    intro pos
    induction pos using Nat.strong_induction_on with
    | _ pos ih =>
        rcases Nat.eq_zero_or_pos pos with zero | positive
        · rw [zero]
          exact .here
        · exact .down (parent pos) pos (ih _ (parent_lt pos positive)) positive rfl
  refine siftdown_ordered key 0 heap.length _ heap.length (Nat.le_refl _) (reached _) ⟨?_, ?_⟩
  · intro c positive _ different a b atA atB
    have cBound := (List.getElem?_eq_some_iff.mp atB).1
    have below := parent_lt c positive
    simp only [List.length_append, List.length_singleton] at cBound
    rw [List.getElem?_append_left (by omega)] at atA atB
    exact ordered c positive (Nat.zero_le _) a b atA atB
  · intro _ c positive under a b _ atB
    have cBound := (List.getElem?_eq_some_iff.mp atB).1
    have below := parent_lt c positive
    simp only [List.length_append, List.length_singleton] at cBound
    omega

theorem heappop_ordered (key : α → κ) (heap rest : List α) (item : α) (popped : heappop key heap = some (item, rest))
    (ordered : Ordered key heap) : Ordered key rest := by
  match heap, popped with
  | [only], popped =>
      simp only [heappop, Option.some.injEq, Prod.mk.injEq] at popped
      rw [← popped.2]
      intro c _ _ a b atA
      simp at atA
  | top :: next :: tail, popped =>
      simp only [heappop, Option.some.injEq, Prod.mk.injEq] at popped
      rw [← popped.2]
      refine siftup_ordered key 0 _ _ 0 (by omega) .here ⟨?_, fun moved => absurd rfl moved⟩
      intro c positive _ _ notTop a b atA atB
      -- off the root the moved list is the old one without its last element
      have old : ∀ k x, 0 < k → (((next :: tail).getLast (by simp)) :: (next :: tail).dropLast)[k]? = some x →
          (top :: next :: tail)[k]? = some x := by
        intro k x kPositive atK
        obtain ⟨j, rfl⟩ := Nat.exists_eq_succ_of_ne_zero (by omega : k ≠ 0)
        simp only [Nat.succ_eq_add_one, List.getElem?_cons_succ] at atK ⊢
        rw [List.getElem?_dropLast] at atK
        split at atK
        · exact atK
        · cases atK
      exact ordered c positive (Nat.zero_le _) a b (old _ a (by omega) atA) (old c b positive atB)

theorem heapify_ordered (key : α → κ) (heap : List α) : Ordered key (heapify key heap) := by
  have loop : ∀ (count : Nat) (state : List α), OrderedFrom key count state →
      Ordered key ((List.range count).reverse.foldl (fun state pos => siftup key pos state.length state pos) state) := by
    intro count
    induction count with
    | zero => exact fun state ordered => ordered
    | succ count ih =>
        intro state ordered
        rw [List.range_succ, List.reverse_append, List.reverse_singleton, List.singleton_append, List.foldl_cons]
        refine ih _ (siftup_ordered key count _ state count (by omega) .here ⟨?_, fun moved => absurd rfl moved⟩)
        intro c positive inside _ notUnder
        exact ordered c positive (by omega)
  refine loop (heap.length / 2) heap ?_
  -- the positions from the half on are leaves
  intro c positive inside a b _ atB
  have cBound := (List.getElem?_eq_some_iff.mp atB).1
  simp only [parent] at inside
  omega

theorem ordered_head (key : α → κ) (heap : List α) (item : α) (ordered : Ordered key heap) (head : heap.head? = some item)
    (other : α) (member : other ∈ heap) : key item ≤ key other := by
  obtain ⟨pos, found⟩ := List.mem_iff_getElem?.mp member
  rw [List.head?_eq_getElem?] at head
  induction pos using Nat.strong_induction_on generalizing other with
  | _ pos ih =>
      rcases Nat.eq_zero_or_pos pos with zero | positive
      · rw [zero, head] at found
        cases found
        exact le_refl _
      · have posBound := (List.getElem?_eq_some_iff.mp found).1
        have below := parent_lt pos positive
        have atParent := List.getElem?_eq_getElem (l := heap) (i := parent pos) (by omega)
        have upper := ih (parent pos) below _ (List.getElem_mem _) atParent
        exact le_trans upper (ordered pos positive (Nat.zero_le _) _ other atParent found)

-- Keys that changed in place fit their neighbours: whoever got a new key is not
-- below its parent or above a child.
def Fits (old new : α → κ) (heap : List α) : Prop :=
  ∀ c < heap.length, 0 < c → ∀ a ∈ heap[parent c]?, ∀ b ∈ heap[c]?, new a = old a ∧ new b = old b ∨ new a ≤ new b

instance (old new : α → κ) (heap : List α) : Decidable (Fits old new heap) := by
  simp only [Fits]
  infer_instance

theorem fits_ordered (old new : α → κ) (heap : List α) (fits : Fits old new heap) (ordered : Ordered old heap) :
    Ordered new heap := by
  intro c positive inside a b atA atB
  have bound := (List.getElem?_eq_some_iff.mp atB).1
  rcases fits c bound positive a atA b atB with same | fitted
  · rw [same.1, same.2]
    exact ordered c positive inside a b atA atB
  · exact fitted

theorem ordered_congr (old new : α → κ) (heap : List α) (same : ∀ x ∈ heap, new x = old x) (ordered : Ordered old heap) :
    Ordered new heap := by
  intro c positive inside a b atA atB
  rw [same a (List.mem_of_getElem? atA), same b (List.mem_of_getElem? atB)]
  exact ordered c positive inside a b atA atB

end Heapq
