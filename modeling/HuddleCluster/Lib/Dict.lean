import Mathlib

set_option autoImplicit false

-- A mapping with distinct keys in insertion order. Assigning to a key that is
-- present keeps its place; a new key goes to the end.
@[ext] structure Dict (κ ν : Type*) where
  entries : List (κ × ν)
  nodup : (entries.map Prod.fst).Nodup

namespace Dict

variable {κ ν μ : Type*} [DecidableEq κ]

def empty : Dict κ ν := ⟨[], List.nodup_nil⟩

instance : Inhabited (Dict κ ν) := ⟨empty⟩

def get? (dict : Dict κ ν) (key : κ) : Option ν := (dict.entries.find? fun entry => entry.1 = key).map Prod.snd

def getD (dict : Dict κ ν) (key : κ) (fallback : ν) : ν := (dict.get? key).getD fallback

def contains (dict : Dict κ ν) (key : κ) : Bool := (dict.get? key).isSome

def values (dict : Dict κ ν) : List ν := dict.entries.map Prod.snd

def map (f : κ → ν → μ) (dict : Dict κ ν) : Dict κ μ where
  entries := dict.entries.map fun entry => (entry.1, f entry.1 entry.2)
  nodup := by simpa [List.map_map, Function.comp_def] using dict.nodup

def filter (keep : κ → ν → Bool) (dict : Dict κ ν) : Dict κ ν where
  entries := dict.entries.filter fun entry => keep entry.1 entry.2
  nodup := dict.nodup.sublist (List.filter_sublist.map Prod.fst)

def erase (dict : Dict κ ν) (key : κ) : Dict κ ν := dict.filter fun other _ => decide (other ≠ key)

def insertNew (dict : Dict κ ν) (key : κ) (value : ν) (fresh : key ∉ dict.entries.map Prod.fst) : Dict κ ν where
  entries := dict.entries ++ [(key, value)]
  nodup := by
    rw [List.map_append, List.nodup_append]
    refine ⟨dict.nodup, by simp, ?_⟩
    intro a member b single same
    simp only [List.map_cons, List.map_nil, List.mem_singleton] at single
    exact fresh (single ▸ same ▸ member)

def set (dict : Dict κ ν) (key : κ) (value : ν) : Dict κ ν :=
  if fresh : key ∉ dict.entries.map Prod.fst then dict.insertNew key value fresh
  else dict.map fun other old => if other = key then value else old

-- What a list of entries has for a key. A later entry replaces an earlier one.
def last? : List (κ × ν) → κ → Option ν
  | [], _ => none
  | (other, value) :: tail, key => (last? tail key).or (if other = key then some value else none)

-- A loop that assigns the given entries one after the other.
def assign (entries : List (κ × ν)) (dict : Dict κ ν) : Dict κ ν :=
  entries.foldl (fun state entry => state.set entry.1 entry.2) dict

-- The dictionary of the given entries, each value computed from its key and what
-- stands there. It does not exist when one of the values does not.
def build (f : κ → ν → Option μ) (entries : List (κ × ν)) : Option (Dict κ μ) :=
  entries.foldlM (fun dict entry => (f entry.1 entry.2).map (dict.set entry.1)) empty

theorem get_mem (dict : Dict κ ν) (key : κ) (value : ν) : dict.get? key = some value ↔ (key, value) ∈ dict.entries := by
  obtain ⟨entries, nodup⟩ := dict
  simp only [get?]
  induction entries with
  | nil => simp
  | cons entry tail ih =>
      obtain ⟨other, old⟩ := entry
      simp only [List.map_cons, List.nodup_cons] at nodup
      by_cases same : other = key
      · subst other
        simp only [List.find?_cons, decide_true, Option.map_some, Option.some.injEq, List.mem_cons, Prod.mk.injEq, true_and]
        constructor
        · exact fun equal => Or.inl equal.symm
        · rintro (equal | later)
          · exact equal.symm
          · exact absurd (List.mem_map.mpr ⟨_, later, rfl⟩) nodup.1
      · simp only [List.find?_cons, decide_eq_false same, List.mem_cons, Prod.mk.injEq, Ne.symm same, false_and, false_or]
        exact ih nodup.2

theorem get_none (dict : Dict κ ν) (key : κ) : dict.get? key = none ↔ key ∉ dict.entries.map Prod.fst := by
  simp only [get?, Option.map_eq_none_iff, List.find?_eq_none, decide_eq_true_eq, List.mem_map, not_exists, not_and]

@[simp] theorem get_empty (key : κ) : (empty : Dict κ ν).get? key = none := rfl

@[simp] theorem get_map (f : κ → ν → μ) (dict : Dict κ ν) (key : κ) :
    (dict.map f).get? key = (dict.get? key).map (f key) := by
  simp only [get?, map, List.find?_map, Option.map_map, Function.comp_def]
  cases found : dict.entries.find? (fun entry => decide (entry.1 = key)) with
  | none => rfl
  | some entry =>
      have same : entry.1 = key := by simpa using List.find?_some found
      simp [same]

@[simp] theorem get_filter (keep : κ → ν → Bool) (dict : Dict κ ν) (key : κ) :
    (dict.filter keep).get? key = (dict.get? key).filter (keep key) := by
  apply Option.ext
  intro value
  rw [get_mem, Option.filter_eq_some_iff, get_mem]
  simp [filter]

@[simp] theorem get_erase (dict : Dict κ ν) (key query : κ) :
    (dict.erase key).get? query = if query = key then none else dict.get? query := by
  rw [erase, get_filter]
  by_cases same : query = key
  · simp [same]
  · cases dict.get? query <;> simp [same]

@[simp] theorem get_set (dict : Dict κ ν) (key query : κ) (value : ν) :
    (dict.set key value).get? query = if query = key then some value else dict.get? query := by
  simp only [set]
  split
  · rename_i fresh
    have absent := (get_none dict key).mpr fresh
    by_cases same : query = key
    · subst query
      rw [if_pos rfl, get_mem]
      simp [insertNew]
    · rw [if_neg same]
      apply Option.ext
      intro found
      rw [get_mem, get_mem]
      simp [insertNew, same]
  · rename_i present
    rw [get_map]
    by_cases same : query = key
    · subst query
      have there : dict.get? key ≠ none := fun absent => present ((get_none dict key).mp absent)
      obtain ⟨old, found⟩ := Option.ne_none_iff_exists'.mp there
      simp [found]
    · simp [same]

@[simp] theorem set_set (dict : Dict κ ν) (key : κ) (first second : ν) : (dict.set key first).set key second = dict.set key second := by
  by_cases fresh : key ∉ dict.entries.map Prod.fst
  · have untouched : dict.entries.map (fun entry => (entry.1, if entry.1 = key then second else entry.2)) = dict.entries := by
      refine (List.map_congr_left fun entry member => ?_).trans (List.map_id dict.entries)
      rw [if_neg fun same => fresh (List.mem_map.mpr ⟨entry, member, same⟩)]
      rfl
    apply Dict.ext
    simpa [set, fresh, insertNew, map] using untouched
  · apply Dict.ext
    simp only [set, dif_neg fresh, map]
    rw [not_not] at fresh
    simp only [List.map_map, Function.comp_def, fresh, not_true, dite_false, List.map_inj_left, Prod.mk.injEq, true_and]
    intro entry _
    split <;> rfl

theorem entries_set_new (dict : Dict κ ν) (key : κ) (value : ν) (fresh : key ∉ dict.entries.map Prod.fst) :
    (dict.set key value).entries = dict.entries ++ [(key, value)] := by
  simp [set, fresh, insertNew]

theorem mem_values (dict : Dict κ ν) (value : ν) : value ∈ dict.values ↔ ∃ key, dict.get? key = some value := by
  simp only [values, List.mem_map, get_mem]
  constructor
  · rintro ⟨⟨key, found⟩, member, rfl⟩
    exact ⟨key, member⟩
  · rintro ⟨key, member⟩
    exact ⟨(key, value), member, rfl⟩

theorem values_set_new (dict : Dict κ ν) (key : κ) (value : ν) (absent : dict.get? key = none) :
    (dict.set key value).values = dict.values ++ [value] := by
  have fresh := (get_none dict key).mp absent
  simp [set, fresh, insertNew, values]

theorem values_erase (dict : Dict κ ν) (key : κ) (value : ν) (found : dict.get? key = some value) :
    dict.values.Perm (value :: (dict.erase key).values) := by
  have member := (get_mem dict key value).mp found
  obtain ⟨entries, nodup⟩ := dict
  simp only [values, erase, filter] at *
  induction entries with
  | nil => simp at member
  | cons entry tail ih =>
      rw [List.map_cons, List.nodup_cons] at nodup
      rcases List.mem_cons.mp member with rfl | later
      · have rest : tail.filter (fun entry => decide (entry.1 ≠ key)) = tail := by
          rw [List.filter_eq_self]
          intro other inside
          simp only [decide_eq_true_eq]
          exact fun same => nodup.1 (List.mem_map.mpr ⟨other, inside, same⟩)
        rw [List.filter_cons_of_neg (by simp), rest, List.map_cons]
      · have different : entry.1 ≠ key := fun same => nodup.1 (List.mem_map.mpr ⟨_, later, same.symm⟩)
        rw [List.filter_cons_of_pos (by simp [different]), List.map_cons, List.map_cons]
        have kept := ih nodup.2 ((get_mem ⟨tail, nodup.2⟩ key value).mpr later) later
        exact (kept.cons entry.2).trans (.swap _ _ _)

theorem get_assign (entries : List (κ × ν)) (dict : Dict κ ν) (key : κ) :
    (assign entries dict).get? key = (last? entries key).or (dict.get? key) := by
  induction entries generalizing dict with
  | nil => rfl
  | cons entry tail ih =>
      rw [assign, List.foldl_cons, ← assign, ih, get_set, last?]
      cases last? tail key with
      | some value => rfl
      | none => by_cases same : entry.1 = key <;> simp [same, Ne.symm]

theorem mem_of_last (entries : List (κ × ν)) (key : κ) (value : ν) (found : last? entries key = some value) :
    (key, value) ∈ entries := by
  induction entries with
  | nil => cases found
  | cons entry tail ih =>
      rw [last?, Option.or_eq_some_iff] at found
      rcases found with later | ⟨_, here⟩
      · exact List.mem_cons_of_mem entry (ih later)
      · split at here
        · rename_i same
          cases here
          exact same ▸ List.mem_cons_self
        · cases here

theorem last_find {ι : Type*} (items : List ι) (name : ι → κ) (value : ι → ν) (key : κ) :
    last? (items.map fun item => (name item, value item)) key =
      (items.reverse.find? fun item => decide (name item = key)).map value := by
  induction items with
  | nil => rfl
  | cons item tail ih =>
      rw [List.map_cons, last?, ih, List.reverse_cons, List.find?_append]
      cases tail.reverse.find? fun item => decide (name item = key) with
      | some found => rfl
      | none => by_cases same : name item = key <;> simp [same]

theorem assign_entries (dict : Dict κ ν) : assign dict.entries empty = dict := by
  obtain ⟨entries, nodup⟩ := dict
  suffices general : ∀ start : Dict κ ν, (∀ key ∈ entries.map Prod.fst, key ∉ start.entries.map Prod.fst) →
      (assign entries start).entries = start.entries ++ entries by
    exact Dict.ext (general empty (by simp [empty]))
  induction entries with
  | nil => exact fun start _ => (List.append_nil start.entries).symm
  | cons entry tail ih =>
      intro start disjoint
      rw [List.map_cons, List.nodup_cons] at nodup
      have grown := entries_set_new start entry.1 entry.2 (disjoint entry.1 (by simp))
      rw [assign, List.foldl_cons, ← assign, ih nodup.2 (start.set entry.1 entry.2), grown, List.append_assoc, List.singleton_append]
      intro key member
      have other : key ≠ entry.1 := fun equal => nodup.1 (equal ▸ member)
      have absent := disjoint key (List.mem_cons_of_mem _ member)
      simp only [grown, List.map_append, List.mem_append, not_or]
      exact ⟨absent, by simpa using other⟩

theorem last_entries (dict : Dict κ ν) (key : κ) : last? dict.entries key = dict.get? key := by
  have whole := congrArg (fun made => made.get? key) (assign_entries dict)
  simpa only [get_assign, get_empty, Option.or_none] using whole

theorem build_total (f : κ → ν → Option μ) (entries : List (κ × ν)) :
    (build f entries).isSome ↔ ∀ entry ∈ entries, (f entry.1 entry.2).isSome := by
  suffices general : ∀ start : Dict κ μ,
      (entries.foldlM (fun dict entry => (f entry.1 entry.2).map (dict.set entry.1)) start).isSome ↔
        ∀ entry ∈ entries, (f entry.1 entry.2).isSome from general empty
  induction entries with
  | nil => simp
  | cons entry tail ih =>
      intro start
      rw [List.foldlM_cons, List.forall_mem_cons]
      cases value : f entry.1 entry.2 with
      | none => simp
      | some made => simpa using ih (start.set entry.1 made)

theorem build_entries (f : κ → ν → Option μ) (g : κ → ν → μ) (dict : Dict κ ν)
    (total : ∀ key value, f key value = some (g key value)) : build f dict.entries = some (dict.map g) := by
  obtain ⟨entries, nodup⟩ := dict
  suffices general : ∀ start : Dict κ μ, (∀ key ∈ entries.map Prod.fst, key ∉ start.entries.map Prod.fst) →
      ∃ made, entries.foldlM (fun dict entry => (f entry.1 entry.2).map (dict.set entry.1)) start = some made ∧
        made.entries = start.entries ++ entries.map fun entry => (entry.1, g entry.1 entry.2) by
    obtain ⟨made, built, same⟩ := general empty (by simp [empty])
    rw [build, built]
    exact congrArg some (Dict.ext same)
  induction entries with
  | nil => exact fun start _ => ⟨start, rfl, by simp⟩
  | cons entry tail ih =>
      intro start disjoint
      rw [List.map_cons, List.nodup_cons] at nodup
      have fresh := disjoint entry.1 (by simp)
      have grown := entries_set_new start entry.1 (g entry.1 entry.2) fresh
      obtain ⟨made, built, same⟩ := ih nodup.2 (start.set entry.1 (g entry.1 entry.2)) (by
        intro key member
        have other : key ≠ entry.1 := fun equal => nodup.1 (equal ▸ member)
        have absent := disjoint key (List.mem_cons_of_mem _ member)
        simp only [grown, List.map_append, List.mem_append, not_or]
        exact ⟨absent, by simpa using other⟩)
      refine ⟨made, ?_, ?_⟩
      · simpa [List.foldlM_cons, total] using built
      · rw [same, grown, List.map_cons, List.append_assoc, List.singleton_append]

theorem get_build (f : κ → ν → Option μ) (entries : List (κ × ν)) (dict : Dict κ μ) (key : κ)
    (built : build f entries = some dict) :
    (∀ value, last? entries key = some value → ∃ made, f key value = some made ∧ dict.get? key = some made) ∧
      (last? entries key = none → dict.get? key = none) := by
  suffices general : ∀ start : Dict κ μ,
      entries.foldlM (fun dict entry => (f entry.1 entry.2).map (dict.set entry.1)) start = some dict →
        (∀ value, last? entries key = some value → ∃ made, f key value = some made ∧ dict.get? key = some made) ∧
          (last? entries key = none → dict.get? key = start.get? key) by
    simpa using general empty built
  clear built
  induction entries with
  | nil =>
      rintro start ⟨rfl⟩
      simp [last?]
  | cons entry tail ih =>
      intro start folded
      obtain ⟨other, value⟩ := entry
      cases computed : f other value with
      | none => simp [List.foldlM_cons, computed] at folded
      | some made =>
          simp only [List.foldlM_cons, computed, Option.map_some, Option.bind_eq_bind, Option.bind_some] at folded
          obtain ⟨present, absent⟩ := ih (start.set other made) folded
          cases later : last? tail key with
          | some last => simpa [last?, later] using present last later
          | none =>
              have kept := absent later
              by_cases same : other = key
              · subst same
                simpa [last?, later, computed] using kept
              · simpa [last?, later, same, Ne.symm same] using kept

end Dict
