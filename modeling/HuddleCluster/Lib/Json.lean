import HuddleCluster.Lib.Dict
import HuddleCluster.Lib.Double

set_option autoImplicit false

-- A parsed JSON value. The keys of an object stand in the order of the text; of
-- equal keys the last one counts. A number past the doubles is read as infinite.
inductive Json where
  | null
  | bool (value : Bool)
  | int (value : Int)
  | float (value : Double)
  | str (value : String)
  | arr (items : List Json)
  | obj (fields : List (String × Json))
deriving Repr, Inhabited

namespace Json

@[match_pattern] abbrev number (value : ℚ) : Json := .float (.finite value)

def truthy : Json → Bool
  | .null => false
  | .bool value => value
  | .int value => value != 0
  | .float value => decide (value ≠ .finite 0)
  | .str value => value != ""
  | .arr items => !items.isEmpty
  | .obj fields => !fields.isEmpty

def orElse (value fallback : Json) : Json := if value.truthy then value else fallback

def find? (fields : List (String × Json)) (key : String) : Option Json := Dict.last? fields key

def get (fields : List (String × Json)) (key : String) : Json := (find? fields key).getD .null

def ofOption {α : Type*} (encode : α → Json) : Option α → Json
  | none => .null
  | some value => encode value

mutual

def same : Json → Json → Bool
  | .null, .null => true
  | .bool a, .bool b => a == b
  | .int a, .int b => a == b
  | .float a, .float b => a == b
  | .str a, .str b => a == b
  | .arr a, .arr b => sameItems a b
  | .obj a, .obj b => sameFields a b
  | _, _ => false

def sameItems : List Json → List Json → Bool
  | [], [] => true
  | a :: as, b :: bs => same a b && sameItems as bs
  | _, _ => false

def sameFields : List (String × Json) → List (String × Json) → Bool
  | [], [] => true
  | (k, a) :: as, (l, b) :: bs => k == l && same a b && sameFields as bs
  | _, _ => false

end

mutual

theorem same_iff : (a b : Json) → (same a b = true ↔ a = b)
  | .arr a, b => by cases b <;> simp [same, same_items_iff a]
  | .obj a, b => by cases b <;> simp [same, same_fields_iff a]
  | .null, b | .bool _, b | .int _, b | .float _, b | .str _, b => by cases b <;> simp [same]

theorem same_items_iff : (as bs : List Json) → (sameItems as bs = true ↔ as = bs)
  | [], bs => by cases bs <;> simp [sameItems]
  | a :: as, bs => by cases bs <;> simp [sameItems, same_iff a, same_items_iff as]

theorem same_fields_iff : (as bs : List (String × Json)) → (sameFields as bs = true ↔ as = bs)
  | [], bs => by cases bs <;> simp [sameFields]
  | (k, a) :: as, bs => by cases bs <;> simp [sameFields, same_iff a, same_fields_iff as, Prod.ext_iff]

end

instance : DecidableEq Json := fun a b => decidable_of_iff (same a b = true) (same_iff a b)

end Json

namespace Text

def isSpace (c : Char) : Bool :=
  let n := c.toNat
  (9 ≤ n && n ≤ 13) || (28 ≤ n && n ≤ 32) || n == 0x85 || n == 0xa0 || n == 0x1680 || (0x2000 ≤ n && n ≤ 0x200a) ||
    n == 0x2028 || n == 0x2029 || n == 0x202f || n == 0x205f || n == 0x3000

def stripChars (cs : List Char) : List Char := (cs.dropWhile isSpace).rdropWhile isSpace

def strip (s : String) : String := String.ofList (stripChars s.toList)

theorem strip_chars_twice (cs : List Char) : stripChars (stripChars cs) = stripChars cs := by
  have front : (stripChars cs).dropWhile isSpace = stripChars cs := by
    rw [List.dropWhile_eq_self_iff]
    intro nonempty
    have kept : stripChars cs <+: cs.dropWhile isSpace := List.rdropWhile_prefix isSpace _
    have longer : 0 < (cs.dropWhile isSpace).length := lt_of_lt_of_le nonempty kept.length_le
    rw [kept.getElem nonempty]
    exact List.dropWhile_get_zero_not isSpace cs longer
  have back : (stripChars cs).rdropWhile isSpace = stripChars cs := List.rdropWhile_idempotent isSpace _
  rw [stripChars, front, back]

theorem strip_twice (s : String) : strip (strip s) = strip s := by
  simp [strip, strip_chars_twice]

end Text
