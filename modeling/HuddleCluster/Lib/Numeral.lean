import HuddleCluster.Lib.Json

set_option autoImplicit false

namespace Text

-- The zeros among the decimal digits of Unicode. The other nine follow each of them.
def zeros : List Nat :=
  [0x30, 0x660, 0x6f0, 0x7c0, 0x966, 0x9e6, 0xa66, 0xae6, 0xb66, 0xbe6, 0xc66, 0xce6, 0xd66, 0xde6, 0xe50, 0xed0,
    0xf20, 0x1040, 0x1090, 0x17e0, 0x1810, 0x1946, 0x19d0, 0x1a80, 0x1a90, 0x1b50, 0x1bb0, 0x1c40, 0x1c50, 0xa620,
    0xa8d0, 0xa900, 0xa9d0, 0xa9f0, 0xaa50, 0xabf0, 0xff10, 0x104a0, 0x10d30, 0x11066, 0x110f0, 0x11136, 0x111d0,
    0x112f0, 0x11450, 0x114d0, 0x11650, 0x116c0, 0x11730, 0x118e0, 0x11950, 0x11c50, 0x11d50, 0x11da0, 0x16a60,
    0x16ac0, 0x16b50, 0x1d7ce, 0x1d7d8, 0x1d7e2, 0x1d7ec, 0x1d7f6, 0x1e140, 0x1e2f0, 0x1e950, 0x1fbf0]

def digit? (c : Char) : Option Nat :=
  (zeros.find? fun first => decide (first ≤ c.toNat ∧ c.toNat < first + 10)).map fun first => c.toNat - first

-- The separators of ASCII are white space to strip(), but not here.
def isBlank (c : Char) : Bool := isSpace c && !(28 ≤ c.toNat && c.toNat ≤ 31)

def trim (cs : List Char) : List Char := (cs.dropWhile isBlank).rdropWhile isBlank

def digits? (cs : List Char) : Option (List Nat) :=
  if (cs.splitOn '_').all fun group => !group.isEmpty && group.all fun c => (digit? c).isSome then
    some (cs.filterMap digit?)
  else none

def numberOf (digits : List Nat) : Nat := digits.foldl (fun number digit => 10 * number + digit) 0

def signed : List Char → Int × List Char
  | '-' :: rest => (-1, rest)
  | '+' :: rest => (1, rest)
  | cs => (1, cs)

def integer? (cs : List Char) : Option Int :=
  (digits? (signed cs).2).map fun digits => (signed cs).1 * numberOf digits

def mantissa? (cs : List Char) : Option (Nat × Nat) :=
  match cs.span fun c => decide (c ≠ '.') with
  | (whole, []) => (digits? whole).map fun digits => (numberOf digits, 0)
  | (whole, _ :: fraction) =>
      if whole.isEmpty then (digits? fraction).map fun decimals => (numberOf decimals, decimals.length)
      else if fraction.isEmpty then (digits? whole).map fun digits => (numberOf digits, 0)
      else
        match digits? whole, digits? fraction with
        | some digits, some decimals => some (numberOf (digits ++ decimals), decimals.length)
        | _, _ => none

def decimal? (cs : List Char) : Option ℚ :=
  let parts := (signed cs).2.span fun c => decide (c ≠ 'e' ∧ c ≠ 'E')
  let exponent? := match parts.2 with
    | [] => some 0
    | _ :: tail => integer? tail
  match mantissa? parts.1, exponent? with
  | some (number, decimals), some exponent => some ((signed cs).1 * number * (10 : ℚ) ^ (exponent - decimals))
  | _, _ => none

def word? (cs : List Char) : Option Double :=
  let word := cs.map Char.toLower
  if word = "inf".toList ∨ word = "infinity".toList then some (.infinite false)
  else if word = "nan".toList then some .nan
  else none

def float? (cs : List Char) : Option Double :=
  match word? (signed cs).2 with
  | some value => some (if (signed cs).1 < 0 then value.neg else value)
  | none => (decimal? cs).map Double.of

end Text

namespace Json

-- An int that rounds to no float: float(value) raises an OverflowError, which is
-- no ValueError.
def overflows : Json → Bool
  | .int value => decide (2 ^ 1024 - 2 ^ 970 ≤ value.natAbs)
  | _ => false

-- float(value) and int(value); none is an exception.
def toFloat? : Json → Option Double
  | .bool value => some (.finite (if value then 1 else 0))
  | .int value => if (Json.int value).overflows then none else some (.finite (Double.nearest value))
  | .float value => some value
  | .str text => Text.float? (Text.trim text.toList)
  | .null | .arr _ | .obj _ => none

def toRational? (value : Json) : Option ℚ := value.toFloat?.bind Double.rational?

@[simp] theorem to_rational_finite (value : ℚ) : toRational? (.number value) = some value := rfl

def truncate (value : ℚ) : Int := if 0 ≤ value then value.floor else value.ceil

def toInt? : Json → Option Int
  | .bool value => some (if value then 1 else 0)
  | .int value => some value
  | .float value => value.rational?.map truncate
  | .str text => Text.integer? (Text.trim text.toList)
  | .null | .arr _ | .obj _ => none

def toDict (fields : List (String × Json)) : Dict String Json := Dict.assign fields .empty

def iterate? : Json → Option (List Json)
  | .arr items => some items
  | .obj fields => some ((toDict fields).entries.map fun entry => .str entry.1)
  | .str text => some (text.toList.map fun c => .str (String.singleton c))
  | .null | .bool _ | .int _ | .float _ => none

example : toFloat? (.str " -1_000.5e-1 ") = some (.of (-10005 / 100)) ∧
  toFloat? (.str "-100.00000000000000001") = some (.finite (-100)) ∧
    toFloat? (.str "-Infinity") = some (.infinite true) := by decide +kernel

end Json
