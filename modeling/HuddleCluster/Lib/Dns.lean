import Mathlib

set_option autoImplicit false

-- The grammar of DNS messages in RFC 1035. A reading is a relation between the
-- bytes from some place of a message on, a value, and the bytes that are left.
namespace Dns

abbrev Bytes := List UInt8

abbrev Label := Bytes

def word (high low : UInt8) : Nat := 256 * high.toNat + low.toNat

structure Question where
  name : List Label
  qtype : Nat
  qclass : Nat
deriving DecidableEq

structure Resource where
  name : List Label
  rtype : Nat
  rclass : Nat
  ttl : Nat
  rdata : Bytes
deriving DecidableEq

structure Message where
  id : Nat
  flags : Nat
  questions : List Question
  answers : List Resource
  authority : List Resource
  additional : List Resource
deriving DecidableEq

namespace Message

def records (message : Message) : List Resource := message.answers ++ message.authority ++ message.additional

end Message

def headerLength : Nat := 12

def target (high low : UInt8) : Nat := word high low - 256 * 192

-- A label has its length in front. A pointer leads to a name that stands earlier
-- in the message, after the header.
inductive Name (message : Bytes) : Bytes → List Label → Bytes → Prop where
  | root (rest : Bytes) : Name message (0 :: rest) [] rest
  | label (size : UInt8) (text tail : Bytes) (labels : List Label) (rest : Bytes) (positive : 0 < size.toNat)
      (short : size.toNat < 64) (whole : text.length = size.toNat) (more : Name message tail labels rest) :
      Name message (size :: (text ++ tail)) (text :: labels) rest
  | pointer (high low : UInt8) (rest : Bytes) (labels : List Label) (unread : Bytes) (marked : 192 ≤ high.toNat)
      (afterHeader : headerLength ≤ target high low) (earlier : rest.length + 2 < (message.drop (target high low)).length)
      (found : Name message (message.drop (target high low)) labels unread) : Name message (high :: low :: rest) labels rest

def nameLength (labels : List Label) : Nat := (labels.map fun label => label.length + 1).sum + 1

inductive Asks (message bytes : Bytes) : Question → Bytes → Prop where
  | question (name : List Label) (t1 t0 c1 c0 : UInt8) (rest : Bytes)
      (named : Name message bytes name (t1 :: t0 :: c1 :: c0 :: rest)) (short : nameLength name ≤ 255) :
      Asks message bytes ⟨name, word t1 t0, word c1 c0⟩ rest

inductive Holds (message bytes : Bytes) : Resource → Bytes → Prop where
  | resource (name : List Label) (t1 t0 c1 c0 l3 l2 l1 l0 d1 d0 : UInt8) (rdata rest : Bytes)
      (named : Name message bytes name (t1 :: t0 :: c1 :: c0 :: l3 :: l2 :: l1 :: l0 :: d1 :: d0 :: (rdata ++ rest)))
      (short : nameLength name ≤ 255) (whole : rdata.length = word d1 d0) :
      Holds message bytes ⟨name, word t1 t0, word c1 c0, 65536 * word l3 l2 + word l1 l0, rdata⟩ rest

inductive Many {α : Type} (reads : Bytes → α → Bytes → Prop) : Bytes → List α → Bytes → Prop where
  | nil (rest : Bytes) : Many reads rest [] rest
  | cons (bytes middle rest : Bytes) (item : α) (items : List α) (first : reads bytes item middle)
      (more : Many reads middle items rest) : Many reads bytes (item :: items) rest

structure Header where
  id : Nat
  flags : Nat
  qdcount : Nat
  ancount : Nat
  nscount : Nat
  arcount : Nat
deriving DecidableEq

def header? : Bytes → Option (Header × Bytes)
  | i1 :: i0 :: f1 :: f0 :: q1 :: q0 :: a1 :: a0 :: u1 :: u0 :: d1 :: d0 :: body =>
      some (⟨word i1 i0, word f1 f0, word q1 q0, word a1 a0, word u1 u0, word d1 d0⟩, body)
  | _ => none

def Message.header (message : Message) : Header :=
  ⟨message.id, message.flags, message.questions.length, message.answers.length, message.authority.length,
    message.additional.length⟩

-- The header counts what follows it, and nothing is left after that.
inductive Parses (bytes : Bytes) (message : Message) : Prop where
  | message (body answers authority additional : Bytes) (header : header? bytes = some (message.header, body))
      (asked : Many (Asks bytes) body message.questions answers) (answered : Many (Holds bytes) answers message.answers authority)
      (authorised : Many (Holds bytes) authority message.authority additional)
      (added : Many (Holds bytes) additional message.additional [])

section Sequences

variable {α : Type} {reads : Bytes → α → Bytes → Prop}

theorem many_append (bytes middle rest : Bytes) (items others : List α) (first : Many reads bytes items middle)
    (second : Many reads middle others rest) : Many reads bytes (items ++ others) rest := by
  induction first with
  | nil => exact second
  | cons bytes next _ item items first _ ih => exact .cons bytes next rest item _ first (ih second)

-- Where a place reads as one value only, the longer of two readings goes on where
-- the shorter one ends.
theorem many_prefix (unique : ∀ bytes item rest other after, reads bytes item rest → reads bytes other after →
      other = item ∧ after = rest) (bytes middle rest : Bytes) (items others : List α)
    (first : Many reads bytes items middle) (second : Many reads bytes others rest) (longer : items.length ≤ others.length) :
    ∃ more, others = items ++ more ∧ Many reads middle more rest := by
  induction first generalizing others with
  | nil => exact ⟨others, rfl, second⟩
  | cons bytes next _ item items first _ ih =>
      cases second with
      | nil => simp at longer
      | cons _ after _ other others again later =>
          obtain ⟨rfl, rfl⟩ := unique bytes item next other after first again
          obtain ⟨more, rfl, remaining⟩ := ih others later (by simpa using longer)
          exact ⟨more, rfl, remaining⟩

theorem many_mono {other : Bytes → α → Bytes → Prop} (extra : Bytes)
    (step : ∀ bytes item rest, reads bytes item rest → other (bytes ++ extra) item (rest ++ extra)) (bytes rest : Bytes)
    (items : List α) (many : Many reads bytes items rest) : Many other (bytes ++ extra) items (rest ++ extra) := by
  induction many with
  | nil => exact .nil _
  | cons bytes middle rest item items first _ ih => exact .cons _ _ _ item items (step bytes item middle first) ih

theorem many_one (bytes rest : Bytes) (item : α) (many : Many reads bytes [item] rest) : reads bytes item rest := by
  cases many with
  | cons _ _ _ _ _ first more =>
      cases more
      exact first

end Sequences

theorem parsed_records (bytes : Bytes) (message : Message) (parsed : Parses bytes message) :
    ∃ body rest, header? bytes = some (message.header, body) ∧ Many (Asks bytes) body message.questions rest ∧
      Many (Holds bytes) rest message.records [] := by
  obtain ⟨body, answers, authority, additional, header, asked, answered, authorised, added⟩ := parsed
  refine ⟨body, answers, header, asked, ?_⟩
  exact many_append _ _ _ _ _ (many_append _ _ _ _ _ answered authorised) added

def written (labels : List Label) : Bytes := labels.flatMap (fun label => UInt8.ofNat label.length :: label) ++ [0]

theorem name_written (message : Bytes) (labels : List Label) (short : ∀ label ∈ labels, 0 < label.length ∧ label.length < 64)
    (rest : Bytes) : Name message (written labels ++ rest) labels rest := by
  induction labels with
  | nil => exact .root rest
  | cons label labels ih =>
      obtain ⟨positive, bounded⟩ := short label (by simp)
      have size : (UInt8.ofNat label.length).toNat = label.length := UInt8.toNat_ofNat_of_lt' (by change _ < 256; omega)
      have more := ih fun other inside => short other (List.mem_cons_of_mem _ inside)
      rw [written, List.flatMap_cons, List.append_assoc, List.append_assoc]
      rw [written, List.append_assoc] at more
      exact .label _ label _ labels rest (by rw [size]; exact positive) (by rw [size]; exact bounded) size.symm more

theorem name_cases (message : Bytes) (first : UInt8) (bytes : Bytes) (labels : List Label) (rest : Bytes)
    (name : Name message (first :: bytes) labels rest) :
    (first.toNat = 0 ∧ labels = [] ∧ rest = bytes) ∨
    (0 < first.toNat ∧ first.toNat < 64 ∧ ∃ text tail more, text.length = first.toNat ∧ bytes = text ++ tail ∧
      labels = text :: more ∧ Name message tail more rest) ∨
    (192 ≤ first.toNat ∧ ∃ low unread, bytes = low :: rest ∧ Name message (message.drop (target first low)) labels unread) := by
  generalize whole : first :: bytes = all at name
  cases name with
  | root rest =>
      cases whole
      exact .inl ⟨rfl, rfl, rfl⟩
  | label size text tail labels rest positive short length more =>
      cases whole
      exact .inr (.inl ⟨positive, short, text, tail, labels, length, rfl, rfl, more⟩)
  | pointer high low rest labels unread marked afterHeader earlier found =>
      cases whole
      exact .inr (.inr ⟨marked, low, unread, rfl, found⟩)

theorem name_unique (message bytes : Bytes) (labels : List Label) (rest : Bytes) (name : Name message bytes labels rest)
    (other : List Label) (after : Bytes) (again : Name message bytes other after) : other = labels ∧ after = rest := by
  induction name generalizing other after with
  | root rest =>
      rcases name_cases message _ _ _ _ again with ⟨_, empty, same⟩ | ⟨positive, _⟩ | ⟨marked, _⟩
      · exact ⟨empty, same⟩
      · simp at positive
      · simp at marked
  | label size text tail labels rest positive short whole more ih =>
      rcases name_cases message _ _ _ _ again with ⟨zero, _⟩ | ⟨_, _, text', tail', more', whole', split, rfl,
        name'⟩ | ⟨marked, _⟩
      · omega
      · obtain ⟨rfl, rfl⟩ := List.append_inj split (whole.trans whole'.symm)
        obtain ⟨rfl, rfl⟩ := ih more' after name'
        exact ⟨rfl, rfl⟩
      · omega
  | pointer high low rest labels unread marked afterHeader earlier found ih =>
      rcases name_cases message _ _ _ _ again with ⟨zero, _⟩ | ⟨_, short, _⟩ | ⟨_, low', unread', split, name'⟩
      · omega
      · omega
      · cases split
        exact ⟨(ih other unread' name').1, rfl⟩

theorem name_shorter (message bytes : Bytes) (labels : List Label) (rest : Bytes) (name : Name message bytes labels rest) :
    rest.length < bytes.length := by
  induction name with
  | root rest => simp
  | label size text tail labels rest _ _ _ _ ih =>
      rw [List.length_cons, List.length_append]
      omega
  | pointer high low rest => simp

theorem asks_unique (message bytes : Bytes) (question : Question) (rest : Bytes) (other : Question) (after : Bytes)
    (asks : Asks message bytes question rest) (again : Asks message bytes other after) : other = question ∧ after = rest := by
  obtain ⟨_, _, _, _, _, _, named, _⟩ := asks
  obtain ⟨_, _, _, _, _, _, renamed, _⟩ := again
  obtain ⟨rfl, same⟩ := name_unique message bytes _ _ named _ _ renamed
  cases same
  exact ⟨rfl, rfl⟩

theorem holds_unique (message bytes : Bytes) (resource : Resource) (rest : Bytes) (other : Resource) (after : Bytes)
    (holds : Holds message bytes resource rest) (again : Holds message bytes other after) : other = resource ∧ after = rest := by
  obtain ⟨_, _, _, _, _, _, _, _, _, _, _, rdata, _, named, _, whole⟩ := holds
  obtain ⟨_, _, _, _, _, _, _, _, _, _, _, rdata', _, renamed, _, whole'⟩ := again
  obtain ⟨rfl, same⟩ := name_unique message bytes _ _ named _ _ renamed
  simp only [List.cons.injEq] at same
  obtain ⟨rfl, rfl, rfl, rfl, rfl, rfl, rfl, rfl, rfl, rfl, split⟩ := same
  obtain ⟨rfl, rfl⟩ := List.append_inj split (whole'.trans whole.symm)
  exact ⟨rfl, rfl⟩

theorem many_nothing (message rest : Bytes) (records : List Resource) (many : Many (Holds message) [] records rest) : records = [] := by
  generalize none : ([] : Bytes) = bytes at many
  cases many with
  | nil => rfl
  | cons _ middle _ record records first more =>
      cases none
      obtain ⟨_, _, _, _, _, _, _, _, _, _, _, _, _, named, _⟩ := first
      cases named

theorem header_bytes (bytes body : Bytes) (header : Header) (read : header? bytes = some (header, body)) :
    ∃ i1 i0 front, front.length = 10 ∧ bytes = i1 :: i0 :: (front ++ body) ∧ header.id = word i1 i0 := by
  unfold header? at read
  split at read
  · rename_i i1 i0 f1 f0 q1 q0 a1 a0 u1 u0 d1 d0 rest
    cases read
    exact ⟨i1, i0, [f1, f0, q1, q0, a1, a0, u1, u0, d1, d0], rfl, rfl, rfl⟩
  · cases read

theorem header_drop (bytes body : Bytes) (header : Header) (read : header? bytes = some (header, body)) :
    bytes.drop headerLength = body := by
  obtain ⟨i1, i0, front, ten, rfl, _⟩ := header_bytes bytes body header read
  rw [headerLength]
  simp only [List.drop_succ_cons]
  rw [← ten, List.drop_left]

-- A message that has something more at its end, and perhaps another header.
def Extends (message extra larger : Bytes) : Prop :=
  ∀ offset, headerLength ≤ offset → offset ≤ message.length → larger.drop offset = message.drop offset ++ extra

section Extending

variable {message extra larger : Bytes} (longer : Extends message extra larger)
include longer

theorem name_extends (bytes : Bytes) (labels : List Label) (rest : Bytes) (name : Name message bytes labels rest) :
    Name larger (bytes ++ extra) labels (rest ++ extra) := by
  induction name with
  | root rest => exact .root (rest ++ extra)
  | label size text tail labels rest positive short whole _ ih =>
      rw [List.cons_append, List.append_assoc]
      exact .label size text (tail ++ extra) labels (rest ++ extra) positive short whole ih
  | pointer high low rest labels unread marked afterHeader earlier _ ih =>
      have inside : target high low ≤ message.length := by
        rw [List.length_drop] at earlier
        omega
      have moved := longer (target high low) afterHeader inside
      rw [← moved] at ih
      refine .pointer high low (rest ++ extra) labels (unread ++ extra) marked afterHeader ?_ ih
      rw [moved, List.length_append, List.length_append]
      omega

theorem asks_extends (bytes : Bytes) (question : Question) (rest : Bytes) (asks : Asks message bytes question rest) :
    Asks larger (bytes ++ extra) question (rest ++ extra) := by
  obtain ⟨name, t1, t0, c1, c0, _, named, short⟩ := asks
  exact .question name t1 t0 c1 c0 _ (name_extends longer bytes name _ named) short

theorem holds_extends (bytes : Bytes) (resource : Resource) (rest : Bytes) (holds : Holds message bytes resource rest) :
    Holds larger (bytes ++ extra) resource (rest ++ extra) := by
  obtain ⟨name, t1, t0, c1, c0, l3, l2, l1, l0, d1, d0, rdata, _, named, short, whole⟩ := holds
  have renamed := name_extends longer bytes name _ named
  simp only [List.cons_append, List.append_assoc] at renamed
  exact .resource name t1 t0 c1 c0 l3 l2 l1 l0 d1 d0 rdata _ renamed short whole

end Extending

end Dns
