import HuddleCluster.Lib.Double

set_option autoImplicit false
set_option linter.unusedSectionVars false

namespace TokenBucket

variable {K : Type*} [Field K] [LinearOrder K] [IsStrictOrderedRing K]

-- A bucket counts in an arithmetic that may round.
structure Limits (K : Type*) [Field K] [LinearOrder K] where
  capacity : K
  rate : K
  rounding : Rounding K
  capacityPos : 0 < capacity
  ratePos : 0 < rate
  capacityFits : rounding.round capacity = capacity

structure Bucket (K : Type*) where
  tokens : K
  lastRefill : K
  consumed : Nat
deriving DecidableEq

namespace Limits

-- What a refill after some time adds to the tokens, before it is rounded with them.
def gain (limits : Limits K) (elapsed : K) : K := limits.rounding.round (limits.rounding.round elapsed * limits.rate)

def pace (limits : Limits K) : K := limits.rate * (1 + limits.rounding.unit) ^ 2

-- What one rounding of a number up to the capacity may add or take away.
def slip (limits : Limits K) : K := limits.rounding.unit * limits.capacity + limits.rounding.tiny

-- The same of one call, which rounds the gain, the sum and the rest.
def drift (limits : Limits K) : K :=
  limits.slip + limits.slip + limits.rounding.tiny * (limits.rate * (1 + limits.rounding.unit) + 1)

end Limits

namespace Bucket

def full (limits : Limits K) (now : K) : Bucket K := ⟨limits.capacity, now, 0⟩

def refill (limits : Limits K) (now : K) (bucket : Bucket K) : Bucket K :=
  { bucket with
    tokens := min limits.capacity (limits.rounding.round (bucket.tokens + limits.gain (now - bucket.lastRefill)))
    lastRefill := now }

def consume (limits : Limits K) (amount now : K) (bucket : Bucket K) : Bool × Bucket K :=
  let filled := bucket.refill limits now
  if amount ≤ filled.tokens then
    (true, { filled with tokens := limits.rounding.round (filled.tokens - amount), consumed := filled.consumed + 1 })
  else (false, filled)

def fill (limits : Limits K) (now : K) (bucket : Bucket K) : Bucket K :=
  { bucket with tokens := limits.capacity, lastRefill := now }

end Bucket

-- What has happened to a bucket: a call that took tokens, one that only refilled it,
-- or a fill by hand.
inductive Entry (K : Type*) where
  | spend (time amount : K)
  | look (time : K)
  | fill (time : K)

namespace Entry

def time : Entry K → K
  | .spend time _ => time
  | .look time | .fill time => time

def amount : Entry K → K
  | .spend _ amount => amount
  | .look _ | .fill _ => 0

def isFill : Entry K → Bool
  | .spend _ _ | .look _ => false
  | .fill _ => true

end Entry

def spent (inside : K → Bool) (log : List (Entry K)) : K :=
  (log.map fun entry => if inside entry.time then entry.amount else 0).sum

def fills (inside : K → Bool) (log : List (Entry K)) : Nat := log.countP fun entry => inside entry.time && entry.isFill

def calls (inside : K → Bool) (log : List (Entry K)) : Nat := log.countP fun entry => inside entry.time

def since (a : K) (t : K) : Bool := decide (a ≤ t)

def within (a b : K) (t : K) : Bool := decide (a ≤ t) && decide (t ≤ b)

def allowance (limits : Limits K) (inside : K → Bool) (log : List (Entry K)) (length : K) : K :=
  limits.capacity * (1 + fills inside log) + limits.pace * length + limits.drift * calls inside log

-- The level of the bucket pays for everything spent since any moment, and no
-- window has spent more than it was allowed.
structure Metered (limits : Limits K) (bucket : Bucket K) (log : List (Entry K)) : Prop where
  nonneg : 0 ≤ bucket.tokens
  capped : bucket.tokens ≤ limits.capacity
  fits : limits.rounding.round bucket.tokens = bucket.tokens
  past : ∀ entry ∈ log, entry.time ≤ bucket.lastRefill
  level : ∀ a ≤ bucket.lastRefill,
    spent (since a) log + bucket.tokens ≤ allowance limits (since a) log (bucket.lastRefill - a)
  windows : ∀ a b, a ≤ b → spent (within a b) log ≤ allowance limits (within a b) log (b - a)

theorem pace_pos (limits : Limits K) : 0 < limits.pace := by
  have unit := limits.rounding.unitNonneg
  exact mul_pos limits.ratePos (by positivity)

theorem drift_nonneg (limits : Limits K) : 0 ≤ limits.drift := by
  have unit := limits.rounding.unitNonneg
  have tiny := limits.rounding.tinyNonneg
  have capacity := limits.capacityPos
  have rate := limits.ratePos
  rw [Limits.drift, Limits.slip]
  positivity

theorem gain_nonneg (limits : Limits K) (elapsed : K) (nonneg : 0 ≤ elapsed) : 0 ≤ limits.gain elapsed :=
  limits.rounding.round_nonneg _ (mul_nonneg (limits.rounding.round_nonneg _ nonneg) limits.ratePos.le)

theorem gain_le (limits : Limits K) (elapsed : K) (nonneg : 0 ≤ elapsed) :
    limits.gain elapsed ≤ elapsed * limits.pace + limits.rounding.tiny * (limits.rate * (1 + limits.rounding.unit) + 1) := by
  have unit := limits.rounding.unitNonneg
  have rate := limits.ratePos
  have rounded := limits.rounding.round_nonneg elapsed nonneg
  have length := limits.rounding.round_le elapsed nonneg
  have whole := limits.rounding.round_le (limits.rounding.round elapsed * limits.rate) (mul_nonneg rounded rate.le)
  have longer : limits.rounding.round elapsed * (limits.rate * (1 + limits.rounding.unit)) ≤
      (elapsed + limits.rounding.unit * elapsed + limits.rounding.tiny) * (limits.rate * (1 + limits.rounding.unit)) := by
    gcongr
  rw [Limits.gain, Limits.pace]
  linarith

theorem le_gain (limits : Limits K) (elapsed : K) (nonneg : 0 ≤ elapsed) :
    elapsed * limits.rate * (1 - 2 * limits.rounding.unit) - limits.rounding.tiny * (limits.rate + 1) ≤ limits.gain elapsed := by
  have unit := limits.rounding.unitNonneg
  have half := limits.rounding.unitHalf
  have tiny := limits.rounding.tinyNonneg
  have rate := limits.ratePos
  have rounded := limits.rounding.round_nonneg elapsed nonneg
  have length := limits.rounding.le_round elapsed nonneg
  have whole := limits.rounding.le_round (limits.rounding.round elapsed * limits.rate) (mul_nonneg rounded rate.le)
  have kept : 0 ≤ limits.rate * (1 - limits.rounding.unit) := mul_nonneg rate.le (by linarith)
  have shorter := mul_le_mul_of_nonneg_right length kept
  have square : 0 ≤ elapsed * limits.rate * limits.rounding.unit ^ 2 := by positivity
  have spare : 0 ≤ limits.rounding.tiny * limits.rate * limits.rounding.unit := by positivity
  rw [Limits.gain]
  linarith

theorem refill_le (limits : Limits K) (bucket : Bucket K) (now : K) (nonneg : 0 ≤ bucket.tokens) (later : bucket.lastRefill ≤ now) :
    (bucket.refill limits now).tokens ≤ bucket.tokens + (now - bucket.lastRefill) * limits.pace +
      (limits.drift - limits.rounding.unit * limits.capacity - limits.rounding.tiny) := by
  have unit := limits.rounding.unitNonneg
  have tiny := limits.rounding.tinyNonneg
  have gained := gain_le limits (now - bucket.lastRefill) (sub_nonneg.mpr later)
  have sum := add_nonneg nonneg (gain_nonneg limits _ (sub_nonneg.mpr later))
  rw [Bucket.refill, Limits.drift, Limits.slip]
  rcases le_total (bucket.tokens + limits.gain (now - bucket.lastRefill)) limits.capacity with below | above
  · have rounded := limits.rounding.round_le _ sum
    have most : limits.rounding.unit * (bucket.tokens + limits.gain (now - bucket.lastRefill)) ≤
        limits.rounding.unit * limits.capacity := mul_le_mul_of_nonneg_left below unit
    refine (min_le_right _ _).trans ?_
    linarith
  · have spare := mul_nonneg unit limits.capacityPos.le
    refine (min_le_left _ _).trans ?_
    linarith

theorem refill_ge (limits : Limits K) (bucket : Bucket K) (now : K) (capped : bucket.tokens ≤ limits.capacity)
    (fits : limits.rounding.round bucket.tokens = bucket.tokens) (later : bucket.lastRefill ≤ now) :
    bucket.tokens ≤ (bucket.refill limits now).tokens := by
  refine le_min capped (fits.ge.trans (limits.rounding.mono ?_))
  exact le_add_of_nonneg_right (gain_nonneg limits _ (sub_nonneg.mpr later))

theorem refill_full (limits : Limits K) (bucket : Bucket K) (now : K) (full : limits.capacity ≤ bucket.tokens)
    (later : bucket.lastRefill ≤ now) : limits.capacity ≤ (bucket.refill limits now).tokens := by
  refine le_min (le_refl _) (limits.capacityFits.ge.trans (limits.rounding.mono ?_))
  exact full.trans (le_add_of_nonneg_right (gain_nonneg limits _ (sub_nonneg.mpr later)))

-- Without what rounding loses, a refill would fill the bucket up or add all it gains.
theorem le_refill (limits : Limits K) (bucket : Bucket K) (now : K) (nonneg : 0 ≤ bucket.tokens) (later : bucket.lastRefill ≤ now) :
    min limits.capacity (bucket.tokens + (now - bucket.lastRefill) * limits.rate * (1 - 2 * limits.rounding.unit) - limits.drift) ≤
      (bucket.refill limits now).tokens := by
  have unit := limits.rounding.unitNonneg
  have tiny := limits.rounding.tinyNonneg
  have rate := limits.ratePos
  have capacity := limits.capacityPos
  have gained := le_gain limits (now - bucket.lastRefill) (sub_nonneg.mpr later)
  have sum := add_nonneg nonneg (gain_nonneg limits _ (sub_nonneg.mpr later))
  rw [Bucket.refill]
  refine le_min (min_le_left _ _) ?_
  rcases le_total limits.capacity (bucket.tokens + limits.gain (now - bucket.lastRefill)) with full | part
  · have topped := limits.rounding.mono full
    rw [limits.capacityFits] at topped
    exact (min_le_left _ _).trans topped
  · have rounded := limits.rounding.le_round _ sum
    have most := mul_le_mul_of_nonneg_left part unit
    have spare : 0 ≤ limits.rounding.unit * limits.capacity + limits.rounding.tiny * (limits.rate * limits.rounding.unit + 1) := by
      positivity
    refine (min_le_right _ _).trans ?_
    rw [Limits.drift, Limits.slip]
    linarith

theorem refill_fits (limits : Limits K) (bucket : Bucket K) (now : K) :
    limits.rounding.round (bucket.refill limits now).tokens = (bucket.refill limits now).tokens := by
  rw [Bucket.refill]
  rcases min_choice limits.capacity (limits.rounding.round (bucket.tokens + limits.gain (now - bucket.lastRefill))) with full | part
  · simp only [full, limits.capacityFits]
  · simp only [part, limits.rounding.again]

@[simp] theorem spent_append (inside : K → Bool) (log : List (Entry K)) (entry : Entry K) :
    spent inside (log ++ [entry]) = spent inside log + if inside entry.time then entry.amount else 0 := by
  simp [spent]

@[simp] theorem fills_append (inside : K → Bool) (log : List (Entry K)) (entry : Entry K) :
    fills inside (log ++ [entry]) = fills inside log + if inside entry.time && entry.isFill then 1 else 0 := by
  simp [fills, List.countP_append, List.countP_cons]

@[simp] theorem calls_append (inside : K → Bool) (log : List (Entry K)) (entry : Entry K) :
    calls inside (log ++ [entry]) = calls inside log + if inside entry.time then 1 else 0 := by
  simp [calls, List.countP_append, List.countP_cons]

theorem spent_congr (inside other : K → Bool) (log : List (Entry K))
    (same : ∀ entry ∈ log, inside entry.time = other entry.time) : spent inside log = spent other log := by
  simp only [spent]
  exact congrArg List.sum (List.map_congr_left fun entry member => by rw [same entry member])

theorem fills_congr (inside other : K → Bool) (log : List (Entry K))
    (same : ∀ entry ∈ log, inside entry.time = other entry.time) : fills inside log = fills other log := by
  simp only [fills]
  exact List.countP_congr fun entry member => by rw [same entry member]

theorem calls_congr (inside other : K → Bool) (log : List (Entry K))
    (same : ∀ entry ∈ log, inside entry.time = other entry.time) : calls inside log = calls other log :=
  List.countP_congr fun entry member => by rw [same entry member]

theorem spent_none (inside : K → Bool) (log : List (Entry K)) (outside : ∀ entry ∈ log, inside entry.time = false) :
    spent inside log = 0 := by
  rw [spent_congr inside (fun _ => false) log outside]
  simp [spent]

theorem allowance_nonneg (limits : Limits K) (inside : K → Bool) (log : List (Entry K)) (length : K) (positive : 0 ≤ length) :
    0 ≤ allowance limits inside log length := by
  have capacity := limits.capacityPos
  have pace := pace_pos limits
  have drift := drift_nonneg limits
  rw [allowance]
  positivity

theorem capacity_allowed (limits : Limits K) (inside : K → Bool) (log : List (Entry K)) (length : K) (positive : 0 ≤ length) :
    limits.capacity ≤ allowance limits inside log length := by
  have capacity := limits.capacityPos
  have more : 0 ≤ limits.capacity * fills inside log + limits.pace * length + limits.drift * calls inside log := by
    have pace := pace_pos limits
    have drift := drift_nonneg limits
    positivity
  rw [allowance]
  linarith

theorem metered_full (limits : Limits K) (now : K) : Metered limits (Bucket.full limits now) [] := by
  constructor
  · exact limits.capacityPos.le
  · exact le_refl _
  · exact limits.capacityFits
  · intro entry member
    cases member
  · intro a before
    have allowed := capacity_allowed limits (since a) [] (now - a) (sub_nonneg.mpr before)
    simpa only [spent, Bucket.full, List.map_nil, List.sum_nil, zero_add] using allowed
  · intro a b ordered
    exact allowance_nonneg limits _ _ _ (sub_nonneg.mpr ordered)

-- A window that ends before the new entry does not see it; one that contains it
-- contains everything since its own start.
theorem windows_append (limits : Limits K) (log : List (Entry K)) (entry : Entry K)
    (past : ∀ earlier ∈ log, earlier.time ≤ entry.time)
    (level : ∀ a ≤ entry.time,
      spent (since a) (log ++ [entry]) ≤ allowance limits (since a) (log ++ [entry]) (entry.time - a))
    (windows : ∀ a b, a ≤ b → spent (within a b) log ≤ allowance limits (within a b) log (b - a)) (a b : K) (ordered : a ≤ b) :
    spent (within a b) (log ++ [entry]) ≤ allowance limits (within a b) (log ++ [entry]) (b - a) := by
  rcases lt_or_ge b entry.time with ended | running
  · have unseen : within a b entry.time = false := by
      simp only [within, Bool.and_eq_false_iff, decide_eq_false_iff_not, not_le]
      exact Or.inr ended
    simpa [allowance, unseen] using windows a b ordered
  · have all : ∀ item ∈ log ++ [entry], item.time ≤ entry.time := by
      intro item member
      rcases List.mem_append.mp member with earlier | last
      · exact past item earlier
      · rw [List.mem_singleton.mp last]
    rcases le_or_gt a entry.time with inside | after
    · have same : ∀ item ∈ log ++ [entry], within a b item.time = since a item.time := by
        intro item member
        have bound := (all item member).trans running
        simp [within, since, bound]
      have longer : limits.pace * (entry.time - a) ≤ limits.pace * (b - a) :=
        mul_le_mul_of_nonneg_left (sub_le_sub_right running a) (pace_pos limits).le
      have held := level a inside
      rw [spent_congr _ _ _ same, allowance, fills_congr _ _ _ same, calls_congr _ _ _ same]
      rw [allowance] at held
      linarith
    · have nothing : spent (within a b) (log ++ [entry]) = 0 := by
        apply spent_none
        intro item member
        have early : ¬ a ≤ item.time := not_le.mpr (lt_of_le_of_lt (all item member) after)
        simp [within, early]
      rw [nothing]
      exact allowance_nonneg limits _ _ _ (sub_nonneg.mpr ordered)

theorem level_refill (limits : Limits K) (bucket : Bucket K) (log : List (Entry K)) (now : K) (later : bucket.lastRefill ≤ now)
    (metered : Metered limits bucket log) (a : K) (before : a ≤ now) :
    spent (since a) log + (bucket.refill limits now).tokens + (limits.rounding.unit * limits.capacity + limits.rounding.tiny) ≤
      allowance limits (since a) log (now - a) + limits.drift := by
  rcases le_or_gt a bucket.lastRefill with inside | after
  · have held := metered.level a inside
    have risen := refill_le limits bucket now metered.nonneg later
    rw [allowance] at held ⊢
    linarith
  · have nothing : spent (since a) log = 0 := by
      apply spent_none
      intro entry member
      simpa only [since, decide_eq_false_iff_not, not_le] using lt_of_le_of_lt (metered.past entry member) after
    have capped : (bucket.refill limits now).tokens ≤ limits.capacity := min_le_left _ _
    have allowed := capacity_allowed limits (since a) log (now - a) (sub_nonneg.mpr before)
    have spare : limits.rounding.unit * limits.capacity + limits.rounding.tiny ≤ limits.drift := by
      have unit := mul_nonneg limits.rounding.unitNonneg limits.capacityPos.le
      have tiny := limits.rounding.tinyNonneg
      have rest : 0 ≤ limits.rounding.tiny * (limits.rate * (1 + limits.rounding.unit)) := by
        have part := limits.rounding.unitNonneg
        have rate := limits.ratePos
        positivity
      rw [Limits.drift, Limits.slip]
      linarith
    linarith

theorem metered_entry (limits : Limits K) (bucket after : Bucket K) (log : List (Entry K)) (entry : Entry K)
    (later : bucket.lastRefill ≤ entry.time) (stamped : after.lastRefill = entry.time) (metered : Metered limits bucket log)
    (nonneg : 0 ≤ after.tokens) (capped : after.tokens ≤ limits.capacity) (fits : limits.rounding.round after.tokens = after.tokens)
    (level : ∀ a ≤ entry.time, spent (since a) (log ++ [entry]) + after.tokens ≤
      allowance limits (since a) (log ++ [entry]) (entry.time - a)) : Metered limits after (log ++ [entry]) := by
  constructor
  · exact nonneg
  · exact capped
  · exact fits
  · intro item member
    rw [stamped]
    rcases List.mem_append.mp member with earlier | last
    · exact (metered.past item earlier).trans later
    · rw [List.mem_singleton.mp last]
  · rw [stamped]
    exact level
  · apply windows_append limits log entry
    · exact fun earlier member => (metered.past earlier member).trans later
    · exact fun a before => (le_add_of_nonneg_right nonneg).trans (level a before)
    · exact metered.windows

theorem metered_refill (limits : Limits K) (bucket : Bucket K) (log : List (Entry K)) (now : K)
    (later : bucket.lastRefill ≤ now) (metered : Metered limits bucket log) :
    Metered limits (bucket.refill limits now) (log ++ [.look now]) := by
  apply metered_entry limits bucket _ log (.look now) later rfl metered
  · exact metered.nonneg.trans (refill_ge limits bucket now metered.capped metered.fits later)
  · exact min_le_left _ _
  · exact refill_fits limits bucket now
  · intro a before
    have held := level_refill limits bucket log now later metered a before
    have spare : 0 ≤ limits.rounding.unit * limits.capacity + limits.rounding.tiny :=
      add_nonneg (mul_nonneg limits.rounding.unitNonneg limits.capacityPos.le) limits.rounding.tinyNonneg
    have seen : since a now = true := decide_eq_true before
    simp only [spent_append, allowance, fills_append, calls_append, Entry.time, Entry.amount, Entry.isFill, seen, Bool.and_false,
      Bool.false_eq_true, if_false, if_true, add_zero, Nat.cast_add, Nat.cast_one] at held ⊢
    linarith

theorem metered_consume (limits : Limits K) (bucket : Bucket K) (log : List (Entry K)) (amount now : K)
    (later : bucket.lastRefill ≤ now) (positive : 0 ≤ amount) (metered : Metered limits bucket log) :
    Metered limits (bucket.consume limits amount now).2
      (log ++ [if (bucket.consume limits amount now).1 then .spend now amount else .look now]) := by
  simp only [Bucket.consume]
  split
  · rename_i enough
    have left := sub_nonneg.mpr enough
    have filled := metered_refill limits bucket log now later metered
    apply metered_entry limits bucket _ log (.spend now amount) later rfl metered
    · exact limits.rounding.round_nonneg _ left
    · have lower := limits.rounding.mono (sub_le_self (bucket.refill limits now).tokens positive)
      rw [filled.fits] at lower
      exact lower.trans filled.capped
    · exact limits.rounding.again _
    · intro a before
      have held := level_refill limits bucket log now later metered a before
      have rounded := limits.rounding.round_le _ left
      have most : limits.rounding.unit * ((bucket.refill limits now).tokens - amount) ≤ limits.rounding.unit * limits.capacity :=
        mul_le_mul_of_nonneg_left ((sub_le_self _ positive).trans filled.capped) limits.rounding.unitNonneg
      have seen : since a now = true := decide_eq_true before
      simp only [spent_append, allowance, fills_append, calls_append, Entry.time, Entry.amount, Entry.isFill, seen, Bool.and_false,
        Bool.false_eq_true, if_false, if_true, add_zero, Nat.cast_add, Nat.cast_one] at held ⊢
      linarith
  · exact metered_refill limits bucket log now later metered

theorem metered_fill (limits : Limits K) (bucket : Bucket K) (log : List (Entry K)) (now : K)
    (later : bucket.lastRefill ≤ now) (metered : Metered limits bucket log) :
    Metered limits (bucket.fill limits now) (log ++ [.fill now]) := by
  have filled := metered_refill limits bucket log now later metered
  apply metered_entry limits bucket _ log (.fill now) later rfl metered
  · exact limits.capacityPos.le
  · exact le_refl _
  · exact limits.capacityFits
  · intro a before
    have held := level_refill limits bucket log now later metered a before
    have nonneg := filled.nonneg
    have spare : 0 ≤ limits.rounding.unit * limits.capacity + limits.rounding.tiny :=
      add_nonneg (mul_nonneg limits.rounding.unitNonneg limits.capacityPos.le) limits.rounding.tinyNonneg
    have seen : since a now = true := decide_eq_true before
    simp only [spent_append, allowance, fills_append, calls_append, Entry.time, Entry.amount, Entry.isFill, seen, Bool.and_true,
      if_true, add_zero, Nat.cast_add, Nat.cast_one, Bucket.fill] at held ⊢
    linarith

end TokenBucket
