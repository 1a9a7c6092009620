import HuddleCluster.Scheduler.RateLimit

set_option autoImplicit false

namespace HuddleCluster.Scheduler

open TokenBucket
open ClusterScheduler

-- The nodes that the limiter lets a call keep.
def passes (limits : Limits ℚ) (s : ClusterScheduler) : PickEvent → List (Nat × String)
  | .askLimiter i now =>
      ((asks s (.askLimiter i now)).filter fun mark =>
        decide (1 ≤ ((getOrCreate limits s mark.nodeId now).refill limits now).tokens)).map fun mark => (i, mark.nodeId)
  | _ => []

-- The last two fields are not in the program: which call has passed the limiter with which
-- node that no pick has returned since, and what the limiter was asked.
structure LimiterWatch where
  scheduler : ClusterScheduler
  passed : List (Nat × String)
  asked : List Mark

namespace LimiterWatch

def start (openBreakers : String → Bool) (canary : Option Canary) (clock : ℚ) : LimiterWatch :=
  ⟨.start openBreakers canary clock, [], []⟩

def advance (limits : Limits ℚ) (w : LimiterWatch) (event : PickEvent) (after : ClusterScheduler) : LimiterWatch :=
  let returned := after.picks.drop w.scheduler.picks.length
  { scheduler := after
    passed := (w.passed ++ passes limits w.scheduler event).filter fun entry => returned.all fun mark => decide (mark.nodeId ≠ entry.2)
    asked := w.asked ++ asks w.scheduler event }

def next (cfg : Settings) (limits : Limits ℚ) (w : LimiterWatch) (event : PickEvent) : Option LimiterWatch :=
  (pickNext cfg w.scheduler event).map (w.advance limits event)

end LimiterWatch

abbrev LimiterRun (cfg : Settings) (limits : Limits ℚ) (allowed : LimiterWatch → PickEvent → Prop) :=
  Runs.Run (LimiterWatch.next cfg limits) allowed

-- A call in its critical section finds its key unbound in its pool, and no pick has
-- returned a node of the pool since the limiter was asked for this call.
structure OwnTurn (w : LimiterWatch) (i : Nat) (call : PickCall) (eligible : List NodeDict) : Prop where
  unbound : w.scheduler.boundNode call.affinityKey eligible = none
  passed : ∀ node ∈ eligible, (i, node.nodeId) ∈ w.passed

def InTurn (w : LimiterWatch) : PickEvent → Prop
  | .choose i _ => ∀ call ∈ w.scheduler.calls[i]?, ∀ eligible ∈ call.phase.choosing?, OwnTurn w i call eligible
  | _ => True

instance (w : LimiterWatch) (i : Nat) (call : PickCall) (eligible : List NodeDict) : Decidable (OwnTurn w i call eligible) :=
  decidable_of_iff ((w.scheduler.boundNode call.affinityKey eligible).isNone = true ∧
    ∀ node ∈ eligible, (i, node.nodeId) ∈ w.passed)
    ⟨fun own => ⟨Option.isNone_iff_eq_none.mp own.1, own.2⟩, fun own => ⟨Option.isNone_iff_eq_none.mpr own.1, own.2⟩⟩

instance (w : LimiterWatch) (event : PickEvent) : Decidable (InTurn w event) :=
  match event with
  | .choose i _ => inferInstanceAs (Decidable (∀ call ∈ w.scheduler.calls[i]?, ∀ eligible ∈ call.phase.choosing?,
      OwnTurn w i call eligible))
  | .pick .. | .askBreaker _ | .askLimiter .. | .choosePool .. | .breakers _ | .deploy _ | .reset .. => isTrue trivial

-- The picks of a node in a window without a reset are no more than its bucket allows, but
-- for what the calls about the node may round.
def RateBounded (limits : Limits ℚ) (w : LimiterWatch) : Prop :=
  ∀ nodeId a length, 0 ≤ length → markedIn w.scheduler.resets nodeId (within a (a + length)) = 0 →
    (markedIn w.scheduler.picks nodeId (within a (a + length)) : ℚ) ≤ limits.capacity + limits.pace * length +
        limits.drift * (markedIn w.asked nodeId (within a (a + length)) + markedIn w.scheduler.picks nodeId (within a (a + length))) ∧
      (limits.rounding = .exact →
        (markedIn w.scheduler.picks nodeId (within a (a + length)) : ℚ) ≤ limits.capacity + limits.rate * length)

structure RateEnforced (limits : Limits ℚ) (w : LimiterWatch) : Prop where
  charged : Charged w.scheduler
  bounded : RateBounded limits w

structure Describes (w : LimiterWatch) (nodeId : String) (log : List (Entry ℚ)) : Prop where
  spent : ∀ inside, spent inside log = markedIn w.scheduler.picks nodeId inside
  fills : ∀ inside, fills inside log = markedIn w.scheduler.resets nodeId inside
  calls : ∀ inside, calls inside log =
    markedIn w.asked nodeId inside + markedIn w.scheduler.picks nodeId inside + markedIn w.scheduler.resets nodeId inside

def Metering (limits : Limits ℚ) (w : LimiterWatch) : Prop :=
  ∀ nodeId now, w.scheduler.clock ≤ now → ∃ log, Metered limits (getOrCreate limits w.scheduler nodeId now) log ∧
    (getOrCreate limits w.scheduler nodeId now).lastRefill ≤ now ∧ Describes w nodeId log

theorem describes_same (w after : LimiterWatch) (nodeId : String) (log : List (Entry ℚ))
    (picks : after.scheduler.picks = w.scheduler.picks) (resets : after.scheduler.resets = w.scheduler.resets)
    (asked : after.asked = w.asked) (described : Describes w nodeId log) : Describes after nodeId log := by
  constructor
  · rw [picks]
    exact described.spent
  · rw [resets]
    exact described.fills
  · rw [asked, picks, resets]
    exact described.calls

-- The pick, the question or the reset that an entry is the log of.
def pickOf (nodeId : String) : Entry ℚ → List Mark
  | .spend time _ => [⟨nodeId, time⟩]
  | .look _ | .fill _ => []

def askOf (nodeId : String) : Entry ℚ → List Mark
  | .look time => [⟨nodeId, time⟩]
  | .spend .. | .fill _ => []

def resetOf (nodeId : String) : Entry ℚ → List Mark
  | .fill time => [⟨nodeId, time⟩]
  | .spend .. | .look _ => []

theorem marked_more (marks more : List Mark) (query : String) (inside : ℚ → Bool) :
    markedIn (marks ++ more) query inside = markedIn marks query inside + markedIn more query inside :=
  List.countP_append

theorem marked_single (nodeId query : String) (time : ℚ) (inside : ℚ → Bool) :
    markedIn [⟨nodeId, time⟩] query inside = if nodeId = query ∧ inside time = true then 1 else 0 := by
  simp [markedIn, List.countP_cons]

theorem marked_elsewhere (nodeId query : String) (entry : Entry ℚ) (inside : ℚ → Bool) (other : nodeId ≠ query) :
    markedIn (pickOf nodeId entry) query inside = 0 ∧ markedIn (askOf nodeId entry) query inside = 0 ∧
      markedIn (resetOf nodeId entry) query inside = 0 := by
  have single (time : ℚ) : markedIn [⟨nodeId, time⟩] query inside = 0 := by
    rw [marked_single, if_neg fun marked => other marked.1]
  cases entry with
  | spend time amount => exact ⟨single time, rfl, rfl⟩
  | look time => exact ⟨rfl, single time, rfl⟩
  | fill time => exact ⟨rfl, rfl, single time⟩

theorem entry_marked (nodeId : String) (entry : Entry ℚ) (inside : ℚ → Bool)
    (one : ∀ time amount, entry = .spend time amount → amount = 1) :
    (if inside entry.time then entry.amount else 0) = markedIn (pickOf nodeId entry) nodeId inside ∧
      (if inside entry.time && entry.isFill then 1 else 0) = markedIn (resetOf nodeId entry) nodeId inside ∧
      (if inside entry.time then 1 else 0) = markedIn (askOf nodeId entry) nodeId inside +
        markedIn (pickOf nodeId entry) nodeId inside + markedIn (resetOf nodeId entry) nodeId inside := by
  have nobody : markedIn [] nodeId inside = 0 := rfl
  cases entry with
  | spend time amount =>
      obtain rfl := one time amount rfl
      cases counted : inside time <;>
        simp [pickOf, askOf, resetOf, marked_single, nobody, Entry.time, Entry.amount, Entry.isFill, counted]
  | look time =>
      cases counted : inside time <;>
        simp [pickOf, askOf, resetOf, marked_single, nobody, Entry.time, Entry.amount, Entry.isFill, counted]
  | fill time =>
      cases counted : inside time <;>
        simp [pickOf, askOf, resetOf, marked_single, nobody, Entry.time, Entry.amount, Entry.isFill, counted]

theorem describes_entry (w after : LimiterWatch) (nodeId query : String) (entry : Entry ℚ) (log : List (Entry ℚ))
    (one : ∀ time amount, entry = .spend time amount → amount = 1)
    (picks : after.scheduler.picks = w.scheduler.picks ++ pickOf nodeId entry)
    (asked : after.asked = w.asked ++ askOf nodeId entry)
    (resets : after.scheduler.resets = w.scheduler.resets ++ resetOf nodeId entry) (described : Describes w query log) :
    Describes after query (if nodeId = query then log ++ [entry] else log) := by
  obtain ⟨spent, fills, calls⟩ := described
  by_cases same : nodeId = query
  · subst same
    rw [if_pos rfl]
    have marked (inside : ℚ → Bool) := entry_marked nodeId entry inside one
    constructor
    · intro inside
      rw [spent_append, spent, picks, marked_more, (marked inside).1, Nat.cast_add]
    · intro inside
      rw [fills_append, fills, resets, marked_more, (marked inside).2.1]
    · intro inside
      rw [calls_append, calls, picks, asked, resets, marked_more, marked_more, marked_more, (marked inside).2.2]
      omega
  · rw [if_neg same]
    have unmarked (inside : ℚ → Bool) := marked_elsewhere nodeId query entry inside same
    constructor
    · intro inside
      rw [spent, picks, marked_more, (unmarked inside).1, add_zero]
    · intro inside
      rw [fills, resets, marked_more, (unmarked inside).2.2, add_zero]
    · intro inside
      obtain ⟨picked, asking, reset⟩ := unmarked inside
      rw [calls, picks, asked, resets, marked_more, marked_more, marked_more, picked, asking, reset]
      rfl

theorem created_set (limits : Limits ℚ) (s after : ClusterScheduler) (nodeId query : String) (bucket : Bucket ℚ) (now : ℚ)
    (buckets : after.buckets = s.buckets.set nodeId bucket) :
    getOrCreate limits after query now = if query = nodeId then bucket else getOrCreate limits s query now := by
  simp only [getOrCreate, buckets, Dict.get_set]
  by_cases same : query = nodeId <;> simp [same]

theorem metering_write (limits : Limits ℚ) (w after : LimiterWatch) (nodeId : String) (bucket : Bucket ℚ) (entry : Entry ℚ)
    (later : w.scheduler.clock ≤ entry.time) (clock : after.scheduler.clock = entry.time) (metering : Metering limits w)
    (buckets : after.scheduler.buckets = w.scheduler.buckets.set nodeId bucket) (stamped : bucket.lastRefill = entry.time)
    (metered : ∀ log, Metered limits (getOrCreate limits w.scheduler nodeId entry.time) log →
      (getOrCreate limits w.scheduler nodeId entry.time).lastRefill ≤ entry.time → Metered limits bucket (log ++ [entry]))
    (described : ∀ query log, Describes w query log → Describes after query (if nodeId = query then log ++ [entry] else log)) :
    Metering limits after := by
  intro query time reached
  rw [clock] at reached
  rw [created_set limits w.scheduler after.scheduler nodeId query bucket time buckets]
  by_cases same : query = nodeId
  · subst same
    obtain ⟨log, held, before, shown⟩ := metering query entry.time later
    have kept := described query log shown
    rw [if_pos rfl] at kept ⊢
    exact ⟨log ++ [entry], metered log held before, stamped.le.trans reached, kept⟩
  · obtain ⟨log, held, before, shown⟩ := metering query time (later.trans reached)
    have kept := described query log shown
    rw [if_neg (Ne.symm same)] at kept
    rw [if_neg same]
    exact ⟨log, held, before, kept⟩

theorem next_advance (cfg : Settings) (limits : Limits ℚ) (w after : LimiterWatch) (event : PickEvent)
    (taken : w.next cfg limits event = some after) :
    pickNext cfg w.scheduler event = some after.scheduler ∧ after = w.advance limits event after.scheduler := by
  obtain ⟨scheduler, moved, rfl⟩ := Option.map_eq_some_iff.mp taken
  exact ⟨moved, rfl⟩

theorem metering_step (cfg : Settings) (limits : Limits ℚ) (enabled : cfg.rateLimiter = some limits) (w after : LimiterWatch)
    (event : PickEvent) (metering : Metering limits w) (paid : Paid cfg limits w.scheduler event)
    (taken : w.next cfg limits event = some after) : Metering limits after := by
  obtain ⟨moved, advanced⟩ := next_advance cfg limits w after event taken
  obtain ⟨forward, read⟩ := pick_next_clock cfg w.scheduler after.scheduler event moved
  have asking : after.asked = w.asked ++ asks w.scheduler event := congrArg LimiterWatch.asked advanced
  have unchanged : asks w.scheduler event = [] → after.scheduler.picks = w.scheduler.picks →
      after.scheduler.resets = w.scheduler.resets → after.scheduler.buckets = w.scheduler.buckets → Metering limits after := by
    intro silent picks resets buckets nodeId now later
    rw [silent, List.append_nil] at asking
    obtain ⟨log, held, before, shown⟩ := metering nodeId now (forward.trans later)
    rw [getOrCreate, buckets, ← getOrCreate]
    exact ⟨log, held, before, describes_same w after nodeId log picks resets asking shown⟩
  cases pick_next_moved cfg limits enabled w.scheduler after.scheduler event moved with
  | same free silent picks resets buckets => exact unchanged silent picks resets buckets
  | refilled nodeId now free asked reading picks resets buckets =>
      obtain ⟨later, clock⟩ := read now reading
      rw [asked] at asking
      apply metering_write limits w after nodeId _ (.look now) later clock metering buckets rfl
      · exact fun log held before => metered_refill limits _ log now before held
      · exact fun query log => describes_entry w after nodeId query (.look now) log (by simp) (picks.trans (List.append_nil _).symm) asking
          (resets.trans (List.append_nil _).symm)
  | reset nodeId now bucket free silent reading found picks resets buckets =>
      obtain ⟨later, clock⟩ := read now reading
      rw [silent, List.append_nil] at asking
      have same : getOrCreate limits w.scheduler nodeId now = bucket := by rw [getOrCreate, found, Option.getD_some]
      apply metering_write limits w after nodeId _ (.fill now) later clock metering buckets rfl
      · intro log held before
        rw [Entry.time, same] at held before
        exact metered_fill limits bucket log now before held
      · exact fun query log => describes_entry w after nodeId query (.fill now) log (by simp) (picks.trans (List.append_nil _).symm)
          (asking.trans (List.append_nil _).symm) resets
  | chosen i now call eligible critical here choosing resets outcome =>
      subst critical
      obtain ⟨later, clock⟩ := read now rfl
      cases outcome with
      | bound node found picks buckets =>
          have unbound := ((paid_choose cfg limits w.scheduler i now call eligible here choosing).mp paid).unbound
          rw [found] at unbound
          cases unbound
      | nobody unbound unselected picks buckets => exact unchanged rfl picks resets buckets
      | selected node unbound chosen picks buckets =>
          have enough := ((paid_choose cfg limits w.scheduler i now call eligible here choosing).mp paid).token node chosen
          have stored : after.scheduler.buckets =
              w.scheduler.buckets.set node.nodeId ((getOrCreate limits w.scheduler node.nodeId now).consume limits 1 now).2 := by
            simp only [buckets, consume, enabled, setBucket]
          have silent : after.asked = w.asked := asking.trans (List.append_nil _)
          apply metering_write limits w after node.nodeId _ (.spend now 1) later clock metering stored
          · simp only [Bucket.consume, if_pos enough]
            rfl
          · intro log held before
            have spending := metered_consume limits (getOrCreate limits w.scheduler node.nodeId now) log 1 now before zero_le_one held
            have took : ((getOrCreate limits w.scheduler node.nodeId now).consume limits 1 now).1 = true := by
              simp only [Bucket.consume, if_pos enough]
            rwa [took, if_pos rfl] at spending
          · exact fun query log => describes_entry w after node.nodeId query (.spend now 1) log (by simp) picks
              (silent.trans (List.append_nil _).symm) (resets.trans (List.append_nil _).symm)

theorem metering_bounded (limits : Limits ℚ) (w : LimiterWatch) (metering : Metering limits w) : RateBounded limits w := by
  intro nodeId a length nonneg unreset
  obtain ⟨log, held, _, shown⟩ := metering nodeId w.scheduler.clock (le_refl _)
  have bound := held.windows a (a + length) (le_add_of_nonneg_right nonneg)
  rw [shown.spent, allowance, shown.fills, shown.calls, unreset, Nat.cast_zero, add_zero, mul_one, add_sub_cancel_left, add_zero,
    Nat.cast_add] at bound
  refine ⟨bound, fun exact => ?_⟩
  simpa [Limits.pace, Limits.drift, Limits.slip, exact, Rounding.exact] using bound

-- The bucket of a node that a call has passed with still has its token.
def Kept (w : LimiterWatch) : Prop :=
  ∀ i nodeId, (i, nodeId) ∈ w.passed → ∃ bucket, w.scheduler.buckets.get? nodeId = some bucket ∧ 1 ≤ bucket.tokens

theorem kept_token (limits : Limits ℚ) (w : LimiterWatch) (metering : Metering limits w) (kept : Kept w) (i : Nat) (nodeId : String)
    (now : ℚ) (later : w.scheduler.clock ≤ now) (passed : (i, nodeId) ∈ w.passed) :
    1 ≤ ((getOrCreate limits w.scheduler nodeId now).refill limits now).tokens := by
  obtain ⟨bucket, stored, token⟩ := kept i nodeId passed
  obtain ⟨log, held, before, _⟩ := metering nodeId now later
  have same : getOrCreate limits w.scheduler nodeId now = bucket := by rw [getOrCreate, stored, Option.getD_some]
  rw [same] at held before ⊢
  exact token.trans (refill_ge limits bucket now held.capped held.fits before)

theorem turn_paid (cfg : Settings) (limits : Limits ℚ) (w after : LimiterWatch) (event : PickEvent) (metering : Metering limits w)
    (kept : Kept w) (turn : InTurn w event) (taken : w.next cfg limits event = some after) : Paid cfg limits w.scheduler event := by
  cases event with
  | choose i now =>
      obtain ⟨moved, _⟩ := next_advance cfg limits w after (.choose i now) taken
      have later := ((pick_next_clock cfg w.scheduler after.scheduler _ moved).2 now rfl).1
      refine (pays_iff cfg limits w.scheduler i now).mp ?_
      intro call here eligible choosing
      have own := turn call here eligible choosing
      refine ⟨own.unbound, fun node chosen => ?_⟩
      have member := select_inside cfg w.scheduler call.now eligible node chosen
      exact kept_token limits w metering kept i node.nodeId now later (own.passed node member)
  | _ => exact trivial

theorem passed_old (limits : Limits ℚ) (w : LimiterWatch) (event : PickEvent) (after : ClusterScheduler)
    (silent : passes limits w.scheduler event = []) (entry : Nat × String)
    (passed : entry ∈ (w.advance limits event after).passed) : entry ∈ w.passed := by
  rw [LimiterWatch.advance, silent, List.append_nil] at passed
  exact (List.mem_filter.mp passed).1

theorem passed_asked (limits : Limits ℚ) (w : LimiterWatch) (event : PickEvent) (after : ClusterScheduler) (nodeId : String) (now : ℚ)
    (asked : asks w.scheduler event = [⟨nodeId, now⟩]) (reading : event.reading = some now) (entry : Nat × String)
    (passed : entry ∈ (w.advance limits event after).passed) :
    entry ∈ w.passed ∨ entry.2 = nodeId ∧ 1 ≤ ((getOrCreate limits w.scheduler nodeId now).refill limits now).tokens := by
  rcases List.mem_append.mp (List.mem_filter.mp passed).1 with before | fresh
  · exact Or.inl before
  · cases event with
    | askLimiter i time =>
        cases reading
        rw [passes, asked] at fresh
        obtain ⟨mark, member, rfl⟩ := List.mem_map.mp fresh
        obtain ⟨single, enough⟩ := List.mem_filter.mp member
        obtain rfl := List.mem_singleton.mp single
        exact Or.inr ⟨rfl, of_decide_eq_true enough⟩
    | _ => cases fresh

theorem passes_silent (limits : Limits ℚ) (s : ClusterScheduler) (event : PickEvent) (silent : asks s event = []) :
    passes limits s event = [] := by
  cases event with
  | askLimiter i now => rw [passes, silent, List.filter_nil, List.map_nil]
  | _ => rfl

theorem kept_step (cfg : Settings) (limits : Limits ℚ) (enabled : cfg.rateLimiter = some limits) (w after : LimiterWatch)
    (event : PickEvent) (metering : Metering limits w) (kept : Kept w) (paid : Paid cfg limits w.scheduler event)
    (taken : w.next cfg limits event = some after) : Kept after := by
  obtain ⟨moved, advanced⟩ := next_advance cfg limits w after event taken
  have read := (pick_next_clock cfg w.scheduler after.scheduler event moved).2
  have earlier : asks w.scheduler event = [] → ∀ entry ∈ after.passed, entry ∈ w.passed := by
    intro silent entry passed
    rw [advanced] at passed
    exact passed_old limits w event after.scheduler (passes_silent limits w.scheduler event silent) entry passed
  have unchanged : asks w.scheduler event = [] → after.scheduler.buckets = w.scheduler.buckets → Kept after := by
    intro silent buckets i nodeId passed
    rw [buckets]
    exact kept i nodeId (earlier silent _ passed)
  cases pick_next_moved cfg limits enabled w.scheduler after.scheduler event moved with
  | same free silent picks resets buckets => exact unchanged silent buckets
  | refilled nodeId now free asked reading picks resets buckets =>
      have later := (read now reading).1
      intro i query passed
      rw [advanced] at passed
      have entry := passed_asked limits w event after.scheduler nodeId now asked reading _ passed
      rw [buckets, Dict.get_set]
      by_cases same : query = nodeId
      · subst same
        rw [if_pos rfl]
        refine ⟨_, rfl, ?_⟩
        rcases entry with before | ⟨_, token⟩
        · exact kept_token limits w metering kept i query now later before
        · exact token
      · rw [if_neg same]
        rcases entry with before | ⟨named, _⟩
        · exact kept i query before
        · exact absurd named same
  | reset nodeId now bucket free silent reading found picks resets buckets =>
      have later := (read now reading).1
      intro i query passed
      have before := earlier silent _ passed
      rw [buckets, Dict.get_set]
      by_cases same : query = nodeId
      · subst same
        rw [if_pos rfl]
        refine ⟨_, rfl, ?_⟩
        have token := kept_token limits w metering kept i query now later before
        exact token.trans (min_le_left _ _)
      · rw [if_neg same]
        exact kept i query before
  | chosen i now call eligible critical here choosing resets outcome =>
      subst critical
      cases outcome with
      | bound node found picks buckets =>
          have unbound := ((paid_choose cfg limits w.scheduler i now call eligible here choosing).mp paid).unbound
          rw [found] at unbound
          cases unbound
      | nobody unbound unselected picks buckets => exact unchanged rfl buckets
      | selected node unbound chosen picks buckets =>
          intro k query passed
          have before := earlier rfl _ passed
          have other : query ≠ node.nodeId := by
            rw [advanced, LimiterWatch.advance, picks, List.drop_left] at passed
            have apart := (List.mem_filter.mp passed).2
            simpa [ne_comm] using apart
          have stored : after.scheduler.buckets =
              w.scheduler.buckets.set node.nodeId ((getOrCreate limits w.scheduler node.nodeId now).consume limits 1 now).2 := by
            simp only [buckets, consume, enabled, setBucket]
          rw [stored, Dict.get_set, if_neg other]
          exact kept k query before

theorem two_fits : Double.nearest 2 = 2 := by decide +kernel

def pairLimits : Limits ℚ := ⟨2, 1 / 1000, Double.rounding, by norm_num, by norm_num, two_fits⟩

def pairSettings : Settings where
  rateLimiter := some pairLimits
  halve := fun age => if age = 0 then 1 else 1 / 2
  normal := fun value => match value with
    | .str text => Text.strip text
    | _ => ""

def aliveNode : NodeDict := ⟨"a", [("node_id", .str "a"), ("status", .str "alive"), ("last_seen_ago_sec", .number 0)]⟩

def onePick (i : Nat) (affinityKey : Option String) : List PickEvent :=
  [.pick 0 [aliveNode] affinityKey none, .askLimiter i 0, .askLimiter i 0, .choosePool i 0, .choose i 0]

end HuddleCluster.Scheduler
