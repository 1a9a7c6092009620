import HuddleCluster.Lib.Dict
import HuddleCluster.Lib.Runs
import HuddleCluster.Lib.Statistics
import HuddleCluster.Lib.TokenBucket

set_option autoImplicit false

namespace HuddleCluster.RateLimiter

open TokenBucket

structure BucketDict where
  nodeId : String
  capacity : ℚ
  refillRate : ℚ
  tokens : ℚ
  utilisation : ℚ
  rateLimited : Bool
  consumedTotal : Nat
deriving DecidableEq

def toDict (limits : Limits ℚ) (nodeId : String) (bucket : Bucket ℚ) : BucketDict where
  nodeId := nodeId
  capacity := limits.capacity
  refillRate := limits.rate
  tokens := limits.rounding.round (Statistics.roundTo 3 bucket.tokens)
  utilisation := limits.rounding.round
    (Statistics.roundTo 4 (limits.rounding.round (1 - limits.rounding.round (bucket.tokens / limits.capacity))))
  rateLimited := decide (bucket.tokens < 1)
  consumedTotal := bucket.consumed

-- The last two fields are not in the program: the calls that reached the buckets, and the
-- latest reading of the clock.
structure ClusterRateLimiter where
  buckets : Dict String (Bucket ℚ)
  log : List (String × Entry ℚ)
  clock : ℚ

namespace ClusterRateLimiter

def start (clock : ℚ) : ClusterRateLimiter := ⟨.empty, [], clock⟩

def logOf (s : ClusterRateLimiter) (nodeId : String) : List (Entry ℚ) :=
  (s.log.filter fun entry => decide (entry.1 = nodeId)).map Prod.snd

-- A new bucket is full, so its refill a moment later adds nothing.
def getOrCreate (limits : Limits ℚ) (s : ClusterRateLimiter) (nodeId : String) (now : ℚ) : Bucket ℚ :=
  (s.buckets.get? nodeId).getD (.full limits now)

def put (s : ClusterRateLimiter) (nodeId : String) (bucket : Bucket ℚ) (entry : Entry ℚ) : ClusterRateLimiter where
  buckets := s.buckets.set nodeId bucket
  log := s.log ++ [(nodeId, entry)]
  clock := entry.time

def consume (limits : Limits ℚ) (s : ClusterRateLimiter) (nodeId : String) (tokens now : ℚ) : Bool × ClusterRateLimiter :=
  let (ok, bucket) := (s.getOrCreate limits nodeId now).consume limits tokens now
  (ok, s.put nodeId bucket (if ok then .spend now tokens else .look now))

def isRateLimited (limits : Limits ℚ) (s : ClusterRateLimiter) (nodeId : String) (now : ℚ) : Bool × ClusterRateLimiter :=
  let bucket := (s.getOrCreate limits nodeId now).refill limits now
  (decide (bucket.tokens < 1), s.put nodeId bucket (.look now))

-- all_buckets and summary are one of these for each bucket, and each reads the clock
-- on its own.
def bucketFor (limits : Limits ℚ) (s : ClusterRateLimiter) (nodeId : String) (now : ℚ) : Option BucketDict × ClusterRateLimiter :=
  match s.buckets.get? nodeId with
  | none => (none, { s with clock := now })
  | some bucket =>
      let bucket := bucket.refill limits now
      (some (toDict limits nodeId bucket), s.put nodeId bucket (.look now))

def reset (limits : Limits ℚ) (s : ClusterRateLimiter) (nodeId : String) (now : ℚ) : Bool × ClusterRateLimiter :=
  match s.buckets.get? nodeId with
  | none => (false, { s with clock := now })
  | some bucket => (true, s.put nodeId (bucket.fill limits now) (.fill now))

end ClusterRateLimiter

inductive LimiterEvent where
  | consume (nodeId : String) (tokens now : ℚ)
  | isRateLimited (nodeId : String) (now : ℚ)
  | bucketFor (nodeId : String) (now : ℚ)
  | reset (nodeId : String) (now : ℚ)

def LimiterEvent.time : LimiterEvent → ℚ
  | .consume _ _ now | .isRateLimited _ now | .bucketFor _ now | .reset _ now => now

namespace ClusterRateLimiter

def step (limits : Limits ℚ) (s : ClusterRateLimiter) : LimiterEvent → ClusterRateLimiter
  | .consume nodeId tokens now => (s.consume limits nodeId tokens now).2
  | .isRateLimited nodeId now => (s.isRateLimited limits nodeId now).2
  | .bucketFor nodeId now => (s.bucketFor limits nodeId now).2
  | .reset nodeId now => (s.reset limits nodeId now).2

-- The clock never goes back.
def next (limits : Limits ℚ) (s : ClusterRateLimiter) (event : LimiterEvent) : Option ClusterRateLimiter :=
  if s.clock ≤ event.time then some (s.step limits event) else none

end ClusterRateLimiter

open ClusterRateLimiter

-- The amounts are nonnegative, which consume does not check.
def Amounts (_ : ClusterRateLimiter) : LimiterEvent → Prop
  | .consume _ tokens _ => 0 ≤ tokens
  | _ => True

instance (s : ClusterRateLimiter) (event : LimiterEvent) : Decidable (Amounts s event) :=
  match event with
  | .consume _ tokens _ => inferInstanceAs (Decidable (0 ≤ tokens))
  | .isRateLimited _ _ | .bucketFor _ _ | .reset _ _ => instDecidableTrue

-- What a step does: it leaves one bucket in the place of another, or none.
inductive Step (limits : Limits ℚ) (s : ClusterRateLimiter) : LimiterEvent → ClusterRateLimiter → Prop where
  | unknown (event : LimiterEvent) : Step limits s event { s with clock := event.time }
  | consumed (nodeId : String) (tokens now : ℚ) (enough : tokens ≤ ((s.getOrCreate limits nodeId now).refill limits now).tokens) :
      Step limits s (.consume nodeId tokens now)
        (s.put nodeId ((s.getOrCreate limits nodeId now).consume limits tokens now).2 (.spend now tokens))
  | refilled (event : LimiterEvent) (nodeId : String) :
      Step limits s event (s.put nodeId ((s.getOrCreate limits nodeId event.time).refill limits event.time) (.look event.time))
  | filled (nodeId : String) (now : ℚ) :
      Step limits s (.reset nodeId now) (s.put nodeId ((s.getOrCreate limits nodeId now).fill limits now) (.fill now))

theorem step_cases (limits : Limits ℚ) (s : ClusterRateLimiter) (event : LimiterEvent) : Step limits s event (s.step limits event) := by
  cases event with
  | consume nodeId tokens now =>
      by_cases enough : tokens ≤ ((s.getOrCreate limits nodeId now).refill limits now).tokens
      · have taken : Step limits s (.consume nodeId tokens now) _ := .consumed nodeId tokens now enough
        simpa [step, ClusterRateLimiter.consume, Bucket.consume, enough] using taken
      · have left : Step limits s (.consume nodeId tokens now) _ := .refilled (.consume nodeId tokens now) nodeId
        simpa [step, ClusterRateLimiter.consume, Bucket.consume, enough, LimiterEvent.time] using left
  | isRateLimited nodeId now => exact .refilled (.isRateLimited nodeId now) nodeId
  | bucketFor nodeId now =>
      cases held : s.buckets.get? nodeId with
      | none =>
          have kept : Step limits s (.bucketFor nodeId now) _ := .unknown (.bucketFor nodeId now)
          simpa [step, bucketFor, held, LimiterEvent.time] using kept
      | some bucket =>
          have refilled : Step limits s (.bucketFor nodeId now) _ := .refilled (.bucketFor nodeId now) nodeId
          simpa [step, bucketFor, held, getOrCreate, LimiterEvent.time] using refilled
  | reset nodeId now =>
      cases held : s.buckets.get? nodeId with
      | none =>
          have kept : Step limits s (.reset nodeId now) _ := .unknown (.reset nodeId now)
          simpa [step, reset, held, LimiterEvent.time] using kept
      | some bucket =>
          have filled : Step limits s (.reset nodeId now) _ := .filled nodeId now
          simpa [step, reset, held, getOrCreate] using filled

@[simp] theorem get_put (s : ClusterRateLimiter) (nodeId query : String) (bucket : Bucket ℚ) (entry : Entry ℚ) :
    (s.put nodeId bucket entry).buckets.get? query = if query = nodeId then some bucket else s.buckets.get? query :=
  Dict.get_set _ _ _ _

theorem log_put (s : ClusterRateLimiter) (nodeId query : String) (bucket : Bucket ℚ) (entry : Entry ℚ) :
    (s.put nodeId bucket entry).logOf query = s.logOf query ++ if query = nodeId then [entry] else [] := by
  rw [logOf, logOf, put, List.filter_append, List.map_append]
  refine congrArg _ ?_
  by_cases same : query = nodeId
  · simp [same]
  · simp [same, Ne.symm same]

theorem put_each (s : ClusterRateLimiter) (nodeId : String) (bucket : Bucket ℚ) (entry : Entry ℚ)
    (property : String → Bucket ℚ → Prop) (own : property nodeId bucket)
    (others : ∀ query held, query ≠ nodeId → s.buckets.get? query = some held → property query held) (query : String)
    (held : Bucket ℚ) (found : (s.put nodeId bucket entry).buckets.get? query = some held) : property query held := by
  rw [get_put] at found
  split at found
  · rename_i same
    cases found
    exact same ▸ own
  · rename_i other
    exact others query held other found

structure Accounted (limits : Limits ℚ) (s : ClusterRateLimiter) : Prop where
  unknown : ∀ nodeId, s.buckets.get? nodeId = none → s.logOf nodeId = []
  metered : ∀ nodeId bucket, s.buckets.get? nodeId = some bucket → Metered limits bucket (s.logOf nodeId)
  stamped : ∀ nodeId bucket, s.buckets.get? nodeId = some bucket → bucket.lastRefill ≤ s.clock

theorem accounted_created (limits : Limits ℚ) (s : ClusterRateLimiter) (accounted : Accounted limits s) (nodeId : String) (now : ℚ)
    (later : s.clock ≤ now) :
    Metered limits (s.getOrCreate limits nodeId now) (s.logOf nodeId) ∧ (s.getOrCreate limits nodeId now).lastRefill ≤ now := by
  rw [getOrCreate]
  cases held : s.buckets.get? nodeId with
  | none =>
      rw [accounted.unknown nodeId held]
      exact ⟨metered_full limits now, le_refl now⟩
  | some bucket => exact ⟨accounted.metered nodeId bucket held, (accounted.stamped nodeId bucket held).trans later⟩

theorem accounted_put (limits : Limits ℚ) (s : ClusterRateLimiter) (accounted : Accounted limits s) (nodeId : String)
    (bucket : Bucket ℚ) (entry : Entry ℚ) (later : s.clock ≤ entry.time)
    (metered : Metered limits bucket (s.logOf nodeId ++ [entry])) (stamped : bucket.lastRefill ≤ entry.time) :
    Accounted limits (s.put nodeId bucket entry) where
  unknown query missing := by
    rw [get_put] at missing
    split at missing
    · cases missing
    · rename_i other
      rw [log_put, if_neg other, List.append_nil]
      exact accounted.unknown query missing
  metered := by
    refine put_each s nodeId bucket entry (fun query held => Metered limits held ((s.put nodeId bucket entry).logOf query)) ?_ ?_
    · rwa [log_put, if_pos rfl]
    · intro query held other found
      rw [log_put, if_neg other, List.append_nil]
      exact accounted.metered query held found
  stamped := by
    refine put_each s nodeId bucket entry (fun _ held => held.lastRefill ≤ entry.time) stamped ?_
    exact fun query held _ found => (accounted.stamped query held found).trans later

theorem next_cases (limits : Limits ℚ) (s after : ClusterRateLimiter) (event : LimiterEvent) (taken : s.next limits event = some after) :
    s.clock ≤ event.time ∧ Step limits s event after := by
  rw [next] at taken
  split at taken
  · rename_i later
    cases taken
    exact ⟨later, step_cases limits s event⟩
  · cases taken

theorem accounted_step (limits : Limits ℚ) (s after : ClusterRateLimiter) (event : LimiterEvent) (accounted : Accounted limits s)
    (amounts : Amounts s event) (taken : s.next limits event = some after) : Accounted limits after := by
  obtain ⟨later, step⟩ := next_cases limits s after event taken
  cases step with
  | unknown => exact ⟨accounted.unknown,
      accounted.metered, fun nodeId bucket held => (accounted.stamped nodeId bucket held).trans later⟩
  | consumed nodeId tokens now enough =>
      obtain ⟨metered, before⟩ := accounted_created limits s accounted nodeId now later
      have spent := metered_consume limits _ _ tokens now before amounts metered
      have whole : (s.getOrCreate limits nodeId now).consume limits tokens now = (true, _) := if_pos enough
      rw [whole, if_pos rfl] at spent
      rw [whole]
      exact accounted_put limits s accounted nodeId _ _ later spent (le_refl _)
  | refilled event nodeId =>
      obtain ⟨metered, before⟩ := accounted_created limits s accounted nodeId event.time later
      exact accounted_put limits s accounted nodeId _ _ later (metered_refill limits _ _ event.time before metered) (le_refl _)
  | filled nodeId now =>
      obtain ⟨metered, before⟩ := accounted_created limits s accounted nodeId now later
      exact accounted_put limits s accounted nodeId _ _ later (metered_fill limits _ _ now before metered) (le_refl _)

theorem allowance_exact (limits : Limits ℚ) (exact : limits.rounding = .exact) (inside : ℚ → Bool) (log : List (Entry ℚ))
    (length : ℚ) :
    allowance limits inside log length = limits.capacity * (1 + fills inside log) + limits.rate * length := by
  simp [allowance, Limits.pace, Limits.drift, Limits.slip, exact, Rounding.exact]

-- No bucket leaves its range, and no window takes more from one than a full bucket for
-- itself and for each reset in it, what was refilled meanwhile, and what its calls rounded.
theorem buckets_bounded (limits : Limits ℚ) (clock : ℚ) (events : List LimiterEvent) (s : ClusterRateLimiter)
    (run : Runs.Run (ClusterRateLimiter.next limits) Amounts (.start clock) events s) (nodeId : String) :
    (∀ bucket ∈ s.buckets.get? nodeId, 0 ≤ bucket.tokens ∧ bucket.tokens ≤ limits.capacity) ∧
      ∀ a length, 0 ≤ length →
        spent (within a (a + length)) (s.logOf nodeId) ≤ limits.capacity * (1 + fills (within a (a + length)) (s.logOf nodeId)) +
          limits.pace * length + limits.drift * calls (within a (a + length)) (s.logOf nodeId) ∧
        (limits.rounding = .exact → spent (within a (a + length)) (s.logOf nodeId) ≤
          limits.capacity * (1 + fills (within a (a + length)) (s.logOf nodeId)) + limits.rate * length) := by
  have accounted : Accounted limits s := by
    refine Runs.run_invariant (ClusterRateLimiter.next limits) Amounts (Accounted limits) ?_ (.start clock) s events ?_ run
    · exact fun state event after accounted amounts taken => accounted_step limits state after event accounted amounts taken
    · refine ⟨fun _ _ => rfl, ?_, ?_⟩
      · intro _ _ found
        cases found
      · intro _ _ found
        cases found
  refine ⟨fun bucket held => ⟨(accounted.metered nodeId bucket held).nonneg, (accounted.metered nodeId bucket held).capped⟩, ?_⟩
  intro a length positive
  have metered := (accounted_created limits s accounted nodeId s.clock (le_refl _)).1
  have window := metered.windows a (a + length) (le_add_of_nonneg_right positive)
  rw [add_sub_cancel_left] at window
  refine ⟨window, fun exact => ?_⟩
  rwa [allowance_exact limits exact] at window

theorem hundred_fits : Double.nearest 100 = 100 := by decide +kernel

def hundred : Limits ℚ := ⟨100, 50, Double.rounding, by norm_num, by norm_num, hundred_fits⟩

def burst : List LimiterEvent :=
  [.consume "a" 100 0, .isRateLimited "a" 1, .consume "a" 60 1, .reset "a" 1, .consume "a" 100 1, .bucketFor "a" 2]

theorem buckets_bounded_burst : ∃ s ∈ Runs.follow (ClusterRateLimiter.next hundred) Amounts (.start 0) burst,
    spent (within 0 (0 + 1)) (s.logOf "a") ≤ hundred.capacity * (1 + fills (within 0 (0 + 1)) (s.logOf "a")) + hundred.pace * 1 +
      hundred.drift * calls (within 0 (0 + 1)) (s.logOf "a") := by
  obtain ⟨s, followed⟩ : ∃ s, s ∈ Runs.follow (ClusterRateLimiter.next hundred) Amounts (.start 0) burst :=
    Option.isSome_iff_exists.mp (by decide +kernel)
  have run := Runs.follow_run (ClusterRateLimiter.next hundred) Amounts (.start 0) s burst followed
  exact ⟨s, followed, ((buckets_bounded hundred 0 burst s run "a").2 0 1 (by norm_num)).1⟩

def single : Limits ℚ := ⟨1, 3, Double.rounding, by norm_num, by norm_num, Double.nearest_one⟩

-- The double next to a third of a second. It is below a third, and the tokens that it
-- refills are rounded up to one.
def third : ℚ := Double.nearest (1 / 3)

theorem rounding_grants_more : ∃ s ∈ Runs.follow (ClusterRateLimiter.next single) Amounts (.start 0) [.consume "a" 1 0,
    .consume "a" 1 third],
    fills (within 0 (0 + third)) (s.logOf "a") = 0 ∧
      single.capacity * (1 + 0) + single.rate * third < spent (within 0 (0 + third)) (s.logOf "a") := by decide +kernel

end HuddleCluster.RateLimiter
