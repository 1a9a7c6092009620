import HuddleCluster.RateLimiter.Limiter
import HuddleCluster.Scheduler.Pick

set_option autoImplicit false

namespace HuddleCluster.RateLimiter

open TokenBucket
open ClusterRateLimiter
open Scheduler (ClusterScheduler NodeDict PickCall)

-- Nothing is taken from the bucket of the node. An attempt may fail.
def Quiet (limits : Limits ℚ) (nodeId : String) (s : ClusterRateLimiter) : LimiterEvent → Prop
  | .consume other tokens now => other = nodeId → (s.consume limits other tokens now).1 = false
  | _ => True

instance (limits : Limits ℚ) (nodeId : String) (s : ClusterRateLimiter) (event : LimiterEvent) :
    Decidable (Quiet limits nodeId s event) :=
  match event with
  | .consume other tokens now => inferInstanceAs (Decidable (other = nodeId → (s.consume limits other tokens now).1 = false))
  | .isRateLimited _ _ | .bucketFor _ _ | .reset _ _ => instDecidableTrue

-- The limiter says that the node has a token, and a scheduler that asks it at that
-- moment keeps the node among those that it may pick.
def MayBePicked (limits : Limits ℚ) (s : ClusterRateLimiter) (nodeId : String) (now : ℚ) : Prop :=
  (s.isRateLimited limits nodeId now).1 = false ∧
    ∀ (cfg : Scheduler.Settings) (scheduler : ClusterScheduler) (i : Nat) (call : PickCall) (node : NodeDict)
      (todo kept : List NodeDict), cfg.rateLimiter = some limits → scheduler.buckets = s.buckets →
        scheduler.calls[i]? = some call → call.phase = .limiting (node :: todo) kept → node.nodeId = nodeId →
          ∃ after, scheduler.askLimiter cfg i now = some after ∧
            after.calls = scheduler.calls.set i { call with phase := .limiting todo (kept ++ [node]) }

theorem may_be_picked_iff (limits : Limits ℚ) (s : ClusterRateLimiter) (nodeId : String) (now : ℚ) :
    MayBePicked limits s nodeId now ↔ 1 ≤ ((s.getOrCreate limits nodeId now).refill limits now).tokens := by
  have limited : (s.isRateLimited limits nodeId now).1 = false ↔ 1 ≤ ((s.getOrCreate limits nodeId now).refill limits now).tokens := by
    rw [isRateLimited, decide_eq_false_iff_not, not_lt]
  refine ⟨fun picked => limited.mp picked.1, fun token => ⟨limited.mpr token, ?_⟩⟩
  intro cfg scheduler i call node todo kept enabled same here asking rfl
  have created : ClusterScheduler.getOrCreate limits scheduler node.nodeId now = s.getOrCreate limits node.nodeId now := by
    rw [ClusterScheduler.getOrCreate, ClusterRateLimiter.getOrCreate, same]
  simp only [ClusterScheduler.askLimiter, here, enabled, asking, created, if_neg (not_lt.mpr token)]
  exact ⟨_, rfl, rfl⟩

-- What a bucket holds at least after some time without consumption and some calls, each
-- of which may round something away.
def Recovering (limits : Limits ℚ) (since asked : ℚ) (bucket : Bucket ℚ) : Prop :=
  min limits.capacity ((bucket.lastRefill - since) * limits.rate * (1 - 2 * limits.rounding.unit) - asked * limits.drift) ≤ bucket.tokens

theorem recovering_full (limits : Limits ℚ) (since asked : ℚ) (bucket : Bucket ℚ) (full : bucket.tokens = limits.capacity) :
    Recovering limits since asked bucket := by
  rw [Recovering, full]
  exact min_le_left _ _

theorem recovering_refill (limits : Limits ℚ) (since asked now : ℚ) (bucket : Bucket ℚ) (nonneg : 0 ≤ bucket.tokens)
    (later : bucket.lastRefill ≤ now) (recovering : Recovering limits since asked bucket) :
    Recovering limits since (asked + 1) (bucket.refill limits now) := by
  have share : 0 ≤ 1 - 2 * limits.rounding.unit := sub_nonneg.mpr limits.rounding.unitHalf
  have gained : 0 ≤ (now - bucket.lastRefill) * limits.rate * (1 - 2 * limits.rounding.unit) :=
    mul_nonneg (mul_nonneg (sub_nonneg.mpr later) limits.ratePos.le) share
  have refilled := le_refill limits bucket now nonneg later
  rw [Recovering] at recovering ⊢
  rcases min_le_iff.mp recovering with topped | growing
  · have full := refill_full limits bucket now topped later
    exact (min_le_left _ _).trans full
  · have whole : (now - since) * limits.rate * (1 - 2 * limits.rounding.unit) - (asked + 1) * limits.drift =
        (bucket.lastRefill - since) * limits.rate * (1 - 2 * limits.rounding.unit) - asked * limits.drift +
          (now - bucket.lastRefill) * limits.rate * (1 - 2 * limits.rounding.unit) - limits.drift := by
      ring
    refine (min_le_min_left limits.capacity ?_).trans refilled
    exact whole.trans_le (sub_le_sub_right (add_le_add_left growing _) _)

def Sound (s : ClusterRateLimiter) : Prop :=
  ∀ nodeId bucket, s.buckets.get? nodeId = some bucket → 0 ≤ bucket.tokens ∧ bucket.lastRefill ≤ s.clock

theorem sound_created (limits : Limits ℚ) (s : ClusterRateLimiter) (sound : Sound s) (nodeId : String) (now : ℚ)
    (later : s.clock ≤ now) :
    0 ≤ (s.getOrCreate limits nodeId now).tokens ∧ (s.getOrCreate limits nodeId now).lastRefill ≤ now := by
  rw [getOrCreate]
  cases held : s.buckets.get? nodeId with
  | none => exact ⟨limits.capacityPos.le, le_refl now⟩
  | some bucket => exact ⟨(sound nodeId bucket held).1, (sound nodeId bucket held).2.trans later⟩

theorem sound_put (s : ClusterRateLimiter) (sound : Sound s) (nodeId : String) (bucket : Bucket ℚ) (entry : Entry ℚ)
    (later : s.clock ≤ entry.time) (nonneg : 0 ≤ bucket.tokens) (stamped : bucket.lastRefill = entry.time) :
    Sound (s.put nodeId bucket entry) := by
  refine put_each s nodeId bucket entry (fun _ held => 0 ≤ held.tokens ∧ held.lastRefill ≤ entry.time) ⟨nonneg, stamped.le⟩ ?_
  exact fun query held _ found => ⟨(sound query held found).1, (sound query held found).2.trans later⟩

theorem refill_nonneg (limits : Limits ℚ) (bucket : Bucket ℚ) (now : ℚ) (nonneg : 0 ≤ bucket.tokens)
    (later : bucket.lastRefill ≤ now) :
    0 ≤ (bucket.refill limits now).tokens :=
  le_min limits.capacityPos.le
    (limits.rounding.round_nonneg _ (add_nonneg nonneg (gain_nonneg limits _ (sub_nonneg.mpr later))))

theorem sound_step (limits : Limits ℚ) (s after : ClusterRateLimiter) (event : LimiterEvent) (sound : Sound s)
    (taken : s.next limits event = some after) : Sound after := by
  obtain ⟨later, step⟩ := next_cases limits s after event taken
  cases step with
  | unknown => exact fun nodeId bucket held => ⟨(sound nodeId bucket held).1, (sound nodeId bucket held).2.trans later⟩
  | consumed nodeId tokens now enough =>
      have whole : (s.getOrCreate limits nodeId now).consume limits tokens now = (true, _) := if_pos enough
      rw [whole]
      exact sound_put s sound nodeId _ _ later (limits.rounding.round_nonneg _ (sub_nonneg.mpr enough)) rfl
  | refilled event nodeId =>
      obtain ⟨nonneg, before⟩ := sound_created limits s sound nodeId event.time later
      exact sound_put s sound nodeId _ _ later (refill_nonneg limits _ _ nonneg before) rfl
  | filled nodeId now => exact sound_put s sound nodeId _ _ later limits.capacityPos.le rfl

def askedSince (s : ClusterRateLimiter) (nodeId : String) (earlier : ℚ) : ℚ := (s.logOf nodeId).length - earlier

def AllRecovering (limits : Limits ℚ) (nodeId : String) (since earlier : ℚ) (s : ClusterRateLimiter) : Prop :=
  ∀ bucket, s.buckets.get? nodeId = some bucket → Recovering limits since (askedSince s nodeId earlier) bucket

theorem recovering_created (limits : Limits ℚ) (s : ClusterRateLimiter) (nodeId : String) (since earlier now : ℚ)
    (recovering : AllRecovering limits nodeId since earlier s) :
    Recovering limits since (askedSince s nodeId earlier) (s.getOrCreate limits nodeId now) := by
  rw [getOrCreate]
  cases held : s.buckets.get? nodeId with
  | none => exact recovering_full limits since _ _ rfl
  | some bucket => exact recovering bucket held

theorem recovering_put (limits : Limits ℚ) (s : ClusterRateLimiter) (nodeId other : String) (since earlier : ℚ) (bucket : Bucket ℚ)
    (entry : Entry ℚ) (recovering : AllRecovering limits nodeId since earlier s)
    (own : other = nodeId → Recovering limits since (askedSince s nodeId earlier + 1) bucket) :
    AllRecovering limits nodeId since earlier (s.put other bucket entry) := by
  intro held found
  rw [get_put] at found
  rw [askedSince, log_put]
  split at found
  · rename_i same
    cases found
    have counted := own same.symm
    rw [askedSince] at counted
    rw [if_pos same, List.length_append, List.length_singleton, Nat.cast_add, Nat.cast_one]
    rwa [sub_add_eq_add_sub] at counted
  · rename_i apart
    rw [if_neg apart, List.append_nil]
    exact recovering held found

theorem recovering_step (limits : Limits ℚ) (nodeId : String) (since earlier : ℚ) (s after : ClusterRateLimiter) (event : LimiterEvent)
    (sound : Sound s) (recovering : AllRecovering limits nodeId since earlier s) (quiet : Quiet limits nodeId s event)
    (taken : s.next limits event = some after) : AllRecovering limits nodeId since earlier after := by
  obtain ⟨later, step⟩ := next_cases limits s after event taken
  cases step with
  | unknown => exact recovering
  | consumed other tokens now enough =>
      refine recovering_put limits s nodeId other since earlier _ _ recovering ?_
      intro same
      have whole : (s.getOrCreate limits other now).consume limits tokens now = (true, _) := if_pos enough
      have failed := quiet same
      rw [ClusterRateLimiter.consume, whole] at failed
      cases failed
  | refilled event other =>
      refine recovering_put limits s nodeId other since earlier _ _ recovering ?_
      rintro rfl
      obtain ⟨nonneg, before⟩ := sound_created limits s sound other event.time later
      exact recovering_refill limits since _ event.time _ nonneg before
        (recovering_created limits s other since earlier event.time recovering)
  | filled other now =>
      refine recovering_put limits s nodeId other since earlier _ _ recovering ?_
      intro _
      exact recovering_full limits since _ _ rfl

theorem log_grows (limits : Limits ℚ) (nodeId : String) (s after : ClusterRateLimiter) (event : LimiterEvent)
    (taken : s.next limits event = some after) : ((s.logOf nodeId).length : ℚ) ≤ (after.logOf nodeId).length := by
  have longer (other : String) (bucket : Bucket ℚ) (entry : Entry ℚ) :
      ((s.logOf nodeId).length : ℚ) ≤ ((s.put other bucket entry).logOf nodeId).length := by
    rw [log_put, List.length_append, Nat.cast_add]
    exact le_add_of_nonneg_right (Nat.cast_nonneg _)
  cases (next_cases limits s after event taken).2 with
  | unknown => exact le_refl _
  | consumed other tokens now enough => exact longer other _ _
  | refilled event other => exact longer other _ _
  | filled other now => exact longer other _ _

theorem drift_exact (limits : Limits ℚ) (exact : limits.rounding = .exact) : limits.drift = 0 ∧ limits.rounding.unit = 0 := by
  simp [Limits.drift, Limits.slip, exact, Rounding.exact]

-- After a pause that would fill the bucket from empty, the node cannot be picked if the
-- bucket holds no token, and it can be if rounding leaves one.
theorem recovers_whole (limits : Limits ℚ) (clock : ℚ) (history : List LimiterEvent) (s : ClusterRateLimiter)
    (reached : Runs.Run (ClusterRateLimiter.next limits) (fun _ _ => True) (.start clock) history s) (nodeId : String)
    (pause : List LimiterEvent) (after : ClusterRateLimiter)
    (left : Runs.Run (ClusterRateLimiter.next limits) (Quiet limits nodeId) s pause after) (now : ℚ) (later : after.clock ≤ now)
    (waited : s.clock + limits.capacity / limits.rate ≤ now) :
    (limits.capacity < 1 → ¬ MayBePicked limits after nodeId now) ∧
      (1 + 2 * limits.rounding.unit * limits.capacity + (askedSince after nodeId (s.logOf nodeId).length + 1) * limits.drift ≤
        limits.capacity → MayBePicked limits after nodeId now) ∧
      (limits.rounding = .exact → (MayBePicked limits after nodeId now ↔ 1 ≤ limits.capacity)) := by
  have sound : Sound s := by
    refine Runs.run_invariant (ClusterRateLimiter.next limits) (fun _ _ => True) Sound ?_ (.start clock) s history ?_ reached
    · exact fun state event after sound _ taken => sound_step limits state after event sound taken
    · intro _ _ found
      cases found
  have initial : AllRecovering limits nodeId s.clock (s.logOf nodeId).length s := by
    intro bucket held
    obtain ⟨nonneg, stamped⟩ := sound nodeId bucket held
    have share : 0 ≤ 1 - 2 * limits.rounding.unit := sub_nonneg.mpr limits.rounding.unitHalf
    have nothing : (bucket.lastRefill - s.clock) * limits.rate * (1 - 2 * limits.rounding.unit) ≤ 0 :=
      mul_nonpos_of_nonpos_of_nonneg (mul_nonpos_of_nonpos_of_nonneg (sub_nonpos.mpr stamped) limits.ratePos.le) share
    rw [Recovering, askedSince, sub_self, zero_mul, sub_zero]
    exact (min_le_right _ _).trans (nothing.trans nonneg)
  obtain ⟨sound, recovering⟩ := Runs.run_invariant (ClusterRateLimiter.next limits) (Quiet limits nodeId)
    (fun state => Sound state ∧ AllRecovering limits nodeId s.clock (s.logOf nodeId).length state)
    (fun state event after held quiet taken => ⟨sound_step limits state after event held.1 taken,
      recovering_step limits nodeId s.clock _ state after event held.1 held.2 quiet taken⟩) s after pause ⟨sound, initial⟩ left
  have asked : 0 ≤ askedSince after nodeId (s.logOf nodeId).length := sub_nonneg.mpr <|
    Runs.run_monotone (ClusterRateLimiter.next limits) (Quiet limits nodeId) (fun _ => True)
      (fun state => ((state.logOf nodeId).length : ℚ)) (fun _ _ _ _ _ _ => trivial)
      (fun state event after _ _ taken => log_grows limits nodeId state after event taken) s after pause trivial left
  have never (small : limits.capacity < 1) : ¬ MayBePicked limits after nodeId now := by
    rw [may_be_picked_iff, not_le]
    exact (min_le_left _ _).trans_lt small
  have always (enough : 1 + 2 * limits.rounding.unit * limits.capacity +
      (askedSince after nodeId (s.logOf nodeId).length + 1) * limits.drift ≤ limits.capacity) : MayBePicked limits after nodeId now := by
    obtain ⟨nonneg, before⟩ := sound_created limits after sound nodeId now later
    have least := recovering_refill limits s.clock _ now _ nonneg before (recovering_created limits after nodeId s.clock _ now recovering)
    have grown : limits.capacity ≤ (now - s.clock) * limits.rate := by
      rw [← div_le_iff₀ limits.ratePos]
      linarith
    have share : 0 ≤ 1 - 2 * limits.rounding.unit := sub_nonneg.mpr limits.rounding.unitHalf
    have shared : limits.capacity * (1 - 2 * limits.rounding.unit) ≤ (now - s.clock) * limits.rate * (1 - 2 * limits.rounding.unit) :=
      mul_le_mul_of_nonneg_right grown share
    have spare := mul_nonneg limits.rounding.unitNonneg limits.capacityPos.le
    have lost := mul_nonneg (add_nonneg asked zero_le_one) (drift_nonneg limits)
    rw [may_be_picked_iff]
    refine le_trans (le_min ?_ ?_) least
    · linarith
    · simp only [Bucket.refill]
      linarith
  refine ⟨never, always, fun exact => ⟨fun picked => not_lt.mp fun small => never small picked, fun whole => always ?_⟩⟩
  obtain ⟨steady, even⟩ := drift_exact limits exact
  rw [steady, even, mul_zero, zero_mul, mul_zero, add_zero, add_zero]
  exact whole

-- The bucket is emptied, and someone asks about it and tries in vain before it recovers.
theorem recovers_whole_hundred : ∃ s ∈ Runs.follow (ClusterRateLimiter.next hundred) (fun _ _ => True) (.start 0) [.consume "a" 100 0],
    ∃ after ∈ Runs.follow (ClusterRateLimiter.next hundred) (Quiet hundred "a") s [.isRateLimited "a" 0, .consume "a" 60 1],
      MayBePicked hundred after "a" 2 := by
  obtain ⟨s, followed, after, left, early, waited, enough⟩ :
    ∃ s ∈ Runs.follow (ClusterRateLimiter.next hundred) (fun _ _ => True) (.start 0)
      [.consume "a" 100 0], ∃ after ∈ Runs.follow (ClusterRateLimiter.next hundred) (Quiet hundred "a") s
        [.isRateLimited "a" 0, .consume "a" 60 1], after.clock ≤ 2 ∧ s.clock + hundred.capacity / hundred.rate ≤ 2 ∧
          1 + 2 * hundred.rounding.unit * hundred.capacity + (askedSince after "a" (s.logOf "a").length + 1) * hundred.drift ≤
            hundred.capacity := by decide +kernel
  refine ⟨s, followed, after, left, ?_⟩
  refine (recovers_whole hundred 0 _ s (Runs.follow_run _ _ _ s _ followed) "a" _ after (Runs.follow_run _ _ _ after _ left) 2 early
    waited).2.1 enough

theorem half_fits : Double.nearest (1 / 2) = 1 / 2 := by decide +kernel

theorem half_positive : (0 : ℚ) < 1 / 2 := one_half_pos

theorem whole_positive : (0 : ℚ) < 1 := one_pos

theorem tenth_positive : 0 < Double.nearest (1 / 10) := by decide +kernel

-- The constructor takes a bucket for half a token.
def half : Limits ℚ := ⟨1 / 2, 1, Double.rounding, half_positive, whole_positive, half_fits⟩

-- Nothing is ever taken from it, and it is limited all the same.
theorem half_never_picked : (ClusterRateLimiter.start 0).clock + half.capacity / half.rate ≤ 3600 ∧
    ¬ MayBePicked half (.start 0) "a" 3600 := by
  rw [may_be_picked_iff]
  decide +kernel

-- A bucket for just one token that refills by a tenth of it.
def tenths : Limits ℚ := ⟨1, Double.nearest (1 / 10), Double.rounding, whole_positive, tenth_positive, Double.nearest_one⟩

def eachSecond : List LimiterEvent := (List.range 10).map fun second => .isRateLimited "a" (second + 1)

-- Asked each second it does not get to the whole token, since every sum is rounded.
theorem tenths_still_limited : ∃ s ∈ Runs.follow (ClusterRateLimiter.next tenths) (fun _ _ => True) (.start 0) [.consume "a" 1 0],
    ∃ after ∈ Runs.follow (ClusterRateLimiter.next tenths) (Quiet tenths "a") s eachSecond,
      s.clock + tenths.capacity / tenths.rate ≤ 10 ∧ (after.isRateLimited tenths "a" 10).1 = true := by decide +kernel

end HuddleCluster.RateLimiter
