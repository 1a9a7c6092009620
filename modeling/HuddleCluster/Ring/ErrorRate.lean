import HuddleCluster.Ring.Moves

set_option autoImplicit false

namespace HuddleCluster.Ring

namespace Cluster

inductive Request where
  | context (affinityKey : Option String) (draw : ℚ) (raised : Bool) (elapsedMs : ℚ)
  | retry (affinityKey : Option String) (draw : ℚ) (attempts : List (Outcome × ℚ))

def serve (c : Cluster) : Request → Cluster
  | .context affinityKey draw raised elapsedMs => c.getServerContext affinityKey draw raised elapsedMs
  | .retry affinityKey draw attempts => c.requestWithRetry affinityKey draw attempts

def serveAll (c : Cluster) (requests : List Request) : Cluster := requests.foldl serve c

-- The outcomes a request leaves behind, with the server each one fell on.
def retryLog : List (Outcome × ℚ) → List String → Cluster → List (Ref × Outcome)
  | [], _, _ => []
  | (outcome, elapsedMs) :: rest, triedIds, c =>
      match c.getServerExcluding triedIds with
      | (none, _) => []
      | (some r, after) =>
          match outcome with
          | .failure => (r, .failure) :: retryLog rest (triedIds ++ [after.idOf r]) (after.recordOutcome r .failure elapsedMs)
          | .success | .notRetryable => [(r, outcome)]

def log (c : Cluster) : Request → List (Ref × Outcome)
  | .context affinityKey draw raised _ =>
      match c.getServer affinityKey draw with
      | (none, _) => []
      | (some r, _) => [(r, if raised then .failure else .success)]
  | .retry _ _ [] => []
  | .retry affinityKey draw ((outcome, elapsedMs) :: rest) =>
      match c.getServer affinityKey draw with
      | (none, _) => []
      | (some r, after) =>
          match outcome with
          | .failure => (r, .failure) :: retryLog rest [after.idOf r] (after.recordOutcome r .failure elapsedMs)
          | .success | .notRetryable => [(r, outcome)]

def logAll : Cluster → List Request → List (Ref × Outcome)
  | _, [] => []
  | c, request :: rest => c.log request ++ logAll (c.serve request) rest

def outcomesOn (r : Ref) (entries : List (Ref × Outcome)) : List Outcome :=
  (entries.filter fun entry => decide (entry.1 = r)).map Prod.snd

def health (c : Cluster) (r : Ref) : ℚ × Bool := ((c.objects r).metrics.errorRate, (c.objects r).metrics.isHealthy)

def noted (health : ℚ × Bool) : Outcome → ℚ × Bool
  | .failure =>
      let errorRate := min 1 (health.1 * (9 / 10) + 1 / 10)
      (errorRate, if 1 / 2 < errorRate then false else health.2)
  | .success | .notRetryable => health

-- A failure is a sample of one, a success a sample of zero; an exception that
-- is not in retry_on says nothing about the server.
def sample : Outcome → Option ℚ
  | .failure => some 1
  | .success => some 0
  | .notRetryable => none

def failureFraction (start : ℚ) (outcomes : List Outcome) : ℚ :=
  MovingAverage.average (1 / 10) start (outcomes.filterMap sample)

end Cluster

open Cluster

theorem modify_health (c : Cluster) (x r : Ref) (f : Server → Server)
    (same : ((f (c.objects x)).metrics.errorRate, (f (c.objects x)).metrics.isHealthy) = c.health x) :
    (c.modify x f).health r = c.health r := by
  by_cases here : r = x
  · subst here
    simpa [health] using same
  · simp [health, here]

theorem feed_p95_health (c : Cluster) (r : Ref) : c.feedP95.health r = c.health r := by
  rw [feed_p95_spec]
  rfl

theorem record_latency_health (c : Cluster) (x r : Ref) (latencyMs : ℚ) : (c.recordLatency x latencyMs).health r = c.health r := by
  simp only [recordLatency]
  simp only [feed_p95_health, updateTemperature, modifyMetrics]
  rw [modify_health _ x r _ rfl, modify_health _ x r _ rfl, modify_health _ x r _ rfl]

theorem penalise_health (c : Cluster) (x r : Ref) :
    (c.penalise x).health r = if r = x then noted (c.health r) .failure else c.health r := by
  unfold penalise
  rw [updateTemperature, modify_health _ x r _ rfl]
  by_cases here : r = x
  · subst here
    rw [if_pos rfl, health, modifyMetrics, modify_objects, if_pos rfl]
    by_cases past : 1 / 2 < (c.objects r).metrics.recordError.errorRate
    · have flagged : (noted (c.health r) .failure).2 = false := if_pos past
      simp only [if_pos past]
      exact Prod.ext rfl flagged.symm
    · have spared : (noted (c.health r) .failure).2 = (c.health r).2 := if_neg past
      simp only [if_neg past]
      exact Prod.ext rfl spared.symm
  · simp [modifyMetrics, health, here]

theorem record_outcome_health (c : Cluster) (x r : Ref) (outcome : Outcome) (elapsedMs : ℚ) :
    (c.recordOutcome x outcome elapsedMs).health r = if r = x then noted (c.health r) outcome else c.health r := by
  cases outcome with
  | success => simp [recordOutcome, record_latency_health, noted]
  | notRetryable => simp [recordOutcome, record_latency_health, noted]
  | failure => rw [recordOutcome, penalise_health, record_latency_health]

theorem health_of_objects (c d : Cluster) (r : Ref) (same : d.objects = c.objects) : d.health r = c.health r := by
  rw [health, same, health]

theorem outcomes_on_cons (r x : Ref) (outcome : Outcome) (rest : List (Ref × Outcome)) (start : ℚ × Bool) :
    (outcomesOn r ((x, outcome) :: rest)).foldl noted start =
      (outcomesOn r rest).foldl noted (if r = x then noted start outcome else start) := by
  by_cases here : r = x
  · subst here
    simp [outcomesOn]
  · simp [outcomesOn, here, Ne.symm here]

theorem retry_attempts_health (attempts : List (Outcome × ℚ)) (triedIds : List String) (c : Cluster) (r : Ref) :
    (c.retryAttempts attempts triedIds).health r =
      (outcomesOn r (retryLog attempts triedIds c)).foldl noted (c.health r) := by
  induction attempts generalizing triedIds c with
  | nil => rfl
  | cons attempt rest ih =>
      obtain ⟨outcome, elapsedMs⟩ := attempt
      have objects := get_excluding_objects c triedIds
      rw [retryAttempts, retryLog]
      cases chosen : c.getServerExcluding triedIds with
      | mk server after =>
          rw [chosen] at objects
          have before := health_of_objects c after r objects
          cases server with
          | none => exact before
          | some x =>
              have recorded := record_outcome_health after x r outcome elapsedMs
              rw [before] at recorded
              cases outcome with
              | failure => exact (ih _ _).trans (by rw [recorded, outcomes_on_cons])
              | success => exact recorded.trans (outcomes_on_cons r x .success [] (c.health r)).symm
              | notRetryable => exact recorded.trans (outcomes_on_cons r x .notRetryable [] (c.health r)).symm

theorem serve_health (c : Cluster) (request : Request) (r : Ref) :
    (c.serve request).health r = (outcomesOn r (c.log request)).foldl noted (c.health r) := by
  cases request with
  | context affinityKey draw raised elapsedMs =>
      have objects := get_server_objects c affinityKey draw
      rw [serve, getServerContext, log]
      cases chosen : c.getServer affinityKey draw with
      | mk server after =>
          rw [chosen] at objects
          have before := health_of_objects c after r objects
          cases server with
          | none => exact before
          | some x =>
              rw [outcomes_on_cons]
              exact (record_outcome_health after x r _ elapsedMs).trans (by rw [before]; rfl)
  | retry affinityKey draw attempts =>
      cases attempts with
      | nil => rfl
      | cons attempt rest =>
          obtain ⟨outcome, elapsedMs⟩ := attempt
          have objects := get_server_objects c affinityKey draw
          rw [serve, requestWithRetry, log]
          cases chosen : c.getServer affinityKey draw with
          | mk server after =>
              rw [chosen] at objects
              have before := health_of_objects c after r objects
              cases server with
              | none => exact before
              | some x =>
                  have recorded := record_outcome_health after x r outcome elapsedMs
                  rw [before] at recorded
                  cases outcome with
                  | failure => exact (retry_attempts_health _ _ _ r).trans (by rw [recorded, outcomes_on_cons])
                  | success => exact recorded.trans (outcomes_on_cons r x .success [] (c.health r)).symm
                  | notRetryable => exact recorded.trans (outcomes_on_cons r x .notRetryable [] (c.health r)).symm

theorem serve_all_health (c : Cluster) (requests : List Request) (r : Ref) :
    (c.serveAll requests).health r = (outcomesOn r (c.logAll requests)).foldl noted (c.health r) := by
  induction requests generalizing c with
  | nil => rfl
  | cons request rest ih =>
      have tail : (c.serveAll (request :: rest)).health r = ((c.serve request).serveAll rest).health r := rfl
      rw [tail, ih, serve_health, logAll, ← List.foldl_append]
      simp only [outcomesOn, List.filter_append, List.map_append]

-- The error rate of r is the weighted failure fraction of its own outcomes; an
-- outcome makes it unhealthy only past one half; and successes bring it under
-- any threshold.
structure Recovers (c : Cluster) (r : Ref) (requests : List Request) : Prop where
  fraction : ((c.serveAll requests).health r).1 = failureFraction (c.health r).1 (outcomesOn r (c.logAll requests))
  unhealthy : ∀ front outcome back, outcomesOn r (c.logAll requests) = front ++ outcome :: back →
    (front.foldl noted (c.health r)).2 = true → ((front ++ [outcome]).foldl noted (c.health r)).2 = false →
    1 / 2 < failureFraction (c.health r).1 (front ++ [outcome])
  forgets : ∀ threshold, 0 < threshold → ∃ enough, ∀ durations : List ℚ, enough ≤ durations.length →
    ((durations.foldl (fun state elapsedMs => state.recordOutcome r .success elapsedMs) (c.serveAll requests)).health r).1 <
      threshold

theorem successes_keep_health (c : Cluster) (r : Ref) (durations : List ℚ) :
    (durations.foldl (fun state elapsedMs => state.recordOutcome r .success elapsedMs) c).health r = c.health r := by
  induction durations generalizing c with
  | nil => rfl
  | cons elapsedMs rest ih =>
      rw [List.foldl_cons, ih, record_outcome_health, if_pos rfl]
      rfl

theorem forgets_iff (c : Cluster) (r : Ref) :
    (∀ threshold, 0 < threshold → ∃ enough, ∀ durations : List ℚ, enough ≤ durations.length →
      ((durations.foldl (fun state elapsedMs => state.recordOutcome r .success elapsedMs) c).health r).1 < threshold) ↔
      (c.health r).1 ≤ 0 := by
  simp only [successes_keep_health]
  constructor
  · intro forgets
    by_contra positive
    obtain ⟨enough, below⟩ := forgets _ (not_le.mp positive)
    exact lt_irrefl _ (below (List.replicate enough 0) (by simp))
  · intro low threshold positive
    exact ⟨0, fun _ _ => lt_of_le_of_lt low positive⟩

def rateAfter (start : ℚ) (failures : Nat) : ℚ := 1 - (1 - start) * (9 / 10) ^ failures

theorem rate_after_succ (start : ℚ) (failures : Nat) :
    rateAfter (start * (9 / 10) + 1 / 10) failures = rateAfter start (failures + 1) := by
  unfold rateAfter
  ring

theorem noted_rate (start : ℚ × Bool) (outcomes : List Outcome) (low : start.1 ≤ 1) :
    (outcomes.foldl noted start).1 = rateAfter start.1 (outcomes.count .failure) := by
  induction outcomes generalizing start with
  | nil => simp [rateAfter]
  | cons outcome rest ih =>
      cases outcome with
      | success =>
          rw [List.foldl_cons, List.count_cons_of_ne (by simp)]
          exact ih start low
      | notRetryable =>
          rw [List.foldl_cons, List.count_cons_of_ne (by simp)]
          exact ih start low
      | failure =>
          have next : (noted start .failure).1 = start.1 * (9 / 10) + 1 / 10 := min_eq_right (by linarith)
          rw [List.foldl_cons, ih _ (by rw [next]; linarith), next, List.count_cons_self, rate_after_succ]

theorem noted_low (start : ℚ × Bool) (outcomes : List Outcome) (low : (outcomes.foldl noted start).1 ≤ 0) : start.1 ≤ 0 := by
  induction outcomes generalizing start with
  | nil => exact low
  | cons outcome rest ih =>
      have after := ih (noted start outcome) low
      cases outcome with
      | success => exact after
      | notRetryable => exact after
      | failure =>
          rcases min_le_iff.mp after with one | smaller
          · exact absurd one (by norm_num)
          · linarith

theorem noted_spares (start : ℚ × Bool) (outcome : Outcome) (low : (noted start outcome).1 ≤ 0) (healthy : start.2 = true) :
    (noted start outcome).2 ≠ false := by
  cases outcome with
  | success => simp [noted, healthy]
  | notRetryable => simp [noted, healthy]
  | failure =>
      have below : ¬ 1 / 2 < min 1 (start.1 * (9 / 10) + 1 / 10) := fun above => by
        have rate : min 1 (start.1 * (9 / 10) + 1 / 10) ≤ 0 := low
        linarith
      have spared : (noted start .failure).2 = start.2 := if_neg below
      simp [spared, healthy]

-- Below zero both rates only move towards zero, the fraction at every outcome
-- and the server's rate at failures, so they part for good at the first success
-- that finds the rate away from zero.
theorem fraction_eq_low (start : ℚ × Bool) (average : ℚ) (outcomes : List Outcome) (above : start.1 ≤ average)
    (low : (outcomes.foldl noted start).1 ≤ 0) (same : (outcomes.foldl noted start).1 = failureFraction average outcomes) :
    average = start.1 ∧ ∀ front back, outcomes = front ++ .success :: back → (front.foldl noted start).1 = 0 := by
  induction outcomes generalizing start average with
  | nil =>
      refine ⟨same.symm, ?_⟩
      intro front back split
      simp at split
  | cons outcome rest ih =>
      have here := noted_low start (outcome :: rest) low
      cases outcome with
      | notRetryable =>
          obtain ⟨equal, zero⟩ := ih start average above low same
          refine ⟨equal, ?_⟩
          intro front back split
          cases front with
          | nil => simp at split
          | cons first front =>
              rw [List.cons_append, List.cons.injEq] at split
              rw [← split.1]
              exact zero front back split.2
      | success =>
          have step : failureFraction average (.success :: rest) = failureFraction (9 / 10 * average) rest := by
            simp only [failureFraction, List.filterMap_cons, sample, MovingAverage.average, List.foldl_cons, MovingAverage.smooth]
            norm_num
          rw [step] at same
          obtain ⟨equal, zero⟩ := ih start (9 / 10 * average) (by linarith) low same
          have initial : start.1 = 0 := by linarith
          refine ⟨by linarith, ?_⟩
          intro front back split
          cases front with
          | nil => exact initial
          | cons first front =>
              rw [List.cons_append, List.cons.injEq] at split
              rw [← split.1]
              exact zero front back split.2
      | failure =>
          have next : (noted start .failure).1 = start.1 * (9 / 10) + 1 / 10 := min_eq_right (by linarith)
          have step : failureFraction average (.failure :: rest) = failureFraction (average * (9 / 10) + 1 / 10) rest := by
            simp only [failureFraction, List.filterMap_cons, sample, MovingAverage.average, List.foldl_cons, MovingAverage.smooth]
            ring_nf
          rw [step] at same
          obtain ⟨equal, zero⟩ := ih (noted start .failure) _ (by rw [next]; linarith) low same
          rw [next] at equal
          refine ⟨by linarith, ?_⟩
          intro front back split
          cases front with
          | nil => simp at split
          | cons first front =>
              rw [List.cons_append, List.cons.injEq] at split
              rw [← split.1]
              exact zero front back split.2

theorem fraction_of_zero_successes (start : ℚ × Bool) (outcomes : List Outcome) (low : start.1 ≤ 1)
    (zero : ∀ front back, outcomes = front ++ .success :: back → (front.foldl noted start).1 = 0) :
    (outcomes.foldl noted start).1 = failureFraction start.1 outcomes := by
  induction outcomes generalizing start with
  | nil => rfl
  | cons outcome rest ih =>
      have later : ∀ front back, rest = front ++ .success :: back → (front.foldl noted (noted start outcome)).1 = 0 :=
        fun front back split => zero (outcome :: front) back (by rw [split, List.cons_append])
      cases outcome with
      | notRetryable => exact ih start low later
      | success =>
          have initial : start.1 = 0 := zero [] rest rfl
          rw [List.foldl_cons, ih (noted start .success) low later]
          simp [failureFraction, sample, MovingAverage.average, MovingAverage.smooth, noted, initial]
      | failure =>
          have next : (noted start .failure).1 = start.1 * (9 / 10) + 1 / 10 := min_eq_right (by linarith)
          rw [List.foldl_cons, ih (noted start .failure) (by rw [next]; linarith) later, next]
          simp only [failureFraction, List.filterMap_cons, sample, MovingAverage.average, List.foldl_cons, MovingAverage.smooth]
          ring_nf

-- With k failures the rate has to end at zero or below, and every success has
-- to find it at zero; a rate between zero and one does so only when it is zero
-- and nothing fails.
theorem recovers_iff (c : Cluster) (r : Ref) (requests : List Request) :
    Recovers c r requests ↔
      rateAfter (c.health r).1 ((outcomesOn r (c.logAll requests)).count .failure) ≤ 0 ∧
        ∀ front back, outcomesOn r (c.logAll requests) = front ++ .success :: back →
          rateAfter (c.health r).1 (front.count .failure) = 0 := by
  have served := serve_all_health c requests r
  constructor
  · rintro ⟨fraction, _, forgets⟩
    have low := (forgets_iff (c.serveAll requests) r).mp forgets
    rw [served] at low fraction
    have start := noted_low (c.health r) _ low
    obtain ⟨_, zero⟩ := fraction_eq_low (c.health r) _ _ (le_refl _) low fraction
    refine ⟨by rwa [← noted_rate _ _ (by linarith)], ?_⟩
    intro front back split
    rw [← noted_rate _ _ (by linarith)]
    exact zero front back split
  · rintro ⟨low, zero⟩
    have start : (c.health r).1 ≤ 1 := by
      by_contra above
      have positive : 0 < ((c.health r).1 - 1) * (9 / 10) ^ (outcomesOn r (c.logAll requests)).count .failure :=
        mul_pos (by linarith) (by positivity)
      unfold rateAfter at low
      linarith
    rw [← noted_rate _ _ start] at low
    have zeroed : ∀ front back, outcomesOn r (c.logAll requests) = front ++ .success :: back →
        (front.foldl noted (c.health r)).1 = 0 := by
      intro front back split
      rw [noted_rate _ _ start]
      exact zero front back split
    refine ⟨?_, ?_, ?_⟩
    · rw [served]
      exact fraction_of_zero_successes (c.health r) _ start zeroed
    · intro front outcome back split healthy flagged
      rw [split, ← List.singleton_append, ← List.append_assoc, List.foldl_append] at low
      have before := noted_low _ _ low
      rw [List.foldl_append, List.foldl_cons, List.foldl_nil] at before flagged
      exact absurd flagged (noted_spares _ outcome before healthy)
    · exact (forgets_iff (c.serveAll requests) r).mpr (by rwa [served])

def oneServer : Cluster :=
  { Cluster.empty {} (fun r => { id := toString r }) none none none ⟨fun ticks => ticks, 0⟩ with innerRing := [0] }

theorem error_rate_not_recovering : ¬ Recovers oneServer 0 [.context none 0 true 10, .context none 0 false 10] := by
  intro recovers
  have parted : ((oneServer.serveAll [.context none 0 true 10, .context none 0 false 10]).health 0).1 ≠
      failureFraction (oneServer.health 0).1
        (outcomesOn 0 (oneServer.logAll [.context none 0 true 10, .context none 0 false 10])) := by decide +kernel
  exact parted recovers.fraction

end HuddleCluster.Ring
