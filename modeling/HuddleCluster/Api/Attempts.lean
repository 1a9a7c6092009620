import HuddleCluster.Api.Webhooks
import HuddleCluster.Lib.Statistics

set_option autoImplicit false

namespace HuddleCluster.Api

-- What one POST of _deliver comes to: an answer, an answer that urllib raises, or any
-- other exception.
inductive Answer where
  | response (status : Int)
  | httpError (code : Int) (reason : String)
  | failed (text : String)
deriving DecidableEq, Repr

inductive Verdict where
  | delivered
  | refused
  | inconclusive
deriving DecidableEq, Repr

namespace Answer

def verdict : Answer → Verdict
  | .response status => if 200 ≤ status ∧ status < 300 then .delivered else .inconclusive
  | .httpError code _ => if 400 ≤ code ∧ code < 500 ∧ code ≠ 429 then .refused else .inconclusive
  | .failed _ => .inconclusive

def statusCode? : Answer → Option Int
  | .response status => some status
  | .httpError code _ => some code
  | .failed _ => none

def text : Answer → String
  | .response status => s!"HTTP status {status}"
  | .httpError code reason => s!"HTTP {code}: {reason}"
  | .failed text => text

end Answer

-- The variables of the loop, and how long it has slept after each attempt.
structure Attempts where
  attempts : Nat := 0
  lastStatusCode : Option Int := none
  lastError : Option String := none
  success : Bool := false
  pauses : List ℚ := []
deriving DecidableEq

namespace Attempts

def backoff (attempt : Nat) : ℚ := 1 / 5 * 2 ^ (attempt - 1)

def receive (s : Attempts) (attempt : Nat) (answer : Answer) : Attempts :=
  { s with
    attempts := attempt
    lastStatusCode := answer.statusCode?.or s.lastStatusCode
    lastError := if answer.verdict = .delivered then s.lastError else some answer.text
    success := if answer.verdict = .delivered then true else s.success }

def pause (maxRetries : Nat) (s : Attempts) (attempt : Nat) : Attempts :=
  if attempt < maxRetries then { s with pauses := s.pauses ++ [backoff attempt] } else s

-- for attempt in range(attempt, max_retries + 1)
def run (maxRetries : Nat) (answers : Nat → Answer) : Nat → Nat → Attempts → Attempts
  | 0, _, s => s
  | remaining + 1, attempt, s =>
      let received := s.receive attempt (answers attempt)
      if (answers attempt).verdict = .inconclusive then
        run maxRetries answers remaining (attempt + 1) (received.pause maxRetries attempt)
      else received

def all (maxRetries : Nat) (answers : Nat → Answer) : Attempts := run maxRetries answers maxRetries 1 {}

end Attempts

structure DeliverySettings where
  maxRetries : Nat := 3
  maxHistory : Nat := 100
  positive : 1 ≤ maxRetries

structure DeliveryRecord where
  deliveryId : String
  webhookId : String
  url : String
  event : String
  status : String
  statusCode : Option Int
  error : Option String
  durationMs : ℚ
  attempts : Nat
  timestamp : ℚ
deriving DecidableEq

structure Report where
  hex : String
  answers : Nat → Answer
  started : ℚ
  ended : ℚ
  timestamp : ℚ

namespace WebhookDelivery

-- secret.encode(..) is asked of any secret that is true, and only a text has it.
def signable (item : WebhookDelivery) : Bool :=
  match item.subscription.secret with
  | .str _ => true
  | secret => !secret.truthy

def deliver (cfg : DeliverySettings) (report : Report) (item : WebhookDelivery) : Option DeliveryRecord :=
  if item.signable then
    let hex := report.hex
    let sent := Attempts.all cfg.maxRetries report.answers
    some {
      deliveryId := s!"del-{hex}"
      webhookId := item.subscription.webhookId
      url := item.subscription.url
      event := item.event
      status := if sent.success then "success" else "failed"
      statusCode := sent.lastStatusCode
      error := if sent.success then none else sent.lastError
      durationMs := Statistics.roundTo 2 ((report.ended - report.started) * 1000)
      attempts := sent.attempts
      timestamp := report.timestamp }
  else none

end WebhookDelivery

-- The status code of the last of the first attempts that had one.
def lastCode (answers : Nat → Answer) : Nat → Option Int
  | 0 => none
  | tried + 1 => (answers (tried + 1)).statusCode?.or (lastCode answers tried)

-- The first attempts, all of them inconclusive, leave the loop before the next one.
structure Trying (maxRetries : Nat) (answers : Nat → Answer) (tried : Nat) (s : Attempts) : Prop where
  attempts : s.attempts = tried
  unsuccessful : s.success = false
  inconclusive : ∀ k, 1 ≤ k → k ≤ tried → (answers k).verdict = .inconclusive
  error : 1 ≤ tried → s.lastError = some (answers tried).text
  statusCode : s.lastStatusCode = lastCode answers tried
  pauses : s.pauses = (List.range' 1 (min tried (maxRetries - 1))).map Attempts.backoff

structure Tried (maxRetries : Nat) (answers : Nat → Answer) (s : Attempts) : Prop where
  few : s.attempts ≤ maxRetries
  tried : 1 ≤ s.attempts
  inconclusive : ∀ k, 1 ≤ k → k < s.attempts → (answers k).verdict = .inconclusive
  conclusive : s.attempts < maxRetries → (answers s.attempts).verdict ≠ .inconclusive
  success : s.success = true ↔ (answers s.attempts).verdict = .delivered
  error : s.success = false → s.lastError = some (answers s.attempts).text
  statusCode : s.lastStatusCode = lastCode answers s.attempts
  slept : s.pauses.sum = 1 / 5 * (2 ^ (s.attempts - 1) - 1)

open Attempts

theorem backoff_sum (n : Nat) : ((List.range' 1 n).map backoff).sum = 1 / 5 * (2 ^ n - 1) := by
  induction n with
  | zero => simp
  | succ n ih =>
      rw [List.range'_1_concat, List.map_append, List.sum_append, ih, List.map_singleton, List.sum_singleton, backoff,
        Nat.add_sub_cancel_left]
      ring

section Loop

variable (maxRetries : Nat) (answers : Nat → Answer)

theorem trying_next (tried : Nat) (s : Attempts) (trying : Trying maxRetries answers tried s)
    (unclear : (answers (tried + 1)).verdict = .inconclusive) (more : tried < maxRetries) :
    Trying maxRetries answers (tried + 1) ((s.receive (tried + 1) (answers (tried + 1))).pause maxRetries (tried + 1)) := by
  have failed : (answers (tried + 1)).verdict ≠ .delivered := by simp [unclear]
  have received : s.receive (tried + 1) (answers (tried + 1)) =
      { s with
        attempts := tried + 1
        lastStatusCode := lastCode answers (tried + 1)
        lastError := some (answers (tried + 1)).text } := by
    simp [receive, failed, lastCode, trying.statusCode]
  have before : ∀ k, 1 ≤ k → k ≤ tried + 1 → (answers k).verdict = .inconclusive := by
    intro k low high
    rcases Nat.lt_or_ge tried k with last | earlier
    · rw [show k = tried + 1 by omega]
      exact unclear
    · exact trying.inconclusive k low earlier
  rw [received, pause]
  split
  · refine ⟨rfl, trying.unsuccessful, before, fun _ => rfl, rfl, ?_⟩
    rw [trying.pauses, Nat.min_eq_left (by omega), Nat.min_eq_left (by omega), List.range'_1_concat, List.map_append,
      List.map_singleton, Nat.add_comm 1 tried]
  · refine ⟨rfl, trying.unsuccessful, before, fun _ => rfl, rfl, ?_⟩
    rw [trying.pauses, Nat.min_eq_left (by omega), Nat.min_eq_right (by omega), show maxRetries - 1 = tried by omega]

theorem trying_concluded (tried : Nat) (s : Attempts) (trying : Trying maxRetries answers tried s)
    (clear : (answers (tried + 1)).verdict ≠ .inconclusive) (more : tried < maxRetries) :
    Tried maxRetries answers (s.receive (tried + 1) (answers (tried + 1))) := by
  refine ⟨more, Nat.le_add_left 1 tried, ?_, fun _ => clear, ?_, ?_, ?_, ?_⟩
  · exact fun k low high => trying.inconclusive k low (Nat.le_of_lt_succ high)
  · simp only [receive, trying.unsuccessful]
    split <;> simp [*]
  · simp only [receive, trying.unsuccessful]
    split <;> simp [*]
  · simp [receive, lastCode, trying.statusCode]
  · simp only [receive, trying.pauses, Nat.add_sub_cancel]
    rw [Nat.min_eq_left (by omega), backoff_sum]

theorem trying_exhausted (s : Attempts) (trying : Trying maxRetries answers maxRetries s) (positive : 1 ≤ maxRetries) :
    Tried maxRetries answers s := by
  have last := trying.inconclusive maxRetries positive (le_refl _)
  refine ⟨trying.attempts.le, trying.attempts ▸ positive, ?_, ?_, ?_, ?_, ?_, ?_⟩
  · intro k low high
    exact trying.inconclusive k low (trying.attempts ▸ high).le
  · exact fun fewer => absurd fewer (trying.attempts ▸ lt_irrefl _)
  · simp [trying.attempts, trying.unsuccessful, last]
  · exact fun _ => trying.attempts ▸ trying.error positive
  · exact trying.attempts ▸ trying.statusCode
  · rw [trying.pauses, trying.attempts, Nat.min_eq_right (Nat.sub_le _ _), backoff_sum]

theorem run_tried (positive : 1 ≤ maxRetries) (remaining tried : Nat) (s : Attempts) (trying : Trying maxRetries answers tried s)
    (whole : tried + remaining = maxRetries) : Tried maxRetries answers (run maxRetries answers remaining (tried + 1) s) := by
  induction remaining generalizing tried s with
  | zero =>
      obtain rfl : tried = maxRetries := whole
      exact trying_exhausted tried answers s trying positive
  | succ remaining ih =>
      rw [run]
      split
      · rename_i unclear
        exact ih (tried + 1) _ (trying_next maxRetries answers tried s trying unclear (by omega)) (by omega)
      · rename_i clear
        exact trying_concluded maxRetries answers tried s trying clear (by omega)

theorem all_tried (positive : 1 ≤ maxRetries) : Tried maxRetries answers (all maxRetries answers) := by
  have begun : Trying maxRetries answers 0 {} := ⟨rfl, rfl, fun k low high => by omega, fun positive => by omega, rfl, by simp⟩
  exact run_tried maxRetries answers positive maxRetries 0 {} begun (Nat.zero_add _)

end Loop

structure Settled (cfg : DeliverySettings) (answers : Nat → Answer) (item : WebhookDelivery) (record : DeliveryRecord) : Prop where
  addressed : record.webhookId = item.subscription.webhookId ∧ record.url = item.subscription.url ∧ record.event = item.event
  few : 1 ≤ record.attempts ∧ record.attempts ≤ cfg.maxRetries
  inconclusive : ∀ k, 1 ≤ k → k < record.attempts → (answers k).verdict = .inconclusive
  conclusive : record.attempts < cfg.maxRetries → (answers record.attempts).verdict ≠ .inconclusive
  success : record.status = "success" ↔ (answers record.attempts).verdict = .delivered
  error : record.error = if record.status = "success" then none else some (answers record.attempts).text
  statusCode : record.statusCode = lastCode answers record.attempts

theorem deliver_settled (cfg : DeliverySettings) (report : Report) (item : WebhookDelivery) (record : DeliveryRecord)
    (done : item.deliver cfg report = some record) : Settled cfg report.answers item record := by
  have tried := all_tried cfg.maxRetries report.answers cfg.positive
  unfold WebhookDelivery.deliver at done
  split at done
  · cases done
    generalize all cfg.maxRetries report.answers = sent at tried
    refine ⟨⟨rfl, rfl, rfl⟩, ⟨tried.tried, tried.few⟩, tried.inconclusive, tried.conclusive, ?_, ?_, tried.statusCode⟩
    · rw [← tried.success]
      cases sent.success <;> simp
    · cases succeeded : sent.success with
      | true => simp
      | false => simpa using tried.error succeeded
  · cases done

theorem deliver_signable (cfg : DeliverySettings) (report : Report) (item : WebhookDelivery) :
    (item.deliver cfg report).isSome = true ↔ item.signable = true := by
  unfold WebhookDelivery.deliver
  split <;> simp [*]

-- A delivery is recorded unless its secret is no text; its attempts stop at the first
-- conclusive answer, and the pauses between them double.
theorem delivery_attempts (cfg : DeliverySettings) (report : Report) (item : WebhookDelivery) :
    ((item.deliver cfg report).isSome = true ↔ item.signable = true) ∧
      ∀ record ∈ item.deliver cfg report, Settled cfg report.answers item record ∧
        (all cfg.maxRetries report.answers).pauses.sum = 1 / 5 * (2 ^ (record.attempts - 1) - 1) := by
  refine ⟨deliver_signable cfg report item, fun record done => ⟨deliver_settled cfg report item record done, ?_⟩⟩
  have slept := (all_tried cfg.maxRetries report.answers cfg.positive).slept
  unfold WebhookDelivery.deliver at done
  split at done
  · cases done
    exact slept
  · cases done

end HuddleCluster.Api
