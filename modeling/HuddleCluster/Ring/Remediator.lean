import HuddleCluster.Lib.Dict
import HuddleCluster.Ring.Adaptive

set_option autoImplicit false

namespace HuddleCluster.Ring

inductive RemediationTrigger where
  | consecutiveOverheat
  | circuitBreakerOpen
  | staleOuterRing
  | canaryFailed
  | manual
deriving DecidableEq, Repr

def RemediationTrigger.value : RemediationTrigger → String
  | .consecutiveOverheat => "consecutive_overheat"
  | .circuitBreakerOpen => "circuit_breaker_open"
  | .staleOuterRing => "stale_outer_ring"
  | .canaryFailed => "canary_failed"
  | .manual => "manual"

inductive RemediationActionType where
  | localCommand
  | httpWebhook
  | pythonCallback
deriving DecidableEq, Repr

def RemediationActionType.value : RemediationActionType → String
  | .localCommand => "local_command"
  | .httpWebhook => "http_webhook"
  | .pythonCallback => "python_callback"

inductive RemediationState where
  | healthy
  | quarantined
  | healing
  | verifying
  | recovered
  | deadLetter
deriving DecidableEq, Repr

-- Of a callback it is only known whether there is one.
structure RemediationPolicy where
  name : String
  trigger : RemediationTrigger
  actionType : RemediationActionType
  actionTarget : String := ""
  actionCallback : Bool := false
  consecutiveEvictionsThreshold : Int := 3
  staleDwellSeconds : ℚ := 60
  maxRetriesPerHour : Int := 3
  enabled : Bool := true
deriving DecidableEq, Repr

-- What comes back from outside: nothing, as the call raised, a return code, the status of
-- a response, or what a callback returned. An action is unsendable if json.dumps takes no
-- such details or Request no such target.
inductive ActionOutcome where
  | raised
  | exited (returnCode : Int)
  | answered (status : Int)
  | returned (result : Bool)
  | unsendable
deriving DecidableEq, Repr

-- The request is built before the try, so what that raises leaves the call.
def RemediationPolicy.executeActionPayload (policy : RemediationPolicy) (outcome : ActionOutcome) : Option Bool :=
  match policy.actionType with
  | .pythonCallback => some (policy.actionCallback && decide (outcome = .returned true))
  | .localCommand => some (!policy.actionTarget.isEmpty && decide (outcome = .exited 0))
  | .httpWebhook =>
      if policy.actionTarget.isEmpty then some false
      else match outcome with
        | .unsendable => none
        | .answered status => some (decide (200 ≤ status) && decide (status < 300))
        | _ => some false

-- How an action ends, and the servers whose quarantine is cleared while it runs.
structure ActionReport where
  outcome : ActionOutcome
  cleared : List String := []

structure RemediationEntry where
  timestamp : ℚ
  serverId : String
  policy : String
  trigger : String
  actionType : String
  success : Bool
  reason : String
deriving DecidableEq

-- What happens while the n-th action runs on a server is read from reports.
structure Remediator where
  enabled : Bool := true
  defaultMaxRetries : Int := 3
  policies : List RemediationPolicy := []
  states : Dict String RemediationState := .empty
  evictionCounts : Dict String Int := .empty
  outerRingSince : Dict String ℚ := .empty
  attemptTimestamps : Dict String (List ℚ) := .empty
  quarantinedServers : List String := []
  remediationHistory : List RemediationEntry := []
  totalActions : Nat := 0
  successfulActions : Nat := 0
  failedActions : Nat := 0
  throttledActions : Nat := 0
  time : Clock
  reports : String → Nat → ActionReport

namespace Remediator

def isQuarantined (m : Remediator) (serverId : String) : Bool := decide (serverId ∈ m.quarantinedServers)

def discard (m : Remediator) (serverId : String) : Remediator :=
  { m with quarantinedServers := m.quarantinedServers.filter fun other => decide (other ≠ serverId) }

def matching (m : Remediator) (trigger : RemediationTrigger) : Option RemediationPolicy :=
  m.policies.find? fun policy => policy.enabled && decide (policy.trigger = trigger)

def recordEviction (m : Remediator) (serverId : String) : Remediator × Option RemediationPolicy :=
  if m.enabled then
    let now := m.time.now
    let count := m.evictionCounts.getD serverId 0 + 1
    let after := { m with
      time := m.time.tick
      outerRingSince := if m.outerRingSince.contains serverId then m.outerRingSince else m.outerRingSince.set serverId now
      evictionCounts := m.evictionCounts.set serverId count }
    (after, m.policies.find? fun policy => policy.enabled && decide (policy.trigger = .consecutiveOverheat) &&
      decide (policy.consecutiveEvictionsThreshold ≤ count))
  else (m, none)

def recordRecovery (m : Remediator) (serverId : String) : Remediator :=
  let m := { m with
    evictionCounts := m.evictionCounts.set serverId 0
    outerRingSince := m.outerRingSince.erase serverId }
  match m.states.get? serverId with
  | some .verifying | some .healing => { m with states := m.states.set serverId .recovered }.discard serverId
  | _ => m

def recordCircuitBreakerOpen (m : Remediator) : Option RemediationPolicy :=
  if m.enabled then m.matching .circuitBreakerOpen else none

def checkStaleCoolingRing (m : Remediator) : Remediator × List (String × RemediationPolicy) :=
  if m.enabled then
    let ts := m.time.now
    ({ m with time := m.time.tick },
      (m.policies.filter fun policy => policy.enabled && decide (policy.trigger = .staleOuterRing)).flatMap fun policy =>
        (m.outerRingSince.entries.filter fun entry => decide (policy.staleDwellSeconds ≤ ts - entry.2)).map fun entry =>
          (entry.1, policy))
  else (m, [])

def checkHourlyRateLimit (m : Remediator) (serverId : String) (maxRetries : Int) : Remediator × Bool :=
  let windowStart := m.time.now - 3600
  let timestamps := (m.attemptTimestamps.getD serverId []).filter fun t => decide (windowStart < t)
  ({ m with time := m.time.tick, attemptTimestamps := m.attemptTimestamps.set serverId timestamps },
    decide (timestamps.length < maxRetries))

def newEntry (m : Remediator) (serverId : String) (policy : RemediationPolicy) (success : Bool) (reason : String) : RemediationEntry where
  timestamp := m.time.now
  serverId := serverId
  policy := policy.name
  trigger := policy.trigger.value
  actionType := policy.actionType.value
  success := success
  reason := reason

def recordHistory (m : Remediator) (serverId : String) (policy : RemediationPolicy) (success : Bool) (reason : String) : Remediator :=
  let history := m.remediationHistory ++ [m.newEntry serverId policy success reason]
  { m with
    time := m.time.tick
    remediationHistory := if 100 < history.length then history.drop 1 else history }

def throttledReason : String := "Rate limit exceeded: dead-lettered"

def finishedReason (success : Bool) : String := if success then "Action completed" else "Action execution failed"

-- policy.max_retries_per_hour or self.default_max_retries
def effectiveRetries (m : Remediator) (policy : RemediationPolicy) : Int :=
  if policy.maxRetriesPerHour = 0 then m.defaultMaxRetries else policy.maxRetriesPerHour

def throttle (m : Remediator) (serverId : String) (policy : RemediationPolicy) : Remediator :=
  { m with
    throttledActions := m.throttledActions + 1
    states := m.states.set serverId .deadLetter }.recordHistory serverId policy false throttledReason

def quarantine (m : Remediator) (serverId : String) : Remediator :=
  { m with
    quarantinedServers := if serverId ∈ m.quarantinedServers then m.quarantinedServers else m.quarantinedServers ++ [serverId]
    states := m.states.set serverId .quarantined
    attemptTimestamps := m.attemptTimestamps.set serverId (m.attemptTimestamps.getD serverId [] ++ [m.time.now])
    time := m.time.tick
    totalActions := m.totalActions + 1 }

-- trigger_remediation up to the action, under the lock, with the moment that an
-- action has been started at.
def beginRemediation (m : Remediator) (serverId : String) (policy : RemediationPolicy) : Remediator × Option ℚ :=
  if m.enabled && policy.enabled then
    let checked := m.checkHourlyRateLimit serverId (m.effectiveRetries policy)
    if checked.2 then (checked.1.quarantine serverId, some checked.1.time.now)
    else (checked.1.throttle serverId policy, none)
  else (m, none)

-- trigger_remediation after the action, under the lock again.
def finishRemediation (m : Remediator) (serverId : String) (policy : RemediationPolicy) (success : Bool) : Remediator :=
  let ended := if success then
      { m with
        successfulActions := m.successfulActions + 1
        states := m.states.set serverId .healing
        evictionCounts := m.evictionCounts.set serverId 0 }
    else
      { m with
        failedActions := m.failedActions + 1
        states := m.states.set serverId .deadLetter }
  ended.recordHistory serverId policy success (finishedReason success)

def clearQuarantine (m : Remediator) (serverId : String) : Remediator :=
  { m.discard serverId with
    states := m.states.set serverId .healthy
    evictionCounts := m.evictionCounts.set serverId 0
    outerRingSince := m.outerRingSince.erase serverId }

def clearAll (m : Remediator) (serverIds : List String) : Remediator := serverIds.foldl clearQuarantine m

-- A call from beginning to end. A cluster calls with its own lock held, so that nothing
-- but clear_quarantine, which takes only the lock of the remediator, comes in while the
-- action runs. The answer is missing where the call raises.
def triggerRemediation (m : Remediator) (serverId : String) (policy : RemediationPolicy) : Remediator × Option Bool :=
  match m.beginRemediation serverId policy with
  | (begun, none) => (begun, some false)
  | (begun, some _) =>
      let report := m.reports serverId m.totalActions
      let waited := begun.clearAll report.cleared
      match policy.executeActionPayload report.outcome with
      | none => (waited, none)
      | some success => (waited.finishRemediation serverId policy success, some success)

-- The calls for the servers that were found stale; one that raises ends the loop.
def triggerAll (m : Remediator) : List (String × RemediationPolicy) → Remediator
  | [] => m
  | (serverId, policy) :: rest =>
      match m.triggerRemediation serverId policy with
      | (after, none) => after
      | (after, some _) => after.triggerAll rest

end Remediator

end HuddleCluster.Ring
