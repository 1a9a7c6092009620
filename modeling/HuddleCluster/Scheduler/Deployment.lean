import HuddleCluster.Scheduler.Steps

set_option autoImplicit false

namespace HuddleCluster.Scheduler

-- A number that compares with one; any other value raises.
def number? : Json → Option ℚ
  | .bool value => some (if value then 1 else 0)
  | .int value => some value
  | .number value => some value
  | _ => none

namespace Canary

-- ClusterCanaryDeployment as it is built.
def idle (canaryTag : String) : Canary := ⟨canaryTag, .idle, 0, []⟩

-- Each operation gives its answer, or none where it raises. The phase is set
-- before the weight is looked at.
def start (weightSteps : List ℚ) (weight : Json) (canary : Canary) : Option Bool × Canary :=
  if canary.phase = .active then (some false, canary)
  else
    let initial := match weight with
      | .null => weightSteps.head?
      | value => number? value
    match initial with
    | none => (none, { canary with phase := .active })
    | some initial => (some true, { canary with phase := .active, weight := max 0 (min 100 initial) })

def advance (weightSteps : List ℚ) (canary : Canary) : Option Bool × Canary :=
  if canary.phase = .active then
    match weightSteps.find? fun step => decide (canary.weight < step) with
    | none => (some false, canary)
    | some step => (some true, { canary with weight := step })
  else (some false, canary)

def setWeight (weight : Json) (canary : Canary) : Option Bool × Canary :=
  if canary.phase = .active then
    match number? weight with
    | none => (none, canary)
    | some weight => (some true, { canary with weight := max 0 (min 100 weight) })
  else (some false, canary)

def promote (canary : Canary) : Option Bool × Canary :=
  if canary.phase = .active then (some true, { canary with phase := .promoted, weight := 100 }) else (some false, canary)

def abort (canary : Canary) : Option Bool × Canary :=
  if canary.phase = .active then (some true, { canary with phase := .aborted, weight := 0 }) else (some false, canary)

def announceCanary (nodeId : String) (canary : Canary) : Canary :=
  if nodeId ∈ canary.canaryIds then canary else { canary with canaryIds := canary.canaryIds ++ [nodeId] }

def removeCanary (nodeId : String) (canary : Canary) : Bool × Canary :=
  (decide (nodeId ∈ canary.canaryIds), { canary with canaryIds := canary.canaryIds.filter fun other => decide (other ≠ nodeId) })

end Canary

inductive CanaryAction where
  | start (weight : Json)
  | advance
  | setWeight (weight : Json)
  | promote
  | abort
  | announce (nodeId : String)
  | remove (nodeId : String)

def Canary.operate (weightSteps : List ℚ) (canary : Canary) : CanaryAction → Canary
  | .start weight => (canary.start weightSteps weight).2
  | .advance => (canary.advance weightSteps).2
  | .setWeight weight => (canary.setWeight weight).2
  | .promote => canary.promote.2
  | .abort => canary.abort.2
  | .announce nodeId => canary.announceCanary nodeId
  | .remove nodeId => (canary.removeCanary nodeId).2

end HuddleCluster.Scheduler
