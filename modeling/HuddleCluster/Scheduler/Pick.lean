import HuddleCluster.Lib.Leader
import HuddleCluster.Lib.Runs
import HuddleCluster.Lib.TokenBucket
import HuddleCluster.Scheduler.Fitness

set_option autoImplicit false

namespace HuddleCluster.Scheduler

open TokenBucket
open Double (nearest)

inductive CanaryPhase where
  | idle
  | active
  | promoted
  | aborted
deriving DecidableEq, Repr

structure Canary where
  canaryTag : String
  phase : CanaryPhase
  weight : ℚ
  canaryIds : List String

-- Outside code and builtins that the scheduler calls: halve x is 0.5 ** x, and
-- normal value is str(value).strip().lower().
structure Settings where
  cooldown : ℚ := 10
  preferAlive : Bool := true
  circuitBreaker : Bool := false
  rateLimiter : Option (Limits ℚ) := none
  halve : ℚ → ℚ
  normal : Json → String

-- Where a call of pick stands. The breaker and the limiter are asked about one
-- node after the other; kept are the nodes that have passed so far.
inductive PickPhase where
  | breaking (todo kept : List NodeDict)
  | limiting (todo kept : List NodeDict)
  | pooling (eligible : List NodeDict)
  | choosing (eligible : List NodeDict)
  | returned (node : Option NodeDict)
  | raised

def PickPhase.pooling? : PickPhase → Option (List NodeDict)
  | .pooling eligible => some eligible
  | _ => none

def PickPhase.choosing? : PickPhase → Option (List NodeDict)
  | .choosing eligible => some eligible
  | _ => none

structure PickCall where
  now : ℚ
  affinityKey : Option String
  preferredRegion : Option String
  phase : PickPhase

structure Mark where
  nodeId : String
  time : ℚ
deriving DecidableEq, Repr

-- The last three fields are not in the program: the nodes that picks have
-- returned, the resets by an operator, and the latest reading of the clock.
structure ClusterScheduler where
  heat : Dict String (ℚ × ℚ)
  affinityMap : Dict String String
  workloadCount : Dict String Nat
  buckets : Dict String (Bucket ℚ)
  openBreakers : String → Bool
  canary : Option Canary
  calls : List PickCall
  picks : List Mark
  resets : List Mark
  clock : ℚ

namespace ClusterScheduler

def start (openBreakers : String → Bool) (canary : Option Canary) (clock : ℚ) : ClusterScheduler where
  heat := .empty
  affinityMap := .empty
  workloadCount := .empty
  buckets := .empty
  openBreakers := openBreakers
  canary := canary
  calls := []
  picks := []
  resets := []
  clock := clock

-- A cooldown of 0 raises.
def age? (cfg : Settings) (elapsed : ℚ) : Option ℚ := (divide? (nearest elapsed) cfg.cooldown).map nearest

-- 0.5 ** age raises from where it has no double any more.
def share? (cfg : Settings) (age : ℚ) : Option ℚ := if age ≤ -1024 then none else some (cfg.halve age)

def currentHeat (cfg : Settings) (s : ClusterScheduler) (nodeId : String) (now : ℚ) : Option ℚ :=
  match s.heat.get? nodeId with
  | none => some 0
  | some (heat, lastTime) => ((age? cfg (now - lastTime)).bind (share? cfg)).map fun share => nearest (heat * share)

def score (cfg : Settings) (s : ClusterScheduler) (now : ℚ) (node : NodeDict) : Option ℚ :=
  match nodeFitness node with
  | none => none
  | some fit =>
      if fit < 0 then some (-1)
      else
        match s.currentHeat cfg node.nodeId now with
        | none => none
        | some heat => (divide? fit (nearest (1 + heat))).map nearest

def best (cfg : Settings) (s : ClusterScheduler) (now : ℚ) (nodes : List NodeDict) : Option (Option NodeDict) :=
  (nodes.mapM fun node => (s.score cfg now node).map fun score => (node, score)).map fun scored =>
    match scored.argmax Prod.snd with
    | none => none
    | some (node, score) => if 0 ≤ score then some node else none

def select (cfg : Settings) (s : ClusterScheduler) (now : ℚ) (eligible : List NodeDict) : Option (Option NodeDict) :=
  if cfg.preferAlive then
    match s.best cfg now (eligible.filter fun node => node.hasStatus "alive") with
    | none => none
    | some (some node) => some (some node)
    | some none => s.best cfg now (eligible.filter fun node => node.hasStatus "quarantined")
  else s.best cfg now eligible

def isCanary (cfg : Settings) (canary : Canary) (node : NodeDict) : Option Bool :=
  if node.nodeId ∈ canary.canaryIds then some true
  else
    (node.section? "metadata").map fun metadata =>
      decide (cfg.normal ((Json.find? metadata canary.canaryTag).getD (.str "")) ∈ ["true", "1", "yes"])

-- An empty list is falsy, so without stable nodes the whole list is the pool.
def pickPool (cfg : Settings) (canary : Canary) (draw : ℚ) (nodes : List NodeDict) : Option (List NodeDict) :=
  match canary.phase with
  | .idle | .aborted => some nodes
  | .active | .promoted =>
      (nodes.mapM fun node => (isCanary cfg canary node).map fun tagged => (node, tagged)).map fun tagged =>
        let canaries := (tagged.filter fun entry => entry.2).map Prod.fst
        let stable := (tagged.filter fun entry => !entry.2).map Prod.fst
        if canaries.isEmpty then (if stable.isEmpty then nodes else stable)
        else if stable.isEmpty then canaries
        else if draw < canary.weight then canaries
        else stable

def narrowRegion (cfg : Settings) (preferredRegion : Option String) (nodes : List NodeDict) : Option (List NodeDict) :=
  match preferredRegion with
  | none | some "" => some nodes
  | some region =>
      (nodes.mapM fun (node : NodeDict) => (node.section? "metadata").map fun metadata =>
          (node, cfg.normal ((Json.find? metadata "region").getD (.str "")))).map fun placed =>
        let regional := (placed.filter fun entry => decide (entry.2 = cfg.normal (.str region))).map Prod.fst
        if regional.isEmpty then nodes else regional

-- A filter that leaves nobody ends the pick.
def settle (next : List NodeDict → PickPhase) (kept : List NodeDict) : PickPhase :=
  if kept.isEmpty then .returned none else next kept

def afterLimiter (kept : List NodeDict) : PickPhase := settle .pooling kept

def afterBreaker (cfg : Settings) (kept : List NodeDict) : PickPhase :=
  settle (fun kept => if cfg.rateLimiter.isSome then .limiting kept [] else .pooling kept) kept

def afterStatus (cfg : Settings) (kept : List NodeDict) : PickPhase :=
  settle (fun kept =>
    if cfg.circuitBreaker then .breaking kept []
    else if cfg.rateLimiter.isSome then .limiting kept []
    else .pooling kept) kept

def enter (cfg : Settings) (s : ClusterScheduler) (now : ℚ) (nodes : List NodeDict) (affinityKey preferredRegion : Option String) :
    ClusterScheduler :=
  { s with calls := s.calls ++ [⟨now, affinityKey, preferredRegion, afterStatus cfg (nodes.filter NodeDict.eligible)⟩] }

def setPhase (s : ClusterScheduler) (i : Nat) (call : PickCall) (phase : PickPhase) : ClusterScheduler :=
  { s with calls := s.calls.set i { call with phase := phase } }

def askBreaker (cfg : Settings) (s : ClusterScheduler) (i : Nat) : Option ClusterScheduler :=
  match s.calls[i]? with
  | none => none
  | some call =>
      match call.phase with
      | .breaking [] kept => some (s.setPhase i call (afterBreaker cfg kept))
      | .breaking (node :: todo) kept =>
          some (s.setPhase i call (.breaking todo (if s.openBreakers node.nodeId then kept else kept ++ [node])))
      | _ => none

def getOrCreate (limits : Limits ℚ) (s : ClusterScheduler) (nodeId : String) (now : ℚ) : Bucket ℚ :=
  (s.buckets.get? nodeId).getD (.full limits now)

def setBucket (s : ClusterScheduler) (nodeId : String) (bucket : Bucket ℚ) : ClusterScheduler :=
  { s with buckets := s.buckets.set nodeId bucket }

-- is_rate_limited stores the refilled bucket.
def askLimiter (cfg : Settings) (s : ClusterScheduler) (i : Nat) (now : ℚ) : Option ClusterScheduler :=
  match s.calls[i]?, cfg.rateLimiter with
  | some call, some limits =>
      match call.phase with
      | .limiting [] kept => some (s.setPhase i call (afterLimiter kept))
      | .limiting (node :: todo) kept =>
          let bucket := (getOrCreate limits s node.nodeId now).refill limits now
          some ((s.setBucket node.nodeId bucket).setPhase i call
            (.limiting todo (if bucket.tokens < 1 then kept else kept ++ [node])))
      | _ => none
  | _, _ => none

def choosePool (cfg : Settings) (s : ClusterScheduler) (i : Nat) (draw : ℚ) : Option ClusterScheduler :=
  match s.calls[i]? with
  | none => none
  | some call =>
      match call.phase with
      | .pooling eligible =>
          let pool := match s.canary with
            | none => some eligible
            | some canary => pickPool cfg canary draw eligible
          some (s.setPhase i call
            (match pool with
            | none => .raised
            | some [] => .returned none
            | some pool =>
                match narrowRegion cfg call.preferredRegion pool with
                | none => .raised
                | some pool => .choosing pool))
      | _ => none

def boundNode (s : ClusterScheduler) (affinityKey : Option String) (eligible : List NodeDict) : Option NodeDict :=
  match affinityKey.bind s.affinityMap.get? with
  | none => none
  | some boundId => eligible.find? fun node => decide (node.nodeId = boundId)

def applyHeat (cfg : Settings) (s : ClusterScheduler) (nodeId : String) (now : ℚ) : Option ClusterScheduler :=
  (s.currentHeat cfg nodeId now).map fun heat => { s with heat := s.heat.set nodeId (nearest (heat + 1), now) }

-- The answer of the limiter is not looked at.
def consume (cfg : Settings) (s : ClusterScheduler) (nodeId : String) (now : ℚ) : ClusterScheduler :=
  match cfg.rateLimiter with
  | none => s
  | some limits => s.setBucket nodeId ((getOrCreate limits s nodeId now).consume limits 1 now).2

def bind (s : ClusterScheduler) (affinityKey : Option String) (nodeId : String) : ClusterScheduler :=
  match affinityKey with
  | none => s
  | some key => { s with affinityMap := s.affinityMap.set key nodeId }

def record (s : ClusterScheduler) (nodeId : String) (now : ℚ) : ClusterScheduler := { s with picks := s.picks ++ [⟨nodeId, now⟩] }

def countWorkload (s : ClusterScheduler) (nodeId : String) : ClusterScheduler :=
  { s with workloadCount := s.workloadCount.set nodeId (s.workloadCount.getD nodeId 0 + 1) }

-- The critical section. An affinity hit returns at once.
def choose (cfg : Settings) (s : ClusterScheduler) (i : Nat) (now : ℚ) : Option ClusterScheduler :=
  match s.calls[i]? with
  | none => none
  | some call =>
      match call.phase with
      | .choosing eligible =>
          match s.boundNode call.affinityKey eligible with
          | some node => some ((s.record node.nodeId now).setPhase i call (.returned (some node)))
          | none =>
              match s.select cfg call.now eligible with
              | none => some (s.setPhase i call .raised)
              | some none => some (s.setPhase i call (.returned none))
              | some (some node) =>
                  match s.applyHeat cfg node.nodeId call.now with
                  | none => some (s.setPhase i call .raised)
                  | some warmed =>
                      let charged := (warmed.countWorkload node.nodeId).consume cfg node.nodeId now
                      some (((charged.bind call.affinityKey node.nodeId).record node.nodeId now).setPhase i call
                        (.returned (some node)))
      | _ => none

def reset (cfg : Settings) (s : ClusterScheduler) (nodeId : String) (now : ℚ) : ClusterScheduler :=
  match cfg.rateLimiter, s.buckets.get? nodeId with
  | some limits, some bucket => { s.setBucket nodeId (bucket.fill limits now) with resets := s.resets ++ [⟨nodeId, now⟩] }
  | _, _ => s

end ClusterScheduler

-- A pick takes its steps in between those of other picks. The breaker and the
-- canary deployment change on their own; an operator may reset a bucket.
inductive PickEvent where
  | pick (now : ℚ) (nodes : List NodeDict) (affinityKey preferredRegion : Option String)
  | askBreaker (i : Nat)
  | askLimiter (i : Nat) (now : ℚ)
  | choosePool (i : Nat) (draw : ℚ)
  | choose (i : Nat) (now : ℚ)
  | breakers (openBreakers : String → Bool)
  | deploy (canary : Option Canary)
  | reset (nodeId : String) (now : ℚ)

def PickEvent.reading : PickEvent → Option ℚ
  | .askLimiter _ now | .choose _ now | .reset _ now => some now
  | _ => none

def pickStep (cfg : Settings) (s : ClusterScheduler) : PickEvent → Option ClusterScheduler
  | .pick now nodes affinityKey preferredRegion => some (s.enter cfg now nodes affinityKey preferredRegion)
  | .askBreaker i => s.askBreaker cfg i
  | .askLimiter i now => s.askLimiter cfg i now
  | .choosePool i draw => s.choosePool cfg i draw
  | .choose i now => s.choose cfg i now
  | .breakers openBreakers => some { s with openBreakers := openBreakers }
  | .deploy canary => some { s with canary := canary }
  | .reset nodeId now => some (s.reset cfg nodeId now)

-- The clock never goes back, so an event cannot read it earlier than before.
def pickNext (cfg : Settings) (s : ClusterScheduler) (event : PickEvent) : Option ClusterScheduler :=
  match event.reading with
  | none => pickStep cfg s event
  | some now => if s.clock ≤ now then (pickStep cfg s event).map fun after => { after with clock := now } else none

abbrev PickRun (cfg : Settings) (allowed : ClusterScheduler → PickEvent → Prop) := Runs.Run (pickNext cfg) allowed

end HuddleCluster.Scheduler
