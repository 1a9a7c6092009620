import HuddleCluster.Lib.Statistics
import HuddleCluster.Master.Leave
import HuddleCluster.Master.Listing

set_option autoImplicit false

namespace HuddleCluster.Rollout

open Master (NodeRecord Registry RegistryUpdate listNodes)

inductive UpdateOrder where
  | aliveFirst
  | stableFirst
deriving DecidableEq, Repr

-- The defaults of the constructor pass its checks.
theorem default_batch_pos : 1 ≤ 1 := by norm_num

theorem default_gate_range : (0 : ℚ) ≤ 1 / 2 ∧ (1 / 2 : ℚ) < 1 := by norm_num

-- The constructor raises unless the proof fields hold.
structure Settings where
  batchSize : Nat := 1
  drainTimeoutSec : ℚ := 60
  healthGateRatio : ℚ := 1 / 2
  updateOrder : UpdateOrder := .aliveFirst
  master : Master.Settings := {}
  batchPos : 1 ≤ batchSize := by first | exact HuddleCluster.Rollout.default_batch_pos | norm_num
  gateRange : 0 ≤ healthGateRatio ∧ healthGateRatio < 1 := by first | exact HuddleCluster.Rollout.default_gate_range | norm_num

inductive Phase where
  | idle
  | running
  | paused
  | done
  | failed
  | aborted
deriving DecidableEq, Repr

inductive OutcomeStatus where
  | pending
  | updated
  | failed
deriving DecidableEq, Repr

structure NodeOutcome where
  status : OutcomeStatus := .pending
  startedAt : Option ℚ := none
  endedAt : Option ℚ := none
  error : Option String := none
deriving DecidableEq, Repr

-- The tests and assignments of a batch before it is started.
inductive Stage where
  | pauseTest
  | pauseEnter
  | pauseLoop
  | pauseAbort
  | gateTest
  | gateEnter
  | gateLoop
  | gateAbort
  | gateLeave
deriving DecidableEq, Repr

inductive Control where
  | idle
  | listing
  | top (rest : List (List NodeRecord))
  | before (stage : Stage) (batch : List NodeRecord) (rest : List (List NodeRecord))
  | starting (todo batch : List NodeRecord) (rest : List (List NodeRecord))
  | joining (batch : List NodeRecord) (rest : List (List NodeRecord))
  | verdict (batch : List NodeRecord) (rest : List (List NodeRecord))
  | ending (phase : Phase)
  | finished

inductive WorkerPhase where
  | created
  | calling
  | waiting (deadline : ℚ)
  | polling (deadline : ℚ)
  | found
  | lost
  | finished
deriving DecidableEq, Repr

-- What happened to a node since update_fn returned for it: the heartbeats and joins of it
-- that were accepted, whether another master's registry came in, and whether the node has
-- been alive all the time.
structure Since where
  beats : Nat := 0
  replaced : Bool := false
  steady : Bool
deriving DecidableEq, Repr

-- What a look at the registry found, and what had happened before it.
structure Look where
  alive : Bool
  since : Option Since
deriving DecidableEq, Repr

-- A thread in _update_one. The last two fields are not in the program.
structure Worker where
  nodeId : String
  phase : WorkerPhase := .created
  since : Option Since := none
  look : Option Look := none
deriving DecidableEq, Repr

structure UpdateMark where
  nodeId : String
  look : Option Look
deriving DecidableEq, Repr

-- From listed on the fields are not in the program: the ids of the nodes of the
-- rollout, those update_fn was called for, the batches started, that number when
-- an abort was accepted, whether the health gate has held since the last batch,
-- and the last look at each node whose outcome became updated.
structure Updater where
  registry : Registry
  phase : Phase
  outcomes : Dict String NodeOutcome
  startedAt : Option ℚ
  endedAt : Option ℚ
  pauseEvent : Bool
  abortEvent : Bool
  control : Control
  workers : List Worker
  listed : List String
  calls : List String
  batchesStarted : Nat
  stopAt : Option Nat
  gateHeld : Bool
  updates : List UpdateMark

def attached (registry : Registry) : Updater where
  registry := registry
  phase := .idle
  outcomes := .empty
  startedAt := none
  endedAt := none
  pauseEvent := false
  abortEvent := false
  control := .idle
  workers := []
  listed := []
  calls := []
  batchesStarted := 0
  stopAt := none
  gateHeld := false
  updates := []

-- nodes[i:i + size] for i in range(0, len(nodes), size); the length bounds the
-- number of slices.
def slices {α : Type} (size : Nat) : Nat → List α → List (List α)
  | 0, _ => []
  | fuel + 1, nodes => if nodes.isEmpty then [] else nodes.take size :: slices size fuel (nodes.drop size)

def batches (cfg : Settings) (nodes : List NodeRecord) : List (List NodeRecord) := slices cfg.batchSize nodes.length nodes

def eligible (node : NodeRecord) : Bool := decide (node.status ≠ .dead) && decide (node.status ≠ .leaving)

def statusRank (node : NodeRecord) : Nat :=
  match node.status with
  | .alive => 0
  | .quarantined => 1
  | .dead | .leaving => 9

def sortedNodes (cfg : Settings) (registry : Registry) : List NodeRecord :=
  let nodes := (listNodes registry).filter eligible
  match cfg.updateOrder with
  | .stableFirst => nodes.insertionSort fun first second => first.deathCount ≤ second.deathCount
  | .aliveFirst => nodes.insertionSort fun first second => statusRank first ≤ statusRank second

def isAlive (registry : Registry) (nodeId : String) : Bool :=
  (registry.nodes.get? nodeId).any fun node => decide (node.status = .alive)

def healthGateOk (cfg : Settings) (registry : Registry) : Bool :=
  let total := registry.nodes.values.length
  let alive := registry.nodes.values.countP fun node => decide (node.status = .alive)
  decide (cfg.healthGateRatio = 0) || decide (total = 0) || decide (cfg.healthGateRatio ≤ (alive : ℚ) / total)

namespace Updater

def startRollout (s : Updater) (now : ℚ) : Option Updater :=
  if s.phase = .running ∨ s.phase = .paused then none
  else
    some { s with
      phase := .running
      startedAt := some now
      endedAt := none
      outcomes := .empty
      pauseEvent := false
      abortEvent := false
      control := .listing
      workers := []
      listed := []
      calls := []
      batchesStarted := 0
      stopAt := none
      gateHeld := false }

def pause (s : Updater) : Option Updater := if s.phase = .running then some { s with pauseEvent := true } else none

def resume (s : Updater) : Option Updater :=
  if s.phase = .paused then some { s with phase := .running, pauseEvent := false } else none

-- The rollout waits for its operator or for the health gate.
def waiting (s : Updater) : Bool :=
  match s.control with
  | .before .pauseTest _ _ | .before .gateTest _ _ => false
  | .before _ _ _ => true
  | _ => false

def updating (s : Updater) : Bool :=
  match s.control with
  | .starting _ _ _ | .joining _ _ | .verdict _ _ => true
  | _ => false

def abort (s : Updater) : Option Updater :=
  if s.phase = .running ∨ s.phase = .paused then
    some { s with
      abortEvent := true
      pauseEvent := false
      stopAt := if (s.waiting || s.updating) && s.stopAt.isNone then some s.batchesStarted else s.stopAt }
  else none

def list (cfg : Settings) (s : Updater) : Updater :=
  let nodes := sortedNodes cfg s.registry
  if nodes.isEmpty then { s with control := .ending .done }
  else
    { s with
      outcomes := .assign (nodes.map fun node => (node.nodeId, {})) s.outcomes
      control := .top (batches cfg nodes)
      listed := nodes.map NodeRecord.nodeId }

def startBatch (s : Updater) (batch : List NodeRecord) (rest : List (List NodeRecord)) : Updater :=
  { s with control := .starting batch batch rest, batchesStarted := s.batchesStarted + 1 }

def goto (s : Updater) (stage : Stage) (batch : List NodeRecord) (rest : List (List NodeRecord)) : Updater :=
  { s with control := .before stage batch rest }

def beforeBatch (cfg : Settings) (s : Updater) (batch : List NodeRecord) (rest : List (List NodeRecord)) : Stage → Updater
  | .pauseTest => s.goto (if s.pauseEvent then .pauseEnter else .gateTest) batch rest
  | .pauseEnter => { s.goto .pauseLoop batch rest with phase := .paused }
  | .pauseLoop => s.goto (if s.pauseEvent then .pauseAbort else .gateTest) batch rest
  | .pauseAbort => if s.abortEvent then { s with control := .ending .aborted } else s.goto .pauseLoop batch rest
  | .gateTest =>
      if healthGateOk cfg s.registry then { s with gateHeld := true }.startBatch batch rest else s.goto .gateEnter batch rest
  | .gateEnter => { s.goto .gateLoop batch rest with phase := .paused }
  | .gateLoop =>
      if healthGateOk cfg s.registry then { s with gateHeld := true }.goto .gateLeave batch rest
      else s.goto .gateAbort batch rest
  | .gateAbort => if s.abortEvent then { s with control := .ending .aborted } else s.goto .gateLoop batch rest
  | .gateLeave => { s.startBatch batch rest with phase := .running }

def hasFailed (s : Updater) (nodeId : String) : Bool := (s.outcomes.get? nodeId).any fun outcome => decide (outcome.status = .failed)

-- One step of the rollout thread. It blocks in join.
def advance (cfg : Settings) (s : Updater) (now : ℚ) : Option Updater :=
  match s.control with
  | .idle | .finished => none
  | .listing => some (s.list cfg)
  | .top [] => some { s with control := .ending .done }
  | .top (batch :: rest) =>
      some (if s.abortEvent then { s with control := .ending .aborted } else s.goto .pauseTest batch rest)
  | .before stage batch rest => some (s.beforeBatch cfg batch rest stage)
  | .starting [] batch rest => some { s with control := .joining batch rest }
  | .starting (node :: todo) batch rest =>
      some { s with control := .starting todo batch rest, workers := s.workers ++ [{ nodeId := node.nodeId }] }
  | .joining batch rest =>
      if s.workers.all fun worker => decide (worker.phase = .finished) then some { s with control := .verdict batch rest }
      else none
  | .verdict batch rest =>
      some (if batch.any fun node => s.hasFailed node.nodeId then { s with control := .ending .failed }
        else { s with control := .top rest, gateHeld := false })
  | .ending phase => some { s with phase := phase, endedAt := some now, control := .finished }

def setOutcome (s : Updater) (nodeId : String) (f : NodeOutcome → NodeOutcome) : Updater :=
  { s with outcomes := s.outcomes.set nodeId (f (s.outcomes.getD nodeId {})) }

def setWorker (s : Updater) (i : Nat) (worker : Worker) : Updater := { s with workers := s.workers.set i worker }

def begin (s : Updater) (i : Nat) (worker : Worker) (now : ℚ) : Option Updater :=
  if worker.phase = .created then
    let called := (s.setOutcome worker.nodeId fun outcome => { outcome with startedAt := some now }).setWorker i
      { worker with phase := .calling }
    some { called with calls := s.calls ++ [worker.nodeId] }
  else none

def updateReturned (cfg : Settings) (s : Updater) (i : Nat) (worker : Worker) (now : ℚ) : Option Updater :=
  if worker.phase = .calling then
    some (s.setWorker i { worker with
      phase := .waiting (now + cfg.drainTimeoutSec)
      since := some { steady := isAlive s.registry worker.nodeId }
      look := none })
  else none

def updateRaised (s : Updater) (i : Nat) (worker : Worker) (now : ℚ) (text : String) : Option Updater :=
  if worker.phase = .calling then
    some ((s.setOutcome worker.nodeId fun outcome =>
      { outcome with status := .failed, endedAt := some now, error := some text }).setWorker i { worker with phase := .finished })
  else none

def testDeadline (s : Updater) (i : Nat) (worker : Worker) (now : ℚ) : Option Updater :=
  match worker.phase with
  | .waiting deadline =>
      some (s.setWorker i { worker with phase := if now < deadline then .polling deadline else .lost })
  | _ => none

def poll (s : Updater) (i : Nat) (worker : Worker) : Option Updater :=
  match worker.phase with
  | .polling deadline =>
      let alive := isAlive s.registry worker.nodeId
      some (s.setWorker i { worker with phase := if alive then .found else .waiting deadline, look := some ⟨alive, worker.since⟩ })
  | _ => none

def lostText (cfg : Settings) : String :=
  let seconds := toString (Statistics.roundHalfEven cfg.drainTimeoutSec)
  s!"did not return healthy within {seconds}s"

def finish (cfg : Settings) (s : Updater) (i : Nat) (worker : Worker) (now : ℚ) : Option Updater :=
  match worker.phase with
  | .found =>
      let ended := (s.setOutcome worker.nodeId fun outcome => { outcome with status := .updated, endedAt := some now }).setWorker i
        { worker with phase := .finished }
      some { ended with updates := s.updates ++ [⟨worker.nodeId, worker.look⟩] }
  | .lost =>
      some ((s.setOutcome worker.nodeId fun outcome =>
        { outcome with status := .failed, endedAt := some now, error := some (lostText cfg) }).setWorker i
          { worker with phase := .finished })
  | _ => none

end Updater

-- The node whose heartbeat or join the registry accepts.
def accepted (m : Master.Settings) (registry : Registry) : RegistryUpdate → Option String
  | .receive (.heartbeat now nodeId data) =>
      match (registry.handleHeartbeat m now nodeId data).1 with
      | .ok _ => some nodeId
      | _ => none
  | .receive (.join _ data _) =>
      match Master.JoinRequest.read data with
      | .ok request => some request.nodeId
      | .error _ => none
  | _ => none

def Worker.hear (registry : Registry) (nodeId : Option String) (worker : Worker) : Worker :=
  { worker with
    since := worker.since.map fun since =>
      { since with
        beats := if nodeId = some worker.nodeId then since.beats + 1 else since.beats
        steady := since.steady && isAlive registry worker.nodeId } }

def Worker.takeOver (registry : Registry) (worker : Worker) : Worker :=
  { worker with
    since := worker.since.map fun since =>
      { since with replaced := true, steady := since.steady && isAlive registry worker.nodeId } }

def Updater.observe (cfg : Settings) (s : Updater) (update : RegistryUpdate) : Updater :=
  let registry := s.registry.update cfg.master update
  { s with
    registry := registry
    workers := s.workers.map (Worker.hear registry (accepted cfg.master s.registry update)) }

def Updater.takeOver (s : Updater) (registry : Registry) : Updater :=
  { s with registry := registry, workers := s.workers.map (Worker.takeOver registry) }

-- The calls of the operator, the steps of the rollout thread and of its worker
-- threads, and the changes of the registry meanwhile. A standby master replaces
-- its registry by that of its leader.
inductive RolloutEvent where
  | startRollout (now : ℚ)
  | pause
  | resume
  | abort
  | advance (now : ℚ)
  | begin (i : Nat) (now : ℚ)
  | updateReturned (i : Nat) (now : ℚ)
  | updateRaised (i : Nat) (now : ℚ) (text : String)
  | testDeadline (i : Nat) (now : ℚ)
  | poll (i : Nat)
  | finish (i : Nat) (now : ℚ)
  | registry (update : RegistryUpdate)
  | replaced (registry : Registry)

def Updater.worker (s : Updater) (i : Nat) (f : Worker → Option Updater) : Option Updater :=
  match s.workers[i]? with
  | none => none
  | some worker => f worker

def rolloutStep (cfg : Settings) (s : Updater) : RolloutEvent → Option Updater
  | .startRollout now => s.startRollout now
  | .pause => s.pause
  | .resume => s.resume
  | .abort => s.abort
  | .advance now => s.advance cfg now
  | .begin i now => s.worker i fun worker => s.begin i worker now
  | .updateReturned i now => s.worker i fun worker => s.updateReturned cfg i worker now
  | .updateRaised i now text => s.worker i fun worker => s.updateRaised i worker now text
  | .testDeadline i now => s.worker i fun worker => s.testDeadline i worker now
  | .poll i => s.worker i fun worker => s.poll i worker
  | .finish i now => s.worker i fun worker => s.finish cfg i worker now
  | .registry update => some (s.observe cfg update)
  | .replaced registry => some (s.takeOver registry)

abbrev RolloutRun (cfg : Settings) (allowed : Updater → RolloutEvent → Prop) := Runs.Run (rolloutStep cfg) allowed

def joined (registry : Registry) (nodeId : String) : Registry :=
  (registry.handleJoin {} 0 (Master.sampleJoin nodeId) none).2

def updated (i : Nat) : List RolloutEvent := [.begin i 0, .updateReturned i 0, .testDeadline i 0, .poll i, .finish i 0]

end HuddleCluster.Rollout
