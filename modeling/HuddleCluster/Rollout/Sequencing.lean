import HuddleCluster.Rollout.Batches
import HuddleCluster.Rollout.Workers

set_option autoImplicit false

namespace HuddleCluster.Rollout

open Master (NodeRecord Registry)

def Updater.underway (s : Updater) (batch : List NodeRecord) (rest : List (List NodeRecord)) : Prop :=
  (∃ todo, s.control = .starting todo batch rest) ∨ s.control = .joining batch rest ∨ s.control = .verdict batch rest

def ids (nodes : List NodeRecord) : List String := nodes.map NodeRecord.nodeId

structure Sequenced (cfg : Settings) (s : Updater) : Prop where
  once : s.calls.Nodup
  eligible : ∀ nodeId ∈ s.calls, nodeId ∈ s.listed
  parallel : (s.workers.countP fun worker => decide (worker.phase = .calling)) ≤ cfg.batchSize
  -- A batch is under way only when the nodes before it are updated, and the gate
  -- has been open since the last of them was.
  batches : ∀ batch rest, s.underway batch rest → s.gateHeld = true ∧
    ∃ earlier, s.listed = earlier ++ ids batch ++ ids rest.flatten ∧ ∀ nodeId ∈ earlier, s.statusOf nodeId = some .updated
  done : s.phase = .done → ∀ nodeId ∈ s.listed, s.statusOf nodeId = some .updated

def Updater.threads (s : Updater) : List (String × WorkerPhase) := s.workers.map fun worker => (worker.nodeId, worker.phase)

-- Between two batches; rest are the batches to come.
structure Ready (cfg : Settings) (s : Updater) (rest : List (List NodeRecord)) : Prop where
  listed : s.listed = s.threads.map Prod.fst ++ ids rest.flatten
  small : ∀ batch ∈ rest, batch.length ≤ cfg.batchSize
  updated : ∀ thread ∈ s.threads, s.statusOf thread.1 = some .updated

-- In a batch; the threads of the nodes in todo have not been started yet.
structure Working (cfg : Settings) (s : Updater) (earlier : List String) (spawned todo batch : List NodeRecord)
    (rest : List (List NodeRecord)) : Prop where
  gate : s.gateHeld = true
  small : ∀ other ∈ batch :: rest, other.length ≤ cfg.batchSize
  split : batch = spawned ++ todo
  threads : s.threads.map Prod.fst = earlier ++ ids spawned
  listed : s.listed = earlier ++ ids batch ++ ids rest.flatten
  updated : ∀ nodeId ∈ earlier, s.statusOf nodeId = some .updated
  finished : ∀ thread ∈ s.threads, thread.1 ∈ earlier → thread.2 = .finished

def Planned (cfg : Settings) (s : Updater) : Prop :=
  match s.control with
  | .idle | .listing => s.threads = [] ∧ s.listed = []
  | .top rest => Ready cfg s rest
  | .before stage batch rest => Ready cfg s (batch :: rest) ∧ (stage = .gateLeave → s.gateHeld = true)
  | .starting todo batch rest => ∃ earlier spawned, Working cfg s earlier spawned todo batch rest
  | .joining batch rest | .verdict batch rest => ∃ earlier spawned, Working cfg s earlier spawned [] batch rest
  | .ending phase => phase = .done → ∀ nodeId ∈ s.listed, s.statusOf nodeId = some .updated
  | .finished => True

def Control.active : Control → Bool
  | .idle | .finished => false
  | _ => true

structure Sequence (cfg : Settings) (s : Updater) : Prop where
  rested : Rested s
  engaged : s.control.active = true → s.phase = .running ∨ s.phase = .paused
  nodup : s.listed.Nodup
  known : s.threads.map Prod.fst <+: s.listed
  judged : ∀ thread ∈ s.threads, thread.2 = .finished →
    s.statusOf thread.1 = some .updated ∨ s.statusOf thread.1 = some .failed
  once : s.calls.Nodup
  called : ∀ nodeId ∈ s.calls, ∃ thread ∈ s.threads, thread.1 = nodeId ∧ thread.2 ≠ .created
  plan : Planned cfg s
  done : s.phase = .done → ∀ nodeId ∈ s.listed, s.statusOf nodeId = some .updated

theorem sequence_distinct (cfg : Settings) (s : Updater) (sequence : Sequence cfg s) : (s.threads.map Prod.fst).Nodup :=
  sequence.nodup.sublist sequence.known.sublist

theorem calling_parallel (cfg : Settings) (s : Updater) (sequence : Sequence cfg s) :
    (s.threads.countP fun thread => decide (thread.2 = .calling)) ≤ cfg.batchSize := by
  have idle : s.control.quiet = true → (s.threads.countP fun thread => decide (thread.2 = .calling)) ≤ cfg.batchSize := by
    intro quiet
    have idle : (s.threads.countP fun thread => decide (thread.2 = .calling)) = 0 := by
      rw [List.countP_eq_zero]
      intro thread member
      obtain ⟨worker, present, rfl⟩ := List.mem_map.mp member
      simp [sequence.rested quiet worker present]
    omega
  have busy : ∀ earlier spawned todo batch rest, Working cfg s earlier spawned todo batch rest →
      (s.threads.countP fun thread => decide (thread.2 = .calling)) ≤ cfg.batchSize := by
    intro earlier spawned todo batch rest working
    have distinct := sequence_distinct cfg s sequence
    have names : ((s.threads.filter fun thread => decide (thread.2 = .calling)).map Prod.fst) ⊆ ids spawned := by
      intro nodeId member
      obtain ⟨thread, present, rfl⟩ := List.mem_map.mp member
      obtain ⟨inside, calling⟩ := List.mem_filter.mp present
      have named : thread.1 ∈ earlier ++ ids spawned := working.threads ▸ List.mem_map_of_mem inside
      rcases List.mem_append.mp named with old | new
      · simp [working.finished thread inside old] at calling
      · exact new
    have single : ((s.threads.filter fun thread => decide (thread.2 = .calling)).map Prod.fst).Nodup :=
      distinct.sublist (List.filter_sublist.map Prod.fst)
    have bound := (single.subperm names).length_le
    rw [List.length_map, ids, List.length_map, ← List.countP_eq_length_filter] at bound
    have fits := working.small batch List.mem_cons_self
    rw [working.split, List.length_append] at fits
    omega
  have plan := sequence.plan
  cases place : s.control with
  | starting todo batch rest =>
      rw [Planned, place] at plan
      obtain ⟨earlier, spawned, working⟩ := plan
      exact busy earlier spawned todo batch rest working
  | joining batch rest =>
      rw [Planned, place] at plan
      obtain ⟨earlier, spawned, working⟩ := plan
      exact busy earlier spawned [] batch rest working
  | _ => exact idle (by rw [place]; rfl)

theorem sequence_sequenced (cfg : Settings) (s : Updater) (sequence : Sequence cfg s) : Sequenced cfg s := by
  constructor
  · exact sequence.once
  · intro nodeId member
    obtain ⟨thread, present, name, _⟩ := sequence.called nodeId member
    exact sequence.known.subset (name ▸ List.mem_map_of_mem present)
  · have bound := calling_parallel cfg s sequence
    rwa [Updater.threads, List.countP_map] at bound
  · intro batch rest underway
    have plan := sequence.plan
    have working : ∃ earlier spawned todo, Working cfg s earlier spawned todo batch rest := by
      rcases underway with ⟨todo, place⟩ | place | place
      · rw [Planned, place] at plan
        obtain ⟨earlier, spawned, working⟩ := plan
        exact ⟨earlier, spawned, todo, working⟩
      · rw [Planned, place] at plan
        obtain ⟨earlier, spawned, working⟩ := plan
        exact ⟨earlier, spawned, [], working⟩
      · rw [Planned, place] at plan
        obtain ⟨earlier, spawned, working⟩ := plan
        exact ⟨earlier, spawned, [], working⟩
    obtain ⟨earlier, spawned, todo, working⟩ := working
    exact ⟨working.gate, earlier, working.listed, working.updated⟩
  · exact sequence.done

theorem planned_same (cfg : Settings) (s after : Updater) (control : after.control = s.control) (threads : after.threads = s.threads)
    (listed : after.listed = s.listed) (statuses : ∀ nodeId, after.statusOf nodeId = s.statusOf nodeId)
    (gate : after.gateHeld = s.gateHeld) (plan : Planned cfg s) : Planned cfg after := by
  have ready : ∀ rest, Ready cfg s rest → Ready cfg after rest := by
    intro rest ready
    constructor
    · rw [listed, threads]
      exact ready.listed
    · exact ready.small
    · simpa only [threads, statuses] using ready.updated
  have working : ∀ earlier spawned todo batch rest, Working cfg s earlier spawned todo batch rest →
      Working cfg after earlier spawned todo batch rest := by
    intro earlier spawned todo batch rest working
    constructor
    · rw [gate]
      exact working.gate
    · exact working.small
    · exact working.split
    · rw [threads]
      exact working.threads
    · rw [listed]
      exact working.listed
    · simpa only [statuses] using working.updated
    · rw [threads]
      exact working.finished
  cases place : s.control with
  | idle | listing =>
      rw [Planned, place] at plan
      rw [Planned, control, place, threads, listed]
      exact plan
  | top rest =>
      rw [Planned, place] at plan
      rw [Planned, control, place]
      exact ready rest plan
  | before stage batch rest =>
      rw [Planned, place] at plan
      rw [Planned, control, place, gate]
      exact ⟨ready (batch :: rest) plan.1, plan.2⟩
  | starting todo batch rest =>
      rw [Planned, place] at plan
      rw [Planned, control, place]
      obtain ⟨earlier, spawned, held⟩ := plan
      exact ⟨earlier, spawned, working earlier spawned todo batch rest held⟩
  | joining batch rest | verdict batch rest =>
      rw [Planned, place] at plan
      rw [Planned, control, place]
      obtain ⟨earlier, spawned, held⟩ := plan
      exact ⟨earlier, spawned, working earlier spawned [] batch rest held⟩
  | ending phase =>
      rw [Planned, place] at plan
      simp only [Planned, control, place, listed, statuses]
      exact plan
  | finished => simp [Planned, control, place]

theorem sequence_moved (cfg : Settings) (s after : Updater) (sequence : Sequence cfg s) (rested : Rested after)
    (threads : after.threads = s.threads) (listed : after.listed = s.listed) (calls : after.calls = s.calls)
    (statuses : ∀ nodeId, after.statusOf nodeId = s.statusOf nodeId)
    (engaged : after.control.active = true → after.phase = .running ∨ after.phase = .paused) (plan : Planned cfg after)
    (done : after.phase = .done → ∀ nodeId ∈ s.listed, s.statusOf nodeId = some .updated) : Sequence cfg after := by
  constructor
  · exact rested
  · exact engaged
  · rw [listed]
    exact sequence.nodup
  · rw [listed, threads]
    exact sequence.known
  · simpa only [threads, statuses] using sequence.judged
  · rw [calls]
    exact sequence.once
  · rw [calls, threads]
    exact sequence.called
  · exact plan
  · simpa only [listed, statuses] using done

theorem sequence_same (cfg : Settings) (s after : Updater) (sequence : Sequence cfg s) (rested : Rested after)
    (control : after.control = s.control) (threads : after.threads = s.threads) (listed : after.listed = s.listed)
    (calls : after.calls = s.calls) (outcomes : after.outcomes = s.outcomes) (gate : after.gateHeld = s.gateHeld)
    (phase : after.phase = s.phase ∨ after.phase = .running) : Sequence cfg after := by
  have statuses : ∀ nodeId, after.statusOf nodeId = s.statusOf nodeId := by
    intro nodeId
    rw [Updater.statusOf, outcomes, Updater.statusOf]
  refine sequence_moved cfg s after sequence rested threads listed calls statuses ?_ ?_ ?_
  · intro active
    rcases phase with same | running
    · rw [same]
      exact sequence.engaged (control ▸ active)
    · exact Or.inl running
  · exact planned_same cfg s after control threads listed statuses gate sequence.plan
  · intro done
    rcases phase with same | running
    · exact sequence.done (same ▸ done)
    · rw [running] at done
      cases done

theorem ready_same (cfg : Settings) (s after : Updater) (rest : List (List NodeRecord)) (threads : after.threads = s.threads)
    (listed : after.listed = s.listed) (outcomes : after.outcomes = s.outcomes) (ready : Ready cfg s rest) :
    Ready cfg after rest := by
  constructor
  · rw [listed, threads]
    exact ready.listed
  · exact ready.small
  · intro thread member
    rw [threads] at member
    rw [Updater.statusOf, outcomes, ← Updater.statusOf]
    exact ready.updated thread member

theorem ready_started (cfg : Settings) (s after : Updater) (batch : List NodeRecord) (rest : List (List NodeRecord))
    (rested : ∀ thread ∈ s.threads, thread.2 = .finished) (ready : Ready cfg s (batch :: rest)) (threads : after.threads = s.threads)
    (listed : after.listed = s.listed) (outcomes : after.outcomes = s.outcomes) (gate : after.gateHeld = true) :
    Working cfg after (s.threads.map Prod.fst) [] batch batch rest := by
  constructor
  · exact gate
  · exact ready.small
  · rfl
  · simp [threads, ids]
  · rw [listed, ready.listed]
    simp [ids]
  · intro nodeId member
    obtain ⟨thread, present, rfl⟩ := List.mem_map.mp member
    rw [Updater.statusOf, outcomes, ← Updater.statusOf]
    exact ready.updated thread present
  · intro thread member _
    rw [threads] at member
    exact rested thread member

theorem rested_threads (s : Updater) (rested : Rested s) (quiet : s.control.quiet = true) :
    ∀ thread ∈ s.threads, thread.2 = .finished := by
  intro thread member
  obtain ⟨worker, present, rfl⟩ := List.mem_map.mp member
  exact rested quiet worker present

theorem failed_status (s : Updater) (nodeId : String) : s.hasFailed nodeId = true ↔ s.statusOf nodeId = some .failed := by
  simp only [Updater.hasFailed, Updater.statusOf]
  cases s.outcomes.get? nodeId <;> simp

theorem working_passed (cfg : Settings) (s after : Updater) (sequence : Sequence cfg s) (earlier : List String)
    (spawned batch : List NodeRecord) (rest : List (List NodeRecord)) (rested : ∀ thread ∈ s.threads, thread.2 = .finished)
    (working : Working cfg s earlier spawned [] batch rest) (fine : ∀ node ∈ batch, s.hasFailed node.nodeId = false)
    (threads : after.threads = s.threads) (listed : after.listed = s.listed) (outcomes : after.outcomes = s.outcomes) :
    Ready cfg after rest := by
  have whole : batch = spawned := by simpa using working.split
  apply ready_same cfg s after rest threads listed outcomes
  constructor
  · rw [working.listed, working.threads, whole]
  · exact fun other member => working.small other (List.mem_cons_of_mem _ member)
  · intro thread member
    have named : thread.1 ∈ earlier ++ ids spawned := working.threads ▸ List.mem_map_of_mem member
    rcases List.mem_append.mp named with old | new
    · exact working.updated thread.1 old
    · rw [← whole] at new
      obtain ⟨node, inside, name⟩ := List.mem_map.mp new
      rcases sequence.judged thread member (rested thread member) with updated | failed
      · exact updated
      · rw [← name, ← failed_status, fine node inside] at failed
        cases failed

theorem working_spawned (cfg : Settings) (s after : Updater) (earlier : List String) (spawned todo batch : List NodeRecord)
    (rest : List (List NodeRecord)) (node : NodeRecord) (nodup : s.listed.Nodup)
    (working : Working cfg s earlier spawned (node :: todo) batch rest)
    (threads : after.threads = s.threads ++ [(node.nodeId, .created)]) (listed : after.listed = s.listed)
    (outcomes : after.outcomes = s.outcomes) (gate : after.gateHeld = s.gateHeld) :
    Working cfg after earlier (spawned ++ [node]) todo batch rest := by
  constructor
  · rw [gate]
    exact working.gate
  · exact working.small
  · rw [working.split, List.append_assoc, List.singleton_append]
  · simp [threads, working.threads, ids]
  · rw [listed]
    exact working.listed
  · intro nodeId member
    rw [Updater.statusOf, outcomes, ← Updater.statusOf]
    exact working.updated nodeId member
  · intro thread member old
    rw [threads] at member
    rcases List.mem_append.mp member with present | new
    · exact working.finished thread present old
    · rw [List.mem_singleton.mp new] at old
      rw [working.listed, List.append_assoc, List.nodup_append] at nodup
      have again : node.nodeId ∈ ids batch ++ ids rest.flatten := by simp [working.split, ids]
      exact absurd rfl (nodup.2.2 _ old _ again)

theorem sequence_onward (cfg : Settings) (s after : Updater) (sequence : Sequence cfg s) (rested : Rested after)
    (active : s.control.active = true) (threads : after.threads = s.threads) (listed : after.listed = s.listed)
    (calls : after.calls = s.calls) (outcomes : after.outcomes = s.outcomes)
    (phase : after.phase = s.phase ∨ after.phase = .running ∨ after.phase = .paused) (plan : Planned cfg after) :
    Sequence cfg after := by
  have statuses : ∀ nodeId, after.statusOf nodeId = s.statusOf nodeId := by
    intro nodeId
    rw [Updater.statusOf, outcomes, Updater.statusOf]
  have engaged : after.phase = .running ∨ after.phase = .paused := by
    rcases phase with same | changed
    · rw [same]
      exact sequence.engaged active
    · exact changed
  refine sequence_moved cfg s after sequence rested threads listed calls statuses (fun _ => engaged) plan ?_
  intro done
  rcases engaged with running | paused
  · rw [running] at done
    cases done
  · rw [paused] at done
    cases done

theorem sequence_listed (cfg : Settings) (s after : Updater) (nodes : List NodeRecord) (sequence : Sequence cfg s)
    (rested : Rested after) (was : s.control = .listing) (found : nodes = sortedNodes cfg s.registry)
    (result : after = { s with
      outcomes := .assign (nodes.map fun node => (node.nodeId, {})) s.outcomes
      control := .top (batches cfg nodes)
      listed := nodes.map NodeRecord.nodeId }) : Sequence cfg after := by
  have plan := sequence.plan
  rw [Planned, was] at plan
  have phase := sequence.engaged (by rw [was]; rfl)
  have empty : after.threads = [] := by
    rw [result]
    exact plan.1
  constructor
  · exact rested
  · rw [result]
    exact fun _ => phase
  · rw [result, found]
    exact sorted_nodes_distinct cfg s.registry
  · rw [empty]
    exact List.nil_prefix
  · simp [empty]
  · rw [result]
    exact sequence.once
  · rw [result]
    exact sequence.called
  · rw [Planned, result]
    refine ⟨?_, batch_length cfg nodes, ?_⟩
    · simp [Updater.threads, ids, batches_flatten, show s.workers = [] by simpa [Updater.threads] using plan.1]
    · simp [Updater.threads, show s.workers = [] by simpa [Updater.threads] using plan.1]
  · intro done
    rw [result] at done
    rcases phase with running | paused <;> simp_all

theorem sequence_spawned (cfg : Settings) (s after : Updater) (node : NodeRecord) (todo batch : List NodeRecord)
    (rest : List (List NodeRecord)) (sequence : Sequence cfg s) (rested : Rested after)
    (was : s.control = .starting (node :: todo) batch rest)
    (result : after = { s with control := .starting todo batch rest, workers := s.workers ++ [{ nodeId := node.nodeId }] }) :
    Sequence cfg after := by
  have plan := sequence.plan
  rw [Planned, was] at plan
  obtain ⟨earlier, spawned, working⟩ := plan
  have threads : after.threads = s.threads ++ [(node.nodeId, .created)] := by simp [result, Updater.threads]
  have next := working_spawned cfg s after earlier spawned todo batch rest node sequence.nodup working threads (by rw [result])
    (by rw [result]) (by rw [result])
  have phase := sequence.engaged (by rw [was]; rfl)
  subst result
  constructor
  · exact rested
  · exact fun _ => phase
  · exact sequence.nodup
  · rw [next.threads, next.listed, next.split]
    exact ⟨ids todo ++ ids rest.flatten, by simp [ids]⟩
  · intro thread member ended
    rw [threads] at member
    rcases List.mem_append.mp member with present | new
    · exact sequence.judged thread present ended
    · rw [List.mem_singleton.mp new] at ended
      cases ended
  · exact sequence.once
  · intro nodeId member
    obtain ⟨thread, present, called⟩ := sequence.called nodeId member
    exact ⟨thread, threads ▸ List.mem_append_left _ present, called⟩
  · exact ⟨earlier, spawned ++ [node], next⟩
  · exact sequence.done

theorem sequence_advanced (cfg : Settings) (s after : Updater) (sequence : Sequence cfg s) (rested : Rested after)
    (moved : Advanced cfg s after) : Sequence cfg after := by
  have plan := sequence.plan
  have onward : s.control.active = true → after.threads = s.threads → after.listed = s.listed → after.calls = s.calls →
      after.outcomes = s.outcomes → (after.phase = s.phase ∨ after.phase = .running ∨ after.phase = .paused) →
      Planned cfg after → Sequence cfg after := sequence_onward cfg s after sequence rested
  have finished : s.control.quiet = true → ∀ thread ∈ s.threads, thread.2 = .finished := rested_threads s sequence.rested
  cases moved with
  | nothing was result =>
      rw [Planned, was] at plan
      subst result
      apply onward (by rw [was]; rfl) rfl rfl rfl rfl (Or.inl rfl)
      intro _
      simp [plan.2]
  | listed nodes was found result => exact sequence_listed cfg s after nodes sequence rested was found result
  | emptied was result =>
      rw [Planned, was] at plan
      subst result
      apply onward (by rw [was]; rfl) rfl rfl rfl rfl (Or.inl rfl)
      intro _ nodeId member
      have named : nodeId ∈ s.threads.map Prod.fst := by simpa [plan.listed, ids] using member
      obtain ⟨thread, present, rfl⟩ := List.mem_map.mp named
      exact plan.updated thread present
  | stopped batch rest told was result =>
      subst result
      apply onward (by rcases was with was | was | was <;> rw [was] <;> rfl) rfl rfl rfl rfl (Or.inl rfl)
      intro done
      cases done
  | entered batch rest was clear result =>
      rw [Planned, was] at plan
      subst result
      apply onward (by rw [was]; rfl) rfl rfl rfl rfl (Or.inl rfl)
      exact ⟨ready_same cfg s _ _ rfl rfl rfl plan, by simp⟩
  | waited stage next phase batch rest was short held result =>
      rw [Planned, was] at plan
      subst result
      apply onward (by rw [was]; rfl) rfl rfl rfl rfl (held.imp id Or.inr)
      exact ⟨ready_same cfg s _ _ rfl rfl rfl plan.1, fun leaving => absurd leaving short⟩
  | released batch rest was healthy result =>
      rw [Planned, was] at plan
      subst result
      apply onward (by rw [was]; rfl) rfl rfl rfl rfl (Or.inl rfl)
      exact ⟨ready_same cfg s _ _ rfl rfl rfl plan.1, fun _ => rfl⟩
  | opened batch rest was healthy result =>
      rw [Planned, was] at plan
      subst result
      apply onward (by rw [was]; rfl) rfl rfl rfl rfl (Or.inl rfl)
      exact ⟨_, [], ready_started cfg s _ batch rest (finished (by rw [was]; rfl)) plan.1 rfl rfl rfl rfl⟩
  | left batch rest was result =>
      rw [Planned, was] at plan
      subst result
      apply onward (by rw [was]; rfl) rfl rfl rfl rfl (Or.inr (Or.inl rfl))
      exact ⟨_, [], ready_started cfg s _ batch rest (finished (by rw [was]; rfl)) plan.1 rfl rfl rfl (plan.2 rfl)⟩
  | spawned node todo batch rest was result => exact sequence_spawned cfg s after node todo batch rest sequence rested was result
  | launched batch rest was result | joined batch rest was _ result =>
      rw [Planned, was] at plan
      subst result
      apply onward (by rw [was]; rfl) rfl rfl rfl rfl (Or.inl rfl)
      obtain ⟨earlier, spawned, working⟩ := plan
      exact ⟨earlier, spawned, ⟨working.gate, working.small, working.split, working.threads, working.listed, working.updated,
        working.finished⟩⟩
  | broken node batch rest was member failed result =>
      subst result
      apply onward (by rw [was]; rfl) rfl rfl rfl rfl (Or.inl rfl)
      intro done
      cases done
  | passed batch rest was fine result =>
      rw [Planned, was] at plan
      subst result
      apply onward (by rw [was]; rfl) rfl rfl rfl rfl (Or.inl rfl)
      obtain ⟨earlier, spawned, working⟩ := plan
      exact working_passed cfg s _ sequence earlier spawned batch rest (finished (by rw [was]; rfl)) working fine rfl rfl rfl
  | ended now phase was result =>
      rw [Planned, was] at plan
      subst result
      refine sequence_moved cfg s _ sequence rested rfl rfl rfl (fun _ => rfl) ?_ trivial plan
      intro active
      cases active

theorem mem_set_distinct {α : Type} (pairs : List (String × α)) (i : Nat) (nodeId : String) (old next : α)
    (distinct : (pairs.map Prod.fst).Nodup) (here : pairs[i]? = some (nodeId, old)) (pair : String × α) :
    pair ∈ pairs.set i (nodeId, next) ↔ pair = (nodeId, next) ∨ pair ∈ pairs ∧ pair.1 ≠ nodeId := by
  induction pairs generalizing i with
  | nil => simp at here
  | cons head tail ih =>
      rw [List.map_cons, List.nodup_cons] at distinct
      cases i with
      | zero =>
          have first : head = (nodeId, old) := by simpa using here
          have other : ∀ pair ∈ tail, pair.1 ≠ nodeId := by
            intro pair member same
            exact distinct.1 (List.mem_map.mpr ⟨pair, member, by rw [same, first]⟩)
          rw [List.set_cons_zero, List.mem_cons, List.mem_cons]
          constructor
          · exact Or.imp_right fun member => ⟨Or.inr member, other pair member⟩
          · rintro (new | ⟨rfl | member, different⟩)
            · exact Or.inl new
            · exact absurd (by rw [first]) different
            · exact Or.inr member
      | succ i =>
          have later : tail[i]? = some (nodeId, old) := by simpa using here
          have different : head.1 ≠ nodeId := by
            intro same
            exact distinct.1 (List.mem_map.mpr ⟨_, List.mem_of_getElem? later, same.symm⟩)
          rw [List.set_cons_succ, List.mem_cons, ih i distinct.2 later, List.mem_cons]
          constructor
          · rintro (rfl | new | ⟨member, other⟩)
            · exact Or.inr ⟨Or.inl rfl, different⟩
            · exact Or.inl new
            · exact Or.inr ⟨Or.inr member, other⟩
          · rintro (new | ⟨rfl | member, other⟩)
            · exact Or.inr (Or.inl new)
            · exact Or.inl rfl
            · exact Or.inr (Or.inr ⟨member, other⟩)

structure ThreadMoved (s : Updater) (i : Nat) (nodeId : String) (old next : WorkerPhase) (after : Updater) : Prop where
  here : s.threads[i]? = some (nodeId, old)
  active : old ≠ .finished
  begun : next ≠ .created
  threads : after.threads = s.threads.set i (nodeId, next)
  calls : after.calls = s.calls ∨ old = .created ∧ after.calls = s.calls ++ [nodeId]
  others : ∀ other, other ≠ nodeId → after.statusOf other = s.statusOf other
  judged : next = .finished → after.statusOf nodeId = some .updated ∨ after.statusOf nodeId = some .failed

theorem thread_moved (s after : Updater) (i : Nat) (worker : Worker) (here : s.workers[i]? = some worker)
    (moved : WorkerMoved s i worker after) : ∃ next, ThreadMoved s i worker.nodeId worker.phase next after := by
  have place : s.threads[i]? = some (worker.nodeId, worker.phase) := by simp [Updater.threads, here]
  have active := worker_moved_active s after i worker moved
  have replaced : ∀ changed : Worker, after.workers = s.workers.set i changed → changed.nodeId = worker.nodeId →
      after.threads = s.threads.set i (worker.nodeId, changed.phase) := by
    intro changed workers name
    rw [Updater.threads, workers, List.map_set, name, Updater.threads]
  have still : after.outcomes = s.outcomes → ∀ other, other ≠ worker.nodeId → after.statusOf other = s.statusOf other := by
    intro outcomes other _
    rw [Updater.statusOf, outcomes, Updater.statusOf]
  have recorded : ∀ status, Recorded s after worker.nodeId status → ∀ other, other ≠ worker.nodeId →
      after.statusOf other = s.statusOf other := by
    intro status recorded other different
    rw [recorded other, if_neg different]
  cases moved with
  | began was workers calls outcomes updates =>
      exact ⟨.calling, place, active, by simp, replaced _ workers rfl, Or.inr ⟨was, calls⟩, recorded _ outcomes, by simp⟩
  | returned deadline was workers calls outcomes updates =>
      exact ⟨_, place, active, by simp, replaced _ workers rfl, Or.inl calls, still outcomes, by simp⟩
  | tested deadline next was choice workers calls outcomes updates =>
      refine ⟨next, place, active, ?_, replaced _ workers rfl, Or.inl calls, still outcomes, ?_⟩
      · rcases choice with rfl | rfl <;> simp
      · rcases choice with rfl | rfl <;> simp
  | polled deadline was workers calls outcomes updates =>
      refine ⟨_, place, active, ?_, replaced _ workers rfl, Or.inl calls, still outcomes, ?_⟩
      · dsimp only
        split <;> simp
      · dsimp only
        split <;> simp
  | succeeded was workers calls outcomes updates =>
      refine ⟨.finished, place, active, by simp, replaced _ workers rfl, Or.inl calls, recorded _ outcomes, fun _ => Or.inl ?_⟩
      rw [outcomes worker.nodeId, if_pos rfl]
  | failed was workers calls outcomes updates =>
      refine ⟨.finished, place, active, by simp, replaced _ workers rfl, Or.inl calls, recorded _ outcomes, fun _ => Or.inr ?_⟩
      rw [outcomes worker.nodeId, if_pos rfl]

theorem working_worked (cfg : Settings) (s after : Updater) (i : Nat) (nodeId : String) (old next : WorkerPhase)
    (earlier : List String) (spawned todo batch : List NodeRecord) (rest : List (List NodeRecord))
    (distinct : (s.threads.map Prod.fst).Nodup) (moved : ThreadMoved s i nodeId old next after) (listed : after.listed = s.listed)
    (gate : after.gateHeld = s.gateHeld) (names : after.threads.map Prod.fst = s.threads.map Prod.fst)
    (working : Working cfg s earlier spawned todo batch rest) : Working cfg after earlier spawned todo batch rest := by
  have present : nodeId ∉ earlier := by
    intro early
    exact moved.active (working.finished _ (List.mem_of_getElem? moved.here) early)
  constructor
  · rw [gate]
    exact working.gate
  · exact working.small
  · exact working.split
  · rw [names]
    exact working.threads
  · rw [listed]
    exact working.listed
  · intro other early
    rw [moved.others other fun same => present (same ▸ early)]
    exact working.updated other early
  · intro thread member early
    rw [moved.threads, mem_set_distinct s.threads i nodeId old next distinct moved.here] at member
    rcases member with rfl | ⟨before, _⟩
    · exact absurd early present
    · exact working.finished thread before early

theorem sequence_worker (cfg : Settings) (s after : Updater) (i : Nat) (nodeId : String) (old next : WorkerPhase)
    (sequence : Sequence cfg s) (rested : Rested after) (busy : s.control.quiet = false) (frame : Frame s after)
    (moved : ThreadMoved s i nodeId old next after) : Sequence cfg after := by
  have distinct := sequence_distinct cfg s sequence
  have names : after.threads.map Prod.fst = s.threads.map Prod.fst := by
    have own : (s.threads.map Prod.fst)[i]? = some nodeId := by simp [moved.here]
    rw [moved.threads, List.map_set]
    obtain ⟨bound, at_i⟩ := List.getElem?_eq_some_iff.mp own
    rw [← at_i]
    exact List.set_getElem_self bound
  have members : ∀ thread, thread ∈ after.threads ↔ thread = (nodeId, next) ∨ thread ∈ s.threads ∧ thread.1 ≠ nodeId := by
    intro thread
    rw [moved.threads]
    exact mem_set_distinct s.threads i nodeId old next distinct moved.here thread
  have engaged : s.phase = .running ∨ s.phase = .paused := by
    apply sequence.engaged
    cases place : s.control <;> simp_all [Control.quiet, Control.active]
  have called : ∀ other ∈ s.calls, ∃ thread ∈ after.threads, thread.1 = other ∧ thread.2 ≠ .created := by
    intro other member
    obtain ⟨thread, present, name, started⟩ := sequence.called other member
    by_cases same : other = nodeId
    · exact ⟨(nodeId, next), (members _).mpr (Or.inl rfl), same.symm, moved.begun⟩
    · exact ⟨thread, (members _).mpr (Or.inr ⟨present, name ▸ same⟩), name, started⟩
  constructor
  · exact rested
  · rw [frame.phase]
    exact fun _ => engaged
  · rw [frame.listed]
    exact sequence.nodup
  · rw [frame.listed, names]
    exact sequence.known
  · intro thread member ended
    rcases (members thread).mp member with rfl | ⟨before, different⟩
    · exact moved.judged ended
    · rw [moved.others thread.1 different]
      exact sequence.judged thread before ended
  · rcases moved.calls with same | ⟨fresh, more⟩
    · rw [same]
      exact sequence.once
    · rw [more, List.nodup_append]
      refine ⟨sequence.once, by simp, ?_⟩
      intro other member again twice equal
      rw [equal, List.mem_singleton.mp twice] at member
      obtain ⟨thread, present, name, started⟩ := sequence.called nodeId member
      have same : thread = (nodeId, old) :=
        List.inj_on_of_nodup_map distinct present (List.mem_of_getElem? moved.here) name
      rw [same] at started
      exact started fresh
  · rcases moved.calls with same | ⟨_, more⟩
    · rw [same]
      exact called
    · rw [more, List.forall_mem_append]
      exact ⟨called, by simpa using ⟨_, (members _).mpr (Or.inl rfl), moved.begun⟩⟩
  · have plan := sequence.plan
    cases place : s.control with
    | starting todo batch rest =>
        rw [Planned, place] at plan
        obtain ⟨earlier, spawned, working⟩ := plan
        rw [Planned, frame.control, place]
        exact ⟨earlier, spawned, working_worked cfg s after i nodeId old next earlier spawned todo batch rest distinct moved
          frame.listed frame.gateHeld names working⟩
    | joining batch rest =>
        rw [Planned, place] at plan
        obtain ⟨earlier, spawned, working⟩ := plan
        rw [Planned, frame.control, place]
        exact ⟨earlier, spawned, working_worked cfg s after i nodeId old next earlier spawned [] batch rest distinct moved
          frame.listed frame.gateHeld names working⟩
    | _ => simp [Control.quiet, place] at busy
  · intro done
    rw [frame.phase] at done
    rcases engaged with running | paused <;> simp_all

theorem sequence_step (cfg : Settings) (s after : Updater) (event : RolloutEvent) (sequence : Sequence cfg s)
    (taken : rolloutStep cfg s event = some after) : Sequence cfg after := by
  have rested := rested_step cfg s after event sequence.rested taken
  cases rollout_stepped cfg s after event taken with
  | started now result =>
      subst result
      exact ⟨rested, fun _ => Or.inl rfl, List.nodup_nil, List.nil_prefix, by simp [Updater.threads], List.nodup_nil, by simp,
        ⟨rfl, rfl⟩, by simp⟩
  | paused _ result | aborted _ _ result =>
      subst result
      exact sequence_same cfg s _ sequence rested rfl rfl rfl rfl rfl rfl (Or.inl rfl)
  | resumed _ result =>
      subst result
      exact sequence_same cfg s _ sequence rested rfl rfl rfl rfl rfl rfl (Or.inr rfl)
  | advanced now _ moved => exact sequence_advanced cfg s after sequence rested moved
  | worked i worker here frame moved =>
      have busy := worker_not_quiet s after i worker sequence.rested here moved
      obtain ⟨next, thread⟩ := thread_moved s after i worker here moved
      exact sequence_worker cfg s after i worker.nodeId worker.phase next sequence rested busy frame thread
  | observed _ _ result | replaced _ _ result =>
      subst result
      refine sequence_same cfg s _ sequence rested rfl ?_ rfl rfl rfl rfl (Or.inl rfl)
      simp only [Updater.threads, Updater.observe, Updater.takeOver, List.map_map]
      exact List.map_congr_left fun worker _ => rfl

theorem rollout_sequenced (cfg : Settings) (registry : Registry) (events : List RolloutEvent) (last : Updater)
    (run : RolloutRun cfg (fun _ _ => True) (attached registry) events last) : Sequenced cfg last := by
  apply sequence_sequenced
  apply Runs.run_invariant (rolloutStep cfg) (fun _ _ => True) (Sequence cfg) _ (attached registry) last events _ run
  · exact fun s event after sequence _ taken => sequence_step cfg s after event sequence taken
  · refine ⟨?_, by simp [attached, Control.active], List.nodup_nil, List.nil_prefix, by simp [Updater.threads, attached],
      List.nodup_nil, by simp [attached], ⟨rfl, rfl⟩, by simp [attached]⟩
    intro _ worker member
    cases member

def twoBatches : List RolloutEvent :=
  [.startRollout 0] ++ List.replicate 6 (.advance 0) ++ updated 0 ++ List.replicate 7 (.advance 0) ++ updated 1 ++
    List.replicate 4 (.advance 0)

theorem two_batches_sequenced :
    ∃ last ∈ Runs.follow (rolloutStep {}) (fun _ _ => True) (attached (joined (joined .empty "a") "b")) twoBatches,
      last.phase = .done ∧ last.calls = ["a", "b"] ∧ Sequenced {} last := by
  have reached : ∃ last ∈ Runs.follow (rolloutStep {}) (fun _ _ => True) (attached (joined (joined .empty "a") "b")) twoBatches,
      last.phase = .done ∧ last.calls = ["a", "b"] := by decide +kernel
  obtain ⟨last, followed, phase, calls⟩ := reached
  have run := Runs.follow_run (rolloutStep {}) (fun _ _ => True) _ last _ followed
  exact ⟨last, followed, phase, calls, rollout_sequenced {} _ _ last run⟩

end HuddleCluster.Rollout
