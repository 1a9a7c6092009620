import HuddleCluster.Ring.Affinity
import HuddleCluster.Ring.Trails

set_option autoImplicit false

namespace HuddleCluster.Ring

namespace Op

-- The operations that call get_server with a key, and those that clear it.
def asks (key : String) : Op → Bool
  | .getServer (some affinityKey) _ | .getServerContext (some affinityKey) _ _ _ | .requestWithRetry (some affinityKey) _ (_ :: _) =>
      decide (affinityKey = key)
  | _ => false

def clears (key : String) : Op → Bool
  | .clearAffinity none => true
  | .clearAffinity (some affinityKey) => decide (affinityKey = key)
  | _ => false

end Op

namespace Cluster

-- In the inner ring, and the only server there with its id.
def Alone (c : Cluster) (s : Ref) : Prop := c.innerRing.filter (c.hasId (c.idOf s)) = [s]

-- The draw of a weighted choice has no part in the answer to a key.
def sessionServer (c : Cluster) (key : String) : Option Ref := (c.getServer (some key) 0).1

def BoundTo (c : Cluster) (key : String) (s : Ref) : Prop := c.affinityMap.get? key = some (c.idOf s)

end Cluster

-- A step between two calls of get_server for a key: nobody else asks for the key
-- or clears it, and the server stays where it is all the way.
structure Between (cfg : Config) (key : String) (stays : Cluster → Prop) (c : Cluster) (op : Op) : Prop where
  silent : op.asks key = false
  uncleared : op.clears key = false
  always : ∀ d ∈ c.trail cfg op, stays d

theorem alone_mem (c : Cluster) (s : Ref) (alone : c.Alone s) : s ∈ c.innerRing := by
  have member : s ∈ c.innerRing.filter (c.hasId (c.idOf s)) := alone ▸ List.mem_cons_self
  exact List.mem_of_mem_filter member

theorem alone_found (c : Cluster) (s : Ref) (alone : c.Alone s) : c.innerRing.reverse.find? (c.hasId (c.idOf s)) = some s := by
  rw [← List.head?_filter, List.filter_reverse, alone, List.reverse_singleton, List.head?_cons]

-- The first server with the id leaves, and there was no other one.
theorem alone_leaves (c d : Cluster) (s r : Ref) (alone : c.Alone s) (member : r ∈ c.innerRing) (same : c.idOf r = c.idOf s)
    (ids : d.idOf = c.idOf) (inner : d.innerRing = c.innerRing.eraseP (c.hasId (c.idOf r))) : ¬ d.Alone s := by
  obtain ⟨a, before, after, unnamed, named, whole, left⟩ :=
    List.exists_of_eraseP member (by simp [Cluster.hasId] : c.hasId (c.idOf r) r = true)
  have nothing : before.filter (c.hasId (c.idOf s)) = [] := by
    rw [List.filter_eq_nil_iff, ← same]
    exact unnamed
  rw [same] at named left
  rw [Cluster.Alone, whole, List.filter_append, List.filter_cons_of_pos named, nothing, List.nil_append, List.cons.injEq] at alone
  have idTest : d.hasId (d.idOf s) = c.hasId (c.idOf s) := by
    rw [ids]
    funext x
    rw [Cluster.hasId, Cluster.hasId, ids]
  rw [Cluster.Alone, idTest, inner, same, left, List.filter_append, nothing, alone.2]
  exact List.cons_ne_nil s [] ∘ Eq.symm

theorem session_bound (c : Cluster) (key : String) (s : Ref) (draw : ℚ) (alone : c.Alone s) (bound : c.BoundTo key s)
    (healthy : (c.objects s).metrics.isHealthy = true) : c.getServer (some key) draw = (some s, c) := by
  have nonempty : ¬ c.innerRing.isEmpty = true := by
    rw [List.isEmpty_iff]
    exact List.ne_nil_of_mem (alone_mem c s alone)
  have found : c.boundServer key = some s := by
    unfold Cluster.boundServer
    rw [bound]
    simp only [alone_found c s alone, Option.filter_some, healthy, if_true]
  rw [Cluster.getServer, if_neg nonempty]
  simp only [found]

theorem answer_binds (c : Cluster) (key : String) (s : Ref) (draw : ℚ) (ring : c.innerRing ≠ [])
    (answered : c.sessionServer key = some s) :
    (c.getServer (some key) draw).2.affinityMap.get? key = some (c.idOf s) := by
  unfold Cluster.sessionServer Cluster.getServer at answered
  rw [if_neg (by simpa using ring)] at answered
  rw [Cluster.getServer, if_neg (by simpa using ring)]
  cases bound : c.boundServer key with
  | some r =>
      simp only [bound, Option.some.injEq] at answered ⊢
      subst answered
      unfold Cluster.boundServer at bound
      split at bound
      · cases bound
      · rename_i boundId entry
        have first := Option.filter_eq_some_iff.mp bound
        have named := List.find?_some first.1
        rw [entry, of_decide_eq_true named]
  | none =>
      simp only [bound] at answered ⊢
      rw [answered, Cluster.bindAffinity, Dict.get_set, if_pos rfl]
      rfl

theorem get_server_binding (c : Cluster) (affinityKey : Option String) (draw : ℚ) (key : String) (other : affinityKey ≠ some key) :
    (c.getServer affinityKey draw).2.affinityMap.get? key = c.affinityMap.get? key := by
  unfold Cluster.getServer
  split
  · rfl
  · split
    · split <;> rfl
    · rename_i asked
      split
      · rfl
      · cases c.innerRing.head? with
        | none => rfl
        | some r =>
            have different : key ≠ asked := fun same => other (same ▸ rfl)
            rw [Cluster.bindAffinity, Dict.get_set, if_neg different]
            rfl

theorem get_server_excluding_affinity (c : Cluster) (excludedIds : List String) :
    (c.getServerExcluding excludedIds).2.affinityMap = c.affinityMap := by
  obtain ⟨_, turned⟩ := c.get_excluding_turned excludedIds
  rw [turned]

theorem context_affinity (c : Cluster) (affinityKey : Option String) (draw : ℚ) (raised : Bool) (elapsedMs : ℚ) :
    (c.getServerContext affinityKey draw raised elapsedMs).affinityMap = (c.getServer affinityKey draw).2.affinityMap := by
  rw [Cluster.getServerContext]
  generalize c.getServer affinityKey draw = chosen
  obtain ⟨server, after⟩ := chosen
  cases server with
  | none => rfl
  | some r => exact record_outcome_affinity after r _ elapsedMs

theorem request_affinity (c : Cluster) (affinityKey : Option String) (draw : ℚ) (attempt : Cluster.Outcome × ℚ)
    (rest : List (Cluster.Outcome × ℚ)) :
    (c.requestWithRetry affinityKey draw (attempt :: rest)).affinityMap = (c.getServer affinityKey draw).2.affinityMap := by
  obtain ⟨outcome, elapsedMs⟩ := attempt
  rw [Cluster.requestWithRetry]
  generalize c.getServer affinityKey draw = chosen
  obtain ⟨server, after⟩ := chosen
  cases server with
  | none => rfl
  | some r =>
      have noted := record_outcome_affinity after r outcome elapsedMs
      cases outcome with
      | success => exact noted
      | notRetryable => exact noted
      | failure =>
          apply Cluster.served_attempts (fun d => d.affinityMap = after.affinityMap) _ _ rest _ _ noted
          · exact fun d excludedIds held => (get_server_excluding_affinity d excludedIds).trans held
          · exact fun d r outcome elapsedMs held => (record_outcome_affinity d r outcome elapsedMs).trans held

-- One link of a trail leaves the key bound, if the server was and is in the ring.
structure Kept (key : String) (s : Ref) (c d : Cluster) : Prop where
  ids : d.idOf = c.idOf
  bound : c.Alone s → d.Alone s → c.BoundTo key s → d.BoundTo key s

theorem kept_binding (key : String) (s : Ref) (c d : Cluster) (ids : d.idOf = c.idOf)
    (same : d.affinityMap.get? key = c.affinityMap.get? key) : Kept key s c d :=
  ⟨ids, fun _ _ bound => by rw [Cluster.BoundTo, same, ids]; exact bound⟩

theorem kept_affinity (key : String) (s : Ref) (c d : Cluster) (ids : d.idOf = c.idOf) (same : d.affinityMap = c.affinityMap) :
    Kept key s c d := kept_binding key s c d ids (by rw [same])

theorem kept_evicted (cfg : Config) (key : String) (s : Ref) (c : Cluster) (r : Ref) (reason : EvictionReason)
    (member : r ∈ c.innerRing) :
    Kept key s c (c.moveToOuter cfg r reason) := by
  have moved := evicted_move_to_outer cfg c r reason
  refine ⟨moved.ids, ?_⟩
  intro alone stays bound
  have other : c.idOf r ≠ c.idOf s := fun same => alone_leaves c _ s r alone member same moved.ids moved.inner stays
  rw [Cluster.BoundTo, move_to_outer_affinity, Dict.get_filter, bound, moved.ids, Option.filter_some, if_pos (by simpa using other.symm)]

theorem kept_promoted (key : String) (s : Ref) (c popped : Cluster) (r : Ref) (taken : c.popOuter = some (r, popped)) :
    Kept key s c (popped.moveToInner r) :=
  kept_affinity key s c _ (lifted_pop c popped r taken).1.ids
    ((move_to_inner_affinity popped r).trans (pop_outer_affinity c popped r taken))

theorem kept_links (cfg : Config) (key : String) (s : Ref) : Links cfg (Kept key s) where
  begun c := kept_affinity key s c _ (quiet_begin_rotate c).ids (begin_rotate_affinity c)
  ticked c := kept_affinity key s c _ rfl rfl
  waited c := kept_affinity key s c _ rfl rfl
  evicted c r reason member := kept_evicted cfg key s c r reason member
  circuit c r := kept_affinity key s c _ (calm_remediate_circuit c r).ids (remediate_circuit_affinity c r)
  stale c := kept_affinity key s c _ (calm_remediate_stale c).ids (remediate_stale_affinity c)
  drained c serverId drain entry :=
    kept_affinity key s c _ (drained_finish c serverId drain entry).ids (record_eviction_affinity _ drain.server)
  promoted c r popped _ _ taken :=
    kept_affinity key s c _ (lifted_pop c.tick.tick popped r taken).1.ids
      ((move_to_inner_affinity popped r).trans (pop_outer_affinity c.tick.tick popped r taken))

theorem trail_kept (cfg : Config) (key : String) (s : Ref) (c : Cluster) (op : Op) (silent : op.asks key = false)
    (uncleared : op.clears key = false) : (c :: c.trail cfg op).IsChain (Kept key s) := by
  have ids := step_ids cfg c op
  have served (affinityKey : Option String) (draw : ℚ) (other : affinityKey ≠ some key)
      (same : (step cfg c op).affinityMap = (c.getServer affinityKey draw).2.affinityMap) : Kept key s c (step cfg c op) :=
    kept_binding key s c _ ids (by rw [same, get_server_binding c affinityKey draw key other])
  cases op with
  | addServer r forceInner => exact List.isChain_pair.mpr (kept_affinity key s c _ ids (add_server_affinity cfg c r forceInner))
  | removeServer serverId =>
      rw [Cluster.trail, Cluster.removeTrail]
      split
      · refine List.isChain_cons_cons.mpr ⟨kept_affinity key s c _ rfl rfl, ?_⟩
        exact refill_linked cfg _ (fun d r popped taken => kept_promoted key s d popped r taken) _ _
      · rename_i absent
        refine List.isChain_pair.mpr (kept_affinity key s c _ ids ?_)
        rw [Cluster.removeServer, if_neg absent]
        split <;> rfl
  | forceEvict serverId =>
      refine List.isChain_pair.mpr ?_
      rw [step, Cluster.forceEvict]
      split
      · exact kept_affinity key s c c rfl rfl
      · rename_i r found
        exact kept_evicted cfg key s c r .manual (List.mem_of_find?_eq_some found)
  | rotate => exact rotate_linked cfg _ (kept_links cfg key s) c
  | checkDrainingServers => exact check_linked cfg _ (kept_links cfg key s) c
  | getServer affinityKey draw =>
      refine List.isChain_pair.mpr (served affinityKey draw ?_ rfl)
      rintro rfl
      simp [Op.asks] at silent
  | getServerContext affinityKey draw raised elapsedMs =>
      refine List.isChain_pair.mpr (served affinityKey draw ?_ (context_affinity c affinityKey draw raised elapsedMs))
      rintro rfl
      simp [Op.asks] at silent
  | requestWithRetry affinityKey draw attempts =>
      cases attempts with
      | nil => exact List.isChain_pair.mpr (kept_affinity key s c c rfl rfl)
      | cons attempt rest =>
          refine List.isChain_pair.mpr (served affinityKey draw ?_ (request_affinity c affinityKey draw attempt rest))
          rintro rfl
          simp [Op.asks] at silent
  | clearAffinity affinityKey =>
      refine List.isChain_pair.mpr (kept_binding key s c _ ids ?_)
      cases affinityKey with
      | none => cases uncleared
      | some cleared =>
          have other : key ≠ cleared := fun same => by simp [Op.clears, same] at uncleared
          simp only [step, Cluster.clearAffinity, Dict.get_erase, if_neg other]
  | _ => exact List.isChain_pair.mpr (kept_affinity key s c _ ids (routine_affinity cfg c _ rfl))

theorem chain_bound (key : String) (s : Ref) (c : Cluster) (trail : List Cluster) (linked : (c :: trail).IsChain (Kept key s))
    (stays : ∀ d ∈ trail, d.Alone s) (alone : c.Alone s) (bound : c.BoundTo key s) :
    (trail.getLastD c).Alone s ∧ (trail.getLastD c).BoundTo key s := by
  induction trail generalizing c with
  | nil => exact ⟨alone, bound⟩
  | cons d rest ih =>
      rw [List.isChain_cons_cons] at linked
      rw [List.forall_mem_cons] at stays
      rw [List.getLastD_cons]
      exact ih d linked.2 stays.2 stays.1 (linked.1.bound alone stays.1 bound)

theorem asked_binds (cfg : Config) (c : Cluster) (key : String) (s : Ref) (asked : Op) (asks : asked.asks key = true)
    (answered : c.sessionServer key = some s) (stays : (step cfg c asked).Alone s) : (step cfg c asked).BoundTo key s := by
  have ids := step_ids cfg c asked
  have routine : asked.routine = true := by
    cases asked <;> first | rfl | cases asks
  have ring : c.innerRing ≠ [] := by
    have member := (still_step cfg c asked routine).inner.mem_iff.mpr (alone_mem _ s stays)
    exact List.ne_nil_of_mem member
  have bound (affinityKey : Option String) (draw : ℚ) (same : affinityKey = some key)
      (affinity : (step cfg c asked).affinityMap = (c.getServer affinityKey draw).2.affinityMap) : (step cfg c asked).BoundTo key s := by
    rw [Cluster.BoundTo, affinity, same, ids]
    exact answer_binds c key s draw ring answered
  cases asked with
  | getServer affinityKey draw =>
      cases affinityKey with
      | none => cases asks
      | some affinityKey => exact bound (some affinityKey) draw (congrArg some (of_decide_eq_true asks)) rfl
  | getServerContext affinityKey draw raised elapsedMs =>
      cases affinityKey with
      | none => cases asks
      | some affinityKey =>
          exact bound (some affinityKey) draw (congrArg some (of_decide_eq_true asks)) (context_affinity c _ draw raised elapsedMs)
  | requestWithRetry affinityKey draw attempts =>
      cases affinityKey with
      | none => cases asks
      | some affinityKey =>
          cases attempts with
          | nil => cases asks
          | cons attempt rest =>
              exact bound (some affinityKey) draw (congrArg some (of_decide_eq_true asks)) (request_affinity c _ draw attempt rest)
  | _ => cases asks

-- From the last call that asked for the key to the next one.
theorem sticky_sessions (cfg : Config) (c d : Cluster) (key : String) (s : Ref) (asked : Op) (ops : List Op) (draw : ℚ)
    (asks : asked.asks key = true) (answered : c.sessionServer key = some s) (stays : (step cfg c asked).Alone s)
    (run : ClusterRun cfg (Between cfg key fun e => e.Alone s) (step cfg c asked) ops d)
    (healthy : (d.objects s).metrics.isHealthy = true) :
    d.getServer (some key) draw = (some s, d) := by
  have kept : d.Alone s ∧ d.BoundTo key s := by
    refine Runs.run_invariant (next cfg) (Between cfg key fun e => e.Alone s) (fun d => d.Alone s ∧ d.BoundTo key s) ?_ _ d ops
      ⟨stays, asked_binds cfg c key s asked asks answered stays⟩ run
    intro before op after held between taken
    cases taken
    have ended := chain_bound key s before _ (trail_kept cfg key s before op between.silent between.uncleared) between.always held.1 held.2
    rwa [trail_last] at ended
  exact session_bound d key s draw kept.1 kept.2 healthy

instance (c : Cluster) (s : Ref) : Decidable (c.Alone s) := inferInstanceAs (Decidable (c.innerRing.filter (c.hasId (c.idOf s)) = [s]))

instance (cfg : Config) (key : String) (stays : Cluster → Prop) [DecidablePred stays] (c : Cluster) (op : Op) :
    Decidable (Between cfg key stays c op) :=
  decidable_of_iff (op.asks key = false ∧ op.clears key = false ∧ ∀ d ∈ c.trail cfg op, stays d)
    ⟨fun parts => ⟨parts.1, parts.2.1, parts.2.2⟩, fun between => ⟨between.silent, between.uncleared, between.always⟩⟩

-- Objects 0 and 1 carry the same id.
def twinned : Cluster := .empty {} (fun r => { id := toString (r - 1) }) none none none ⟨fun ticks => ticks, 0⟩

def threeAdded : List Op := [.addServer 0 true, .addServer 1 true, .addServer 2 true]

-- Evicting the twin drops the binding of the server that stays.
theorem twin_breaks_session : ¬ ∀ (cfg : Config) (start c d : Cluster) (before ops : List Op) (key : String) (s : Ref)
    (asked : Op) (draw : ℚ),
    ClusterRun cfg (fun _ _ => True) start before c → start.affinityMap = .empty → start.allServers = [] →
    asked.asks key = true → c.sessionServer key = some s → s ∈ (step cfg c asked).innerRing →
    ClusterRun cfg (Between cfg key fun e => s ∈ e.innerRing) (step cfg c asked) ops d → (d.objects s).metrics.isHealthy = true →
    d.getServer (some key) draw = (some s, d) := by
  intro claim
  have facts : ∃ c ∈ Runs.follow (next {}) (fun _ _ => True) twinned threeAdded, c.sessionServer "k" = some 0 ∧
      0 ∈ (step {} c (.getServer (some "k") 0)).innerRing ∧
      ∃ d ∈ Runs.follow (next {}) (Between {} "k" fun e => 0 ∈ e.innerRing) (step {} c (.getServer (some "k") 0)) [.forceEvict "0"],
        (d.objects 0).metrics.isHealthy = true ∧ (d.getServer (some "k") 0).1 = some 2 := by decide +kernel
  obtain ⟨c, reached, answered, inside, d, between, healthy, other⟩ := facts
  have same := claim {} twinned c d threeAdded [.forceEvict "0"] "k" 0 (.getServer (some "k") 0) 0
    (Runs.follow_run _ _ _ c _ reached) rfl rfl
    rfl answered inside (Runs.follow_run _ _ _ d _ between) healthy
  rw [same] at other
  cases other

def busyBetween : List Op :=
  [.getServer (some "j") 0, .getServer none 0, .forceEvict "1", .requestWithRetry none 0 [(.failure, 10), (.success, 10)],
    .startTrafficRamp "0" 1 2 10, .rotate, .getServer none 0]

theorem sticky_session_busy : ∃ c ∈ Runs.follow (next {}) (fun _ _ => True) affinityStart threeAdded,
    ∃ d, ClusterRun {} (Between {} "k" fun e => e.Alone 0) (step {} c (.getServer (some "k") 0)) busyBetween d ∧
      d.getServer (some "k") 0 = (some 0, d) := by
  have facts : ∃ c ∈ Runs.follow (next {}) (fun _ _ => True) affinityStart threeAdded, c.sessionServer "k" = some 0 ∧
      (step {} c (.getServer (some "k") 0)).Alone 0 ∧
      ∃ d ∈ Runs.follow (next {}) (Between {} "k" fun e => e.Alone 0) (step {} c (.getServer (some "k") 0)) busyBetween,
        (d.objects 0).metrics.isHealthy = true := by decide +kernel
  obtain ⟨c, reached, answered, inside, d, between, healthy⟩ := facts
  have run := Runs.follow_run _ _ _ d _ between
  exact ⟨c, reached, d, run, sticky_sessions {} c d "k" 0 (.getServer (some "k") 0) busyBetween 0 rfl answered inside run healthy⟩

end HuddleCluster.Ring
