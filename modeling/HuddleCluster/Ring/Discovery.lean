import HuddleCluster.Ring.Removal
import HuddleCluster.Ring.Trails

set_option autoImplicit false

namespace HuddleCluster.Ring

-- The address of a pod. It has no hyphen, so that the id made from it can be read
-- back.
structure Ip where
  text : String
  plain : '-' ∉ text.toList
deriving DecidableEq

structure K8sDiscovery where
  serverPrefix : String := "k8s"
  port : Nat

namespace K8sDiscovery

def safe (ip : Ip) : String := String.ofList (ip.text.toList.map fun char => if char = '.' then '-' else char)

def serverId (d : K8sDiscovery) (ip : Ip) : String := d.serverPrefix ++ "-" ++ safe ip ++ "-" ++ toString d.port

end K8sDiscovery

-- Where the watcher is in a sync: the ready addresses it fetched, those it still
-- has to add, and those it still has to remove.
inductive SyncPhase where
  | idle
  | syncing (ready added removed : List Ip)
  | synced (ready : List Ip)
deriving DecidableEq

-- A cluster with its watcher. A server object the watcher has made carries the
-- address it was made for in its tags.
structure Watched where
  cluster : Cluster
  source : Ref → Option Ip
  knownIps : Dict Ip String
  phase : SyncPhase

inductive WatchEvent where
  | cluster (op : Op)
  | fetched (ready added removed : List Ip)
  | addServer (r : Ref)
  | removeServer
  | finished

namespace Watched

def fresh (c : Cluster) : Watched := ⟨c, fun _ => none, .empty, .idle⟩

-- The differences of the two sets come in any order.
def delta (s : Watched) (ready : List Ip) : List Ip × List Ip :=
  (ready.dedup.filter fun ip => !s.knownIps.contains ip, (s.knownIps.entries.map Prod.fst).filter fun ip => decide (ip ∉ ready))

def disturbed : SyncPhase → SyncPhase
  | .synced _ => .idle
  | phase => phase

def create (d : K8sDiscovery) (c : Cluster) (r : Ref) (ip : Ip) : Cluster :=
  { c with objects := Function.update c.objects r { id := d.serverId ip } }

-- The calls of one sync are steps of their own, since other threads work on the
-- cluster between them. The result of remove_server is not looked at.
def next (cfg : Config) (d : K8sDiscovery) (s : Watched) : WatchEvent → Option Watched
  | .cluster op => some { s with cluster := step cfg s.cluster op, phase := disturbed s.phase }
  | .fetched ready added removed =>
      match s.phase with
      | .syncing _ _ _ => none
      | .idle | .synced _ =>
          if added.Perm (s.delta ready).1 ∧ removed.Perm (s.delta ready).2 then
            some { s with phase := .syncing ready added removed }
          else none
  | .addServer r =>
      match s.phase with
      | .syncing ready (ip :: added) removed =>
          if s.source r = none ∧ r ∉ s.cluster.allServers then
            some ⟨(create d s.cluster r ip).addServer cfg r false, Function.update s.source r (some ip),
              s.knownIps.set ip (d.serverId ip), .syncing ready added removed⟩
          else none
      | _ => none
  | .removeServer =>
      match s.phase with
      | .syncing ready [] (ip :: removed) =>
          match s.knownIps.get? ip with
          | none => some { s with phase := .syncing ready [] removed }
          | some serverId =>
              some { s with
                cluster := (s.cluster.removeServer cfg serverId).1
                knownIps := s.knownIps.erase ip
                phase := .syncing ready [] removed }
      | _ => none
  | .finished =>
      match s.phase with
      | .syncing ready [] [] => some { s with phase := .synced ready }
      | _ => none

def managed (s : Watched) : List Ip := s.cluster.allServers.filterMap s.source

-- At the end of a sync there is one managed server for every ready address and no
-- other, under the id that known_servers lists for it.
def Converged (d : K8sDiscovery) (s : Watched) : Prop :=
  ∀ ready, s.phase = .synced ready →
    s.managed.Nodup ∧ (∀ ip, ip ∈ s.managed ↔ ip ∈ ready) ∧
      (∀ ip serverId, s.knownIps.get? ip = some serverId ↔ ip ∈ ready ∧ d.serverId ip = serverId) ∧
      ∀ r ∈ s.cluster.allServers, ∀ ip ∈ s.source r, s.cluster.idOf r = d.serverId ip

def Manages (s : Watched) (serverId : String) : Prop :=
  ∃ r ∈ s.cluster.allServers, (s.source r).isSome = true ∧ s.cluster.idOf r = serverId

def nextAdded : SyncPhase → Option Ip
  | .syncing _ (ip :: _) _ => some ip
  | _ => none

def nextRemoved : SyncPhase → Option Ip
  | .syncing _ _ (ip :: _) => some ip
  | _ => none

-- Nobody else registers or removes a server under an id of the watcher, and no
-- server the watcher removes is draining at that moment.
def Orderly (d : K8sDiscovery) (s : Watched) : WatchEvent → Prop
  | .cluster op =>
      (∀ r ∈ op.added, s.source r = none ∧ ¬ s.Manages (s.cluster.idOf r)) ∧ ∀ serverId ∈ op.removed, ¬ s.Manages serverId
  | .addServer _ => ∀ ip ∈ nextAdded s.phase, d.serverId ip ∉ s.cluster.ids
  | .removeServer => ∀ ip ∈ nextRemoved s.phase, d.serverId ip ∉ s.cluster.idsOf s.cluster.drainingRefs
  | .fetched _ _ _ | .finished => True

end Watched

open Cluster K8sDiscovery Watched

theorem safe_injective (a b : Ip) (same : safe a = safe b) : a = b := by
  have replaced : ∀ first second : List Char, '-' ∉ first → '-' ∉ second →
      (first.map fun char => if char = '.' then '-' else char) = (second.map fun char => if char = '.' then '-' else char) →
        first = second := by
    intro first
    induction first with
    | nil => exact fun second _ _ equal => (List.map_eq_nil_iff.mp equal.symm).symm
    | cons x rest ih =>
        intro second plain other equal
        cases second with
        | nil => cases equal
        | cons y tail =>
            rw [List.mem_cons, not_or] at plain other
            simp only [List.map_cons, List.cons.injEq] at equal
            have head : x = y := by
              have heads := equal.1
              split at heads <;> split at heads
              · rename_i first second
                exact first.trans second.symm
              · exact absurd heads other.1
              · exact absurd heads.symm plain.1
              · exact heads
            rw [head, ih tail plain.2 other.2 equal.2]
  have texts := replaced a.text.toList b.text.toList a.plain b.plain (String.ofList_injective same)
  cases a
  cases b
  simp only [Ip.mk.injEq]
  exact String.toList_injective texts

theorem server_id_injective (d : K8sDiscovery) (a b : Ip) (same : d.serverId a = d.serverId b) : a = b := by
  have lists := congrArg String.toList same
  simp only [serverId, String.toList_append, List.append_assoc, List.append_cancel_left_eq] at lists
  refine safe_injective a b (String.toList_injective ?_)
  simpa using lists

theorem step_members (cfg : Config) (c : Cluster) (op : Op) (r : Ref) (member : r ∈ (step cfg c op).allServers) :
    r ∈ c.allServers ∨ r ∈ op.added := by
  have still (d : Cluster) (same : Still c d) : d.allServers ⊆ c.allServers := by
    intro x
    rw [mem_servers, mem_servers, drainingRefs, same.draining, same.outer, drainingRefs, same.inner.perm.mem_iff]
    exact id
  have pulled (d : Cluster) (ring : List Ref) (fewer : ring ⊆ c.innerRing) (moved : Moves cfg steady { c with innerRing := ring } d) :
      d.allServers ⊆ c.allServers := by
    refine List.Subset.trans (moves_members cfg steady _ d moved) ?_
    intro x
    rw [mem_servers, mem_servers]
    exact Or.imp_left (@fewer x)
  cases op with
  | addServer x forceInner =>
      have added := added_add_server cfg c x forceInner
      rw [step, mem_servers, drainingRefs, added.draining] at member
      rw [mem_servers]
      rcases added.placed with ⟨_, inner, outer, _⟩ | ⟨inner, outer, _⟩
      · rw [inner, outer, List.mem_append, List.mem_singleton] at member
        rcases member with (before | rfl) | before
        · exact Or.inl (Or.inl before)
        · exact Or.inr rfl
        · exact Or.inl (Or.inr before)
      · rw [inner, outer, (Heapq.heappush_perm _ _ _).mem_iff, List.mem_cons] at member
        rcases member with before | before | rfl | before
        · exact Or.inl (Or.inl before)
        · exact Or.inl (Or.inr (Or.inl before))
        · exact Or.inr rfl
        · exact Or.inl (Or.inr (Or.inr before))
  | removeServer serverId =>
      have removed := removed_remove_server cfg c serverId
      rw [step] at member
      generalize (c.removeServer cfg serverId).1 = d at member removed
      generalize (c.removeServer cfg serverId).2 = result at removed
      cases removed with
      | inner d present moved => exact Or.inl (pulled d _ List.eraseP_subset moved member)
      | outer absent present =>
          rw [mem_servers, (Heapq.heapify_perm _ _).mem_iff] at member
          rw [mem_servers]
          exact Or.inl (member.imp_right (Or.imp_right List.mem_of_mem_eraseP))
      | missing absentInner absentOuter => exact Or.inl member
  | forceEvict serverId => exact Or.inl (moves_members cfg _ c _ (moves_force_evict cfg c serverId) member)
  | rotate =>
      have begun := still _ (still_of_quiet _ _ (quiet_begin_rotate c))
      exact Or.inl (begun (moves_members cfg _ _ _ (moves_rotate cfg c) member))
  | checkDrainingServers => exact Or.inl (moves_members cfg _ c _ (moves_check_draining cfg c) member)
  | _ => exact Or.inl (still _ (still_step cfg c _ rfl) member)

-- One registered server for every known address, made for it, and no other one of
-- the watcher's.
structure Tracks (d : K8sDiscovery) (s : Watched) : Prop where
  named : ∀ r ∈ s.cluster.allServers, ∀ ip ∈ s.source r, s.cluster.idOf r = d.serverId ip ∧ (s.knownIps.get? ip).isSome = true
  listed : ∀ ip serverId, s.knownIps.get? ip = some serverId → d.serverId ip = serverId
  single : ∀ ip, (s.knownIps.get? ip).isSome = true → s.cluster.ids.count (d.serverId ip) = 1 ∧
    ∀ r ∈ s.cluster.allServers, s.cluster.idOf r = d.serverId ip → s.source r = some ip

def Pending (s : Watched) : Prop :=
  match s.phase with
  | .idle => True
  | .syncing ready added removed => added.Nodup ∧
      (∀ ip ∈ added, s.knownIps.get? ip = none) ∧
        (∀ ip, ip ∈ ready ↔ ip ∈ added ∨ (s.knownIps.get? ip).isSome = true ∧ ip ∉ removed) ∧
        removed.Nodup ∧ ∀ ip ∈ removed, (s.knownIps.get? ip).isSome = true
  | .synced ready => ∀ ip, ip ∈ ready ↔ (s.knownIps.get? ip).isSome = true

theorem single_member (d : K8sDiscovery) (s : Watched) (tracks : Tracks d s) (ip : Ip)
    (known : (s.knownIps.get? ip).isSome = true) : ∃ r ∈ s.cluster.allServers, s.source r = some ip := by
  obtain ⟨once, own⟩ := tracks.single ip known
  have present : d.serverId ip ∈ s.cluster.ids := List.count_pos_iff.mp (by omega)
  obtain ⟨r, member, same⟩ := (mem_ids _ _ _).mp present
  exact ⟨r, member, own r member same⟩

theorem known_managed (d : K8sDiscovery) (s : Watched) (tracks : Tracks d s) (ip : Ip)
    (known : (s.knownIps.get? ip).isSome = true) : s.Manages (d.serverId ip) := by
  obtain ⟨r, member, made⟩ := single_member d s tracks ip known
  exact ⟨r, member, by rw [made]; rfl, (tracks.named r member ip made).1⟩

theorem managed_count (d : K8sDiscovery) (s : Watched) (refs : List Ref) (ip : Ip)
    (named : ∀ r ∈ refs, ∀ other ∈ s.source r, s.cluster.idOf r = d.serverId other) :
    (refs.filterMap s.source).count ip ≤ (s.cluster.idsOf refs).count (d.serverId ip) := by
  induction refs with
  | nil => exact le_refl 0
  | cons r rest ih =>
      rw [List.forall_mem_cons] at named
      have later := ih named.2
      rw [idsOf, List.map_cons, List.count_cons, List.filterMap_cons]
      split
      · exact later.trans (Nat.le_add_right _ _)
      · rename_i other made
        have same := named.1 other made
        rw [List.count_cons]
        by_cases here : other = ip
        · subst here
          simp only [beq_self_eq_true, if_true, same]
          exact Nat.add_le_add_right later 1
        · have different : (other == ip) = false := beq_eq_false_iff_ne.mpr here
          rw [different]
          exact later.trans (Nat.le_add_right _ _)

theorem tracks_converged (d : K8sDiscovery) (s : Watched) (tracks : Tracks d s) (pending : Pending s) : s.Converged d := by
  intro ready phase
  rw [Pending, phase] at pending
  have known (ip : Ip) : ip ∈ s.managed ↔ ip ∈ ready := by
    rw [pending ip, managed, List.mem_filterMap]
    constructor
    · intro ⟨r, member, made⟩
      exact (tracks.named r member ip made).2
    · exact single_member d s tracks ip
  refine ⟨?_, known, ?_, ?_⟩
  · refine List.nodup_iff_count_le_one.mpr fun ip => ?_
    by_cases member : ip ∈ s.managed
    · have once := (tracks.single ip ((pending ip).mp ((known ip).mp member))).1
      have counted := managed_count d s s.cluster.allServers ip fun r inside other made => (tracks.named r inside other made).1
      exact counted.trans once.le
    · exact (List.count_eq_zero.mpr member).le.trans zero_le_one
  · intro ip serverId
    constructor
    · intro found
      exact ⟨(pending ip).mpr (by rw [found]; rfl), tracks.listed ip serverId found⟩
    · intro ⟨wanted, same⟩
      obtain ⟨value, found⟩ := Option.isSome_iff_exists.mp ((pending ip).mp wanted)
      rw [found, ← tracks.listed ip value found, same]
  · exact fun r member ip made => (tracks.named r member ip made).1

theorem step_ids_count (cfg : Config) (c : Cluster) (op : Op) (serverId : String) (added : ∀ r ∈ op.added, c.idOf r ≠ serverId)
    (removed : ∀ other ∈ op.removed, other ≠ serverId) : (step cfg c op).ids.count serverId = c.ids.count serverId := by
  cases adds : op.added with
  | some x =>
      cases op with
      | addServer r forceInner =>
          have different : (c.idOf r == serverId) = false := beq_eq_false_iff_ne.mpr (added r rfl)
          rw [step, (added_ids cfg c _ r (added_add_server cfg c r forceInner)).count_eq, List.count_cons, different]
          rfl
      | _ => cases adds
  | none =>
      cases removes : op.removed with
      | some x =>
          cases op with
          | removeServer other =>
              have different : (other == serverId) = false := beq_eq_false_iff_ne.mpr (removed other rfl)
              have perm := removed_ids cfg c _ other _ (removed_remove_server cfg c other)
              rw [step, perm.count_eq]
              split
              · rw [List.count_cons, different]
                rfl
              · rfl
          | _ => cases removes
      | none => exact (step_ids_perm cfg c op adds removes).count_eq serverId

theorem tracks_cluster (cfg : Config) (d : K8sDiscovery) (s : Watched) (op : Op) (phase : SyncPhase) (tracks : Tracks d s)
    (orderly : Orderly d s (.cluster op)) : Tracks d { s with cluster := step cfg s.cluster op, phase := phase } := by
  obtain ⟨added, removed⟩ := orderly
  refine ⟨?_, tracks.listed, ?_⟩
  · intro r member ip made
    rcases step_members cfg s.cluster op r member with before | adds
    · rw [step_ids]
      exact tracks.named r before ip made
    · rw [(added r adds).1] at made
      cases made
  · intro ip known
    have manages := known_managed d s tracks ip known
    obtain ⟨once, own⟩ := tracks.single ip known
    have stranger : ∀ r ∈ op.added, s.cluster.idOf r ≠ d.serverId ip := fun r adds same => (added r adds).2 (same ▸ manages)
    refine ⟨?_, ?_⟩
    · refine (step_ids_count cfg s.cluster op _ stranger ?_).trans once
      exact fun other removes same => removed other removes (same ▸ manages)
    · intro r member same
      rw [step_ids] at same
      rcases step_members cfg s.cluster op r member with before | adds
      · exact own r before same
      · exact absurd same (stranger r adds)

theorem create_ids (d : K8sDiscovery) (c : Cluster) (r : Ref) (ip : Ip) (unregistered : r ∉ c.allServers) :
    (∀ x ∈ c.allServers, (create d c r ip).idOf x = c.idOf x) ∧ (create d c r ip).idOf r = d.serverId ip ∧
      (create d c r ip).ids = c.ids := by
  have others : ∀ x ∈ c.allServers, (create d c r ip).idOf x = c.idOf x := by
    intro x member
    have different : x ≠ r := fun same => unregistered (same ▸ member)
    simp [create, idOf, Function.update_of_ne different]
  exact ⟨others, by simp [create, idOf], List.map_congr_left others⟩

theorem tracks_add (cfg : Config) (d : K8sDiscovery) (s : Watched) (r : Ref) (ip : Ip) (phase : SyncPhase) (tracks : Tracks d s)
    (unregistered : r ∉ s.cluster.allServers) (free : d.serverId ip ∉ s.cluster.ids) :
    Tracks d ⟨(create d s.cluster r ip).addServer cfg r false, Function.update s.source r (some ip),
      s.knownIps.set ip (d.serverId ip), phase⟩ := by
  obtain ⟨others, own, ids⟩ := create_ids d s.cluster r ip unregistered
  have added := added_add_server cfg (create d s.cluster r ip) r false
  have perm := added_ids cfg _ _ r added
  have members : ∀ x ∈ ((create d s.cluster r ip).addServer cfg r false).allServers,
      x = r ∨ x ∈ s.cluster.allServers ∧ x ≠ r ∧ ((create d s.cluster r ip).addServer cfg r false).idOf x = s.cluster.idOf x := by
    intro x member
    by_cases here : x = r
    · exact Or.inl here
    · rcases step_members cfg (create d s.cluster r ip) (.addServer r false) x member with before | same
      · exact Or.inr ⟨before, here, by rw [added.ids]; exact others x before⟩
      · exact absurd (Option.some.inj same).symm here
  have named : ((create d s.cluster r ip).addServer cfg r false).idOf r = d.serverId ip := (congrFun added.ids r).trans own
  rw [own, ids] at perm
  refine ⟨?_, ?_, ?_⟩
  · intro x member other made
    rcases members x member with rfl | ⟨before, different, same⟩
    · simp only [Function.update_self, Option.mem_def, Option.some.injEq] at made
      subst made
      exact ⟨named, by simp⟩
    · change other ∈ Function.update s.source r (some ip) x at made
      rw [Function.update_of_ne different] at made
      obtain ⟨called, known⟩ := tracks.named x before other made
      refine ⟨same.trans called, ?_⟩
      rw [Dict.get_set]
      split
      · rfl
      · exact known
  · intro other serverId found
    rw [Dict.get_set] at found
    split at found
    · rename_i same
      rw [same]
      exact Option.some.inj found
    · exact tracks.listed other serverId found
  · intro other known
    rw [Dict.get_set] at known
    by_cases here : other = ip
    · subst here
      refine ⟨?_, ?_⟩
      · rw [perm.count_eq, List.count_cons_self, List.count_eq_zero.mpr free]
      · intro x member called
        rcases members x member with rfl | ⟨before, _, same⟩
        · exact Function.update_self _ _ _
        · exact absurd ((mem_ids _ _ _).mpr ⟨x, before, same.symm.trans called⟩) free
    · rw [if_neg here] at known
      obtain ⟨once, owns⟩ := tracks.single other known
      have different : d.serverId ip ≠ d.serverId other := fun same => here (server_id_injective d ip other same).symm
      refine ⟨?_, ?_⟩
      · rw [perm.count_eq, List.count_cons_of_ne different]
        exact once
      · intro x member called
        rcases members x member with rfl | ⟨before, apart, same⟩
        · exact absurd (named.symm.trans called) different
        · exact (Function.update_of_ne apart _ _).trans (owns x before (same.symm.trans called))

theorem tracks_remove (cfg : Config) (d : K8sDiscovery) (s : Watched) (ip : Ip) (phase : SyncPhase) (tracks : Tracks d s)
    (known : (s.knownIps.get? ip).isSome = true) (settled : d.serverId ip ∉ s.cluster.idsOf s.cluster.drainingRefs) :
    Tracks d { s with
      cluster := (s.cluster.removeServer cfg (d.serverId ip)).1, knownIps := s.knownIps.erase ip, phase := phase } := by
  have removed := removed_remove_server cfg s.cluster (d.serverId ip)
  have perm := removed_ids cfg s.cluster _ _ _ removed
  have once := (tracks.single ip known).1
  have found : (s.cluster.removeServer cfg (d.serverId ip)).2 = true := by
    have present : d.serverId ip ∈ s.cluster.ids := List.count_pos_iff.mp (by omega)
    rw [ids_split, List.mem_append, List.mem_append, or_assoc, or_left_comm] at present
    rw [removed_reports cfg s.cluster _ _ _ removed, idsOf, List.map_append, List.mem_append]
    exact present.resolve_left settled
  have ids : (s.cluster.removeServer cfg (d.serverId ip)).1.idOf = s.cluster.idOf :=
    step_ids cfg s.cluster (.removeServer (d.serverId ip))
  have members (x : Ref) (member : x ∈ (s.cluster.removeServer cfg (d.serverId ip)).1.allServers) : x ∈ s.cluster.allServers := by
    rcases step_members cfg s.cluster (.removeServer (d.serverId ip)) x member with before | adds
    · exact before
    · cases adds
  rw [found, if_pos rfl] at perm
  have gone : d.serverId ip ∉ (s.cluster.removeServer cfg (d.serverId ip)).1.ids := by
    rw [perm.count_eq, List.count_cons_self] at once
    exact List.count_eq_zero.mp (by omega)
  refine ⟨?_, ?_, ?_⟩
  · intro x member other made
    obtain ⟨called, listed⟩ := tracks.named x (members x member) other made
    rw [ids]
    refine ⟨called, ?_⟩
    have different : other ≠ ip := by
      intro same
      subst same
      exact gone ((mem_ids _ _ _).mpr ⟨x, member, (congrFun ids x).trans called⟩)
    rw [Dict.get_erase, if_neg different]
    exact listed
  · intro other serverId listed
    rw [Dict.get_erase] at listed
    split at listed
    · cases listed
    · exact tracks.listed other serverId listed
  · intro other listed
    rw [Dict.get_erase] at listed
    split at listed
    · cases listed
    · rename_i different
      obtain ⟨single, owns⟩ := tracks.single other listed
      rw [ids]
      refine ⟨?_, fun x member called => owns x (members x member) called⟩
      rwa [perm.count_eq, List.count_cons_of_ne fun same => different (server_id_injective d ip other same).symm] at single

theorem mem_keys (known : Dict Ip String) (ip : Ip) : ip ∈ known.entries.map Prod.fst ↔ (known.get? ip).isSome = true := by
  rw [Option.isSome_iff_ne_none, ne_eq, Dict.get_none, not_not]

theorem pending_fetched (s : Watched) (ready added removed : List Ip) (adds : added.Perm (s.delta ready).1)
    (removes : removed.Perm (s.delta ready).2) : Pending { s with phase := .syncing ready added removed } := by
  have toAdd (ip : Ip) : ip ∈ added ↔ ip ∈ ready ∧ s.knownIps.get? ip = none := by
    rw [adds.mem_iff, delta, List.mem_filter, List.mem_dedup]
    simp [Dict.contains]
  have toRemove (ip : Ip) : ip ∈ removed ↔ (s.knownIps.get? ip).isSome = true ∧ ip ∉ ready := by
    rw [removes.mem_iff, delta, List.mem_filter, mem_keys, decide_eq_true_eq]
  refine ⟨adds.nodup_iff.mpr ((List.nodup_dedup ready).filter _), fun ip member => ((toAdd ip).mp member).2, ?_,
    removes.nodup_iff.mpr (s.knownIps.nodup.filter _), fun ip member => ((toRemove ip).mp member).1⟩
  intro ip
  change ip ∈ ready ↔ ip ∈ added ∨ (s.knownIps.get? ip).isSome = true ∧ ip ∉ removed
  rw [toAdd, toRemove]
  cases found : s.knownIps.get? ip <;> simp

theorem pending_add (s : Watched) (cluster : Cluster) (source : Ref → Option Ip) (ready added removed : List Ip) (ip : Ip)
    (serverId : String) (pending : Pending { s with phase := .syncing ready (ip :: added) removed }) :
    Pending ⟨cluster, source, s.knownIps.set ip serverId, .syncing ready added removed⟩ := by
  obtain ⟨distinct, unknown, wanted, distinctOld, old⟩ := pending
  rw [List.nodup_cons] at distinct
  rw [List.forall_mem_cons] at unknown
  have kept : ip ∉ removed := by
    intro member
    have known := old ip member
    rw [show s.knownIps.get? ip = none from unknown.1] at known
    cases known
  refine ⟨distinct.2, ?_, ?_, distinctOld, ?_⟩
  · intro other member
    have different : other ≠ ip := fun same => distinct.1 (same ▸ member)
    exact (Dict.get_set _ _ _ _).trans ((if_neg different).trans (unknown.2 other member))
  · intro other
    refine (wanted other).trans ?_
    simp only [List.mem_cons, Dict.get_set]
    by_cases here : other = ip
    · subst here
      simp [kept]
    · simp [here]
  · intro other member
    simp only [Dict.get_set]
    split
    · rfl
    · exact old other member

theorem pending_remove (s : Watched) (cluster : Cluster) (ready removed : List Ip) (ip : Ip)
    (pending : Pending { s with phase := .syncing ready [] (ip :: removed) }) :
    Pending { s with cluster := cluster, knownIps := s.knownIps.erase ip, phase := .syncing ready [] removed } := by
  obtain ⟨distinct, _, wanted, distinctOld, old⟩ := pending
  rw [List.nodup_cons] at distinctOld
  rw [List.forall_mem_cons] at old
  refine ⟨distinct, fun other member => absurd member List.not_mem_nil, ?_, distinctOld.2, ?_⟩
  · intro other
    refine (wanted other).trans ?_
    simp only [List.mem_cons, Dict.get_erase]
    by_cases here : other = ip <;> simp [here]
  · intro other member
    have different : other ≠ ip := fun same => distinctOld.1 (same ▸ member)
    simp only [Dict.get_erase, if_neg different]
    exact old.2 other member

theorem pending_disturbed (s : Watched) (cluster : Cluster) (pending : Pending s) :
    Pending { s with cluster := cluster, phase := disturbed s.phase } := by
  cases phase : s.phase with
  | idle => trivial
  | synced ready => trivial
  | syncing ready added removed =>
      rw [Pending, phase] at pending
      exact pending

theorem tracks_next (cfg : Config) (d : K8sDiscovery) (s after : Watched) (event : WatchEvent) (tracks : Tracks d s)
    (pending : Pending s) (orderly : Orderly d s event) (taken : s.next cfg d event = some after) :
    Tracks d after ∧ Pending after := by
  cases event with
  | cluster op =>
      cases taken
      exact ⟨tracks_cluster cfg d s op _ tracks orderly, pending_disturbed s _ pending⟩
  | fetched ready added removed =>
      simp only [Watched.next] at taken
      split at taken
      · cases taken
      all_goals
        split at taken
        · rename_i perms
          cases taken
          exact ⟨⟨tracks.named, tracks.listed, tracks.single⟩, pending_fetched s ready added removed perms.1 perms.2⟩
        · cases taken
  | addServer r =>
      simp only [Watched.next] at taken
      split at taken
      · rename_i ready ip added removed phase
        split at taken
        · rename_i fresh
          cases taken
          have free := orderly ip (by rw [phase]; rfl)
          rw [Pending, phase] at pending
          exact ⟨tracks_add cfg d s r ip _ tracks fresh.2 free, pending_add s _ _ ready added removed ip _ pending⟩
        · cases taken
      · cases taken
  | removeServer =>
      simp only [Watched.next] at taken
      split at taken
      · rename_i ready ip removed phase
        rw [Pending, phase] at pending
        have known := pending.2.2.2.2 ip (List.mem_cons_self)
        split at taken
        · rename_i missing
          rw [missing] at known
          cases known
        · rename_i serverId found
          cases taken
          have settled := orderly ip (by rw [phase]; rfl)
          rw [← tracks.listed ip serverId found]
          exact ⟨tracks_remove cfg d s ip _ tracks known settled, pending_remove s _ ready removed ip pending⟩
      · cases taken
  | finished =>
      simp only [Watched.next] at taken
      split at taken
      · rename_i ready phase
        cases taken
        rw [Pending, phase] at pending
        refine ⟨⟨tracks.named, tracks.listed, tracks.single⟩, ?_⟩
        intro ip
        refine (pending.2.2.1 ip).trans ?_
        simp
      · cases taken

abbrev WatchRun (cfg : Config) (d : K8sDiscovery) (allowed : Watched → WatchEvent → Prop) := Runs.Run (Watched.next cfg d) allowed

-- After every sync of a run in which its calls find what they expect, the servers
-- of the watcher are those of the ready addresses.
theorem sync_converges (cfg : Config) (d : K8sDiscovery) (c : Cluster) (events : List WatchEvent) (s : Watched)
    (run : WatchRun cfg d (Orderly d) (.fresh c) events s) : s.Converged d := by
  have held : Tracks d s ∧ Pending s := by
    refine Runs.run_invariant (Watched.next cfg d) (Orderly d) (fun s => Tracks d s ∧ Pending s) ?_ _ s events ?_ run
    · exact fun state event after before orderly taken => tracks_next cfg d state after event before.1 before.2 orderly taken
    · refine ⟨⟨?_, ?_, ?_⟩, trivial⟩
      · exact fun r _ ip made => by cases made
      · exact fun ip serverId found => by cases found
      · exact fun ip known => by cases known
  exact tracks_converged d s held.1 held.2

def drainingConfig : Config := { smallestRing with minOuterDwellSec := 0, wsDrainTimeout := 30 }

def eightyEighty : K8sDiscovery := { port := 8080 }

def podIp : Ip := ⟨"10.0.0.1", by decide⟩

def watchStart : Watched :=
  .fresh (.empty drainingConfig (fun r => { id := toString r }) none none none ⟨fun ticks => ticks, 0⟩)

def podLeaves : List WatchEvent :=
  [.fetched [podIp] [podIp] [], .addServer 1, .finished, .cluster .rotate, .cluster (.setMetrics 1 { activeConnections := 1 }),
    .cluster (.forceEvict "k8s-10-0-0-1-8080"), .fetched [] [] [podIp], .removeServer, .finished]

def podReturns : List WatchEvent :=
  [.cluster (.setMetrics 1 {}), .cluster .checkDrainingServers, .fetched [podIp] [podIp] [], .addServer 2, .finished]

-- The pod leaves while its server drains: the server stays. When the pod is back it
-- has two.
theorem sync_leaks : (∃ s ∈ Runs.follow (Watched.next drainingConfig eightyEighty) (fun _ _ => True) watchStart podLeaves,
      s.phase = .synced [] ∧ s.managed = [podIp] ∧ s.knownIps.entries = []) ∧
    ∃ s ∈ Runs.follow (Watched.next drainingConfig eightyEighty) (fun _ _ => True) watchStart (podLeaves ++ podReturns),
      s.phase = .synced [podIp] ∧ s.managed = [podIp, podIp] := by
  decide +kernel

instance (s : Watched) (serverId : String) : Decidable (s.Manages serverId) :=
  inferInstanceAs (Decidable (∃ r ∈ s.cluster.allServers, (s.source r).isSome = true ∧ s.cluster.idOf r = serverId))

instance (d : K8sDiscovery) (s : Watched) (event : WatchEvent) : Decidable (s.Orderly d event) :=
  match event with
  | .cluster op => inferInstanceAs (Decidable ((∀ r ∈ op.added, s.source r = none ∧ ¬ s.Manages (s.cluster.idOf r)) ∧
      ∀ serverId ∈ op.removed, ¬ s.Manages serverId))
  | .addServer _ => inferInstanceAs (Decidable (∀ ip ∈ nextAdded s.phase, d.serverId ip ∉ s.cluster.ids))
  | .removeServer => inferInstanceAs (Decidable (∀ ip ∈ nextRemoved s.phase,
      d.serverId ip ∉ s.cluster.idsOf s.cluster.drainingRefs))
  | .fetched .. | .finished => isTrue trivial

def podMoves : List WatchEvent :=
  [.fetched [podIp] [podIp] [], .addServer 1, .finished, .cluster .rotate, .cluster (.addServer 0 true),
    .cluster (.forceEvict "k8s-10-0-0-1-8080"), .fetched [] [] [podIp], .removeServer, .finished]

theorem sync_converges_after : ∃ s ∈ Runs.follow (Watched.next drainingConfig eightyEighty) (Orderly eightyEighty) watchStart podMoves,
    s.Converged eightyEighty := by
  have taken : (Runs.follow (Watched.next drainingConfig eightyEighty) (Orderly eightyEighty) watchStart podMoves).isSome = true := by
    decide +kernel
  obtain ⟨s, reached⟩ := Option.isSome_iff_exists.mp taken
  exact ⟨s, reached, sync_converges drainingConfig eightyEighty _ podMoves s (Runs.follow_run _ _ _ s _ reached)⟩

end HuddleCluster.Ring
