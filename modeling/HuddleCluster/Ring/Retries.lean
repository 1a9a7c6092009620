import HuddleCluster.Ring.Chains
import HuddleCluster.Ring.Removal

set_option autoImplicit false

namespace HuddleCluster.Ring

-- How request_with_retry ends: with the value fn returned for a server, with the
-- exception of a server that is not in retry_on, or with RetryExhaustedError.
inductive RetryResult where
  | returned (server : Ref)
  | raised (server : Ref)
  | exhausted (attempts : Nat) (triedServerIds : List String)
deriving DecidableEq

-- The servers fn was called on, in order, the end of the call, and the cluster after it.
structure RetryCall where
  calls : List Ref
  result : RetryResult
  cluster : Cluster

namespace RetryCall

def after (front : List Ref) (call : RetryCall) : RetryCall := { call with calls := front ++ call.calls }

end RetryCall

namespace Cluster

-- The first attempt respects the affinity key, the others exclude what was tried.
def attemptServer (c : Cluster) (affinityKey : Option String) (draw : ℚ) (attempt : Nat) (triedIds : List String) :
    Option Ref × Cluster :=
  if attempt = 0 then c.getServer affinityKey draw else c.getServerExcluding triedIds

-- The loop of request_with_retry. Before each attempt other threads may have
-- changed the cluster; the list gives the outcome and duration of each attempt.
def retryLoop (affinityKey : Option String) (draw : ℚ) (meanwhile : Nat → Cluster → Cluster) :
    Nat → List (Outcome × ℚ) → List String → Cluster → RetryCall
  | _, [], triedIds, c => ⟨[], .exhausted triedIds.length triedIds, c⟩
  | attempt, (outcome, elapsedMs) :: rest, triedIds, c =>
      match (meanwhile attempt c).attemptServer affinityKey draw attempt triedIds with
      | (none, left) => ⟨[], .exhausted triedIds.length triedIds, left⟩
      | (some r, left) =>
          let recorded := left.recordOutcome r outcome elapsedMs
          match outcome with
          | .success => ⟨[r], .returned r, recorded⟩
          | .notRetryable => ⟨[r], .raised r, recorded⟩
          | .failure => (retryLoop affinityKey draw meanwhile (attempt + 1) rest (triedIds ++ [left.idOf r]) recorded).after [r]

def retryCall (c : Cluster) (affinityKey : Option String) (draw : ℚ) (meanwhile : Nat → Cluster → Cluster)
    (attempts : List (Outcome × ℚ)) : RetryCall := retryLoop affinityKey draw meanwhile 0 attempts [] c

theorem retry_loop_attempts (affinityKey : Option String) (draw : ℚ) (attempt : Nat) (attempts : List (Outcome × ℚ))
    (triedIds : List String) (c : Cluster) :
    (retryLoop affinityKey draw (fun _ state => state) (attempt + 1) attempts triedIds c).cluster = c.retryAttempts attempts triedIds := by
  induction attempts generalizing attempt triedIds c with
  | nil => rfl
  | cons item rest ih =>
      obtain ⟨outcome, elapsedMs⟩ := item
      rw [retryLoop, retryAttempts, attemptServer, if_neg (Nat.succ_ne_zero attempt)]
      generalize c.getServerExcluding triedIds = chosen
      obtain ⟨server, left⟩ := chosen
      cases server with
      | none => rfl
      | some r =>
          cases outcome with
          | failure => exact ih (attempt + 1) _ _
          | success => rfl
          | notRetryable => rfl

theorem retry_call_request (c : Cluster) (affinityKey : Option String) (draw : ℚ) (attempts : List (Outcome × ℚ)) :
    (c.retryCall affinityKey draw (fun _ state => state) attempts).cluster = c.requestWithRetry affinityKey draw attempts := by
  cases attempts with
  | nil => rfl
  | cons item rest =>
      obtain ⟨outcome, elapsedMs⟩ := item
      rw [retryCall, retryLoop, requestWithRetry, attemptServer, if_pos rfl]
      generalize c.getServer affinityKey draw = chosen
      obtain ⟨server, left⟩ := chosen
      cases server with
      | none => rfl
      | some r =>
          cases outcome with
          | failure => exact retry_loop_attempts affinityKey draw 0 rest _ _
          | success => rfl
          | notRetryable => rfl

end Cluster

-- The same servers are in the inner ring, possibly in another order.
structure SameServers (c d : Cluster) : Prop where
  inner : c.innerRing.Perm d.innerRing
  ids : d.idOf = c.idOf

theorem same_servers_trans (c d e : Cluster) (before : SameServers c d) (after : SameServers d e) : SameServers c e :=
  ⟨before.inner.trans after.inner, after.ids.trans before.ids⟩

theorem same_of_still (c d : Cluster) (still : Still c d) : SameServers c d := ⟨still.inner.perm, still.ids⟩

theorem same_attempt_server (c : Cluster) (affinityKey : Option String) (draw : ℚ) (attempt : Nat) (triedIds : List String) :
    SameServers c (c.attemptServer affinityKey draw attempt triedIds).2 := by
  unfold Cluster.attemptServer
  split
  · exact same_of_still _ _ (still_get_server c affinityKey draw)
  · exact same_of_still _ _ (still_get_server_excluding c triedIds)

theorem same_record_outcome (c : Cluster) (r : Ref) (outcome : Cluster.Outcome) (elapsedMs : ℚ) :
    SameServers c (c.recordOutcome r outcome elapsedMs) :=
  same_of_still _ _ (still_of_quiet _ _ (quiet_record_outcome c r outcome elapsedMs))

theorem pick_weighted_some (draw cumulative : ℚ) (weights : List (Ref × ℚ)) (nonempty : weights ≠ []) :
    ∃ r, Cluster.pickWeighted draw cumulative weights = some r := by
  induction weights generalizing cumulative with
  | nil => exact absurd rfl nonempty
  | cons entry rest ih =>
      cases rest with
      | nil => exact ⟨entry.1, rfl⟩
      | cons following tail =>
          rw [Cluster.pickWeighted]
          · split
            · exact ⟨entry.1, rfl⟩
            · exact ih _ (List.cons_ne_nil following tail)
          · simp

theorem ring_head (c : Cluster) (nonempty : c.innerRing ≠ []) : ∃ r ∈ c.innerRing, c.innerRing.head? = some r := by
  cases ring : c.innerRing with
  | nil => exact absurd ring nonempty
  | cons first rest => exact ⟨first, List.mem_cons_self, rfl⟩

theorem get_server_inner (c : Cluster) (affinityKey : Option String) (draw : ℚ) (nonempty : c.innerRing ≠ []) :
    ∃ r ∈ c.innerRing, (c.getServer affinityKey draw).1 = some r := by
  unfold Cluster.getServer
  rw [if_neg (by simpa using nonempty)]
  cases affinityKey with
  | none =>
      by_cases ramping : c.ramps.entries.isEmpty = true
      · simp only [ramping, if_true]
        exact ring_head c nonempty
      · simp only [if_neg ramping]
        obtain ⟨r, picked⟩ := pick_weighted_some draw 0
          (c.innerRing.mapIdx fun i r => (r, c.selectionWeight (c.monotonic.reading (c.monotonic.ticks + i)) r)) (by simpa using nonempty)
        exact ⟨r, weighted_select_mem c draw r picked, picked⟩
  | some key =>
      cases bound : c.boundServer key with
      | none =>
          simp only [bound]
          exact ring_head c nonempty
      | some r =>
          simp only [bound]
          refine ⟨r, ?_, rfl⟩
          unfold Cluster.boundServer at bound
          split at bound
          · cases bound
          · have first := Option.filter_eq_some_iff.mp bound
            exact List.mem_reverse.mp (List.mem_of_find?_eq_some first.1)

theorem skip_excluded_inner (excludedIds : List String) (fuel : Nat) (c : Cluster) (nonempty : c.innerRing ≠ []) :
    ∃ r ∈ c.innerRing, (c.skipExcluded excludedIds fuel).1 = some r := by
  induction fuel generalizing c with
  | zero => exact ring_head c nonempty
  | succ fuel ih =>
      obtain ⟨first, inside, head⟩ := ring_head c nonempty
      simp only [Cluster.skipExcluded, head]
      split
      · have turned : c.turn.innerRing ≠ [] := fun empty => nonempty (List.rotate_eq_nil_iff.mp empty)
        obtain ⟨r, member, chosen⟩ := ih c.turn turned
        exact ⟨r, List.mem_rotate.mp member, chosen⟩
      · exact ring_head c nonempty

-- The scan stops at a server that is not excluded if there is one among the
-- servers it still turns past.
theorem skip_excluded_fresh (excludedIds : List String) (fuel : Nat) (c : Cluster) (r : Ref)
    (fresh : ∃ x ∈ c.innerRing.take fuel, c.idOf x ∉ excludedIds) (chosen : (c.skipExcluded excludedIds fuel).1 = some r) :
    c.idOf r ∉ excludedIds := by
  induction fuel generalizing c with
  | zero =>
      obtain ⟨x, member, -⟩ := fresh
      simp at member
  | succ fuel ih =>
      obtain ⟨x, member, absent⟩ := fresh
      cases ring : c.innerRing with
      | nil => simp [ring] at member
      | cons first rest =>
          rw [ring, List.take_succ_cons, List.mem_cons] at member
          simp only [Cluster.skipExcluded, ring, List.head?_cons] at chosen
          split at chosen
          · next excluded =>
              refine ih c.turn ⟨x, ?_, absent⟩ chosen
              have turned : c.turn.innerRing = rest ++ [first] := by simp [Cluster.turn, ring]
              have later : x ∈ rest.take fuel := member.resolve_left fun here => absent (here ▸ excluded)
              rw [turned, List.take_append]
              exact List.mem_append_left _ later
          · next included =>
              simp only [Cluster.takeHead, ring, List.head?_cons, Option.some.injEq] at chosen
              rwa [← chosen]

theorem attempt_server_inner (c : Cluster) (affinityKey : Option String) (draw : ℚ) (attempt : Nat) (triedIds : List String)
    (nonempty : c.innerRing ≠ []) (first : attempt = 0 → triedIds = []) :
    ∃ r ∈ c.innerRing, (c.attemptServer affinityKey draw attempt triedIds).1 = some r ∧
      ((∃ x ∈ c.innerRing, c.idOf x ∉ triedIds) → c.idOf r ∉ triedIds) := by
  unfold Cluster.attemptServer
  by_cases initial : attempt = 0
  · rw [if_pos initial, first initial]
    obtain ⟨r, member, chosen⟩ := get_server_inner c affinityKey draw nonempty
    exact ⟨r, member, chosen, fun _ => List.not_mem_nil⟩
  · rw [if_neg initial, Cluster.getServerExcluding, if_neg (by simpa using nonempty)]
    obtain ⟨r, member, chosen⟩ := skip_excluded_inner triedIds c.innerRing.length c nonempty
    refine ⟨r, member, chosen, fun fresh => skip_excluded_fresh triedIds _ c r ?_ chosen⟩
    rwa [List.take_length]

-- Fewer ids than servers have been tried, so some server of the ring is left.
theorem untried_left (c : Cluster) (triedIds : List String) (distinct : (c.innerRing.map c.idOf).Nodup)
    (few : triedIds.length < c.innerRing.length) : ∃ x ∈ c.innerRing, c.idOf x ∉ triedIds := by
  by_contra none
  have covered : c.innerRing.map c.idOf ⊆ triedIds := by
    intro serverId member
    obtain ⟨x, inside, rfl⟩ := List.mem_map.mp member
    by_contra absent
    exact none ⟨x, inside, absent⟩
  have bound := (distinct.subperm covered).length_le
  rw [List.length_map] at bound
  omega

theorem tried_distinct (c : Cluster) (triedIds : List String) (serverId : String) (tried : (triedIds.take c.innerRing.length).Nodup)
    (fresh : triedIds.length < c.innerRing.length → serverId ∉ triedIds) :
    ((triedIds ++ [serverId]).take c.innerRing.length).Nodup := by
  by_cases few : triedIds.length < c.innerRing.length
  · rw [List.take_of_length_le few.le] at tried
    rw [List.take_of_length_le (by simpa using few)]
    exact tried.append (List.nodup_singleton serverId) (List.disjoint_singleton.mpr (fresh few))
  · rw [List.take_append_of_le_length (not_lt.mp few)]
    exact tried

section Loop

variable (affinityKey : Option String) (draw : ℚ) (meanwhile : Nat → Cluster → Cluster)
  (steady : ∀ attempt state, SameServers state (meanwhile attempt state))
include steady

-- Failing attempts at the front of a call: which servers they try, and that the
-- loop goes on after them with these ids excluded.
theorem retry_failures (failures : List (Cluster.Outcome × ℚ)) (failed : ∀ item ∈ failures, item.1 = .failure) (attempt : Nat)
    (triedIds : List String) (c : Cluster) (first : attempt = 0 → triedIds = []) (nonempty : c.innerRing ≠ [])
    (distinct : (c.innerRing.map c.idOf).Nodup) (tried : (triedIds.take c.innerRing.length).Nodup) :
    ∃ (front : List Ref) (d : Cluster), front.length = failures.length ∧ SameServers c d ∧
      ((triedIds ++ front.map c.idOf).take c.innerRing.length).Nodup ∧
      ∀ rest, Cluster.retryLoop affinityKey draw meanwhile attempt (failures ++ rest) triedIds c =
        (Cluster.retryLoop affinityKey draw meanwhile (attempt + failures.length) rest (triedIds ++ front.map c.idOf) d).after front := by
  induction failures generalizing attempt triedIds c with
  | nil =>
      refine ⟨[], c, rfl, ⟨.refl _, rfl⟩, by simpa using tried, ?_⟩
      intro rest
      simp [RetryCall.after]
  | cons item failures ih =>
      obtain ⟨outcome, elapsedMs⟩ := item
      have failure : outcome = .failure := failed (outcome, elapsedMs) List.mem_cons_self
      subst failure
      have entered := steady attempt c
      have enteredSome : (meanwhile attempt c).innerRing ≠ [] := fun empty => nonempty (List.perm_nil.mp (empty ▸ entered.inner))
      obtain ⟨r, member, chosen, fresh⟩ :=
        attempt_server_inner (meanwhile attempt c) affinityKey draw attempt triedIds enteredSome first
      have served := same_attempt_server (meanwhile attempt c) affinityKey draw attempt triedIds
      generalize equal : (meanwhile attempt c).attemptServer affinityKey draw attempt triedIds = turn at chosen served
      obtain ⟨server, left⟩ := turn
      dsimp only at chosen served
      subst chosen
      have kept : SameServers c (left.recordOutcome r .failure elapsedMs) :=
        same_servers_trans _ _ _ (same_servers_trans _ _ _ entered served) (same_record_outcome left r .failure elapsedMs)
      have named : left.idOf r = c.idOf r := by rw [served.ids, entered.ids]
      have length := kept.inner.length_eq
      have noted : ((triedIds ++ [c.idOf r]).take c.innerRing.length).Nodup := by
        apply tried_distinct c triedIds _ tried
        intro few
        obtain ⟨x, inside, absent⟩ := untried_left c triedIds distinct few
        rw [entered.ids] at fresh
        exact fresh ⟨x, entered.inner.mem_iff.mp inside, absent⟩
      obtain ⟨front, d, count, same, spread, loop⟩ := ih (fun item inside => failed item (List.mem_cons_of_mem _ inside)) (attempt + 1)
        (triedIds ++ [c.idOf r]) (left.recordOutcome r .failure elapsedMs) (fun zero => absurd zero (Nat.succ_ne_zero attempt))
        (fun empty => nonempty (List.perm_nil.mp (empty ▸ kept.inner))) (by rw [kept.ids]; exact (kept.inner.map _).nodup_iff.mp distinct)
        (by rwa [← length])
      rw [kept.ids, ← length] at spread
      rw [kept.ids] at loop
      have joined : triedIds ++ (r :: front).map c.idOf = triedIds ++ [c.idOf r] ++ front.map c.idOf := by simp
      refine ⟨r :: front, d, by simp [count], same_servers_trans _ _ _ kept same, by rwa [joined], ?_⟩
      intro rest
      rw [List.cons_append, Cluster.retryLoop]
      simp only [equal, named, loop rest, joined, List.length_cons, Nat.add_comm 1, Nat.add_assoc, RetryCall.after, List.nil_append,
        List.cons_append]

theorem retry_success (attempt : Nat) (elapsedMs : ℚ) (rest : List (Cluster.Outcome × ℚ)) (triedIds : List String) (c : Cluster)
    (nonempty : c.innerRing ≠ []) (first : attempt = 0 → triedIds = []) :
    ∃ r, (Cluster.retryLoop affinityKey draw meanwhile attempt ((.success, elapsedMs) :: rest) triedIds c).calls = [r] ∧
      (Cluster.retryLoop affinityKey draw meanwhile attempt ((.success, elapsedMs) :: rest) triedIds c).result = .returned r := by
  have entered := steady attempt c
  have enteredSome : (meanwhile attempt c).innerRing ≠ [] := fun empty => nonempty (List.perm_nil.mp (empty ▸ entered.inner))
  obtain ⟨r, -, chosen, -⟩ := attempt_server_inner (meanwhile attempt c) affinityKey draw attempt triedIds enteredSome first
  generalize equal : (meanwhile attempt c).attemptServer affinityKey draw attempt triedIds = turn at chosen
  obtain ⟨server, left⟩ := turn
  dsimp only at chosen
  subst chosen
  refine ⟨r, ?_, ?_⟩ <;> simp only [Cluster.retryLoop, equal]

theorem retries_distinct (c : Cluster) (maxRetries : Nat) (attempts : List (Cluster.Outcome × ℚ))
    (allowed : attempts.length = maxRetries + 1)
    (nonempty : 1 ≤ c.innerRing.length) (distinct : (c.innerRing.map c.idOf).Nodup) :
    let call := c.retryCall affinityKey draw meanwhile attempts
    ((∀ item ∈ attempts, item.1 = .failure) →
      call.calls.length = maxRetries + 1 ∧ ((call.calls.take (min c.innerRing.length (maxRetries + 1))).map c.idOf).Nodup ∧
        call.result = .exhausted (maxRetries + 1) (call.calls.map c.idOf)) ∧
    (∀ failures elapsedMs rest, attempts = failures ++ (.success, elapsedMs) :: rest → (∀ item ∈ failures, item.1 = .failure) →
      call.calls.length = failures.length + 1 ∧ ∃ r, call.calls.getLast? = some r ∧ call.result = .returned r) := by
  have ring : c.innerRing ≠ [] := List.length_pos_iff.mp nonempty
  have failing (failures : List (Cluster.Outcome × ℚ)) (failed : ∀ item ∈ failures, item.1 = .failure) :=
    retry_failures affinityKey draw meanwhile steady failures failed 0 [] c (fun _ => rfl) ring distinct (by simp)
  refine ⟨?_, ?_⟩
  · intro failed
    obtain ⟨front, d, count, -, spread, loop⟩ := failing attempts failed
    have ended := loop []
    rw [List.append_nil] at ended
    have result : c.retryCall affinityKey draw meanwhile attempts = ⟨front,
      .exhausted (front.map c.idOf).length (front.map c.idOf), d⟩ := by
      rw [Cluster.retryCall, ended]
      simp [Cluster.retryLoop, RetryCall.after]
    have capped : front.take (min c.innerRing.length (maxRetries + 1)) = front.take c.innerRing.length := by
      rw [← allowed, ← count, List.take_eq_take_iff]
      omega
    rw [List.nil_append, ← List.map_take] at spread
    rw [result, capped]
    refine ⟨count.trans allowed, spread, ?_⟩
    rw [List.length_map, count, allowed]
  · intro failures elapsedMs rest whole failed
    obtain ⟨front, d, count, same, -, loop⟩ := failing failures failed
    have left : d.innerRing ≠ [] := fun empty => ring (List.perm_nil.mp (empty ▸ same.inner))
    have first : 0 + failures.length = 0 → [] ++ front.map c.idOf = [] := by
      intro zero
      have empty : front = [] := List.length_eq_zero_iff.mp (by omega)
      rw [empty]
      rfl
    obtain ⟨r, calls, result⟩ := retry_success affinityKey draw meanwhile steady (0 + failures.length) elapsedMs rest
      ([] ++ front.map c.idOf) d left first
    rw [Cluster.retryCall, whole, loop, RetryCall.after, calls]
    refine ⟨by simp [count], r, by simp, result⟩

end Loop

def threeServers : Cluster :=
  { Cluster.empty {} (fun r => { id := toString r }) none none none ⟨fun ticks => ticks, 0⟩ with innerRing := [0, 1, 2] }

-- Another caller takes a server before each attempt, and the call still reaches all three.
theorem retries_distinct_shared :
    ((threeServers.retryCall none 0 (fun _ state => state.turn) (List.replicate 4 (.failure, 10))).calls = [1, 0, 2, 1]) ∧
      (((threeServers.retryCall none 0 (fun _ state => state.turn) (List.replicate 4 (.failure, 10))).calls.take 3).map
        threeServers.idOf).Nodup ∧
      (threeServers.retryCall none 0 (fun _ state => state.turn) (List.replicate 4 (.failure, 10))).result =
        .exhausted 4 ["1", "0", "2", "1"] := by
  have laws := (retries_distinct none 0 (fun _ state => state.turn) (fun _ state => same_of_still _ _ (still_turn state)) threeServers 3
    (List.replicate 4 (.failure, 10)) rfl (by decide) (by decide)).1 (by simp)
  exact ⟨by decide +kernel, laws.2.1, by decide +kernel⟩

end HuddleCluster.Ring
