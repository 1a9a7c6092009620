import HuddleCluster.Lib.Outage
import HuddleCluster.Ring.Alerts
import HuddleCluster.Ring.Trails

set_option autoImplicit false

namespace HuddleCluster.Ring

-- The constructor raises the number of failures to one at least. A URL is made of host
-- and port of a server and of the path.
structure HealthSettings where
  failures : Nat := 2
  url : Ref → String
  positive : 0 < failures

-- The servers that a round of _run_health_checks has still to ping. The answers so far
-- and the calls of _fire_alert are not in the program.
structure HealthChecker where
  cluster : Cluster
  failCounts : Dict String Nat := .empty
  queue : List Ref := []
  answers : List (Ref × Bool) := []
  alerts : List AlertEvent := []

-- An answer is a status code, or nothing where the request raises.
inductive HealthEvent where
  | operate (op : Op)
  | round
  | ping (status : Option Int) (now : ℚ)

namespace HealthChecker

def healthy : Option Int → Bool
  | none => false
  | some status => decide (200 ≤ status ∧ status < 300)

def flag (s : HealthChecker) (r : Ref) : Bool := (s.cluster.objects r).metrics.isHealthy

def failCount (s : HealthChecker) (r : Ref) : Nat := s.failCounts.getD (s.cluster.idOf r) 0

def setFlag (s : HealthChecker) (r : Ref) (isHealthy : Bool) (alert : AlertEvent) : HealthChecker :=
  { s with cluster := s.cluster.modifyMetrics r fun m => { m with isHealthy := isHealthy }, alerts := s.alerts ++ [alert] }

def setCount (s : HealthChecker) (r : Ref) (count : Nat) : HealthChecker :=
  { s with failCounts := s.failCounts.set (s.cluster.idOf r) count }

def recovered (cfg : HealthSettings) (s : HealthChecker) (r : Ref) (now : ℚ) : AlertEvent :=
  ⟨"health_recovered", "INFO", now, some (s.cluster.idOf r), .obj [("url", .str (cfg.url r))]⟩

def tripped (cfg : HealthSettings) (s : HealthChecker) (r : Ref) (now : ℚ) : AlertEvent :=
  ⟨"circuit_breaker", "WARNING", now, some (s.cluster.idOf r), .obj [
    ("reason", .str "health_check_failed"), ("consecutive_failures", .int (s.failCount r + 1)), ("url", .str (cfg.url r))]⟩

def pass (cfg : HealthSettings) (s : HealthChecker) (r : Ref) (now : ℚ) : HealthChecker :=
  if s.flag r then s.setCount r 0 else (s.setCount r 0).setFlag r true (s.recovered cfg r now)

def fail (cfg : HealthSettings) (s : HealthChecker) (r : Ref) (now : ℚ) : HealthChecker :=
  if s.flag r = true ∧ cfg.failures ≤ s.failCount r + 1 then
    (s.setCount r (s.failCount r + 1)).setFlag r false (s.tripped cfg r now)
  else s.setCount r (s.failCount r + 1)

def hear (s : HealthChecker) (r : Ref) (status : Option Int) : HealthChecker := { s with answers := s.answers ++ [(r, healthy status)] }

def check (cfg : HealthSettings) (s : HealthChecker) (r : Ref) (status : Option Int) (now : ℚ) : HealthChecker :=
  if healthy status then (s.hear r status).pass cfg r now else (s.hear r status).fail cfg r now

def next (ring : Config) (cfg : HealthSettings) (s : HealthChecker) : HealthEvent → Option HealthChecker
  | .operate op => some { s with cluster := step ring s.cluster op }
  | .round => if s.queue.isEmpty then some { s with queue := s.cluster.allServers } else none
  | .ping status now =>
      match s.queue with
      | [] => none
      | r :: rest => some ({ s with queue := rest }.check cfg r status now)

def seen (s : HealthChecker) (r : Ref) : List Bool := s.answers.filterMap fun answer => if answer.1 = r then some answer.2 else none

def reports (s : HealthChecker) (r : Ref) : List Bool :=
  s.alerts.filterMap fun alert =>
    if alert.serverId = some (s.cluster.idOf r) then some (decide (alert.event = "health_recovered")) else none

def Tracked (cfg : HealthSettings) (r : Ref) (s : HealthChecker) : Prop :=
  Outage.Counted cfg.failures (s.seen r) (s.failCount r) (s.flag r) (s.reports r)

-- No other operation touches the flag of a server.
def Untouched (ring : Config) (r : Ref) (s : HealthChecker) : HealthEvent → Prop
  | .operate op => ((step ring s.cluster op).objects r).metrics.isHealthy = s.flag r
  | _ => True

abbrev HealthRun (ring : Config) (cfg : HealthSettings) (allowed : HealthChecker → HealthEvent → Prop) :=
  Runs.Run (HealthChecker.next ring cfg) allowed

def Alone (r : Ref) (s : HealthChecker) : Prop := ∀ x, s.cluster.idOf x = s.cluster.idOf r → x = r

section Checks

variable (s : HealthChecker) (r x : Ref)

theorem set_flag_ids (isHealthy : Bool) (alert : AlertEvent) : (s.setFlag x isHealthy alert).cluster.idOf = s.cluster.idOf := by
  funext y
  unfold setFlag Cluster.modifyMetrics Cluster.idOf
  rw [Cluster.modify_objects]
  split
  · rename_i same
    rw [same]
  · rfl

theorem set_flag_flag (isHealthy : Bool) (alert : AlertEvent) :
    (s.setFlag x isHealthy alert).flag r = if r = x then isHealthy else s.flag r := by
  unfold setFlag flag Cluster.modifyMetrics
  rw [Cluster.modify_objects]
  split <;> rfl

theorem set_flag_reports (isHealthy : Bool) (alert : AlertEvent) (named : alert.serverId = some (s.cluster.idOf x))
    (alone : s.Alone r) : (s.setFlag x isHealthy alert).reports r =
      s.reports r ++ if r = x then [decide (alert.event = "health_recovered")] else [] := by
  unfold reports
  rw [set_flag_ids]
  simp only [setFlag, List.filterMap_append]
  congr 1
  by_cases same : r = x
  · subst same
    simp [named]
  · have apart : s.cluster.idOf x ≠ s.cluster.idOf r := fun equal => same (alone x equal).symm
    simp [named, same, apart]

theorem set_count_count (count : Nat) (alone : s.Alone r) : (s.setCount x count).failCount r = if r = x then count else s.failCount r := by
  unfold setCount failCount Dict.getD
  rw [Dict.get_set]
  by_cases same : r = x
  · simp [same]
  · have apart : s.cluster.idOf r ≠ s.cluster.idOf x := fun named => same (alone x named.symm).symm
    simp [same, apart]

theorem hear_seen (status : Option Int) : (s.hear x status).seen r = s.seen r ++ (if x = r then [healthy status] else []) := by
  unfold hear seen
  rw [List.filterMap_append]
  congr 1
  split <;> simp [*]

theorem set_flag_count (isHealthy : Bool) (alert : AlertEvent) : (s.setFlag x isHealthy alert).failCount r = s.failCount r := by
  rw [failCount, set_flag_ids]
  rfl

theorem fail_checked (cfg : HealthSettings) (now : ℚ) (alone : s.Alone r) :
    (s.fail cfg x now).failCount r = (if r = x then s.failCount r + 1 else s.failCount r) ∧
      (s.fail cfg x now).flag r = (s.flag r && (decide (r ≠ x) || decide (s.failCount r + 1 < cfg.failures))) ∧
      (s.fail cfg x now).reports r =
        s.reports r ++ (if r = x ∧ s.flag r = true ∧ cfg.failures ≤ s.failCount r + 1 then [false] else []) := by
  have counted := set_count_count s r x (s.failCount x + 1) alone
  unfold fail
  split
  · rename_i trips
    refine ⟨?_, ?_, ?_⟩
    · rw [set_flag_count, counted]
      split <;> simp [*]
    · rw [set_flag_flag]
      by_cases same : r = x
      · subst same
        simp [trips.2]
      · simp [same, setCount, flag]
    · refine (set_flag_reports _ r x false (s.tripped cfg x now) rfl alone).trans ?_
      by_cases same : r = x
      · subst same
        rw [if_pos rfl, if_pos ⟨rfl, trips⟩]
        rfl
      · rw [if_neg same, if_neg fun both => same both.1]
  · rename_i spared
    refine ⟨?_, ?_, ?_⟩
    · rw [counted]
      split <;> simp [*]
    · change s.flag r = _
      by_cases same : r = x
      · subst same
        cases healthy : s.flag r with
        | true => simpa [healthy] using spared
        | false => rfl
      · simp [same]
    · rw [if_neg, List.append_nil]
      · rfl
      · rintro ⟨rfl, trips⟩
        exact spared trips

theorem pass_checked (cfg : HealthSettings) (now : ℚ) (alone : s.Alone r) :
    (s.pass cfg x now).failCount r = (if r = x then 0 else s.failCount r) ∧
      (s.pass cfg x now).flag r = (s.flag r || decide (r = x)) ∧
      (s.pass cfg x now).reports r = s.reports r ++ (if r = x ∧ s.flag r = false then [true] else []) := by
  have counted := set_count_count s r x 0 alone
  unfold pass
  split
  · rename_i up
    refine ⟨counted, ?_, ?_⟩
    · change s.flag r = _
      by_cases same : r = x
      · subst same
        simp [up]
      · simp [same]
    · rw [if_neg, List.append_nil]
      · rfl
      · rintro ⟨rfl, down⟩
        simp [down] at up
  · rename_i down
    refine ⟨by rw [set_flag_count, counted], ?_, ?_⟩
    · rw [set_flag_flag]
      by_cases same : r = x <;> simp [same, setCount, flag]
    · refine (set_flag_reports _ r x true (s.recovered cfg x now) rfl alone).trans ?_
      by_cases same : r = x
      · subst same
        rw [if_pos rfl, if_pos ⟨rfl, by simpa using down⟩]
        rfl
      · rw [if_neg same, if_neg fun both => same both.1]

end Checks

theorem pass_seen (cfg : HealthSettings) (s : HealthChecker) (r x : Ref) (now : ℚ) : (s.pass cfg x now).seen r = s.seen r := by
  unfold pass
  split <;> rfl

theorem fail_seen (cfg : HealthSettings) (s : HealthChecker) (r x : Ref) (now : ℚ) : (s.fail cfg x now).seen r = s.seen r := by
  unfold fail
  split <;> rfl

theorem set_pass_ids (cfg : HealthSettings) (s : HealthChecker) (x : Ref) (now : ℚ) :
    (s.pass cfg x now).cluster.idOf = s.cluster.idOf := by
  unfold pass
  split
  · rfl
  · exact set_flag_ids _ _ _ _

theorem set_fail_ids (cfg : HealthSettings) (s : HealthChecker) (x : Ref) (now : ℚ) :
    (s.fail cfg x now).cluster.idOf = s.cluster.idOf := by
  unfold fail
  split
  · exact set_flag_ids _ _ _ _
  · rfl

theorem tracked_check (cfg : HealthSettings) (s : HealthChecker) (r x : Ref) (status : Option Int) (now : ℚ) (alone : s.Alone r)
    (tracked : s.Tracked cfg r) : (s.check cfg x status now).Tracked cfg r := by
  have heard := hear_seen s r x status
  have before : (s.hear x status).failCount r = s.failCount r ∧ (s.hear x status).flag r = s.flag r ∧
      (s.hear x status).reports r = s.reports r := ⟨rfl, rfl, rfl⟩
  unfold check Tracked
  split
  · rename_i fine
    obtain ⟨count, flag, reports⟩ := pass_checked (s.hear x status) r x cfg now alone
    rw [pass_seen, count, flag, reports, heard, before.1, before.2.1, before.2.2, fine]
    by_cases same : r = x
    · subst same
      have counted := Outage.counted_success cfg.failures cfg.positive _ _ _ _ tracked
      cases up : s.flag r <;> simpa [up] using counted
    · simpa [same, Ne.symm same, Tracked] using tracked
  · rename_i failed
    obtain ⟨count, flag, reports⟩ := fail_checked (s.hear x status) r x cfg now alone
    rw [fail_seen, count, flag, reports, heard, before.1, before.2.1, before.2.2, Bool.eq_false_of_not_eq_true failed]
    by_cases same : r = x
    · subst same
      have counted := Outage.counted_failure cfg.failures _ _ _ _ tracked
      have level : (s.flag r && decide (s.failCount r + 1 < cfg.failures)) = decide (s.failCount r + 1 < cfg.failures) := by
        rw [tracked.level, ← tracked.count]
        by_cases below : s.failCount r + 1 < cfg.failures
        · simp [below, Nat.lt_of_succ_lt below]
        · simp [below]
      rw [if_pos rfl, if_pos rfl]
      simp only [true_and, ne_eq, not_true_eq_false, decide_false, Bool.false_or, level]
      split at counted <;> simp [*]
    · simpa [same, Ne.symm same, Tracked] using tracked

theorem alone_next (ring : Config) (cfg : HealthSettings) (s : HealthChecker) (r : Ref) (event : HealthEvent) (after : HealthChecker)
    (alone : s.Alone r) (taken : s.next ring cfg event = some after) : after.Alone r := by
  have kept : after.cluster.idOf = s.cluster.idOf := by
    cases event with
    | operate op =>
        cases taken
        exact step_ids ring s.cluster op
    | round =>
        simp only [next] at taken
        split at taken <;> cases taken
        rfl
    | ping status now =>
        simp only [next] at taken
        split at taken <;> cases taken
        rename_i x rest _
        unfold check
        split
        · exact set_pass_ids _ _ _ _
        · exact set_fail_ids _ _ _ _
  intro x
  rw [kept]
  exact alone x

theorem tracked_next (ring : Config) (cfg : HealthSettings) (s : HealthChecker) (r : Ref) (event : HealthEvent) (after : HealthChecker)
    (alone : s.Alone r) (tracked : s.Tracked cfg r) (taken : s.next ring cfg event = some after) :
    after.Tracked cfg r ↔ s.Untouched ring r event := by
  cases event with
  | operate op =>
      cases taken
      have ids := step_ids ring s.cluster op
      constructor
      · intro still
        have level := still.level
        exact level.trans tracked.level.symm
      · intro same
        unfold Tracked failCount reports flag
        simp only [ids]
        exact same.symm ▸ tracked
  | round =>
      simp only [next] at taken
      split at taken <;> cases taken
      exact iff_of_true tracked trivial
  | ping status now =>
      simp only [next] at taken
      split at taken <;> cases taken
      rename_i x rest _
      exact iff_of_true (tracked_check cfg { s with queue := rest } r x status now alone tracked) trivial

end HealthChecker

open HealthChecker

instance (ring : Config) (r : Ref) (s : HealthChecker) (event : HealthEvent) : Decidable (s.Untouched ring r event) :=
  match event with
  | .operate op => inferInstanceAs (Decidable (((step ring s.cluster op).objects r).metrics.isHealthy = s.flag r))
  | .round | .ping _ _ => isTrue trivial

def firstServer : HealthChecker :=
  { cluster := step smallestRing (.empty smallestRing (fun r => { id := if r = 0 then "a" else "b" }) none none none
    ⟨fun ticks => ticks, 0⟩)
      (.addServer 0 true) }

theorem first_server_alone : firstServer.Alone 0 := by
  intro x same
  have ids := step_ids smallestRing
    (.empty smallestRing (fun r => { id := if r = 0 then "a" else "b" }) none none none ⟨fun ticks => ticks, 0⟩) (.addServer 0 true)
  rw [firstServer, ids] at same
  by_contra other
  simp [Cluster.idOf, Cluster.empty, other] at same

end HuddleCluster.Ring
