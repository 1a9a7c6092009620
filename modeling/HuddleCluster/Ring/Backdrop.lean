import HuddleCluster.Ring.MoveChains

set_option autoImplicit false

namespace HuddleCluster.Ring

namespace Remediator

def afterEviction (m : Remediator) (serverId : String) : Remediator :=
  match m.recordEviction serverId with
  | (after, none) => after
  | (after, some policy) => (after.triggerRemediation serverId policy).1

theorem quarantined_discard (m : Remediator) (serverId query : String) :
    (m.discard serverId).isQuarantined query = true ↔ m.isQuarantined query = true ∧ query ≠ serverId := by
  simp [isQuarantined, discard]

-- No quarantine of the server is cleared while an action runs, from now on.
def Uncleared (m : Remediator) (serverId : String) : Prop :=
  ∀ other n, m.totalActions ≤ n → serverId ∉ (m.reports other n).cleared

-- Whoever is healing is in quarantine, unless it was cleared while an action on it ran.
def HeldBack (m : Remediator) : Prop :=
  ∀ serverId, m.states.get? serverId = some .healing → m.isQuarantined serverId = true ∨
    ∃ n < m.totalActions, serverId ∈ (m.reports serverId n).cleared

-- What a remediation action, tried or refused, leaves as it was.
structure Treated (m n : Remediator) : Prop where
  since : ∀ serverId time, n.outerRingSince.get? serverId = some time → m.outerRingSince.get? serverId = some time
  enabled : n.enabled = m.enabled
  reports : n.reports = m.reports
  total : m.totalActions ≤ n.totalActions
  grows : ∀ serverId, m.Uncleared serverId → m.isQuarantined serverId = true → n.isQuarantined serverId = true
  held : m.HeldBack → n.HeldBack

theorem uncleared_later (m n : Remediator) (serverId : String) (reports : n.reports = m.reports)
    (total : m.totalActions ≤ n.totalActions) (uncleared : m.Uncleared serverId) : n.Uncleared serverId := by
  intro other i later
  rw [reports]
  exact uncleared other i (total.trans later)

theorem held_back_set (m n : Remediator) (serverId : String) (state : RemediationState) (other : state ≠ .healing)
    (states : n.states = m.states.set serverId state) (reports : n.reports = m.reports) (total : m.totalActions ≤ n.totalActions)
    (spared : ∀ query, query ≠ serverId → m.isQuarantined query = true → n.isQuarantined query = true) (held : m.HeldBack) :
    n.HeldBack := by
  intro query healing
  rw [states, Dict.get_set] at healing
  split at healing
  · exact absurd (Option.some.inj healing) other
  · rename_i apart
    refine (held query healing).imp (spared query apart) ?_
    rintro ⟨i, before, cleared⟩
    exact ⟨i, before.trans_le total, reports ▸ cleared⟩

theorem held_back_same (m n : Remediator) (states : n.states = m.states) (quarantined : n.quarantinedServers = m.quarantinedServers)
    (reports : n.reports = m.reports) (total : m.totalActions ≤ n.totalActions) (held : m.HeldBack) : n.HeldBack := by
  intro query healing
  rw [states] at healing
  unfold isQuarantined
  rw [quarantined]
  refine (held query healing).imp id ?_
  rintro ⟨i, before, cleared⟩
  exact ⟨i, before.trans_le total, reports ▸ cleared⟩

theorem treated_refl (m : Remediator) : Treated m m := ⟨fun _ _ found => found, rfl, rfl, le_refl _, fun _ _ held => held, id⟩

theorem treated_trans (m n o : Remediator) (before : Treated m n) (after : Treated n o) : Treated m o := by
  refine ⟨?_, after.enabled.trans before.enabled, after.reports.trans before.reports, before.total.trans after.total, ?_,
    fun held => after.held (before.held held)⟩
  · exact fun serverId time found => before.since serverId time (after.since serverId time found)
  · intro serverId uncleared held
    exact after.grows serverId (uncleared_later m n serverId before.reports before.total uncleared) (before.grows serverId uncleared held)

theorem clear_all_append (m : Remediator) (serverIds : List String) (serverId : String) :
    m.clearAll (serverIds ++ [serverId]) = (m.clearAll serverIds).clearQuarantine serverId := by
  simp [clearAll]

theorem clear_all_spec (m : Remediator) (serverIds : List String) :
    (m.clearAll serverIds).enabled = m.enabled ∧ (m.clearAll serverIds).reports = m.reports ∧
      (m.clearAll serverIds).totalActions = m.totalActions ∧
      (∀ query, (m.clearAll serverIds).isQuarantined query = true ↔ m.isQuarantined query = true ∧ query ∉ serverIds) ∧
      (∀ query, (m.clearAll serverIds).states.get? query =
        if query ∈ serverIds then some .healthy else m.states.get? query) ∧
      ∀ query time, (m.clearAll serverIds).outerRingSince.get? query = some time → m.outerRingSince.get? query = some time := by
  induction serverIds using List.reverseRecOn with
  | nil => simp [clearAll]
  | append_singleton rest serverId ih =>
      obtain ⟨enabled, reports, total, quarantined, states, since⟩ := ih
      rw [clear_all_append]
      refine ⟨enabled, reports, total, fun query => ?_, fun query => ?_, fun query time found => ?_⟩
      · refine (quarantined_discard (m.clearAll rest) serverId query).trans ?_
        rw [quarantined]
        simp only [List.mem_append, List.mem_singleton, not_or, and_assoc]
      · simp only [clearQuarantine, Dict.get_set, states, List.mem_append, List.mem_singleton]
        by_cases same : query = serverId <;> simp [same]
      · simp only [clearQuarantine, Dict.get_erase] at found
        split at found
        · cases found
        · exact since query time found

theorem quarantine_grows (m : Remediator) (serverId query : String) :
    (m.quarantine serverId).isQuarantined query = true ↔ m.isQuarantined query = true ∨ query = serverId := by
  unfold quarantine isQuarantined
  by_cases known : serverId ∈ m.quarantinedServers
  · simp only [known, if_true, decide_eq_true_eq]
    exact ⟨Or.inl, fun either => either.elim id fun same => same ▸ known⟩
  · simp [known]

-- An action on the server has begun, and those in the list were cleared since.
structure Waited (m waited : Remediator) (serverId : String) (cleared : List String) : Prop where
  since : ∀ query time, waited.outerRingSince.get? query = some time → m.outerRingSince.get? query = some time
  enabled : waited.enabled = m.enabled
  reports : waited.reports = m.reports
  total : waited.totalActions = m.totalActions + 1
  spared : ∀ query, query ∉ cleared → m.isQuarantined query = true → waited.isQuarantined query = true
  own : serverId ∉ cleared → waited.isQuarantined serverId = true
  healing : ∀ query, waited.states.get? query = some .healing →
    query ≠ serverId ∧ query ∉ cleared ∧ m.states.get? query = some .healing

theorem waited_begun (m begun : Remediator) (serverId : String) (cleared : List String)
    (since : begun.outerRingSince = m.outerRingSince) (enabled : begun.enabled = m.enabled) (reports : begun.reports = m.reports)
    (total : begun.totalActions = m.totalActions + 1) (states : begun.states = m.states.set serverId .quarantined)
    (quarantined : ∀ query, begun.isQuarantined query = true ↔ m.isQuarantined query = true ∨ query = serverId) :
    Waited m (begun.clearAll cleared) serverId cleared := by
  obtain ⟨clearEnabled, clearReports, clearTotal, clearQuarantined, clearStates, clearSince⟩ := clear_all_spec begun cleared
  refine ⟨fun query time found => since ▸ clearSince query time found, clearEnabled.trans enabled, clearReports.trans reports,
    clearTotal.trans total, ?_, ?_, ?_⟩
  · exact fun query uncleared held => (clearQuarantined query).mpr ⟨(quarantined query).mpr (Or.inl held), uncleared⟩
  · exact fun uncleared => (clearQuarantined serverId).mpr ⟨(quarantined serverId).mpr (Or.inr rfl), uncleared⟩
  · intro query healing
    rw [clearStates] at healing
    split at healing
    · cases healing
    · rename_i uncleared
      rw [states, Dict.get_set] at healing
      split at healing
      · cases healing
      · exact ⟨by assumption, uncleared, healing⟩

theorem waited_held (m waited : Remediator) (serverId : String) (cleared : List String) (wait : Waited m waited serverId cleared)
    (held : m.HeldBack) : waited.HeldBack := by
  intro query healing
  obtain ⟨_, uncleared, before⟩ := wait.healing query healing
  refine (held query before).imp (wait.spared query uncleared) ?_
  rintro ⟨n, earlier, found⟩
  exact ⟨n, by rw [wait.total]; omega, wait.reports ▸ found⟩

theorem waited_treated (m waited : Remediator) (serverId : String) (cleared : List String) (wait : Waited m waited serverId cleared)
    (report : (m.reports serverId m.totalActions).cleared = cleared) : Treated m waited := by
  refine ⟨wait.since, wait.enabled, wait.reports, by rw [wait.total]; omega, ?_, waited_held m waited serverId cleared wait⟩
  exact fun query uncleared held => wait.spared query (report ▸ uncleared serverId m.totalActions (le_refl _)) held

theorem finished_treated (m waited : Remediator) (serverId : String) (policy : RemediationPolicy) (cleared : List String) (success : Bool)
    (wait : Waited m waited serverId cleared) (report : (m.reports serverId m.totalActions).cleared = cleared) :
    Treated m (waited.finishRemediation serverId policy success) := by
  have treated := waited_treated m waited serverId cleared wait report
  cases success with
  | false =>
      refine ⟨treated.since, treated.enabled, treated.reports, treated.total, treated.grows, fun held => ?_⟩
      exact held_back_set waited _ serverId .deadLetter (by decide) rfl rfl (le_refl _) (fun _ _ held => held) (treated.held held)
  | true =>
      refine ⟨treated.since, treated.enabled, treated.reports, treated.total, treated.grows, fun held query healing => ?_⟩
      by_cases same : query = serverId
      · by_cases clearedNow : serverId ∈ cleared
        · refine Or.inr ⟨m.totalActions, Nat.lt_of_lt_of_eq (Nat.lt_succ_self _) wait.total.symm, ?_⟩
          rw [same]
          exact wait.reports ▸ report ▸ clearedNow
        · exact Or.inl (same ▸ wait.own clearedNow)
      · have before : (waited.states.set serverId .healing).get? query = some .healing := healing
        rw [Dict.get_set, if_neg same] at before
        exact treated.held held query before

theorem treated_trigger (m : Remediator) (serverId : String) (policy : RemediationPolicy) :
    Treated m (m.triggerRemediation serverId policy).1 := by
  by_cases active : (m.enabled && policy.enabled) = true
  · by_cases room : (m.checkHourlyRateLimit serverId (m.effectiveRetries policy)).2 = true
    · have wait := waited_begun m ((m.checkHourlyRateLimit serverId (m.effectiveRetries policy)).1.quarantine serverId) serverId
        (m.reports serverId m.totalActions).cleared rfl rfl rfl rfl rfl (quarantine_grows _ serverId)
      simp only [triggerRemediation, beginRemediation, active, room, if_true]
      split
      · exact waited_treated m _ serverId _ wait rfl
      · exact finished_treated m _ serverId policy _ _ wait rfl
    · simp only [triggerRemediation, beginRemediation, active, room, if_true, Bool.false_eq_true, if_false]
      refine ⟨fun _ _ found => found, rfl, rfl, le_refl _, fun _ _ held => held, ?_⟩
      exact held_back_set m _ serverId .deadLetter (by decide) rfl rfl (le_refl _) fun _ _ held => held
  · simp only [triggerRemediation, beginRemediation, active, Bool.false_eq_true, if_false]
    exact treated_refl m

theorem treated_all (entries : List (String × RemediationPolicy)) (m : Remediator) : Treated m (m.triggerAll entries) := by
  induction entries generalizing m with
  | nil => exact treated_refl m
  | cons entry rest ih =>
      have treated := treated_trigger m entry.1 entry.2
      rw [triggerAll]
      split
      · rename_i after equal
        rwa [equal] at treated
      · rename_i after _ equal
        rw [equal] at treated
        exact treated_trans m after _ treated (ih after)

theorem treated_stale (m : Remediator) : Treated m (m.checkStaleCoolingRing.1.triggerAll m.checkStaleCoolingRing.2) := by
  refine treated_trans m m.checkStaleCoolingRing.1 _ ?_ (treated_all _ _)
  unfold checkStaleCoolingRing
  split
  · exact ⟨fun _ _ found => found, rfl, rfl, le_refl _, fun _ _ held => held, held_back_same m _ rfl rfl rfl (le_refl _)⟩
  · exact treated_refl m

-- The first eviction since the last recovery is the one whose time is kept.
structure Filed (m n : Remediator) (serverId : String) : Prop where
  enabled : n.enabled = m.enabled
  reports : n.reports = m.reports
  total : m.totalActions ≤ n.totalActions
  grows : ∀ query, m.Uncleared query → m.isQuarantined query = true → n.isQuarantined query = true
  held : m.HeldBack → n.HeldBack
  since : ∀ query time, n.outerRingSince.get? query = some time →
    m.outerRingSince.get? query = some time ∨ query = serverId ∧ time = m.time.now

theorem filed_eviction (m : Remediator) (serverId : String) : Filed m (m.afterEviction serverId) serverId := by
  have recorded : Filed m (m.recordEviction serverId).1 serverId := by
    unfold recordEviction
    split
    · refine ⟨rfl, rfl, le_refl _, fun _ _ held => held, held_back_same m _ rfl rfl rfl (le_refl _), fun query time found => ?_⟩
      simp only at found
      split at found
      · exact Or.inl found
      · rw [Dict.get_set] at found
        split at found
        · exact Or.inr ⟨by assumption, (Option.some.inj found).symm⟩
        · exact Or.inl found
    · exact ⟨rfl, rfl, le_refl _, fun _ _ held => held, id, fun _ _ found => Or.inl found⟩
  have treated (policy : RemediationPolicy) (n : Remediator) (filed : Filed m n serverId) :
      Filed m (n.triggerRemediation serverId policy).1 serverId := by
    have acted := treated_trigger n serverId policy
    refine ⟨acted.enabled.trans filed.enabled, acted.reports.trans filed.reports, filed.total.trans acted.total, ?_,
      fun held => acted.held (filed.held held), fun query time found => filed.since query time (acted.since query time found)⟩
    intro query uncleared held
    exact acted.grows query (uncleared_later m n query filed.reports filed.total uncleared) (filed.grows query uncleared held)
  unfold afterEviction
  split
  · rename_i after equal
    rwa [equal] at recorded
  · rename_i after policy equal
    rw [equal] at recorded
    exact treated policy after recorded

end Remediator

-- What nothing but a move or a remediation call changes.
structure Backdrop (c d : Cluster) : Prop where
  remediator : d.remediator = c.remediator
  readings : d.monotonic.reading = c.monotonic.reading

theorem backdrop_refl (c : Cluster) : Backdrop c c := ⟨rfl, rfl⟩

theorem backdrop_trans (c d e : Cluster) (before : Backdrop c d) (after : Backdrop d e) : Backdrop c e :=
  ⟨after.remediator.trans before.remediator, after.readings.trans before.readings⟩

theorem backdrop_frame : Frame Backdrop where
  refl := backdrop_refl
  trans := backdrop_trans
  metrics _ _ _ := ⟨rfl, rfl⟩
  heated _ _ _ := ⟨rfl, rfl⟩
  weighed _ _ _ := ⟨rfl, rfl⟩
  tuned _ _ _ _ _ := ⟨rfl, rfl⟩
  counted _ _ _ := ⟨rfl, rfl⟩
  ramped _ _ := ⟨rfl, rfl⟩
  sensed _ _ := ⟨rfl, rfl⟩
  read _ _ := ⟨rfl, rfl⟩

theorem backdrop_get_server (c : Cluster) (affinityKey : Option String) (draw : ℚ) :
    Backdrop c (c.getServer affinityKey draw).2 := by
  obtain ⟨_, _, _, turned⟩ := c.get_server_turned affinityKey draw
  rw [turned]
  exact ⟨rfl, rfl⟩

theorem backdrop_get_excluding (c : Cluster) (excludedIds : List String) : Backdrop c (c.getServerExcluding excludedIds).2 := by
  obtain ⟨_, turned⟩ := c.get_excluding_turned excludedIds
  rw [turned]
  exact ⟨rfl, rfl⟩

def Op.remediates : Op → Bool
  | .triggerRemediation _ _ | .clearRemediationQuarantine _ => true
  | _ => false

theorem backdrop_step (cfg : Config) (c : Cluster) (op : Op) (routine : op.routine = true) (other : op.remediates = false) :
    Backdrop c (step cfg c op) := by
  by_cases plain : op.plain = true
  · exact frame_plain backdrop_frame.course cfg c op plain
  cases op with
  | getServer affinityKey draw => exact backdrop_get_server c affinityKey draw
  | getServerContext affinityKey draw raised elapsedMs =>
      exact frame_context backdrop_frame.course backdrop_get_server c affinityKey draw raised elapsedMs
  | requestWithRetry affinityKey draw attempts =>
      exact frame_request backdrop_frame.course backdrop_get_server backdrop_get_excluding c affinityKey draw attempts
  | loadState serversData => exact frame_load_state backdrop_frame.course (fun _ _ _ => ⟨rfl, rfl⟩) c serversData
  | clearAffinity key => cases key <;> exact ⟨rfl, rfl⟩
  | _ => simp_all [Op.plain, Op.routine, Op.remediates]

end HuddleCluster.Ring
