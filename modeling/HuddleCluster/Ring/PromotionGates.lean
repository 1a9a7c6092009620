import HuddleCluster.Ring.Trails

set_option autoImplicit false

namespace HuddleCluster.Ring

open Cluster

namespace Cluster

def InQuarantine (c : Cluster) (serverId : String) : Prop := ∃ m ∈ c.remediator, m.isQuarantined serverId = true

instance (c : Cluster) (serverId : String) : Decidable (c.InQuarantine serverId) :=
  match found : c.remediator with
  | none => isFalse fun held => by
      obtain ⟨m, member, _⟩ := held
      rw [found] at member
      cases member
  | some m => decidable_of_iff (m.isQuarantined serverId = true) (by simp [InQuarantine, found])

def Enters (a b : Cluster) (r : Ref) : Prop := a.innerRing.count r < b.innerRing.count r

-- The last reading a move took, or the next one if it took none.
def moment (a b : Cluster) : ℚ :=
  if b.monotonic.ticks = a.monotonic.ticks then b.now else b.monotonic.reading (b.monotonic.ticks - 1)

def Gated (a b : Cluster) : Prop :=
  ∀ r, Enters a b r → ¬ a.InQuarantine (a.idOf r) ∧ (b.objects r).isColdStart (moment a b) = false

def Admissible (c : Cluster) (r : Ref) : Prop := ¬ c.InQuarantine (c.idOf r) ∧ (c.objects r).isColdStart c.now = false

instance (c : Cluster) (r : Ref) : Decidable (c.Admissible r) :=
  inferInstanceAs (Decidable (¬ c.InQuarantine (c.idOf r) ∧ (c.objects r).isColdStart c.now = false))

-- The servers that fill the inner ring up when one of it is removed: those the
-- heap of the outer ring hands out next.
def refilled (cfg : Config) (c : Cluster) : List Ref :=
  Heapq.pops c.temperatureOf (cfg.minInnerSize - (c.innerRing.length - 1)) c.outerRing

end Cluster

-- Whoever removes an inner server leaves enough of them, or the next servers of
-- the outer ring may be promoted; whoever adds one straight into the inner ring
-- adds one that may be there.
def GatesOpen (cfg : Config) (c : Cluster) : Op → Prop
  | .removeServer serverId => c.innerRing.any (c.hasId serverId) = true → ∀ r ∈ c.refilled cfg, c.Admissible r
  | .addServer r forceInner =>
      cfg.coldStartSec ≤ 0 → forceInner = true → c.innerRing.length < cfg.maxInnerSize → c.Admissible r
  | _ => True

def Timed (link : Cluster → Cluster → Prop) (a b : Cluster) : Prop :=
  b.monotonic.reading = a.monotonic.reading ∧ (Monotone a.monotonic.reading → link a b)

theorem motion_readings (a b : Cluster) (moved : Motion a b) : b.monotonic.reading = a.monotonic.reading := by
  cases moved with
  | calm _ _ readings => exact readings
  | evicted _ _ _ _ readings => exact readings
  | drained _ _ _ _ readings => exact readings

theorem motion_gated (a b : Cluster) (moved : Motion a b) : Timed Gated a b :=
  ⟨motion_readings a b moved, fun _ r enters => absurd enters (not_lt.mpr (motion_counts a b moved r))⟩

theorem lifted_enters (a b : Cluster) (r x : Ref) (lifted : Lifted a b r) (enters : Enters a b x) : x = r := by
  unfold Enters at enters
  rw [lifted.inner, List.count_append] at enters
  by_contra other
  rw [List.count_singleton, if_neg (by simpa using Ne.symm other)] at enters
  exact absurd enters (lt_irrefl _)

theorem promotable_gates (cfg : Config) (c : Cluster) (r : Ref) (permitted : c.promotable cfg r = true) :
    (c.objects r).isColdStart c.tick.now = false ∧ ¬ c.InQuarantine (c.idOf r) := by
  simp only [promotable, Bool.and_eq_true, Bool.not_eq_true'] at permitted
  obtain ⟨⟨⟨warm, _⟩, free⟩, _⟩ := permitted
  refine ⟨warm, ?_⟩
  intro held
  obtain ⟨m, found, quarantined⟩ := held
  rw [Option.mem_def] at found
  rw [found] at free
  exact absurd (quarantined.symm.trans free) (by simp)

theorem promoted_gated (cfg : Config) (a b : Cluster) (r : Ref) (permitted : a.promotable cfg r = true) (lifted : Lifted a b r)
    (ticks : b.monotonic.ticks = a.monotonic.ticks + 3) : Timed Gated a b := by
  obtain ⟨warm, free⟩ := promotable_gates cfg a r permitted
  refine ⟨lifted.readings, ?_⟩
  intro monotone x enters
  obtain rfl := lifted_enters a b r x lifted enters
  refine ⟨free, ?_⟩
  have later : a.tick.now ≤ moment a b := by
    rw [moment, if_neg (by omega), lifted.readings, ticks]
    exact monotone (by simp [tick, Clock.tick])
  simp only [Server.isColdStart, decide_eq_false_iff_not, not_lt, lifted.cold] at warm ⊢
  exact warm.trans later

theorem pulled_gated (a b : Cluster) (r : Ref) (fits : Monotone a.monotonic.reading → a.Admissible r) (lifted : Lifted a b r)
    (ticks : b.monotonic.ticks = a.monotonic.ticks + 1) : Timed Gated a b := by
  refine ⟨lifted.readings, ?_⟩
  intro monotone x enters
  obtain rfl := lifted_enters a b r x lifted enters
  obtain ⟨free, warm⟩ := fits monotone
  refine ⟨free, ?_⟩
  have here : moment a b = a.now := by
    rw [moment, if_neg (by omega), lifted.readings, ticks]
    rfl
  simpa only [Server.isColdStart, here, lifted.cold] using warm

theorem recovery_quarantine (m : Remediator) (serverId query : String)
    (held : (m.recordRecovery serverId).isQuarantined query = true) : m.isQuarantined query = true := by
  unfold Remediator.recordRecovery at held
  simp only at held
  split at held
  · exact ((Remediator.quarantined_discard _ serverId query).mp held).1
  · exact ((Remediator.quarantined_discard _ serverId query).mp held).1
  · exact held

theorem recovery_spares (m : Remediator) (serverId query : String) (other : query ≠ serverId)
    (held : m.isQuarantined query = true) : (m.recordRecovery serverId).isQuarantined query = true := by
  unfold Remediator.recordRecovery
  simp only
  split
  · exact (Remediator.quarantined_discard _ serverId query).mpr ⟨held, other⟩
  · exact (Remediator.quarantined_discard _ serverId query).mpr ⟨held, other⟩
  · exact held

theorem lifted_quarantine (a b : Cluster) (r : Ref) (lifted : Lifted a b r) (query : String) (held : b.InQuarantine query) :
    a.InQuarantine query := by
  obtain ⟨m, found, quarantined⟩ := held
  rw [lifted.remediator] at found
  split at found
  · obtain ⟨before, member, rfl⟩ := Option.mem_map.mp found
    exact ⟨before, member, recovery_quarantine before _ query quarantined⟩
  · exact ⟨m, found, quarantined⟩

theorem admissible_lifted (a b : Cluster) (r x : Ref) (lifted : Lifted a b r)
    (ticks : b.monotonic.ticks = a.monotonic.ticks + 1) (fits : Monotone a.monotonic.reading → a.Admissible x) :
    Monotone b.monotonic.reading → b.Admissible x := by
  intro monotone
  rw [lifted.readings] at monotone
  obtain ⟨free, warm⟩ := fits monotone
  constructor
  · rw [lifted.ids]
    exact fun held => free (lifted_quarantine a b r lifted _ held)
  · have later : a.now ≤ b.now := by
      rw [now, now, Clock.now, Clock.now, lifted.readings, ticks]
      exact monotone (Nat.le_succ _)
    simp only [Server.isColdStart, decide_eq_false_iff_not, not_lt, lifted.cold] at warm ⊢
    exact warm.trans later

theorem remove_gated (cfg : Config) (c : Cluster) (serverId : String) (gates : GatesOpen cfg c (.removeServer serverId)) :
    (c :: c.removeTrail cfg serverId).IsChain (Timed Gated) := by
  have kept (ring outer : List Ref) (less : ∀ r, ring.count r ≤ c.innerRing.count r) :
      Timed Gated c { c with innerRing := ring, outerRing := outer } :=
    ⟨rfl, fun _ r enters => absurd enters (not_lt.mpr (less r))⟩
  unfold removeTrail
  split
  · rename_i present
    obtain ⟨x, member, named⟩ := List.any_eq_true.mp present
    have shorter := List.length_eraseP_of_mem member named
    refine List.isChain_cons_cons.mpr ⟨kept _ c.outerRing fun r => count_erase_id c _ r, ?_⟩
    apply pull_linked cfg (Timed Gated) (fun a r => Monotone a.monotonic.reading → a.Admissible r)
    · exact fun a b r fits lifted ticks => pulled_gated a b r fits lifted ticks
    · exact fun a b r x lifted ticks fits => admissible_lifted a b r x lifted ticks fits
    · intro r picked _
      rw [shorter] at picked
      exact gates present r picked
  · rename_i absent
    refine List.isChain_pair.mpr ?_
    rw [removeServer, if_neg absent]
    split
    · exact kept c.innerRing _ fun r => le_refl _
    · exact kept c.innerRing c.outerRing fun r => le_refl _

theorem add_direct (cfg : Config) (c : Cluster) (r : Ref) (forceInner : Bool) (warm : cfg.coldStartSec ≤ 0)
    (direct : forceInner = true ∧ c.innerRing.length < cfg.maxInnerSize) :
    (c.addServer cfg r forceInner).innerRing = c.innerRing ++ [r] ∧ (c.addServer cfg r forceInner).monotonic = c.monotonic ∧
      ((c.addServer cfg r forceInner).objects r).coldUntil = (c.objects r).coldUntil := by
  unfold addServer
  simp only
  split
  · rename_i cold
    exact absurd cold (not_lt.mpr warm)
  · split
    · exact ⟨rfl, rfl, by simp⟩
    · rename_i indirect
      exact absurd direct indirect

theorem add_outer (cfg : Config) (c : Cluster) (r : Ref) (forceInner : Bool)
    (indirect : ¬ (cfg.coldStartSec ≤ 0 ∧ forceInner = true ∧ c.innerRing.length < cfg.maxInnerSize)) :
    (c.addServer cfg r forceInner).innerRing = c.innerRing := by
  unfold addServer
  simp only
  split
  · rfl
  · rename_i warm
    split
    · rename_i direct
      exact absurd ⟨not_lt.mp warm, direct⟩ indirect
    · rfl

theorem add_gated (cfg : Config) (c : Cluster) (r : Ref) (forceInner : Bool) (gates : GatesOpen cfg c (.addServer r forceInner)) :
    Timed Gated c (c.addServer cfg r forceInner) := by
  have readings : (c.addServer cfg r forceInner).monotonic.reading = c.monotonic.reading := by
    unfold addServer
    simp only
    split
    · rfl
    · split <;> rfl
  refine ⟨readings, ?_⟩
  intro _ x enters
  by_cases direct : cfg.coldStartSec ≤ 0 ∧ forceInner = true ∧ c.innerRing.length < cfg.maxInnerSize
  · obtain ⟨inner, clock, cold⟩ := add_direct cfg c r forceInner direct.1 direct.2
    have same : x = r := by
      by_contra other
      rw [Enters, inner, List.count_append, List.count_singleton, if_neg (by simpa using Ne.symm other)] at enters
      exact absurd enters (lt_irrefl _)
    subst same
    obtain ⟨free, warm⟩ := gates direct.1 direct.2.1 direct.2.2
    refine ⟨free, ?_⟩
    have here : moment c (c.addServer cfg x forceInner) = c.now := by
      rw [moment, if_pos (by rw [clock]), now, clock, now]
    simpa only [Server.isColdStart, here, cold] using warm
  · rw [Enters, add_outer cfg c r forceInner direct] at enters
    exact absurd enters (lt_irrefl _)

theorem routine_gated (cfg : Config) (c : Cluster) (op : Op) (routine : op.routine = true) : Timed Gated c (step cfg c op) := by
  have same := still_step cfg c op routine
  have readings : (step cfg c op).monotonic.reading = c.monotonic.reading := by
    by_cases other : op.remediates = false
    · exact (backdrop_step cfg c op routine other).readings
    · cases op <;> first | exact absurd rfl other | rfl
  exact ⟨readings, fun _ r enters => absurd enters (not_lt.mpr (still_counts c _ same r).le)⟩

theorem trail_gated (cfg : Config) (c : Cluster) (op : Op) (gates : GatesOpen cfg c op) :
    (c :: c.trail cfg op).IsChain (Timed Gated) := by
  cases op with
  | addServer r forceInner => exact List.isChain_pair.mpr (add_gated cfg c r forceInner gates)
  | removeServer serverId => exact remove_gated cfg c serverId gates
  | forceEvict serverId =>
      refine List.isChain_pair.mpr ?_
      rw [step, forceEvict]
      split
      · exact ⟨rfl, fun _ r enters => absurd enters (lt_irrefl _)⟩
      · exact motion_gated _ _ (motion_evicted cfg c _ .manual)
  | rotate => exact rotate_linked cfg (Timed Gated) (links_of_motion cfg _ motion_gated (promoted_gated cfg)) c
  | checkDrainingServers => exact check_linked cfg (Timed Gated) (links_of_motion cfg _ motion_gated (promoted_gated cfg)) c
  | _ => exact List.isChain_pair.mpr (routine_gated cfg c _ rfl)

abbrev PromotionRun (cfg : Config) (allowed : History Cluster → Op → Prop) := Runs.Run (History.next (Cluster.trail cfg)) allowed

def PromotionsGated (s : History Cluster) : Prop := ∀ before ∈ s.earlier.head?, Gated before s.current

-- Every server that came into the inner ring, whichever operation brought it
-- there, was free and warm at that moment.
theorem promotions_gated (cfg : Config) (start : Cluster) (monotone : Monotone start.monotonic.reading) (ops : List Op)
    (s : History Cluster) (run : PromotionRun cfg (fun s op => GatesOpen cfg s.current op) ⟨start, []⟩ ops s) :
    ClusterRun cfg (fun _ _ => True) start ops s.current ∧ s.Everywhere PromotionsGated := by
  constructor
  · exact History.run_current (Cluster.trail cfg) (step cfg) (trail_last cfg) _ _ s ops run
  · apply History.run_everywhere (Cluster.trail cfg) (fun s op => GatesOpen cfg s.current op) (Timed Gated)
      (fun s => Monotone s.current.monotonic.reading) PromotionsGated
    · exact fun s op _ gates => trail_gated cfg s.current op gates
    · intro s state clock linked
      have kept : Monotone state.monotonic.reading := by
        rw [linked.1]
        exact clock
      refine ⟨kept, ?_⟩
      intro before newest
      cases newest
      exact linked.2 clock
    · exact monotone
    · intro before newest
      cases newest
    · exact run

instance (cfg : Config) (c : Cluster) (op : Op) : Decidable (GatesOpen cfg c op) :=
  match op with
  | .removeServer serverId =>
      inferInstanceAs (Decidable (c.innerRing.any (c.hasId serverId) = true → ∀ r ∈ c.refilled cfg, c.Admissible r))
  | .addServer r forceInner =>
      inferInstanceAs (Decidable (cfg.coldStartSec ≤ 0 → forceInner = true → c.innerRing.length < cfg.maxInnerSize →
        c.Admissible r))
  | .forceEvict .. | .rotate | .checkDrainingServers | .updateRamps | .getServer .. | .getServerContext ..
  | .requestWithRetry .. | .setMetrics .. | .updateTemperature .. | .recordLatency .. | .batchRecordLatency ..
  | .recordTokens .. | .recordStreaming .. | .canaryProbe .. | .loadState .. | .recordHardwareTelemetry ..
  | .startTrafficRamp .. | .stopTrafficRamp .. | .clearAffinity .. | .triggerRemediation .. | .clearRemediationQuarantine .. =>
      isTrue trivial

def manualPolicy : RemediationPolicy :=
  { name := "manual", trigger := .manual, actionType := .pythonCallback, actionCallback := true }

-- A cluster whose remediation actions all succeed. Every reading of a clock is a
-- minute after the one before.
def remediatedCluster : Cluster :=
  .empty smallestRing (fun r => { id := toString r }) none
    (some { time := ⟨fun ticks => 60 * ticks, 0⟩, reports := fun _ _ => ⟨.returned true, []⟩ }) none
      ⟨fun ticks => 60 * ticks, 0⟩

theorem remediated_monotone : Monotone remediatedCluster.monotonic.reading := by
  intro i j le
  exact mul_le_mul_of_nonneg_left (Nat.cast_le.mpr le) (by norm_num)

-- The last server of the inner ring is removed while the only other one is in
-- quarantine.
theorem quarantined_promoted :
    ∃ s ∈ Runs.follow (History.next (Cluster.trail smallestRing)) (fun _ _ => True) ⟨remediatedCluster, []⟩
      [.addServer 0 true, .addServer 1 true, .forceEvict "0", .triggerRemediation "0" manualPolicy, .removeServer "1"],
      ∃ before ∈ s.earlier.head?, before.innerRing = [] ∧ s.current.innerRing = [0] ∧ before.InQuarantine "0" :=
  ⟨_, rfl, _, rfl, by decide +kernel⟩

def gatedRun : List Op :=
  [.addServer 0 true, .addServer 1 true, .addServer 2 false, .forceEvict "0", .triggerRemediation "0" manualPolicy, .rotate,
    .removeServer "1", .clearRemediationQuarantine "0", .removeServer "2"]

theorem promotions_gated_refill : ∃ s ∈ Runs.follow (History.next (Cluster.trail smallestRing))
    (fun s op => GatesOpen smallestRing s.current op) ⟨remediatedCluster, []⟩ gatedRun, s.Everywhere PromotionsGated := by
  have taken : (Runs.follow (History.next (Cluster.trail smallestRing)) (fun s op => GatesOpen smallestRing s.current op)
      ⟨remediatedCluster, []⟩ gatedRun).isSome = true := by decide +kernel
  obtain ⟨s, reached⟩ := Option.isSome_iff_exists.mp taken
  exact ⟨s, reached, (promotions_gated smallestRing remediatedCluster remediated_monotone gatedRun s
    (Runs.follow_run _ _ _ s _ reached)).2⟩

end HuddleCluster.Ring
