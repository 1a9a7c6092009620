import HuddleCluster.Ring.DataPlane

set_option autoImplicit false

namespace HuddleCluster.Grpc

open HuddleCluster.Ring

-- A call that uses the channel of the server it was given.
structure GrpcCall where
  server : Ref
  channel : Nat

-- A cluster with the channels to its servers. The channels are numbered as they are opened,
-- each for the id and the address of a server. A channel that was taken out of the dict is
-- closed later, outside of the lock; a sweep has the ids that a stop has yet to close. The
-- closed channels are in no field of the program.
structure GrpcCluster where
  cluster : Cluster
  address : Ref → Address
  channels : Dict String Nat := .empty
  opened : List (String × Address) := []
  calls : List GrpcCall := []
  failed : List GrpcCall := []
  closing : List Nat := []
  sweeps : List (List String) := []
  closed : List Nat := []

inductive GrpcEvent where
  | cluster (op : Op)
  | channelFor (r : Ref)
  | getChannel (affinityKey : Option String) (draw : ℚ)
  | finish (i : Nat) (raised : Bool) (elapsedMs : ℚ)
  | judge (i : Nat)
  | stop
  | sweep (i : Nat)
  | close (i : Nat)

namespace GrpcCluster

def ensureChannel (g : GrpcCluster) (r : Ref) : Nat × GrpcCluster :=
  match g.channels.get? (g.cluster.idOf r) with
  | some channel => (channel, g)
  | none =>
      (g.opened.length, { g with
        channels := g.channels.set (g.cluster.idOf r) g.opened.length
        opened := g.opened ++ [(g.cluster.idOf r, g.address r)] })

def closeChannel (g : GrpcCluster) (serverId : String) : GrpcCluster :=
  match g.channels.get? serverId with
  | none => g
  | some channel => { g with channels := g.channels.erase serverId, closing := g.closing ++ [channel] }

def getChannel (g : GrpcCluster) (affinityKey : Option String) (draw : ℚ) : GrpcCluster :=
  match g.cluster.getServer affinityKey draw with
  | (none, after) => { g with cluster := after }
  | (some r, after) =>
      match ({ g with cluster := after } : GrpcCluster).ensureChannel r with
      | (channel, ensured) => { ensured with calls := ensured.calls ++ [⟨r, channel⟩] }

-- A call that raised counts against its server before it looks at the error rate.
def finish (g : GrpcCluster) (i : Nat) (raised : Bool) (elapsedMs : ℚ) : Option GrpcCluster :=
  g.calls[i]?.map fun call =>
    let timed := g.cluster.recordLatency call.server elapsedMs
    if raised then
      { g with
        cluster := timed.modifyMetrics call.server ServerMetrics.recordError
        calls := g.calls.eraseIdx i
        failed := g.failed ++ [call] }
    else { g with cluster := timed, calls := g.calls.eraseIdx i }

def unhealthy (g : GrpcCluster) (r : Ref) : Bool := decide (1 / 2 < (g.cluster.objects r).metrics.errorRate)

def markUnhealthy (g : GrpcCluster) (r : Ref) : GrpcCluster :=
  { g with cluster := g.cluster.modifyMetrics r fun m => { m with isHealthy := false } }

def judge (g : GrpcCluster) (i : Nat) : Option GrpcCluster :=
  g.failed[i]?.map fun call =>
    let judged := { g with failed := g.failed.eraseIdx i }
    if g.unhealthy call.server then (judged.markUnhealthy call.server).closeChannel (g.cluster.idOf call.server) else judged

-- The channels that a stop closes are those of the ids that it finds.
def stop (g : GrpcCluster) : GrpcCluster := { g with sweeps := g.sweeps ++ [g.channels.entries.map Prod.fst] }

def sweep (g : GrpcCluster) (i : Nat) : Option GrpcCluster :=
  g.sweeps[i]?.map fun
    | [] => { g with sweeps := g.sweeps.eraseIdx i }
    | serverId :: rest => ({ g with sweeps := g.sweeps.set i rest } : GrpcCluster).closeChannel serverId

def close (g : GrpcCluster) (i : Nat) : Option GrpcCluster :=
  g.closing[i]?.map fun channel => { g with closing := g.closing.eraseIdx i, closed := g.closed ++ [channel] }

-- To start a cluster is to ask for the channel of each of its servers.
def next (cfg : Config) (g : GrpcCluster) : GrpcEvent → Option GrpcCluster
  | .cluster op => some { g with cluster := step cfg g.cluster op }
  | .channelFor r => some (g.ensureChannel r).2
  | .getChannel affinityKey draw => some (g.getChannel affinityKey draw)
  | .finish i raised elapsedMs => g.finish i raised elapsedMs
  | .judge i => g.judge i
  | .stop => some g.stop
  | .sweep i => g.sweep i
  | .close i => g.close i

end GrpcCluster

abbrev GrpcRun (cfg : Config) (allowed : GrpcCluster → GrpcEvent → Prop) := Runs.Run (GrpcCluster.next cfg) allowed

-- Every channel that was ever opened is in the dict under its id, about to be closed, or
-- closed, and in one of these places once.
structure GrpcCluster.Accounted (g : GrpcCluster) : Prop where
  once : (g.channels.values ++ (g.closing ++ g.closed)).Perm (List.range g.opened.length)
  named : ∀ serverId channel, g.channels.get? serverId = some channel → (g.opened[channel]?).map Prod.fst = some serverId
  used : ∀ call ∈ g.calls ++ g.failed, (g.opened[call.channel]?).map Prod.fst = some (g.cluster.idOf call.server)

namespace GrpcCluster

theorem opened_kept (opened more : List (String × Address)) (channel : Nat) (serverId : String)
    (named : (opened[channel]?).map Prod.fst = some serverId) : ((opened ++ more)[channel]?).map Prod.fst = some serverId := by
  obtain ⟨entry, here, same⟩ := Option.map_eq_some_iff.mp named
  rw [List.getElem?_append_left (List.getElem?_eq_some_iff.mp here).1, here, Option.map_some, same]

theorem metrics_ids (c : Cluster) (r : Ref) (f : ServerMetrics → ServerMetrics) : (c.modifyMetrics r f).idOf = c.idOf :=
  modify_ids c r _ rfl

theorem accounted_same (g after : GrpcCluster) (accounted : g.Accounted) (channels : after.channels = g.channels)
    (opened : after.opened = g.opened) (closing : after.closing = g.closing) (closed : after.closed = g.closed)
    (ids : after.cluster.idOf = g.cluster.idOf) (calls : ∀ call ∈ after.calls ++ after.failed, call ∈ g.calls ++ g.failed) :
    after.Accounted := by
  refine ⟨?_, ?_, ?_⟩
  · rw [channels, closing, closed, opened]
    exact accounted.once
  · rw [channels, opened]
    exact accounted.named
  · rw [opened, ids]
    exact fun call member => accounted.used call (calls call member)

theorem ensure_accounted (g : GrpcCluster) (r : Ref) (accounted : g.Accounted) :
    (g.ensureChannel r).2.Accounted ∧
      ((g.ensureChannel r).2.opened[(g.ensureChannel r).1]?).map Prod.fst = some (g.cluster.idOf r) ∧
      (g.ensureChannel r).2.cluster = g.cluster := by
  unfold ensureChannel
  cases cached : g.channels.get? (g.cluster.idOf r) with
  | some channel => exact ⟨accounted, accounted.named _ channel cached, rfl⟩
  | none =>
      have last : ((g.opened ++ [(g.cluster.idOf r, g.address r)])[g.opened.length]?).map Prod.fst = some (g.cluster.idOf r) := by simp
      refine ⟨⟨?_, ?_, ?_⟩, last, rfl⟩
      · have moved : (g.channels.values ++ [g.opened.length] ++ (g.closing ++ g.closed)).Perm
            (g.channels.values ++ (g.closing ++ g.closed) ++ [g.opened.length]) := by
          rw [List.append_assoc, List.append_assoc]
          exact List.Perm.append_left _ List.perm_append_comm
        rw [Dict.values_set_new g.channels _ _ cached, List.length_append, List.length_singleton, List.range_succ]
        exact moved.trans (accounted.once.append_right _)
      · intro serverId channel found
        rw [Dict.get_set] at found
        split at found
        · rename_i same
          rw [← Option.some.inj found, same]
          exact last
        · exact opened_kept _ _ channel serverId (accounted.named serverId channel found)
      · exact fun call member => opened_kept _ _ _ _ (accounted.used call member)

theorem close_accounted (g : GrpcCluster) (serverId : String) (accounted : g.Accounted) : (g.closeChannel serverId).Accounted := by
  unfold closeChannel
  cases cached : g.channels.get? serverId with
  | none => exact accounted
  | some channel =>
      refine ⟨?_, ?_, accounted.used⟩
      · have moved : ((g.channels.erase serverId).values ++ (g.closing ++ [channel] ++ g.closed)).Perm
            (channel :: (g.channels.erase serverId).values ++ (g.closing ++ g.closed)) := by
          rw [List.append_assoc, List.cons_append]
          refine (List.Perm.append_left _ List.perm_middle).trans List.perm_middle
        exact moved.trans (((Dict.values_erase g.channels serverId channel cached).symm.append_right _).trans accounted.once)
      · intro other found here
        rw [Dict.get_erase] at here
        split at here
        · cases here
        · exact accounted.named other found here

theorem get_channel_accounted (g : GrpcCluster) (affinityKey : Option String) (draw : ℚ) (accounted : g.Accounted) :
    (g.getChannel affinityKey draw).Accounted := by
  have ids : (g.cluster.getServer affinityKey draw).2.idOf = g.cluster.idOf := (still_get_server g.cluster affinityKey draw).ids
  unfold getChannel
  rcases chosen : g.cluster.getServer affinityKey draw with ⟨found, after⟩
  rw [chosen] at ids
  have served : ({ g with cluster := after } : GrpcCluster).Accounted :=
    accounted_same g _ accounted rfl rfl rfl rfl ids fun _ member => member
  cases found with
  | none => exact served
  | some r =>
      obtain ⟨ensured, named, cluster⟩ := ensure_accounted _ r served
      dsimp only
      refine ⟨ensured.once, ensured.named, ?_⟩
      intro call member
      simp only [List.mem_append, List.mem_singleton] at member
      rcases member with (before | rfl) | failed
      · exact ensured.used call (List.mem_append_left _ before)
      · rw [cluster]
        exact named
      · exact ensured.used call (List.mem_append_right _ failed)

theorem finish_accounted (g after : GrpcCluster) (i : Nat) (raised : Bool) (elapsedMs : ℚ) (accounted : g.Accounted)
    (taken : g.finish i raised elapsedMs = some after) : after.Accounted := by
  obtain ⟨call, here, rfl⟩ := Option.map_eq_some_iff.mp taken
  have timed : (g.cluster.recordLatency call.server elapsedMs).idOf = g.cluster.idOf :=
    step_ids smallestRing g.cluster (.recordLatency call.server elapsedMs)
  have present : call ∈ g.calls := List.mem_of_getElem? here
  cases raised with
  | false =>
      refine accounted_same g _ accounted rfl rfl rfl rfl timed fun other member => ?_
      rcases List.mem_append.mp member with left | failed
      · exact List.mem_append_left _ (List.mem_of_mem_eraseIdx left)
      · exact List.mem_append_right _ failed
  | true =>
      refine accounted_same g _ accounted rfl rfl rfl rfl ((metrics_ids _ call.server _).trans timed) fun other member => ?_
      simp only [if_true, List.mem_append, List.mem_singleton] at member
      rcases member with left | failed | rfl
      · exact List.mem_append_left _ (List.mem_of_mem_eraseIdx left)
      · exact List.mem_append_right _ failed
      · exact List.mem_append_left _ present

theorem judge_accounted (g after : GrpcCluster) (i : Nat) (accounted : g.Accounted) (taken : g.judge i = some after) : after.Accounted := by
  obtain ⟨call, here, rfl⟩ := Option.map_eq_some_iff.mp taken
  have left : ∀ other ∈ g.calls ++ g.failed.eraseIdx i, other ∈ g.calls ++ g.failed := by
    intro other member
    rcases List.mem_append.mp member with running | failed
    · exact List.mem_append_left _ running
    · exact List.mem_append_right _ (List.mem_of_mem_eraseIdx failed)
  dsimp only
  split
  · exact close_accounted _ _ (accounted_same g _ accounted rfl rfl rfl rfl
      (metrics_ids g.cluster call.server fun m => { m with isHealthy := false }) left)
  · exact accounted_same g _ accounted rfl rfl rfl rfl rfl left

theorem accounted_next (cfg : Config) (g after : GrpcCluster) (event : GrpcEvent) (accounted : g.Accounted)
    (taken : g.next cfg event = some after) : after.Accounted := by
  cases event with
  | cluster op =>
      cases taken
      exact accounted_same g _ accounted rfl rfl rfl rfl (step_ids cfg g.cluster op) fun _ member => member
  | channelFor r =>
      cases taken
      exact (ensure_accounted g r accounted).1
  | getChannel affinityKey draw =>
      cases taken
      exact get_channel_accounted g affinityKey draw accounted
  | finish i raised elapsedMs => exact finish_accounted g after i raised elapsedMs accounted taken
  | judge i => exact judge_accounted g after i accounted taken
  | stop =>
      cases taken
      exact accounted_same g _ accounted rfl rfl rfl rfl rfl fun _ member => member
  | sweep i =>
      obtain ⟨ids, here, rfl⟩ := Option.map_eq_some_iff.mp taken
      cases ids with
      | nil => exact accounted_same g _ accounted rfl rfl rfl rfl rfl fun _ member => member
      | cons serverId rest =>
          exact close_accounted _ serverId (accounted_same g _ accounted rfl rfl rfl rfl rfl fun _ member => member)
  | close i =>
      obtain ⟨channel, here, rfl⟩ := Option.map_eq_some_iff.mp taken
      have inside := (List.getElem?_eq_some_iff.mp here).1
      have found := (List.getElem?_eq_some_iff.mp here).2
      have moved : (g.closing.eraseIdx i ++ (g.closed ++ [channel])).Perm (g.closing ++ g.closed) := by
        have split : (channel :: g.closing.eraseIdx i).Perm g.closing := found ▸ List.getElem_cons_eraseIdx_perm inside
        rw [← List.append_assoc]
        exact List.perm_append_singleton channel _ |>.trans (split.append_right g.closed)
      exact ⟨(List.Perm.append_left _ moved).trans accounted.once, accounted.named, accounted.used⟩

def Covered (opened : Nat) (g : GrpcCluster) : Prop :=
  opened ≤ g.opened.length ∧
    (g.opened.length = opened → ∀ serverId channel, g.channels.get? serverId = some channel → ∃ ids ∈ g.sweeps, serverId ∈ ids)

theorem covered_same (opened : Nat) (g after : GrpcCluster) (covered : Covered opened g) (more : g.opened.length ≤ after.opened.length)
    (fewer : after.opened.length = g.opened.length → ∀ serverId channel, after.channels.get? serverId = some channel →
      g.channels.get? serverId = some channel)
    (sweeps : after.sweeps = g.sweeps) : Covered opened after := by
  refine ⟨covered.1.trans more, fun still serverId channel cached => ?_⟩
  have least := covered.1
  rw [sweeps]
  exact covered.2 (by omega) serverId channel (fewer (by omega) serverId channel cached)

theorem ensure_covered (opened : Nat) (g : GrpcCluster) (r : Ref) (covered : Covered opened g) : Covered opened (g.ensureChannel r).2 := by
  unfold ensureChannel
  split
  · exact covered
  · refine covered_same opened g _ covered (by simp) (fun same => ?_) rfl
    simp at same

theorem close_fewer (g : GrpcCluster) (serverId other : String) (channel : Nat)
    (cached : (g.closeChannel serverId).channels.get? other = some channel) :
    other ≠ serverId ∧ g.channels.get? other = some channel := by
  unfold closeChannel at cached
  split at cached
  · rename_i absent
    refine ⟨?_, cached⟩
    rintro rfl
    rw [absent] at cached
    cases cached
  · rw [Dict.get_erase] at cached
    split at cached
    · cases cached
    · rename_i apart
      exact ⟨apart, cached⟩

theorem close_opened (g : GrpcCluster) (serverId : String) :
    (g.closeChannel serverId).opened = g.opened ∧ (g.closeChannel serverId).sweeps = g.sweeps := by
  unfold closeChannel
  split <;> exact ⟨rfl, rfl⟩

theorem close_covered (opened : Nat) (g : GrpcCluster) (serverId : String) (covered : Covered opened g) :
    Covered opened (g.closeChannel serverId) := by
  obtain ⟨same, sweeps⟩ := close_opened g serverId
  exact covered_same opened g _ covered (by rw [same])
    (fun _ other channel cached => (close_fewer g serverId other channel cached).2) sweeps

theorem sweep_covered (opened : Nat) (g after : GrpcCluster) (i : Nat) (covered : Covered opened g) (taken : g.sweep i = some after) :
    Covered opened after := by
  obtain ⟨ids, here, rfl⟩ := Option.map_eq_some_iff.mp taken
  cases ids with
  | nil =>
      refine ⟨covered.1, fun still serverId channel cached => ?_⟩
      obtain ⟨rest, member, inside⟩ := covered.2 still serverId channel cached
      obtain ⟨j, place⟩ := List.mem_iff_getElem?.mp member
      have elsewhere : j ≠ i := by
        rintro rfl
        rw [here] at place
        cases place
        cases inside
      exact ⟨rest, List.mem_eraseIdx_iff_getElem?.mpr ⟨j, elsewhere, place⟩, inside⟩
  | cons first rest =>
      obtain ⟨same, sweeps⟩ := close_opened { g with sweeps := g.sweeps.set i rest } first
      dsimp only
      rw [Covered, same, sweeps]
      refine ⟨covered.1, fun still serverId channel cached => ?_⟩
      obtain ⟨apart, before⟩ := close_fewer _ first serverId channel cached
      obtain ⟨ids, member, inside⟩ := covered.2 still serverId channel before
      obtain ⟨j, place⟩ := List.mem_iff_getElem?.mp member
      by_cases swept : j = i
      · subst swept
        obtain rfl := Option.some.inj (here.symm.trans place)
        have later : serverId ∈ rest := (List.mem_cons.mp inside).resolve_left apart
        exact ⟨rest, List.mem_set (List.getElem?_eq_some_iff.mp here).1 rest, later⟩
      · exact ⟨ids, List.mem_iff_getElem?.mpr ⟨j, (List.getElem?_set_ne (Ne.symm swept)).trans place⟩, inside⟩

theorem covered_next (cfg : Config) (opened : Nat) (g after : GrpcCluster) (event : GrpcEvent) (covered : Covered opened g)
    (taken : g.next cfg event = some after) : Covered opened after := by
  have kept (state : GrpcCluster) (same : state.opened = g.opened) (channels : state.channels = g.channels)
      (sweeps : state.sweeps = g.sweeps) : Covered opened state :=
    covered_same opened g state covered (by rw [same]) (fun _ serverId channel cached => channels ▸ cached) sweeps
  cases event with
  | cluster op =>
      cases taken
      exact kept _ rfl rfl rfl
  | channelFor r =>
      cases taken
      exact ensure_covered opened g r covered
  | getChannel affinityKey draw =>
      cases taken
      unfold getChannel
      rcases g.cluster.getServer affinityKey draw with ⟨_ | r, after⟩
      · exact kept _ rfl rfl rfl
      · exact ensure_covered opened { g with cluster := after } r (kept _ rfl rfl rfl)
  | finish i raised elapsedMs =>
      obtain ⟨call, here, rfl⟩ := Option.map_eq_some_iff.mp taken
      cases raised <;> exact kept _ rfl rfl rfl
  | judge i =>
      obtain ⟨call, here, rfl⟩ := Option.map_eq_some_iff.mp taken
      dsimp only
      split
      · exact close_covered opened _ _ (kept
          (({ g with failed := g.failed.eraseIdx i } : GrpcCluster).markUnhealthy call.server) rfl rfl rfl)
      · exact kept _ rfl rfl rfl
  | stop =>
      cases taken
      refine ⟨covered.1, fun still serverId channel cached => ?_⟩
      obtain ⟨ids, member, inside⟩ := covered.2 still serverId channel cached
      exact ⟨ids, List.mem_append_left _ member, inside⟩
  | sweep i => exact sweep_covered opened g after i covered taken
  | close i =>
      obtain ⟨channel, here, rfl⟩ := Option.map_eq_some_iff.mp taken
      exact kept _ rfl rfl rfl

theorem stop_covered (g : GrpcCluster) : Covered g.opened.length g.stop := by
  refine ⟨le_refl _, fun _ serverId channel cached => ?_⟩
  refine ⟨g.channels.entries.map Prod.fst, List.mem_append_right _ (List.mem_singleton.mpr rfl), ?_⟩
  exact List.mem_map.mpr ⟨(serverId, channel), (Dict.get_mem g.channels serverId channel).mp cached, rfl⟩

end GrpcCluster

-- No channel is lost, and none is closed twice, however calls, failures, stops and the
-- operations of the cluster interleave; and when a stop is over and no channel was opened
-- since, none is left in the dict.
theorem channels_accounted (cfg : Config) (cluster : Cluster) (address : Ref → Address) (g : GrpcCluster) (events : List GrpcEvent)
    (run : GrpcRun cfg (fun _ _ => True) { cluster := cluster, address := address } events g) :
    g.Accounted ∧ ∀ last later, GrpcRun cfg (fun _ _ => True) g.stop later last → last.opened.length = g.opened.length →
      last.sweeps = [] → last.channels = .empty ∧ (last.closing ++ last.closed).Perm (List.range last.opened.length) := by
  have fresh : GrpcCluster.Accounted { cluster := cluster, address := address } :=
    ⟨.refl _, fun _ _ cached => absurd cached (by simp), fun _ member => absurd member List.not_mem_nil⟩
  have kept := fun (state : GrpcCluster) (event : GrpcEvent) (after : GrpcCluster) (held : state.Accounted) (_ : True)
    (taken : state.next cfg event = some after) => GrpcCluster.accounted_next cfg state after event held taken
  have accounted : g.Accounted := Runs.run_invariant _ _ GrpcCluster.Accounted kept _ g events fresh run
  refine ⟨accounted, fun last later after unopened swept => ?_⟩
  have stopped : g.stop.Accounted := kept g .stop g.stop accounted trivial rfl
  have ended : last.Accounted := Runs.run_invariant _ _ GrpcCluster.Accounted kept _ last later stopped after
  have covered : GrpcCluster.Covered g.opened.length last := Runs.run_invariant _ _ (GrpcCluster.Covered g.opened.length)
    (fun state event after held _ taken => GrpcCluster.covered_next cfg _ state after event held taken) _ last later g.stop_covered after
  have empty : last.channels = .empty := by
    refine Dict.ext (List.eq_nil_iff_forall_not_mem.mpr ?_)
    rintro ⟨serverId, channel⟩ entry
    obtain ⟨ids, member, _⟩ := covered.2 unopened serverId channel ((Dict.get_mem _ _ _).mpr entry)
    rw [swept] at member
    cases member
  have once := ended.once
  rw [empty] at once
  exact ⟨empty, once⟩

-- One of two calls fails and closes the channel of both; a stop closes the next one.
theorem channels_accounted_stopped : ∃ g last : GrpcCluster, g.closed = [0] ∧ g.Accounted ∧
    last.closed = [0, 1] ∧ last.channels = .empty := by
  let server : GrpcCluster := {
    cluster := .empty {} (fun r => { id := toString r, metrics := { errorRate := 1 / 2 } }) none none none ⟨fun ticks => ticks, 0⟩
    address := fun _ => ⟨"10.0.0.1", 50051⟩ }
  have followed : ∃ g ∈ Runs.follow (GrpcCluster.next {}) (fun _ _ => True) server
      [.cluster (.addServer 0 true), .getChannel none 0, .getChannel none 0, .finish 0 true 100, .judge 0, .channelFor 0, .close 0,
        .finish 0 false 100], g.closed = [0] ∧ ∃ last ∈ Runs.follow (GrpcCluster.next {}) (fun _ _ => True) g.stop
        [.sweep 0, .sweep 0, .close 0], last.opened.length = g.opened.length ∧ last.sweeps = [] ∧ last.closed = [0, 1] := by
    decide +kernel
  obtain ⟨g, reached, closed, last, after, unopened, swept, all⟩ := followed
  obtain ⟨accounted, stopped⟩ := channels_accounted {} server.cluster server.address g _ (Runs.follow_run _ _ _ g _ reached)
  exact ⟨g, last, closed, accounted, all, (stopped last _ (Runs.follow_run _ _ _ last _ after) unopened swept).1⟩

namespace GrpcCluster

-- A step that does not take the channel of an id out of the dict.
def Spares (serverId : String) (g : GrpcCluster) : GrpcEvent → Prop
  | .judge i => ∀ call ∈ g.failed[i]?, g.cluster.idOf call.server = serverId → g.unhealthy call.server = false
  | .sweep i => ∀ ids ∈ g.sweeps[i]?, ids.head? ≠ some serverId
  | _ => True

instance (serverId : String) (g : GrpcCluster) (event : GrpcEvent) : Decidable (g.Spares serverId event) := by
  unfold Spares
  split <;> infer_instance

theorem close_cached (g : GrpcCluster) (serverId other : String) (channel : Nat) (cached : g.channels.get? other = some channel) :
    (g.closeChannel serverId).channels.get? other = some channel ↔ other ≠ serverId := by
  constructor
  · exact fun still => (close_fewer g serverId other channel still).1
  · intro apart
    unfold closeChannel
    split
    · exact cached
    · rw [Dict.get_erase, if_neg apart]
      exact cached

theorem ensure_cached (g : GrpcCluster) (r : Ref) (serverId : String) (channel : Nat) (cached : g.channels.get? serverId = some channel) :
    (g.ensureChannel r).2.channels.get? serverId = some channel := by
  unfold ensureChannel
  split
  · exact cached
  · rename_i absent
    have other : serverId ≠ g.cluster.idOf r := by
      rintro rfl
      rw [absent] at cached
      cases cached
    rw [Dict.get_set, if_neg other]
    exact cached

theorem cached_next (cfg : Config) (g after : GrpcCluster) (event : GrpcEvent) (serverId : String) (channel : Nat)
    (cached : g.channels.get? serverId = some channel) (taken : g.next cfg event = some after) :
    after.channels.get? serverId = some channel ↔ g.Spares serverId event := by
  cases event with
  | cluster op =>
      cases taken
      exact iff_of_true cached trivial
  | channelFor r =>
      cases taken
      exact iff_of_true (ensure_cached g r serverId channel cached) trivial
  | getChannel affinityKey draw =>
      cases taken
      refine iff_of_true ?_ trivial
      unfold getChannel
      rcases g.cluster.getServer affinityKey draw with ⟨_ | r, after⟩
      · exact cached
      · exact ensure_cached { g with cluster := after } r serverId channel cached
  | finish i raised elapsedMs =>
      obtain ⟨call, here, rfl⟩ := Option.map_eq_some_iff.mp taken
      cases raised <;> exact iff_of_true cached trivial
  | judge i =>
      obtain ⟨call, here, rfl⟩ := Option.map_eq_some_iff.mp taken
      simp only [Spares, here, Option.mem_some_iff, forall_eq']
      cases judged : g.unhealthy call.server with
      | true =>
          rw [if_pos rfl, close_cached (({ g with failed := g.failed.eraseIdx i } : GrpcCluster).markUnhealthy
            call.server) _ serverId channel cached]
          simp [eq_comm]
      | false => exact iff_of_true cached fun _ => rfl
  | stop =>
      cases taken
      exact iff_of_true cached trivial
  | sweep i =>
      obtain ⟨ids, here, rfl⟩ := Option.map_eq_some_iff.mp taken
      simp only [Spares, here, Option.mem_some_iff, forall_eq']
      cases ids with
      | nil => exact iff_of_true cached (by simp)
      | cons first rest =>
          dsimp only
          rw [close_cached { g with sweeps := g.sweeps.set i rest } first serverId channel cached]
          simp [eq_comm]
  | close i =>
      obtain ⟨closed, here, rfl⟩ := Option.map_eq_some_iff.mp taken
      exact iff_of_true cached trivial

end GrpcCluster

-- The channel of a server is shared by its calls until the first of them that fails at an
-- error rate of more than one half, or a stop, takes it away; nothing else of the cluster
-- does, neither an eviction nor the removal of the server.
theorem channel_lasts_iff (cfg : Config) (start last : GrpcCluster) (events : List GrpcEvent) (serverId : String) (channel : Nat)
    (cached : start.channels.get? serverId = some channel) (run : GrpcRun cfg (fun _ _ => True) start events last) :
    Runs.Always (GrpcCluster.next cfg) start events (fun g => g.channels.get? serverId = some channel) ↔
      GrpcRun cfg (GrpcCluster.Spares serverId) start events last :=
  Runs.run_always (GrpcCluster.next cfg) _ (fun _ => True) _ (fun _ _ _ _ _ => trivial)
    (fun state event after _ held taken => GrpcCluster.cached_next cfg state after event serverId channel held taken) start last events
    trivial cached run

-- The server is removed and its only call fails, yet at a low error rate.
theorem channel_lasts_removed : ∃ start last : GrpcCluster, start.channels.get? "0" = some 0 ∧ last.failed.length = 0 ∧
    last.cluster.allServers = [] ∧ last.channels.get? "0" = some 0 := by
  let server : GrpcCluster := {
    cluster := .empty {} (fun r => { id := toString r }) none none none ⟨fun ticks => ticks, 0⟩
    address := fun _ => ⟨"10.0.0.1", 50051⟩ }
  have followed : ∃ start ∈ Runs.follow (GrpcCluster.next {}) (fun _ _ => True) server [.cluster (.addServer 0 true),
    .getChannel none 0],
      start.channels.get? "0" = some 0 ∧ ∃ last ∈ Runs.follow (GrpcCluster.next {}) (GrpcCluster.Spares "0") start
        [.cluster (.removeServer "0"), .finish 0 true 100, .judge 0], last.failed.length = 0 ∧ last.cluster.allServers = [] := by
    decide +kernel
  obtain ⟨start, _, cached, last, reached, failed, removed⟩ := followed
  have spared := Runs.follow_run _ _ _ last _ reached
  have free := Runs.run_free _ _ _ last _ spared
  exact ⟨start, last, cached, failed, removed,
    (channel_lasts_iff {} start last _ "0" 0 cached free).mpr spared _ [] last (List.append_nil _) free⟩

end HuddleCluster.Grpc
