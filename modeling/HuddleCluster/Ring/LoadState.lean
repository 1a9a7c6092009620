import HuddleCluster.Ring.SavedState

set_option autoImplicit false

namespace HuddleCluster.Ring

open SavedState

namespace SavedState

-- What an entry says about a server, in the order in which it is read.
inductive Slot where
  | temperature
  | avgResponseMs
  | errorRate
  | latencyAnomalyScore
  | rotationCount
  | totalInnerTime
  | totalOuterTime
  | histogramSamples
deriving DecidableEq, Repr

def slots : List Slot :=
  [.temperature, .avgResponseMs, .errorRate, .latencyAnomalyScore, .rotationCount, .totalInnerTime, .totalOuterTime, .histogramSamples]

def floatOf (data : List (String × Json)) (key : String) : Option ℚ := Json.toRational? ((Json.find? data key).getD (.number 0))

def intOf (data : List (String × Json)) (key : String) : Option Int := Json.toInt? ((Json.find? data key).getD (.int 0))

def samplesOf (data : List (String × Json)) (key : String) : Option (List ℚ) :=
  ((Json.find? data key).getD (.arr [])).iterate?.bind fun items => items.mapM Json.toRational?

namespace Slot

def readable (data : List (String × Json)) : Slot → Bool
  | temperature => (floatOf data "temperature").isSome
  | avgResponseMs => (floatOf data "avg_response_ms").isSome
  | errorRate => (floatOf data "error_rate").isSome
  | latencyAnomalyScore => (floatOf data "latency_anomaly_score").isSome
  | rotationCount => (intOf data "rotation_count").isSome
  | totalInnerTime => (floatOf data "total_inner_time").isSome
  | totalOuterTime => (floatOf data "total_outer_time").isSome
  | histogramSamples => (samplesOf data "histogram_samples").isSome

-- A server has already what the entry says. The rotation count is none of its
-- metrics, temperature and timers.
def held (data : List (String × Json)) (s : Server) : Slot → Prop
  | temperature => floatOf data "temperature" = some s.temperature
  | avgResponseMs => floatOf data "avg_response_ms" = some s.metrics.avgResponseMs
  | errorRate => floatOf data "error_rate" = some s.metrics.errorRate
  | latencyAnomalyScore => floatOf data "latency_anomaly_score" = some s.metrics.latencyAnomalyScore
  | rotationCount => True
  | totalInnerTime => floatOf data "total_inner_time" = some s.totalInnerTime
  | totalOuterTime => floatOf data "total_outer_time" = some s.totalOuterTime
  | histogramSamples => ∃ samples, samplesOf data "histogram_samples" = some samples ∧
      s.metrics.histogramWindow = tail 1000 samples ∧ s.metrics.latencyWindow = tail 10 samples

def assign (data : List (String × Json)) : Slot → Server → Option Server
  | temperature => floatField data "temperature" fun value s => { s with temperature := value }
  | avgResponseMs => floatField data "avg_response_ms" fun value s => { s with metrics := { s.metrics with avgResponseMs := value } }
  | errorRate => floatField data "error_rate" fun value s => { s with metrics := { s.metrics with errorRate := value } }
  | latencyAnomalyScore =>
      floatField data "latency_anomaly_score" fun value s => { s with metrics := { s.metrics with latencyAnomalyScore := value } }
  | rotationCount => intField data "rotation_count" fun value s => { s with rotationCount := value }
  | totalInnerTime => floatField data "total_inner_time" fun value s => { s with totalInnerTime := value }
  | totalOuterTime => floatField data "total_outer_time" fun value s => { s with totalOuterTime := value }
  | histogramSamples => samplesField data "histogram_samples" storeWindows

end Slot

theorem assignments_slots (data : List (String × Json)) : assignments data = slots.map (Slot.assign data) := rfl

def readableEntry : Json → Bool
  | .obj data => slots.all (Slot.readable data)
  | _ => false

-- What is read of an entry before the first thing that cannot be read.
def HeldAhead (s : Server) : Json → Prop
  | .obj data => ∀ slot ∈ slots.takeWhile (Slot.readable data), slot.held data s
  | _ => True

-- The metrics, the temperature and the timers of a server.
structure Kept (before after : Server) : Prop where
  metrics : after.metrics = before.metrics
  temperature : after.temperature = before.temperature
  lastRotated : after.lastRotated = before.lastRotated
  totalInnerTime : after.totalInnerTime = before.totalInnerTime
  totalOuterTime : after.totalOuterTime = before.totalOuterTime
  coldUntil : after.coldUntil = before.coldUntil

theorem samples_field (data : List (String × Json)) (key : String) (store : List ℚ → Server → Server) (s : Server) :
    samplesField data key store s = (samplesOf data key).map fun samples => store samples s := by
  rw [samplesField, samplesOf]
  cases ((Json.find? data key).getD (.arr [])).iterate? <;> rfl

theorem assign_readable (data : List (String × Json)) (slot : Slot) (s : Server) :
    (slot.assign data s).isSome = slot.readable data := by
  cases slot <;> simp [Slot.assign, Slot.readable, floatField, intField, samples_field, floatOf, intOf]

theorem assign_reads (data : List (String × Json)) (slot : Slot) (s after : Server) (taken : slot.assign data s = some after) :
    slot.held data after := by
  cases slot with
  | histogramSamples =>
      rw [Slot.assign, samples_field] at taken
      obtain ⟨samples, read, rfl⟩ := Option.map_eq_some_iff.mp taken
      exact ⟨samples, read, by rw [storeWindows], by rw [storeWindows, tail_tail]⟩
  | rotationCount => trivial
  | _ =>
      rw [Slot.assign, floatField] at taken
      obtain ⟨value, read, rfl⟩ := Option.map_eq_some_iff.mp taken
      exact read

-- The windows are stored cut to their sizes, and what was cut stays cut.
theorem assign_frame (data : List (String × Json)) (slot : Slot) (s after : Server) (taken : slot.assign data s = some after) :
    after.id = s.id ∧ (∀ other, other ≠ slot → other.held data s → other.held data after) ∧
    (slot.held data s → Kept s after) := by
  cases slot with
  | histogramSamples =>
      rw [Slot.assign, samples_field] at taken
      obtain ⟨samples, read, rfl⟩ := Option.map_eq_some_iff.mp taken
      refine ⟨rfl, fun other apart held => by cases other <;> first | exact absurd rfl apart | exact held, fun held => ?_⟩
      obtain ⟨same, again, histogram, latency⟩ := held
      cases read.symm.trans again
      exact ⟨by rw [storeWindows, tail_tail, ← histogram, ← latency], rfl, rfl, rfl, rfl, rfl⟩
  | rotationCount =>
      rw [Slot.assign, intField] at taken
      obtain ⟨value, read, rfl⟩ := Option.map_eq_some_iff.mp taken
      exact ⟨rfl, fun other _ held => by cases other <;> exact held, fun _ => ⟨rfl, rfl, rfl, rfl, rfl, rfl⟩⟩
  | _ =>
      rw [Slot.assign, floatField] at taken
      obtain ⟨value, read, rfl⟩ := Option.map_eq_some_iff.mp taken
      refine ⟨rfl, fun other apart held => by cases other <;> first | exact absurd rfl apart | exact held, fun held => ?_⟩
      cases Option.some.inj (read.symm.trans held)
      exact ⟨rfl, rfl, rfl, rfl, rfl, rfl⟩

theorem kept_held (data : List (String × Json)) (slot : Slot) (s after : Server) (kept : Kept s after) :
    slot.held data after ↔ slot.held data s := by
  obtain ⟨metrics, temperature, _, totalInnerTime, totalOuterTime, _⟩ := kept
  cases slot <;> simp [Slot.held, metrics, temperature, totalInnerTime, totalOuterTime]

theorem kept_trans (first second third : Server) (early : Kept first second) (late : Kept second third) : Kept first third :=
  ⟨late.metrics.trans early.metrics, late.temperature.trans early.temperature, late.lastRotated.trans early.lastRotated,
    late.totalInnerTime.trans early.totalInnerTime, late.totalOuterTime.trans early.totalOuterTime, late.coldUntil.trans early.coldUntil⟩

theorem perform_slots (data : List (String × Json)) (slots : List Slot) (s : Server) :
    (perform (slots.map (Slot.assign data)) s).2 = slots.all (Slot.readable data) ∧
      (perform (slots.map (Slot.assign data)) s).1.id = s.id := by
  induction slots generalizing s with
  | nil => exact ⟨rfl, rfl⟩
  | cons slot rest ih =>
      rw [List.map_cons, perform, List.all_cons, ← assign_readable data slot s]
      cases taken : slot.assign data s with
      | none => exact ⟨rfl, rfl⟩
      | some after =>
          obtain ⟨reads, same⟩ := ih after
          exact ⟨by simpa using reads, same.trans (assign_frame data slot s after taken).1⟩

theorem perform_held (data : List (String × Json)) (slots : List Slot) (s : Server) (slot : Slot)
    (held : slot.held data s ∨ slot ∈ slots.takeWhile (Slot.readable data)) :
    slot.held data (perform (slots.map (Slot.assign data)) s).1 := by
  induction slots generalizing s with
  | nil => simpa [perform] using held
  | cons first rest ih =>
      rw [List.map_cons, perform]
      cases taken : first.assign data s with
      | none =>
          rw [List.takeWhile_cons, ← assign_readable data first s, taken] at held
          simpa using held
      | some after =>
          refine ih after ?_
          rw [List.takeWhile_cons, ← assign_readable data first s, taken] at held
          by_cases same : slot = first
          · exact Or.inl (same ▸ assign_reads data first s after taken)
          · rcases held with old | read
            · exact Or.inl ((assign_frame data first s after taken).2.1 slot same old)
            · exact Or.inr ((List.mem_cons.mp read).resolve_left same)

theorem perform_kept (data : List (String × Json)) (slots : List Slot) (s : Server)
    (held : ∀ slot ∈ slots.takeWhile (Slot.readable data), slot.held data s) :
    Kept s (perform (slots.map (Slot.assign data)) s).1 := by
  induction slots generalizing s with
  | nil => exact ⟨rfl, rfl, rfl, rfl, rfl, rfl⟩
  | cons slot rest ih =>
      rw [List.map_cons, perform]
      rw [List.takeWhile_cons, ← assign_readable data slot s] at held
      cases taken : slot.assign data s with
      | none => exact ⟨rfl, rfl, rfl, rfl, rfl, rfl⟩
      | some after =>
          rw [taken] at held
          have kept := (assign_frame data slot s after taken).2.2 (held slot List.mem_cons_self)
          refine kept_trans s after _ kept (ih after fun other member => ?_)
          exact (kept_held data other s after kept).mpr (held other (List.mem_cons_of_mem slot member))

theorem restore_reads (s : Server) (entry : Json) :
    (restoreServer assignments s entry).2 = readableEntry entry ∧ (restoreServer assignments s entry).1.id = s.id := by
  cases entry with
  | obj data => exact perform_slots data slots s
  | _ => exact ⟨rfl, rfl⟩

theorem restore_kept (s : Server) (entry : Json) : Kept s (restoreServer assignments s entry).1 ↔ HeldAhead s entry := by
  cases entry with
  | obj data =>
      constructor
      · intro kept slot read
        exact (kept_held data slot s _ kept).mp (perform_held data slots s slot (Or.inr read))
      · exact perform_kept data slots s
  | _ => exact iff_of_true ⟨rfl, rfl, rfl, rfl, rfl, rfl⟩ trivial

-- What a path leads to, and what json.load makes of it.
inductive StateFile where
  | missing
  | unreadable
  | parsed (state : Json)

-- Nothing is looked at before the file has been parsed.
def loadFile (c : Cluster) : StateFile → Cluster × Option Nat
  | .missing => loadState c none
  | .unreadable => (c, none)
  | .parsed state => loadState c (some state)

-- The entries of a file, if it is an object with an object of servers.
def StateFile.entries? : StateFile → Option (List (String × Json))
  | .parsed (.obj state) =>
      match (Json.find? state "servers").getD (.obj []) with
      | .obj servers => some (Json.toDict servers).entries
      | _ => none
  | _ => none

-- Each server with an entry has been given all of it.
def Applied (c : Cluster) (entries : List (String × Json)) (loaded : Cluster) : Prop :=
  ∀ serverId data r, (serverId, data) ∈ entries → c.findServer serverId = some r →
    readableEntry data = true ∧ loaded.objects r = (restoreServer assignments (c.objects r) data).1

def AllOrNothing (c : Cluster) (file : StateFile) (loaded : Cluster) : Prop :=
  (∃ entries, file.entries? = some entries ∧ Applied c entries loaded) ∨ ∀ r, Kept (c.objects r) (loaded.objects r)

-- The entries of the servers can all be read; or what is read before the first
-- thing that cannot be is what the servers have already.
def Loadable (c : Cluster) (file : StateFile) : Prop :=
  ∀ entries, file.entries? = some entries →
    (∀ entry ∈ entries, (currentServers c).contains entry.1 = true → readableEntry entry.2 = true) ∨
      ∀ entry ∈ walked (currentServers c) readableEntry entries, ∀ r, c.findServer entry.1 = some r →
        HeldAhead (c.objects r) entry.2

theorem kept_refl (s : Server) : Kept s s := ⟨rfl, rfl, rfl, rfl, rfl, rfl⟩

theorem load_file_entries (c : Cluster) (file : StateFile) : (loadFile c file).1 =
    match file.entries? with
    | none => c
    | some entries => (loadEntries (restoreServer assignments) (currentServers c) entries 0 c).1 := by
  cases file with
  | missing => rfl
  | unreadable => rfl
  | parsed state =>
      cases state with
      | obj fields =>
          simp only [loadFile, loadState, loadFrom, StateFile.entries?]
          cases (Json.find? fields "servers").getD (.obj []) <;> rfl
      | _ => rfl

theorem entries_distinct (file : StateFile) (entries : List (String × Json)) (read : file.entries? = some entries) :
    (entries.map Prod.fst).Nodup := by
  simp only [StateFile.entries?] at read
  split at read
  · split at read
    · cases read
      exact (Json.toDict _).nodup
    · cases read
  · cases read

theorem last_walked (current : Dict String Ref) (entries : List (String × Json)) (distinct : (entries.map Prod.fst).Nodup)
    (serverId : String) (data : Json) : Dict.last? (walked current readableEntry entries) serverId = some data ↔
      (serverId, data) ∈ walked current readableEntry entries := by
  have nodup := distinct.sublist ((walked_sublist current readableEntry entries).map Prod.fst)
  have dict := Dict.last_entries ⟨_, nodup⟩ serverId
  simp only at dict
  rw [dict, Dict.get_mem]

theorem load_state_atomic_iff (c : Cluster) (file : StateFile) : AllOrNothing c file (loadFile c file).1 ↔ Loadable c file := by
  rw [load_file_entries, AllOrNothing, Loadable]
  cases read : file.entries? with
  | none => exact iff_of_true (Or.inr fun r => kept_refl (c.objects r)) fun entries same => by cases same
  | some entries =>
      have distinct := entries_distinct file entries read
      have named : ∀ serverId r, (currentServers c).get? serverId = some r → c.idOf r = serverId := by
        intro serverId r found
        rw [get_current_servers] at found
        exact (find_server_id c serverId r found).2
      obtain ⟨loaded, total, ran, _, _, _, objects⟩ := load_entries_walk (restoreServer assignments) readableEntry (currentServers c)
        entries 0 c named (fun entry _ s => restore_reads s entry.2) distinct
      have stored (serverId : String) (data : Json) (r : Ref)
        (member : (serverId, data) ∈ walked (currentServers c) readableEntry entries)
          (found : c.findServer serverId = some r) : loaded.objects r = (restoreServer assignments (c.objects r) data).1 := by
        have current : (currentServers c).get? serverId = some r := by rw [get_current_servers, found]
        rw [objects r, named serverId r current, if_pos current, (last_walked _ _ distinct serverId data).mpr member]
      simp only [ran, Option.some.injEq, exists_eq_left', forall_eq']
      constructor
      · intro allOrNothing
        rcases allOrNothing with applied | kept
        · refine Or.inl fun entry member contained => ?_
          obtain ⟨r, found⟩ := Option.isSome_iff_exists.mp contained
          rw [get_current_servers] at found
          exact (applied entry.1 entry.2 r member found).1
        · refine Or.inr fun entry member r found => ?_
          rw [← restore_kept, ← stored entry.1 entry.2 r member found]
          exact kept r
      · intro loadable
        rcases loadable with readable | held
        · refine Or.inl fun serverId data r member found => ?_
          have contained : (currentServers c).contains serverId = true := by rw [Dict.contains, get_current_servers, found]; rfl
          refine ⟨readable (serverId, data) member contained, stored serverId data r ?_ found⟩
          rwa [walked_all _ _ _ readable]
        · refine Or.inr fun r => ?_
          rw [objects r]
          split
          · rename_i current
            split
            · exact kept_refl (c.objects r)
            · rename_i data last
              rw [get_current_servers] at current
              exact (restore_kept (c.objects r) data).mpr (held _ ((last_walked _ _ distinct _ data).mp last) r current)
          · exact kept_refl (c.objects r)

-- Two servers, and the entry of the second one has no number for a temperature.
def malformedSecond : StateFile :=
  .parsed (.obj [("servers", .obj [("0", .obj [("temperature", .number (1 / 2))]), ("1", .obj [("temperature", .str "hot")])])])

theorem second_entry_half_loads : (loadFile (savedPair toString (fun _ => 0) []) malformedSecond).2 = none ∧
    ((loadFile (savedPair toString (fun _ => 0) []) malformedSecond).1.objects 0).temperature = 1 / 2 ∧
    ¬ AllOrNothing (savedPair toString (fun _ => 0) []) malformedSecond
      (loadFile (savedPair toString (fun _ => 0) []) malformedSecond).1 := by
  have raised : (loadFile (savedPair toString (fun _ => 0) []) malformedSecond).2 = none := by decide +kernel
  have heated : ((loadFile (savedPair toString (fun _ => 0) []) malformedSecond).1.objects 0).temperature = 1 / 2 := by decide +kernel
  refine ⟨raised, heated, fun allOrNothing => ?_⟩
  rcases allOrNothing with ⟨entries, read, applied⟩ | kept
  · cases read
    have unreadable : readableEntry (.obj [("temperature", .str "hot")]) = false := by decide +kernel
    have second := applied "1" (.obj [("temperature", .str "hot")]) 1 (by decide +kernel) (by decide +kernel)
    rw [unreadable] at second
    cases second.1
  · have same := (kept 0).temperature
    rw [heated] at same
    revert same
    decide +kernel

end SavedState

end HuddleCluster.Ring
