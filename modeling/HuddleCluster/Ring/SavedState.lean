import HuddleCluster.Lib.Numeral
import HuddleCluster.Ring.Operations

set_option autoImplicit false

namespace HuddleCluster.Ring

-- The version and the clock of the process that saves.
structure Stamp where
  version : String
  savedAt : ℚ

namespace SavedState

def encodeServer (s : Server) : Json :=
  .obj [
    ("temperature", .number s.temperature),
    ("avg_response_ms", .number s.metrics.avgResponseMs),
    ("error_rate", .number s.metrics.errorRate),
    ("latency_anomaly_score", .number s.metrics.latencyAnomalyScore),
    ("rotation_count", .int s.rotationCount),
    ("total_inner_time", .number s.totalInnerTime),
    ("total_outer_time", .number s.totalOuterTime),
    ("histogram_samples", .arr (s.metrics.histogramWindow.map .number))]

-- Servers are keyed by id, so of two with one id the later one is written.
def serversData (encode : Server → Json) (c : Cluster) : Dict String Json :=
  .assign (c.allServers.map fun r => (c.idOf r, encode (c.objects r))) .empty

def stateOf (stamp : Stamp) (c : Cluster) (servers : Dict String Json) : Json :=
  .obj [
    ("version", .str stamp.version),
    ("saved_at", .number stamp.savedAt),
    ("heat_threshold", .number c.heatThreshold),
    ("servers", .obj servers.entries)]

def saveState (stamp : Stamp) (c : Cluster) : Json := stateOf stamp c (serversData encodeServer c)

def tail (size : Nat) (samples : List ℚ) : List ℚ := samples.drop (samples.length - size)

def floatField (data : List (String × Json)) (key : String) (store : ℚ → Server → Server) (s : Server) : Option Server :=
  (Json.toRational? ((Json.find? data key).getD (.number 0))).map fun value => store value s

def intField (data : List (String × Json)) (key : String) (store : Int → Server → Server) (s : Server) : Option Server :=
  (Json.toInt? ((Json.find? data key).getD (.int 0))).map fun value => store value s

def samplesField (data : List (String × Json)) (key : String) (store : List ℚ → Server → Server) (s : Server) : Option Server :=
  match ((Json.find? data key).getD (.arr [])).iterate? with
  | none => none
  | some items => (items.mapM Json.toRational?).map fun samples => store samples s

def storeWindows (samples : List ℚ) (s : Server) : Server :=
  { s with metrics := { s.metrics with
      histogramWindow := tail 1000 samples
      latencyWindow := tail 10 (tail 10 samples) } }

def assignments (data : List (String × Json)) : List (Server → Option Server) := [
  floatField data "temperature" fun value s => { s with temperature := value },
  floatField data "avg_response_ms" fun value s => { s with metrics := { s.metrics with avgResponseMs := value } },
  floatField data "error_rate" fun value s => { s with metrics := { s.metrics with errorRate := value } },
  floatField data "latency_anomaly_score" fun value s => { s with metrics := { s.metrics with latencyAnomalyScore := value } },
  intField data "rotation_count" fun value s => { s with rotationCount := value },
  floatField data "total_inner_time" fun value s => { s with totalInnerTime := value },
  floatField data "total_outer_time" fun value s => { s with totalOuterTime := value },
  samplesField data "histogram_samples" storeWindows]

-- An assignment that raises leaves what the earlier ones have stored.
def perform : List (Server → Option Server) → Server → Server × Bool
  | [], s => (s, true)
  | assignment :: rest, s =>
      match assignment s with
      | none => (s, false)
      | some after => perform rest after

def restoreServer (assign : List (String × Json) → List (Server → Option Server)) (s : Server) : Json → Server × Bool
  | .obj data => perform (assign data) s
  | _ => (s, false)

def currentServers (c : Cluster) : Dict String Ref := .assign (c.allServers.map fun r => (c.idOf r, r)) .empty

-- The number of restored servers, or none when an entry made the loop raise.
def loadEntries (restore : Server → Json → Server × Bool) (current : Dict String Ref) :
    List (String × Json) → Nat → Cluster → Cluster × Option Nat
  | [], restored, c => (c, some restored)
  | (serverId, data) :: rest, restored, c =>
      match current.get? serverId with
      | none => loadEntries restore current rest restored c
      | some r =>
          match restore (c.objects r) data with
          | (after, false) => (c.modify r fun _ => after, none)
          | (after, true) => loadEntries restore current rest (restored + 1) (c.modify r fun _ => after)

def loadFrom (restore : Server → Json → Server × Bool) (c : Cluster) : Json → Cluster × Option Nat
  | .obj state =>
      match (Json.find? state "servers").getD (.obj []) with
      | .obj servers => loadEntries restore (currentServers c) (Json.toDict servers).entries 0 c
      | _ => (c, none)
  | _ => (c, none)

-- There is no file or key before the first save.
def loadState (c : Cluster) : Option Json → Cluster × Option Nat
  | none => (c, some 0)
  | some state => loadFrom (restoreServer assignments) c state

end SavedState

namespace RedisBackend

open SavedState

def encodeServer (s : Server) : Json :=
  .obj [
    ("temperature", .number s.temperature),
    ("avg_response_ms", .number s.metrics.avgResponseMs),
    ("error_rate", .number s.metrics.errorRate),
    ("latency_anomaly_score", .number s.metrics.latencyAnomalyScore),
    ("rotation_count", .int s.rotationCount),
    ("total_inner_time", .number s.totalInnerTime),
    ("total_outer_time", .number s.totalOuterTime),
    ("histogram_samples", .arr (s.metrics.histogramWindow.map .number))]

def save (stamp : Stamp) (c : Cluster) : Json := stateOf stamp c (serversData encodeServer c)

def assignments (data : List (String × Json)) : List (Server → Option Server) := [
  floatField data "temperature" fun value s => { s with temperature := value },
  floatField data "avg_response_ms" fun value s => { s with metrics := { s.metrics with avgResponseMs := value } },
  floatField data "error_rate" fun value s => { s with metrics := { s.metrics with errorRate := value } },
  floatField data "latency_anomaly_score" fun value s => { s with metrics := { s.metrics with latencyAnomalyScore := value } },
  intField data "rotation_count" fun value s => { s with rotationCount := value },
  floatField data "total_inner_time" fun value s => { s with totalInnerTime := value },
  floatField data "total_outer_time" fun value s => { s with totalOuterTime := value },
  samplesField data "histogram_samples" storeWindows]

def load (c : Cluster) : Option Json → Cluster × Option Nat
  | none => (c, some 0)
  | some state => loadFrom (restoreServer assignments) c state

end RedisBackend

inductive Backend where
  | file
  | redis
deriving DecidableEq, Repr

namespace Backend

def serversData : Backend → Cluster → Dict String Json
  | .file => SavedState.serversData SavedState.encodeServer
  | .redis => SavedState.serversData RedisBackend.encodeServer

def save : Backend → Stamp → Cluster → Json
  | .file => SavedState.saveState
  | .redis => RedisBackend.save

def load : Backend → Cluster → Option Json → Cluster × Option Nat
  | .file => SavedState.loadState
  | .redis => RedisBackend.load

end Backend

theorem backend_servers_data (backend : Backend) (c : Cluster) :
    backend.serversData c = SavedState.serversData SavedState.encodeServer c := by
  cases backend <;> rfl

theorem backend_save (backend : Backend) (stamp : Stamp) (c : Cluster) :
    backend.save stamp c = SavedState.stateOf stamp c (backend.serversData c) := by
  cases backend <;> rfl

theorem backend_load (backend : Backend) (c : Cluster) (state : Json) :
    backend.load c (some state) = SavedState.loadFrom (SavedState.restoreServer SavedState.assignments) c state := by
  cases backend <;> rfl

namespace SavedState

def restored (saved current : Server) : Server :=
  { current with
    temperature := saved.temperature
    rotationCount := saved.rotationCount
    totalInnerTime := saved.totalInnerTime
    totalOuterTime := saved.totalOuterTime
    metrics := { current.metrics with
      avgResponseMs := saved.metrics.avgResponseMs
      errorRate := saved.metrics.errorRate
      latencyAnomalyScore := saved.metrics.latencyAnomalyScore
      histogramWindow := saved.metrics.histogramWindow
      latencyWindow := tail 10 saved.metrics.histogramWindow } }

-- The histogram window is a deque of at most 1000 samples.
def Windowed (c : Cluster) : Prop := ∀ r ∈ c.allServers, (c.objects r).metrics.histogramWindow.length ≤ 1000

theorem tail_short (size : Nat) (samples : List ℚ) (short : samples.length ≤ size) : tail size samples = samples := by
  rw [tail, Nat.sub_eq_zero_of_le short, List.drop_zero]

theorem tail_tail (size : Nat) (samples : List ℚ) : tail size (tail size samples) = tail size samples := by
  apply tail_short
  rw [tail, List.length_drop]
  omega

theorem floats_read (samples : List ℚ) : samples.mapM (Json.toRational? ∘ Json.number) = some samples := by
  induction samples with
  | nil => rfl
  | cons sample rest ih => simp [ih]

theorem restore_encoded (saved current : Server) (short : saved.metrics.histogramWindow.length ≤ 1000) :
    restoreServer assignments current (encodeServer saved) = (restored saved current, true) := by
  simp [restoreServer, encodeServer, assignments, perform, floatField, intField, samplesField, Json.find?, Dict.last?,
    Json.to_rational_finite, Json.toInt?, Json.iterate?, floats_read, storeWindows, restored, tail_short 1000 _ short, tail_tail]

theorem encode_restored (saved current : Server) : encodeServer (restored saved current) = encodeServer saved := rfl

theorem get_servers_data (c : Cluster) (serverId : String) :
    (serversData encodeServer c).get? serverId = (c.findServer serverId).map fun r => encodeServer (c.objects r) := by
  rw [serversData, Dict.get_assign, Dict.last_find, Dict.get_empty, Option.or_none]
  rfl

theorem get_current_servers (c : Cluster) (serverId : String) : (currentServers c).get? serverId = c.findServer serverId := by
  rw [currentServers, Dict.get_assign, Dict.last_find, Dict.get_empty, Option.or_none, Option.map_id']
  rfl

theorem find_server_id (c : Cluster) (serverId : String) (r : Ref) (found : c.findServer serverId = some r) :
    r ∈ c.allServers ∧ c.idOf r = serverId := by
  have member := List.mem_of_find?_eq_some found
  have named := List.find?_some found
  exact ⟨List.mem_reverse.mp member, by simpa [Cluster.hasId] using named⟩

-- The entries up to the first one of a current server that cannot be read.
def walked (current : Dict String Ref) (readable : Json → Bool) : List (String × Json) → List (String × Json)
  | [] => []
  | entry :: rest => entry :: if current.contains entry.1 && !readable entry.2 then [] else walked current readable rest

theorem walked_sublist (current : Dict String Ref) (readable : Json → Bool) (entries : List (String × Json)) :
    (walked current readable entries).Sublist entries := by
  induction entries with
  | nil => exact List.Sublist.slnil
  | cons entry rest ih =>
      rw [walked]
      split
      · exact (List.nil_sublist rest).cons_cons entry
      · exact ih.cons_cons entry

theorem walked_all (current : Dict String Ref) (readable : Json → Bool) (entries : List (String × Json))
    (accepted : ∀ entry ∈ entries, current.contains entry.1 = true → readable entry.2 = true) :
    walked current readable entries = entries := by
  induction entries with
  | nil => rfl
  | cons entry rest ih =>
      have further : ¬ (current.contains entry.1 && !readable entry.2) = true := by
        simpa using accepted entry List.mem_cons_self
      rw [walked, if_neg further, ih fun other member => accepted other (List.mem_cons_of_mem entry member)]

theorem last_absent (entries : List (String × Json)) (serverId : String) (absent : serverId ∉ entries.map Prod.fst) :
    Dict.last? entries serverId = none := by
  cases seen : Dict.last? entries serverId with
  | none => rfl
  | some value => exact absurd (List.mem_map.mpr ⟨_, Dict.mem_of_last entries serverId value seen, rfl⟩) absent

-- Of the entries of a state whose keys are distinct each server sees one at
-- most. An entry that cannot be read is the last one that a server sees.
theorem load_entries_walk (restore : Server → Json → Server × Bool) (readable : Json → Bool) (current : Dict String Ref)
    (entries : List (String × Json)) (count : Nat) (c : Cluster)
    (named : ∀ serverId r, current.get? serverId = some r → c.idOf r = serverId)
    (steady : ∀ entry ∈ entries, ∀ s, (restore s entry.2).2 = readable entry.2 ∧ (restore s entry.2).1.id = s.id)
    (distinct : (entries.map Prod.fst).Nodup) :
    ∃ loaded total, loadEntries restore current entries count c = (loaded, total) ∧
      (total.isSome = true ↔ ∀ entry ∈ entries, current.contains entry.1 = true → readable entry.2 = true) ∧
      loaded = { c with objects := loaded.objects } ∧ loaded.idOf = c.idOf ∧
      ∀ r, loaded.objects r = if current.get? (c.idOf r) = some r then
          match Dict.last? (walked current readable entries) (c.idOf r) with
          | none => c.objects r
          | some data => (restore (c.objects r) data).1
        else c.objects r := by
  induction entries generalizing count c with
  | nil =>
      refine ⟨c, some count, rfl, by simp, rfl, rfl, ?_⟩
      intro r
      split <;> rfl
  | cons entry rest ih =>
      obtain ⟨serverId, data⟩ := entry
      rw [List.map_cons, List.nodup_cons] at distinct
      have steadyRest := fun entry member => steady entry (List.mem_cons_of_mem (serverId, data) member)
      have unseen : Dict.last? (walked current readable rest) serverId = none := by
        refine last_absent _ serverId fun member => distinct.1 ?_
        exact ((walked_sublist current readable rest).map Prod.fst).subset member
      cases found : current.get? serverId with
      | none =>
          obtain ⟨loaded, total, ran, whole, frame, ids, objects⟩ := ih count c named steadyRest distinct.2
          have stranger : current.contains serverId = false := by rw [Dict.contains, found]; rfl
          refine ⟨loaded, total, by rw [loadEntries, found]; exact ran, ?_, frame, ids, ?_⟩
          · rw [whole]
            simp [stranger]
          · intro r
            rw [objects r, walked, stranger, Bool.false_and, if_neg Bool.false_ne_true, Dict.last?]
            split
            · rename_i here
              have other : serverId ≠ c.idOf r := by
                rintro rfl
                rw [found] at here
                cases here
              simp [other]
            · rfl
      | some target =>
          have known : current.contains serverId = true := by rw [Dict.contains, found]; rfl
          have targetId := named serverId target found
          obtain ⟨reads, same⟩ := steady (serverId, data) List.mem_cons_self (c.objects target)
          generalize outcome : restore (c.objects target) data = result at reads same
          obtain ⟨after, whole⟩ := result
          simp only at reads same
          have ids : (c.modify target fun _ => after).idOf = c.idOf := by
            funext r
            by_cases here : r = target <;> simp [Cluster.idOf, Cluster.modify, here, same]
          have others (r : Ref) (mine : current.get? (c.idOf r) = some r) (here : r ≠ target) : serverId ≠ c.idOf r := by
            rintro rfl
            exact here (Option.some.inj (mine.symm.trans found))
          cases whole with
          | false =>
              refine ⟨c.modify target fun _ => after, none, by simp only [loadEntries, found, outcome], ?_, rfl, ids, ?_⟩
              · refine iff_of_false (by simp) fun all => ?_
                rw [all (serverId, data) List.mem_cons_self known] at reads
                cases reads
              · intro r
                rw [walked, known, ← reads, Dict.last?]
                by_cases here : r = target
                · subst here
                  rw [targetId, if_pos found]
                  simp [Dict.last?, Cluster.modify, outcome]
                · have kept : (c.modify target fun _ => after).objects r = c.objects r := by simp [Cluster.modify, here]
                  rw [kept]
                  split
                  · rename_i mine
                    simp [Dict.last?, others r mine here]
                  · rfl
          | true =>
              obtain ⟨loaded, total, ran, all, frame, sameIds, objects⟩ := ih (count + 1) (c.modify target fun _ => after)
                (by rw [ids]; exact named) steadyRest distinct.2
              have first : loadEntries restore current ((serverId, data) :: rest) count c = (loaded, total) := by
                simpa only [loadEntries, found, outcome] using ran
              refine ⟨loaded, total, first, ?_, frame, sameIds.trans ids, ?_⟩
              · rw [all]
                simp [← reads]
              · intro r
                rw [objects r, ids, walked, known, ← reads, Bool.not_true, Bool.and_false, if_neg Bool.false_ne_true, Dict.last?]
                by_cases here : r = target
                · subst here
                  rw [targetId, if_pos found, if_pos found, unseen]
                  simp [Cluster.modify, outcome]
                · have kept : (c.modify target fun _ => after).objects r = c.objects r := by simp [Cluster.modify, here]
                  rw [kept]
                  split
                  · rename_i mine
                    simp [others r mine here]
                  · rfl

theorem load_saved (saver loader : Backend) (stamp : Stamp) (source target : Cluster) (windowed : Windowed source) :
    ∃ loaded total, loader.load target (some (saver.save stamp source)) = (loaded, some total) ∧
      loaded = { target with objects := loaded.objects } ∧ loaded.idOf = target.idOf ∧
      ∀ r, loaded.objects r = if target.findServer (target.idOf r) = some r then
          match source.findServer (target.idOf r) with
          | none => target.objects r
          | some saved => restored (source.objects saved) (target.objects r)
        else target.objects r := by
  have named : ∀ serverId r, (currentServers target).get? serverId = some r → target.idOf r = serverId := by
    intro serverId r found
    rw [get_current_servers] at found
    exact (find_server_id target serverId r found).2
  have written : ∀ serverId data, (serversData encodeServer source).get? serverId = some data →
      ∃ saved, source.findServer serverId = some saved ∧ encodeServer (source.objects saved) = data ∧
        (source.objects saved).metrics.histogramWindow.length ≤ 1000 := by
    intro serverId data found
    rw [get_servers_data, Option.map_eq_some_iff] at found
    obtain ⟨saved, here, same⟩ := found
    exact ⟨saved, here, same, windowed saved (find_server_id source serverId saved here).1⟩
  have accepted : ∀ entry ∈ (serversData encodeServer source).entries, ∀ s,
      ∃ after, restoreServer assignments s entry.2 = (after, true) ∧ after.id = s.id := by
    intro entry member s
    obtain ⟨saved, _, same, short⟩ := written entry.1 entry.2 ((Dict.get_mem _ _ _).mpr member)
    exact ⟨restored (source.objects saved) s, by rw [← same, restore_encoded _ s short], rfl⟩
  have steady : ∀ entry ∈ (serversData encodeServer source).entries, ∀ s,
      (restoreServer assignments s entry.2).2 = true ∧ (restoreServer assignments s entry.2).1.id = s.id := by
    intro entry member s
    obtain ⟨after, taken, same⟩ := accepted entry member s
    rw [taken]
    exact ⟨rfl, same⟩
  obtain ⟨loaded, total, ran, whole, frame, ids, objects⟩ := load_entries_walk (restoreServer assignments) (fun _ => true)
    (currentServers target) (serversData encodeServer source).entries 0 target named steady (serversData encodeServer source).nodup
  obtain ⟨number, rfl⟩ := Option.isSome_iff_exists.mp (whole.mpr fun _ _ _ => rfl)
  refine ⟨loaded, number, ?_, frame, ids, ?_⟩
  · rw [backend_load, backend_save, backend_servers_data, stateOf, loadFrom]
    simpa [Json.find?, Dict.last?, Json.toDict, Dict.assign_entries] using ran
  · intro r
    rw [objects r, walked_all _ _ _ fun _ _ _ => rfl, get_current_servers, Dict.last_entries, get_servers_data]
    split
    · cases found : source.findServer (target.idOf r) with
      | none => rfl
      | some saved =>
          have short := windowed saved (find_server_id source _ saved found).1
          simp only [Option.map_some, restore_encoded _ _ short]
    · rfl

end SavedState

open SavedState

theorem saved_state_round_trip (saver loader again : Backend) (stamp : Stamp) (source target : Cluster)
    (windowed : Windowed source) :
    ∃ loaded total, loader.load target (some (saver.save stamp source)) = (loaded, some total) ∧
      loaded = { target with objects := loaded.objects } ∧
      (∀ serverId saved current, source.findServer serverId = some saved → target.findServer serverId = some current →
        loaded.objects current = restored (source.objects saved) (target.objects current)) ∧
      (∀ r, source.findServer (target.idOf r) = none ∨ target.findServer (target.idOf r) ≠ some r →
        loaded.objects r = target.objects r) ∧
      (∀ serverId, ((source.findServer serverId).isSome ↔ (target.findServer serverId).isSome) →
        (again.serversData loaded).get? serverId = (saver.serversData source).get? serverId) := by
  obtain ⟨loaded, total, ran, frame, ids, objects⟩ := load_saved saver loader stamp source target windowed
  have same : ∀ serverId, loaded.findServer serverId = target.findServer serverId := by
    intro serverId
    have rings : loaded.allServers = target.allServers := by rw [frame]; rfl
    have matching : loaded.hasId serverId = target.hasId serverId := by
      funext r
      rw [Cluster.hasId, ids, Cluster.hasId]
    rw [Cluster.findServer, rings, matching, Cluster.findServer]
  have restores : ∀ serverId saved current, source.findServer serverId = some saved →
      target.findServer serverId = some current →
        loaded.objects current = restored (source.objects saved) (target.objects current) := by
    intro serverId saved current here there
    have named := (find_server_id target serverId current there).2
    rw [objects current, named, if_pos there, here]
  refine ⟨loaded, total, ran, frame, restores, ?_, ?_⟩
  · intro r reason
    rw [objects r]
    rcases reason with absent | other
    · rw [absent]
      split <;> rfl
    · rw [if_neg other]
  · intro serverId both
    rw [backend_servers_data, backend_servers_data, get_servers_data, get_servers_data, same]
    cases here : source.findServer serverId with
    | none =>
        have absent : target.findServer serverId = none := by simpa [here] using both
        rw [absent]
        rfl
    | some saved =>
        obtain ⟨current, there⟩ := Option.isSome_iff_exists.mp (both.mp (by rw [here]; rfl))
        rw [there, Option.map_some, Option.map_some, restores serverId saved current here there, encode_restored]

instance (c : Cluster) : Decidable (Windowed c) := by
  simp only [Windowed]
  infer_instance

def savedPair (name : Ref → String) (heat : Ref → ℚ) (samples : List ℚ) : Cluster :=
  ((Cluster.empty {} (fun r => { id := name r, temperature := heat r, metrics := { histogramWindow := samples } })
    none none none ⟨fun ticks => ticks, 0⟩).addServer {} 0 true).addServer {} 1 true

def elevenSamples : List ℚ := [1, 2, 3, 4, 5, 6, 7, 8, 9, 10, 11]

theorem saved_state_round_trip_pair : ∃ loaded total,
    Backend.redis.load (savedPair toString (fun _ => 0) []) (some (Backend.file.save ⟨"4", 0⟩
      (savedPair toString (fun r => if r = 0 then 1 / 2 else 1 / 4) elevenSamples))) = (loaded, some total) ∧
    (loaded.objects 0).temperature = 1 / 2 ∧ (loaded.objects 1).metrics.latencyWindow = elevenSamples.drop 1 ∧
    (Backend.redis.serversData loaded).get? "1" =
      (Backend.file.serversData (savedPair toString (fun r => if r = 0 then 1 / 2 else 1 / 4) elevenSamples)).get? "1" := by
  obtain ⟨loaded, total, ran, _, restores, _, again⟩ := saved_state_round_trip .file .redis .redis ⟨"4", 0⟩
    (savedPair toString (fun r => if r = 0 then 1 / 2 else 1 / 4) elevenSamples) (savedPair toString (fun _ => 0) [])
    (by decide +kernel)
  refine ⟨loaded, total, ran, ?_, ?_, again "1" (by decide +kernel)⟩
  · rw [restores "0" 0 0 (by decide +kernel) (by decide +kernel)]
    decide +kernel
  · rw [restores "1" 1 1 (by decide +kernel) (by decide +kernel)]
    decide +kernel

-- Two servers with one id: the file holds the second one, and of the two servers
-- of the other cluster only the second one is restored.
theorem twins_share_an_entry :
    ∃ loaded, Backend.file.load (savedPair (fun _ => "a") (fun _ => 0) [])
        (some (Backend.file.save ⟨"4", 0⟩ (savedPair (fun _ => "a") (fun r => if r = 0 then 1 / 2 else 1 / 4) []))) =
          (loaded, some 1) ∧
      0 ∈ loaded.allServers ∧ loaded.idOf 0 = "a" ∧ (loaded.objects 0).temperature = 0 ∧
      (loaded.objects 1).temperature = 1 / 4 := by
  have reached : ∃ loaded ∈ some (Backend.file.load (savedPair (fun _ => "a") (fun _ => 0) [])
        (some (Backend.file.save ⟨"4", 0⟩ (savedPair (fun _ => "a") (fun r => if r = 0 then 1 / 2 else 1 / 4) [])))),
      loaded.2 = some 1 ∧ 0 ∈ loaded.1.allServers ∧ loaded.1.idOf 0 = "a" ∧ (loaded.1.objects 0).temperature = 0 ∧
        (loaded.1.objects 1).temperature = 1 / 4 := by decide +kernel
  obtain ⟨⟨loaded, count⟩, same, counted, rest⟩ := reached
  refine ⟨loaded, ?_, rest⟩
  rw [Option.some.inj same, ← counted]

end HuddleCluster.Ring
