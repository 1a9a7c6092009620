import HuddleCluster.Lib.Tally
import HuddleCluster.Ring.DataPlane

set_option autoImplicit false

namespace HuddleCluster.Ring

open Statistics Tally

structure RingStats where
  ring : String
  serverCount : Nat := 0
  packetsRouted : Int := 0
  bytesRouted : Int := 0
  avgTemperature : ℚ := 0
  serverIds : List String := []
deriving DecidableEq

namespace EBPFDataPlane

def getRingStats (plane : EBPFDataPlane) : RingStats where
  ring := "inner"
  serverCount := plane.activeServers.length
  packetsRouted := (plane.activeServers.map TableRecord.packetsRouted).sum
  bytesRouted := (plane.activeServers.map TableRecord.bytesRouted).sum
  avgTemperature :=
    let temps := plane.activeServers.map fun entry => (entry.temperature : ℚ) / 1000
    roundTo 4 (if temps.isEmpty then 0 else temps.sum / temps.length)
  serverIds := plane.activeServers.map TableRecord.id

def packetsOf (plane : EBPFDataPlane) (id : String) : Int := tally TableRecord.id TableRecord.packetsRouted plane.activeServers id

def bytesOf (plane : EBPFDataPlane) (id : String) : Int := tally TableRecord.id TableRecord.bytesRouted plane.activeServers id

-- A negative index is no key of the table, as the one after its last.
def position (plane : EBPFDataPlane) (serverIndex : Int) : Nat :=
  if serverIndex < 0 then plane.activeServers.length else serverIndex.toNat

end EBPFDataPlane

-- A data plane with the packets recorded against a server and the rings that were
-- synchronised, both since the counters were last reset.
structure Metered where
  plane : EBPFDataPlane
  recorded : List (String × Int)
  rings : List (List String)

inductive MeterOp where
  | syncInnerRing (innerServers : List (Server × Address))
  | recordForwardedPacket (serverIndex byteCount : Int)
  | resetCounters

namespace Metered

def ids (innerServers : List (Server × Address)) : List String := innerServers.map fun entry => entry.1.id

def start (ipToInt : String → Nat) : Metered := ⟨{ ipToInt := ipToInt }, [], []⟩

def next (s : Metered) : MeterOp → Option Metered
  | .syncInnerRing innerServers =>
      some { s with plane := s.plane.syncInnerRing innerServers, rings := ids innerServers :: s.rings }
  | .recordForwardedPacket serverIndex byteCount =>
      let hit := s.plane.activeServers[s.plane.position serverIndex]?
      some { s with
        plane := s.plane.recordForwardedPacket (s.plane.position serverIndex) byteCount
        recorded := (hit.map fun found => (found.id, byteCount)).toList ++ s.recorded }
  | .resetCounters => some ⟨s.plane.resetCounters, [], []⟩

def recordedPackets (s : Metered) (id : String) : Int := tally Prod.fst (fun _ => 1) s.recorded id

def recordedBytes (s : Metered) (id : String) : Int := tally Prod.fst Prod.snd s.recorded id

def Stayed (rings : List (List String)) (id : String) : Prop := ∀ ring ∈ rings, id ∈ ring

instance (rings : List (List String)) (id : String) : Decidable (Stayed rings id) :=
  inferInstanceAs (Decidable (∀ ring ∈ rings, id ∈ ring))

structure Cumulative (s : Metered) : Prop where
  packets : ∀ id, Stayed s.rings id → s.plane.packetsOf id = s.recordedPackets id
  bytes : ∀ id, Stayed s.rings id → s.plane.bytesOf id = s.recordedBytes id
  total : s.plane.getRingStats.packetsRouted ≤ s.plane.packetsForwarded

-- No ring is synchronised that keeps a server against which something was recorded.
def NoneKept (s : Metered) : MeterOp → Prop
  | .syncInnerRing innerServers => ∀ entry ∈ s.recorded, ¬ Stayed (ids innerServers :: s.rings) entry.1
  | _ => True

instance (s : Metered) (op : MeterOp) : Decidable (NoneKept s op) :=
  match op with
  | .syncInnerRing innerServers => inferInstanceAs (Decidable (∀ entry ∈ s.recorded, ¬ Stayed (ids innerServers :: s.rings) entry.1))
  | .recordForwardedPacket .. | .resetCounters => isTrue trivial

end Metered

open EBPFDataPlane Metered

section Operations

variable (plane : EBPFDataPlane) (innerServers : List (Server × Address)) (serverIndex : Nat) (byteCount : Int) (id : String)

theorem sync_zero (entry : TableRecord) (programmed : entry ∈ (plane.syncInnerRing innerServers).activeServers) :
    entry.packetsRouted = 0 ∧ entry.bytesRouted = 0 := by
  obtain ⟨index, _, rfl⟩ := List.mem_mapIdx.mp programmed
  exact ⟨rfl, rfl⟩

theorem sync_packets : (plane.syncInnerRing innerServers).packetsOf id = 0 :=
  tally_none _ _ _ id fun entry programmed _ => (sync_zero plane innerServers entry programmed).1

theorem sync_bytes : (plane.syncInnerRing innerServers).bytesOf id = 0 :=
  tally_none _ _ _ id fun entry programmed _ => (sync_zero plane innerServers entry programmed).2

theorem reset_zero (entry : TableRecord) (programmed : entry ∈ plane.resetCounters.activeServers) :
    entry.packetsRouted = 0 ∧ entry.bytesRouted = 0 := by
  obtain ⟨before, _, rfl⟩ := List.mem_map.mp programmed
  exact ⟨rfl, rfl⟩

theorem reset_packets : plane.resetCounters.packetsOf id = 0 :=
  tally_none _ _ _ id fun entry programmed _ => (reset_zero plane entry programmed).1

theorem reset_bytes : plane.resetCounters.bytesOf id = 0 :=
  tally_none _ _ _ id fun entry programmed _ => (reset_zero plane entry programmed).2

theorem record_missed (missed : plane.activeServers[serverIndex]? = none) :
    (plane.recordForwardedPacket serverIndex byteCount).activeServers = plane.activeServers := by
  simp only [recordForwardedPacket, missed]

theorem record_hit (found : TableRecord) (hit : plane.activeServers[serverIndex]? = some found) :
    (plane.recordForwardedPacket serverIndex byteCount).activeServers = plane.activeServers.modify serverIndex fun entry =>
      { entry with packetsRouted := entry.packetsRouted + 1, bytesRouted := entry.bytesRouted + byteCount } := by
  simp only [recordForwardedPacket, hit]

theorem record_forwarded : (plane.recordForwardedPacket serverIndex byteCount).packetsForwarded = plane.packetsForwarded + 1 := by
  cases hit : plane.activeServers[serverIndex]? <;> simp only [recordForwardedPacket, hit]

end Operations

theorem record_counted (s after : Metered) (serverIndex byteCount : Int) (id : String)
    (taken : s.next (.recordForwardedPacket serverIndex byteCount) = some after) :
    after.plane.packetsOf id - after.recordedPackets id = s.plane.packetsOf id - s.recordedPackets id ∧
      after.plane.bytesOf id - after.recordedBytes id = s.plane.bytesOf id - s.recordedBytes id := by
  cases taken
  simp only [packetsOf, bytesOf, recordedPackets, recordedBytes]
  cases hit : s.plane.activeServers[s.plane.position serverIndex]? with
  | none =>
      rw [record_missed s.plane _ byteCount hit]
      exact ⟨rfl, rfl⟩
  | some found =>
      rw [record_hit s.plane _ byteCount found hit, tally_modify _ _ _ 1 _ _ found id hit rfl rfl,
        tally_modify _ _ _ byteCount _ _ found id hit rfl rfl]
      simp only [Option.map_some, Option.toList_some, List.singleton_append, tally_cons]
      exact ⟨add_sub_add_left_eq_sub _ _ _, add_sub_add_left_eq_sub _ _ _⟩

structure WithinTotal (s : Metered) : Prop where
  nonneg : 0 ≤ s.plane.packetsForwarded
  within : s.plane.getRingStats.packetsRouted ≤ s.plane.packetsForwarded

theorem ring_packets_zero (plane : EBPFDataPlane)
    (zero : ∀ entry ∈ plane.activeServers, entry.packetsRouted = 0 ∧ entry.bytesRouted = 0) :
    plane.getRingStats.packetsRouted = 0 := by
  refine List.sum_eq_zero fun value present => ?_
  obtain ⟨entry, programmed, rfl⟩ := List.mem_map.mp present
  exact (zero entry programmed).1

theorem within_step (s after : Metered) (op : MeterOp) (held : WithinTotal s) (taken : s.next op = some after) : WithinTotal after := by
  cases op with
  | syncInnerRing innerServers =>
      cases taken
      exact ⟨held.nonneg, (ring_packets_zero _ (sync_zero s.plane innerServers)).trans_le held.nonneg⟩
  | recordForwardedPacket serverIndex byteCount =>
      cases taken
      have before := held.within
      have nonneg := held.nonneg
      constructor
      · rw [record_forwarded]
        omega
      · rw [record_forwarded]
        simp only [getRingStats] at before ⊢
        cases hit : s.plane.activeServers[s.plane.position serverIndex]? with
        | none =>
            rw [record_missed s.plane _ byteCount hit]
            omega
        | some found =>
            rw [record_hit s.plane _ byteCount found hit, sum_modify _ _ 1 _ _ found hit rfl]
            omega
  | resetCounters =>
      cases taken
      exact ⟨le_refl _, (ring_packets_zero _ (reset_zero s.plane)).le⟩

theorem recorded_positive (s : Metered) (id : String) : s.recordedPackets id = 0 ↔ ∀ entry ∈ s.recorded, entry.1 ≠ id := by
  rw [recordedPackets, tally_count, Nat.cast_eq_zero, List.countP_eq_zero]
  simp

theorem cumulative_step (s after : Metered) (op : MeterOp) (held : WithinTotal s) (cumulative : Cumulative s)
    (taken : s.next op = some after) : Cumulative after ↔ NoneKept s op := by
  have within := (within_step s after op held taken).within
  cases op with
  | syncInnerRing innerServers =>
      cases taken
      constructor
      · rintro ⟨packets, -, -⟩ entry recorded stayed
        have counted := packets entry.1 stayed
        rw [sync_packets] at counted
        exact (recorded_positive s entry.1).mp counted.symm entry recorded rfl
      · intro never
        have unrecorded : ∀ id, Stayed (ids innerServers :: s.rings) id → ∀ entry ∈ s.recorded, entry.1 ≠ id := by
          rintro id stayed entry recorded rfl
          exact never entry recorded stayed
        refine ⟨fun id stayed => ?_, fun id stayed => ?_, within⟩
        · rw [sync_packets]
          exact ((recorded_positive s id).mpr (unrecorded id stayed)).symm
        · rw [sync_bytes]
          exact (tally_none _ _ _ id fun entry recorded named => absurd named (unrecorded id stayed entry recorded)).symm
  | recordForwardedPacket serverIndex byteCount =>
      refine iff_of_true ⟨fun id stayed => ?_, fun id stayed => ?_, within⟩ trivial
      · have counted := (record_counted s after serverIndex byteCount id taken).1
        cases taken
        have before := cumulative.packets id stayed
        omega
      · have counted := (record_counted s after serverIndex byteCount id taken).2
        cases taken
        have before := cumulative.bytes id stayed
        omega
  | resetCounters =>
      cases taken
      refine iff_of_true ⟨fun id _ => ?_, fun id _ => ?_, within⟩ trivial
      · exact reset_packets s.plane id
      · exact reset_bytes s.plane id

theorem sync_server_bytes (innerServers : List (Server × Address)) (bytes : Dict String Int) (id : String) :
    (innerServers.foldl (fun bytes entry => if bytes.contains entry.1.id then bytes else bytes.set entry.1.id 0) bytes).getD id 0 =
      bytes.getD id 0 := by
  induction innerServers generalizing bytes with
  | nil => rfl
  | cons entry innerServers ih =>
      rw [List.foldl_cons, ih]
      by_cases known : bytes.contains entry.1.id = true
      · rw [if_pos known]
      · rw [if_neg known]
        rw [Dict.contains, Option.not_isSome_iff_eq_none] at known
        by_cases same : id = entry.1.id
        · simp [Dict.getD, same, known]
        · simp [Dict.getD, same]

theorem server_bytes_step (s after : Metered) (op : MeterOp) (held : ∀ id, s.plane.serverBytes.getD id 0 = s.recordedBytes id)
    (taken : s.next op = some after) : ∀ id, after.plane.serverBytes.getD id 0 = after.recordedBytes id := by
  intro id
  cases op with
  | syncInnerRing innerServers =>
      cases taken
      exact (sync_server_bytes _ _ id).trans (held id)
  | recordForwardedPacket serverIndex byteCount =>
      cases taken
      simp only [recordForwardedPacket, recordedBytes]
      cases hit : s.plane.activeServers[s.plane.position serverIndex]? with
      | none => exact held id
      | some found =>
          simp only [Option.map_some, Option.toList_some, List.singleton_append, tally_cons]
          rw [held found.id, Dict.getD, Dict.get_set]
          by_cases same : found.id = id
          · subst same
            rw [if_pos rfl, if_pos rfl, Option.getD_some, add_comm]
            rfl
          · rw [if_neg (Ne.symm same), if_neg same, zero_add]
            exact held id
  | resetCounters =>
      cases taken
      simp only [resetCounters, Dict.getD, Dict.get_map]
      cases s.plane.serverBytes.get? id <;> rfl

-- The bytes kept under the ids of the servers are cumulative whatever is synchronised.
theorem server_bytes_cumulative (ipToInt : String → Nat) (ops : List MeterOp) (s : Metered)
    (run : Runs.Run Metered.next (fun _ _ => True) (start ipToInt) ops s) (id : String) :
    s.plane.serverBytes.getD id 0 = s.recordedBytes id := by
  refine Runs.run_invariant Metered.next (fun _ _ => True) (fun s => ∀ id, s.plane.serverBytes.getD id 0 = s.recordedBytes id) ?_
    _ s ops (fun _ => rfl) run id
  exact fun state op after held _ taken => server_bytes_step state after op held taken

theorem start_within (ipToInt : String → Nat) : WithinTotal (start ipToInt) := ⟨le_refl _, le_refl _⟩

-- The counters are cumulative all along a run exactly if no refresh of the table keeps
-- a server something was recorded against.
theorem counters_cumulative_iff (ipToInt : String → Nat) (ops : List MeterOp) (s : Metered)
    (run : Runs.Run Metered.next (fun _ _ => True) (start ipToInt) ops s) :
    Runs.Always Metered.next (start ipToInt) ops Cumulative ↔ Runs.Run Metered.next NoneKept (start ipToInt) ops s := by
  apply Runs.run_always Metered.next NoneKept WithinTotal Cumulative
  · exact fun state op after held taken => within_step state after op held taken
  · exact fun state op after held cumulative taken => cumulative_step state after op held cumulative taken
  · exact start_within ipToInt
  · exact ⟨fun _ _ => rfl, fun _ _ => rfl, (start_within ipToInt).within⟩
  · exact run

def meteredServer (id : String) : Server × Address := ({ id := id }, ⟨id, 8000⟩)

def freshMeter : Metered := start fun _ => 0

-- Counted traffic is forgotten by a reset, and a server that has some leaves the ring.
def meteredRun : List MeterOp :=
  [.syncInnerRing [meteredServer "a", meteredServer "b"], .recordForwardedPacket 0 1500, .recordForwardedPacket (-1) 40, .resetCounters,
    .syncInnerRing [meteredServer "b", meteredServer "a"], .recordForwardedPacket 1 900, .syncInnerRing [meteredServer "b"],
    .recordForwardedPacket 0 300]

theorem counters_cumulative_leaves : ∃ s, Runs.Run Metered.next (fun _ _ => True) freshMeter meteredRun s ∧
    s.plane.packetsOf "b" = 1 ∧ Runs.Always Metered.next freshMeter meteredRun Cumulative := by
  obtain ⟨s, followed, counted⟩ : ∃ s ∈ Runs.follow Metered.next NoneKept freshMeter meteredRun, s.plane.packetsOf "b" = 1 := by
    decide +kernel
  have permitted := Runs.follow_run _ _ _ s _ followed
  have run := Runs.run_free _ _ _ s _ permitted
  exact ⟨s, run, counted, (counters_cumulative_iff (fun _ => 0) _ s run).mpr permitted⟩

-- A server that stays in the ring loses its counters, though its bytes are still known.
theorem sync_forgets : ∃ s ∈ Runs.follow Metered.next (fun _ _ => True) freshMeter
    [.syncInnerRing [meteredServer "a"], .recordForwardedPacket 0 1500, .syncInnerRing [meteredServer "a"]],
    s.plane.packetsOf "a" = 0 ∧ s.plane.bytesOf "a" = 0 ∧ s.plane.serverBytes.getD "a" 0 = 1500 ∧ ¬ Cumulative s := by
  obtain ⟨s, followed, stayed, packets, bytes, known, recorded⟩ : ∃ s ∈ Runs.follow Metered.next (fun _ _ => True) freshMeter
      [.syncInnerRing [meteredServer "a"], .recordForwardedPacket 0 1500, .syncInnerRing [meteredServer "a"]],
      Stayed s.rings "a" ∧ s.plane.packetsOf "a" = 0 ∧ s.plane.bytesOf "a" = 0 ∧ s.plane.serverBytes.getD "a" 0 = 1500 ∧
        s.recordedPackets "a" = 1 := by
    decide +kernel
  refine ⟨s, followed, packets, bytes, known, fun cumulative => ?_⟩
  have counted := cumulative.packets "a" stayed
  omega

end HuddleCluster.Ring
