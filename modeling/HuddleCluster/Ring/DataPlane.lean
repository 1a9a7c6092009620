import HuddleCluster.Ring.Trails

set_option autoImplicit false

namespace HuddleCluster.Ring

open Cluster Statistics

structure Address where
  host : String
  port : Int
deriving DecidableEq

-- An entry of the BPF table. The virtual map holds the same entries under their
-- indices.
structure TableRecord where
  index : Nat
  id : String
  host : String
  port : Int
  ipv4Addr : Nat
  weight : Int
  temperature : Int
  packetsRouted : Int := 0
  bytesRouted : Int := 0
deriving DecidableEq

-- How the platform parses a dotted quad is left to it.
structure EBPFDataPlane where
  ipToInt : String → Nat
  activeServers : List TableRecord := []
  serverBytes : Dict String Int := .empty
  packetsForwarded : Int := 0
  bytesForwarded : Int := 0
  xdpTx : Int := 0

namespace EBPFDataPlane

def maxServers : Nat := 64

def record (plane : EBPFDataPlane) (index : Nat) (server : Server) (address : Address) : TableRecord where
  index := index
  id := server.id
  host := address.host
  port := address.port
  ipv4Addr := plane.ipToInt address.host
  weight := max 1 (roundHalfEven server.weight)
  temperature := roundHalfEven (server.temperature * 1000)

def syncInnerRing (plane : EBPFDataPlane) (innerServers : List (Server × Address)) : EBPFDataPlane :=
  let programmed := innerServers.take maxServers
  { plane with
    activeServers := programmed.mapIdx fun index entry => plane.record index entry.1 entry.2
    serverBytes := programmed.foldl (fun bytes entry =>
      if bytes.contains entry.1.id then bytes else bytes.set entry.1.id 0) plane.serverBytes }

def recordForwardedPacket (plane : EBPFDataPlane) (serverIndex : Nat) (byteCount : Int) : EBPFDataPlane :=
  let counted := { plane with
    packetsForwarded := plane.packetsForwarded + 1
    bytesForwarded := plane.bytesForwarded + byteCount
    xdpTx := plane.xdpTx + 1 }
  match plane.activeServers[serverIndex]? with
  | none => counted
  | some found =>
      { counted with
        activeServers := plane.activeServers.modify serverIndex fun entry =>
          { entry with packetsRouted := entry.packetsRouted + 1, bytesRouted := entry.bytesRouted + byteCount }
        serverBytes := plane.serverBytes.set found.id (plane.serverBytes.getD found.id 0 + byteCount) }

def resetCounters (plane : EBPFDataPlane) : EBPFDataPlane :=
  { plane with
    packetsForwarded := 0
    bytesForwarded := 0
    xdpTx := 0
    serverBytes := plane.serverBytes.map fun _ _ => 0
    activeServers := plane.activeServers.map fun entry => { entry with packetsRouted := 0, bytesRouted := 0 } }

def listed (plane : EBPFDataPlane) : List (String × Address) :=
  plane.activeServers.map fun entry => (entry.id, ⟨entry.host, entry.port⟩)

end EBPFDataPlane

-- A cluster with its data plane, the addresses its servers have now, and whether
-- the last operation changed who is in the inner ring.
structure Accelerated where
  cluster : Cluster
  address : Ref → Address
  plane : EBPFDataPlane
  changed : Bool

def Op.rotates : Op → Bool
  | .rotate => true
  | _ => false

inductive PlaneOp where
  | cluster (op : Op)
  | syncEbpf
  | recordForwardedPacket (serverIndex : Nat) (byteCount : Int)
  | resetCounters
  | moveServer (r : Ref) (address : Address)

namespace Accelerated

def ring (c : Cluster) (address : Ref → Address) : List (Server × Address) := c.innerRing.map fun r => (c.objects r, address r)

-- Of all operations only a rotation that moved a server refreshes the table.
def synced (cfg : Config) (s : Accelerated) : Op → EBPFDataPlane
  | .rotate =>
      if s.cluster.rotated cfg then s.plane.syncInnerRing (ring (s.cluster.rotate cfg) s.address) else s.plane
  | _ => s.plane

def next (cfg : Config) (s : Accelerated) : PlaneOp → Option Accelerated
  | .cluster op =>
      some ⟨step cfg s.cluster op, s.address, s.synced cfg op, !decide ((step cfg s.cluster op).innerRing.Perm s.cluster.innerRing)⟩
  | .syncEbpf => some { s with plane := s.plane.syncInnerRing (ring s.cluster s.address), changed := false }
  | .recordForwardedPacket serverIndex byteCount =>
      some { s with plane := s.plane.recordForwardedPacket serverIndex byteCount, changed := false }
  | .resetCounters => some { s with plane := s.plane.resetCounters, changed := false }
  | .moveServer r address => some { s with address := Function.update s.address r address, changed := false }

-- The table lists the first servers of the ring, in its order, where they are now.
def InStep (s : Accelerated) : Prop :=
  s.plane.listed = (s.cluster.innerRing.take EBPFDataPlane.maxServers).map fun r => (s.cluster.idOf r, s.address r)

instance (s : Accelerated) : Decidable s.InStep :=
  inferInstanceAs (Decidable (s.plane.listed =
    (s.cluster.innerRing.take EBPFDataPlane.maxServers).map fun r => (s.cluster.idOf r, s.address r)))

def Mirrored (s : Accelerated) : Prop := s.changed = true → s.InStep

-- Whatever else changes who is in the inner ring finds the table in step and
-- leaves the servers it lists where they are.
def OnlyRotations (cfg : Config) (s : Accelerated) : PlaneOp → Prop
  | .cluster op => op.rotates = false → ¬ (step cfg s.cluster op).innerRing.Perm s.cluster.innerRing →
      s.InStep ∧ (step cfg s.cluster op).innerRing.take EBPFDataPlane.maxServers =
        s.cluster.innerRing.take EBPFDataPlane.maxServers
  | _ => True

instance (cfg : Config) (s : Accelerated) (op : PlaneOp) : Decidable (OnlyRotations cfg s op) :=
  match op with
  | .cluster op => inferInstanceAs (Decidable (op.rotates = false → ¬ (step cfg s.cluster op).innerRing.Perm s.cluster.innerRing →
      s.InStep ∧ (step cfg s.cluster op).innerRing.take EBPFDataPlane.maxServers =
        s.cluster.innerRing.take EBPFDataPlane.maxServers))
  | .syncEbpf | .recordForwardedPacket .. | .resetCounters | .moveServer .. => isTrue trivial

end Accelerated

open Accelerated EBPFDataPlane

theorem sync_listed (plane : EBPFDataPlane) (servers : List (Server × Address)) :
    (plane.syncInnerRing servers).listed = (servers.take maxServers).map fun entry => (entry.1.id, entry.2) := by
  apply List.ext_getElem?
  intro index
  simp only [listed, syncInnerRing, record, List.getElem?_map, List.getElem?_mapIdx, Option.map_map, Function.comp_def]

theorem sync_in_step (s : Accelerated) (changed : Bool) :
    InStep { s with plane := s.plane.syncInnerRing (ring s.cluster s.address), changed := changed } := by
  rw [InStep, sync_listed, ring, ← List.map_take, List.map_map]
  rfl

theorem perm_of_counts (small large : List Ref) (fewer : ∀ r, small.count r ≤ large.count r)
    (length : large.length = small.length) : small.Perm large :=
  (List.subperm_ext_iff.mpr fun r _ => fewer r).perm_of_length_le length.le

theorem evict_unhealthy_counts (cfg : Config) (queue : List Ref) (c : Cluster) (r : Ref) (queued : queue.Sublist c.innerRing) :
    (c.evictUnhealthy cfg queue).innerRing.count r ≤ c.innerRing.count r := by
  have linked := unhealthy_linked cfg (fun a b => b.innerRing.count r ≤ a.innerRing.count r)
    (fun d x reason _ => motion_counts d _ (motion_evicted cfg d x reason) r) (fun d x => motion_counts d _ (motion_circuit d x) r)
    queue c queued
  have ended := History.linked_last _ (fun a b : Cluster => b.innerRing.count r ≤ a.innerRing.count r) (fun _ => le_refl _)
    (fun _ _ _ before after => after.trans before) c _ linked
  rwa [unhealthy_trail_last] at ended

theorem unrotated_ring (cfg : Config) (c : Cluster) (unmoved : c.rotated cfg = false) :
    (c.rotate cfg).innerRing.Perm c.innerRing := by
  simp only [rotated, Bool.or_eq_false_iff, Bool.not_eq_false', List.isEmpty_iff, decide_eq_false_iff_not, not_not] at unmoved
  obtain ⟨⟨first, second⟩, third⟩ := unmoved
  have first : (c.rotateStep1 cfg).innerRing = c.innerRing := by
    rw [rotateStep1, first]
    exact (quiet_begin_rotate c).inner
  generalize startRing : c.rotateStep1 cfg = start at *
  have promoted : (start.rotateStep2 cfg).innerRing = start.innerRing :=
    ((promote_grows cfg start.outerRing.length start).eq_of_length second).symm
  have evicted := perm_of_counts _ _
    (fun r => evict_unhealthy_counts cfg (start.rotateStep2 cfg).innerRing (start.rotateStep2 cfg) r (.refl _)) third
  have ended : (c.rotate cfg).innerRing = ((start.rotateStep2 cfg).rotateStep3 cfg).innerRing := by
    rw [rotate, startRing]
    exact (calm_remediate_stale _).inner
  rw [ended, ← first, ← promoted]
  exact evicted

theorem cluster_mirrored (cfg : Config) (s : Accelerated) (op : Op) (permitted : OnlyRotations cfg s (.cluster op))
    (moved : ¬ (step cfg s.cluster op).innerRing.Perm s.cluster.innerRing) :
    InStep ⟨step cfg s.cluster op, s.address, s.synced cfg op, true⟩ := by
  cases rotation : op.rotates with
  | true =>
      have rotate : op = .rotate := by cases op <;> first | rfl | cases rotation
      subst rotate
      have refreshed : s.cluster.rotated cfg = true := by
        by_contra unmoved
        exact moved (unrotated_ring cfg s.cluster (by simpa using unmoved))
      simp only [synced, refreshed, if_true]
      exact sync_in_step ⟨s.cluster.rotate cfg, s.address, s.plane, true⟩ true
  | false =>
      have unsynced : s.synced cfg op = s.plane := by cases op <;> first | rfl | cases rotation
      obtain ⟨inStep, kept⟩ := permitted rotation moved
      rw [InStep, unsynced, kept, step_ids]
      exact inStep

theorem step_mirrored (cfg : Config) (s after : Accelerated) (op : PlaneOp) (permitted : OnlyRotations cfg s op)
    (taken : Accelerated.next cfg s op = some after) : Mirrored after := by
  intro changed
  cases op with
  | cluster op =>
      cases taken
      have moved : ¬ (step cfg s.cluster op).innerRing.Perm s.cluster.innerRing := by simpa using changed
      rw [show (!decide ((step cfg s.cluster op).innerRing.Perm s.cluster.innerRing)) = true from changed]
      exact cluster_mirrored cfg s op permitted moved
  | syncEbpf => cases taken; cases changed
  | recordForwardedPacket serverIndex byteCount => cases taken; cases changed
  | resetCounters => cases taken; cases changed
  | moveServer r address => cases taken; cases changed

abbrev PlaneRun (cfg : Config) (allowed : Accelerated → PlaneOp → Prop) := Runs.Run (Accelerated.next cfg) allowed

def acceleratedStart : Accelerated :=
  ⟨.empty smallestRing (fun r => { id := toString r }) none none none ⟨fun ticks => 60 * ticks, 0⟩, fun r => ⟨toString r, 8000⟩,
    { ipToInt := fun _ => 0 }, false⟩

def rotatingRun : List PlaneOp :=
  [.cluster (.addServer 0 false), .cluster (.addServer 1 false), .cluster .rotate, .moveServer 1 ⟨"moved", 9000⟩,
    .cluster (.setMetrics 0 { isHealthy := false }), .recordForwardedPacket 0 1500, .cluster .rotate]

end HuddleCluster.Ring
