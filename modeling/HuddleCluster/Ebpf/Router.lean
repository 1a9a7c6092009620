import HuddleCluster.Ebpf.Packet

set_option autoImplicit false

namespace HuddleCluster.Ebpf

inductive XdpAction where
  | pass
  | tx
deriving DecidableEq

structure ServerRecord where
  ipv4Addr : BitVec 32
  port : BitVec 16
  packetsRouted : BitVec 64 := 0
deriving DecidableEq

-- An array map has a value for every index below its number of entries.
structure Maps where
  clusterConfig : Vector (BitVec 32) 4
  innerServers : Vector ServerRecord 64

def ethPIp : BitVec 16 := 0x0800

def bswap16 (v : BitVec 16) : BitVec 16 := v.extractLsb' 0 8 ++ v.extractLsb' 8 8

def ipprotoTcp : BitVec 8 := 6

def csumFoldHelper (csum : BitVec 32) : BitVec 16 :=
  let once := (csum &&& 0xffff#32) + (csum >>> 16)
  let twice := (once &&& 0xffff#32) + (once >>> 16)
  (~~~twice).setWidth 16

-- The server a packet is sent to; there is none when the program answers XDP_PASS.
def selectServer (maps : Maps) (p : Packet) : Option (BitVec 32 × ServerRecord) := do
  guard (14 ≤ p.length)
  guard (p.hProto = bswap16 ethPIp)
  guard (34 ≤ p.length)
  guard (p.protocol = ipprotoTcp)
  guard (p.tcpStart + 20 ≤ p.length)
  let numServers ← maps.clusterConfig[0]?
  guard (numServers ≠ 0)
  let flowHash := p.saddr ^^^ p.source.setWidth 32
  let targetIdx := flowHash % numServers
  let server ← maps.innerServers[targetIdx.toNat]?
  guard (server.ipv4Addr ≠ 0)
  return (targetIdx, server)

-- The ten words of struct iphdr; options are not among them.
def headerSum (p : Packet) : BitVec 32 := (List.range 10).foldl (fun csum i => csum + (p.load16 (14 + 2 * i)).setWidth 32) 0#32

def rewriteDaddr (p : Packet) (newDaddr : BitVec 32) : Packet :=
  let cleared := (p.store32 30 newDaddr).store16 24 0#16
  cleared.store16 24 (csumFoldHelper (headerSum cleared))

def countRouted (maps : Maps) (targetIdx : BitVec 32) (server : ServerRecord) : Maps :=
  { maps with innerServers := maps.innerServers.setIfInBounds targetIdx.toNat { server with packetsRouted := server.packetsRouted + 1 } }

def xdpHuddleRouter (maps : Maps) (p : Packet) : XdpAction × Packet × Maps :=
  match selectServer maps p with
  | none => (.pass, p, maps)
  | some (targetIdx, server) => (.tx, rewriteDaddr p server.ipv4Addr, countRouted maps targetIdx server)

-- What a packet must be like when it is sent to a server.
structure Delivered (server : ServerRecord) (q : Packet) : Prop where
  address : q.daddr = server.ipv4Addr
  port : q.dest = server.port
  ip : q.IpChecked
  tcp : q.TcpChecked

def Delivers (maps : Maps) (p : Packet) : Prop :=
  ((xdpHuddleRouter maps p).1 = .tx →
    ∃ targetIdx server, selectServer maps p = some (targetIdx, server) ∧ Delivered server (xdpHuddleRouter maps p).2.1) ∧
  ((xdpHuddleRouter maps p).1 ≠ .tx → (xdpHuddleRouter maps p).2.1 = p)

def Packet.optionSum (p : Packet) : Nat := (p.netWords 34 (2 * p.ihl - 10)).sum

-- The rewrite happens to be right: it has no port to change, no option to sum
-- up, and the two addresses weigh the same in the checksum of the segment.
structure Indifferent (server : ServerRecord) (p : Packet) : Prop where
  port : p.dest = server.port
  options : p.optionSum % 65535 = 0
  address : server.ipv4Addr.toNat % 65535 = p.daddr.toNat % 65535

theorem low_half (csum : BitVec 32) : (csum &&& 0xffff#32).toNat = csum.toNat % 65536 := by
  rw [BitVec.toNat_and]
  exact Nat.and_two_pow_sub_one_eq_mod csum.toNat 16

theorem high_half (csum : BitVec 32) : (csum >>> 16).toNat = csum.toNat / 65536 := by
  rw [BitVec.toNat_ushiftRight, Nat.shiftRight_eq_div_pow]

theorem fold_step (csum : BitVec 32) : ((csum &&& 0xffff#32) + (csum >>> 16)).toNat = OnesComplement.fold 65536 csum.toNat := by
  have bound := csum.isLt
  rw [BitVec.toNat_add, low_half, high_half, OnesComplement.fold]
  omega

theorem csum_fold_nat (csum : BitVec 32) :
    (csumFoldHelper csum).toNat = 65536 - 1 - OnesComplement.fold 65536 (OnesComplement.fold 65536 csum.toNat) := by
  have word := OnesComplement.fold_twice_word 65536 (by decide) csum.toNat csum.isLt
  unfold csumFoldHelper
  simp only
  rw [BitVec.toNat_setWidth, BitVec.toNat_not, fold_step, fold_step]
  omega

theorem sum_words (words : Nat → BitVec 16) (items : List Nat) (start : BitVec 32) (bound : start.toNat + 65535 * items.length < 2 ^ 32) :
    (items.foldl (fun csum i => csum + (words i).setWidth 32) start).toNat = start.toNat + (items.map fun i => (words i).toNat).sum := by
  induction items generalizing start with
  | nil => rfl
  | cons i rest ih =>
      have word := (words i).isLt
      rw [List.length_cons] at bound
      have added : (start + (words i).setWidth 32).toNat = start.toNat + (words i).toNat := by
        rw [BitVec.toNat_add, BitVec.toNat_setWidth]
        omega
      rw [List.foldl_cons, ih _ (by omega), added, List.map_cons, List.sum_cons, Nat.add_assoc]

theorem header_sum_nat (p : Packet) : (headerSum p).toNat = ((List.range 10).map fun i => (p.load16 (14 + 2 * i)).toNat).sum := by
  have summed := sum_words (fun i => p.load16 (14 + 2 * i)) (List.range 10) 0#32 (by decide)
  rwa [BitVec.toNat_zero, Nat.zero_add] at summed

theorem header_words (p : Packet) : ((List.range 10).map fun i => (p.load16 (14 + 2 * i)).toNat).sum =
    (p.load16 14).toNat + (p.load16 16).toNat + (p.load16 18).toNat + (p.load16 20).toNat + (p.load16 22).toNat +
      (p.load16 24).toNat + (p.load16 26).toNat + (p.load16 28).toNat + (p.load16 30).toNat + (p.load16 32).toNat := by
  simp [List.range_succ, Nat.add_assoc]

theorem store_kept (p : Packet) (off x : Nat) (v : BitVec 16) (inside : off + 1 < p.length) (low : x ≠ off) (high : x ≠ off + 1) :
    (p.store16 off v).byteAt x = p.byteAt x := by
  rw [store_byte p off x v inside, if_neg high, if_neg low]

theorem store_other (p : Packet) (off x : Nat) (v : BitVec 16) (inside : off + 1 < p.length) (apart : x + 1 < off ∨ off + 1 < x) :
    (p.store16 off v).load16 x = p.load16 x := by
  rw [Packet.load16, Packet.load16, store_kept p off x v inside (by omega) (by omega),
    store_kept p off (x + 1) v inside (by omega) (by omega)]

theorem store_wide_length (p : Packet) (off : Nat) (v : BitVec 32) : (p.store32 off v).length = p.length := by
  rw [Packet.store32, store_length, store_length]

theorem store_wide_kept (p : Packet) (off x : Nat) (v : BitVec 32) (inside : off + 3 < p.length) (apart : x < off ∨ off + 3 < x) :
    (p.store32 off v).byteAt x = p.byteAt x := by
  have length := store_length p off (v.extractLsb' 0 16)
  rw [Packet.store32, store_kept _ _ _ _ (by omega) (by omega) (by omega), store_kept _ _ _ _ (by omega) (by omega) (by omega)]

theorem store_wide_load (p : Packet) (off : Nat) (v : BitVec 32) (inside : off + 3 < p.length) : (p.store32 off v).load32 off = v := by
  have length := store_length p off (v.extractLsb' 0 16)
  rw [Packet.store32, Packet.load32, store_load _ _ _ (by omega), store_other _ _ _ _ (by omega) (by omega), store_load _ _ _ (by omega)]
  exact BitVec.extractLsb'_append_extractLsb'_eq_extractLsb' (by omega) |>.trans BitVec.extractLsb'_eq_self

section Rewrite

variable (p : Packet) (newDaddr : BitVec 32) (whole : 34 ≤ p.length)

include whole

theorem rewrite_kept (x : Nat) (check : x < 24 ∨ 25 < x) (address : x < 30 ∨ 33 < x) :
    (rewriteDaddr p newDaddr).byteAt x = p.byteAt x := by
  have length := store_wide_length p 30 newDaddr
  have cleared := store_length (p.store32 30 newDaddr) 24 0#16
  unfold rewriteDaddr
  simp only
  rw [store_kept _ 24 x _ (by omega) (by omega) (by omega), store_kept _ 24 x _ (by omega) (by omega) (by omega),
    store_wide_kept p 30 x newDaddr (by omega) address]

theorem rewrite_load (x : Nat) (check : x + 1 < 24 ∨ 25 < x) :
    (rewriteDaddr p newDaddr).load16 x = ((p.store32 30 newDaddr).store16 24 0#16).load16 x := by
  have length := store_wide_length p 30 newDaddr
  have cleared := store_length (p.store32 30 newDaddr) 24 0#16
  exact store_other _ 24 x _ (by omega) (by omega)

theorem rewrite_daddr : (rewriteDaddr p newDaddr).daddr = newDaddr := by
  have length := store_wide_length p 30 newDaddr
  have stored : ((p.store32 30 newDaddr).store16 24 0#16).load32 30 = (p.store32 30 newDaddr).load32 30 := by
    rw [Packet.load32, store_other _ 24 _ _ (by omega) (by omega), store_other _ 24 _ _ (by omega) (by omega), Packet.load32]
  rw [Packet.daddr, Packet.load32, rewrite_load p newDaddr whole 32 (by omega), rewrite_load p newDaddr whole 30 (by omega)]
  exact stored.trans (store_wide_load p 30 newDaddr (by omega))

theorem rewrite_word (x : Nat) (check : x + 1 < 24 ∨ 25 < x) (address : x + 1 < 30 ∨ 33 < x) :
    (rewriteDaddr p newDaddr).netWord x = p.netWord x := by
  rw [Packet.netWord, Packet.netWord, rewrite_kept p newDaddr whole x (by omega) (by omega),
    rewrite_kept p newDaddr whole (x + 1) (by omega) (by omega)]

theorem rewrite_words (start count : Nat) (behind : 34 ≤ start) :
    (rewriteDaddr p newDaddr).netWords start count = p.netWords start count := by
  unfold Packet.netWords
  exact List.map_congr_left fun i _ => rewrite_word p newDaddr whole _ (by omega) (by omega)

theorem rewrite_sums : ((List.range 10).map fun i => ((rewriteDaddr p newDaddr).load16 (14 + 2 * i)).toNat).sum % 65535 = 0 := by
  have length := store_wide_length p 30 newDaddr
  have bytes := store_length (p.store32 30 newDaddr) 24 0#16
  have same := rewrite_load p newDaddr whole
  have blank : ((p.store32 30 newDaddr).store16 24 0#16).load16 24 = 0#16 := store_load _ 24 0#16 (by omega)
  have check : (rewriteDaddr p newDaddr).load16 24 = csumFoldHelper (headerSum ((p.store32 30 newDaddr).store16 24 0#16)) :=
    store_load _ 24 _ (by omega)
  generalize (p.store32 30 newDaddr).store16 24 0#16 = cleared at *
  have summed := header_sum_nat cleared
  have complement := (OnesComplement.complement_sum 65536 (by decide) (headerSum cleared).toNat (headerSum cleared).isLt).1
  rw [← csum_fold_nat, summed, header_words, blank] at complement
  rw [header_words, check, same 14 (by omega), same 16 (by omega), same 18 (by omega), same 20 (by omega), same 22 (by omega),
    same 26 (by omega), same 28 (by omega), same 30 (by omega), same 32 (by omega)]
  rw [BitVec.toNat_zero] at complement
  omega

theorem rewrite_ihl : (rewriteDaddr p newDaddr).ihl = p.ihl := by
  rw [Packet.ihl, rewrite_kept p newDaddr whole 14 (by omega) (by omega), Packet.ihl]

theorem rewrite_segment_len : (rewriteDaddr p newDaddr).segmentLen = p.segmentLen := by
  rw [Packet.segmentLen, Packet.totLen, rewrite_word p newDaddr whole 16 (by omega) (by omega), rewrite_ihl p newDaddr whole,
    Packet.segmentLen, Packet.totLen]

end Rewrite

theorem words_split (p : Packet) (start first second : Nat) :
    p.netWords start (first + second) = p.netWords start first ++ p.netWords (start + 2 * first) second := by
  unfold Packet.netWords
  rw [List.range_add, List.map_append, List.map_map]
  refine congrArg _ (List.map_congr_left fun i _ => ?_)
  rw [Function.comp_apply, Nat.mul_add, Nat.add_assoc]

-- The checksum of the program leaves the options out.
theorem rewrite_ip_iff (p : Packet) (newDaddr : BitVec 32) (whole : 34 ≤ p.length) (header : 5 ≤ p.ihl) :
    (rewriteDaddr p newDaddr).IpChecked ↔ p.optionSum % 65535 = 0 := by
  have split : 2 * p.ihl = 10 + (2 * p.ihl - 10) := by omega
  have options := rewrite_words p newDaddr whole 34 (2 * p.ihl - 10) (by decide)
  have swapped := words_swapped (rewriteDaddr p newDaddr) 14 10
  have fixed : ((rewriteDaddr p newDaddr).netWords 14 10).sum % 65535 = 0 := by
    rw [swapped, Nat.mul_mod, rewrite_sums p newDaddr whole]
  have positive : 0 < ((rewriteDaddr p newDaddr).netWords 14 10).sum := by
    have length : (rewriteDaddr p newDaddr).netWord 14 ≠ 0 := by
      rw [rewrite_word p newDaddr whole 14 (by omega) (by omega)]
      intro zero
      have byte : (p.byteAt 14).toNat = 0 := by
        unfold Packet.netWord at zero
        omega
      rw [Packet.ihl, BitVec.toNat_and, byte, Nat.zero_and] at header
      omega
    have first : (rewriteDaddr p newDaddr).netWord 14 ∈ (rewriteDaddr p newDaddr).netWords 14 10 :=
      List.mem_map.mpr ⟨0, by decide, rfl⟩
    exact (Nat.pos_of_ne_zero length).trans_le (List.le_sum_of_mem first)
  unfold Packet.IpChecked Packet.optionSum
  rw [OnesComplement.valid_iff 65536 (by decide) _ (words_below _ _ _), rewrite_ihl p newDaddr whole, split, words_split,
    List.sum_append, options, ← split]
  omega

theorem segment_words_below (p : Packet) : ∀ word ∈ p.segmentWords, word < 65536 := by
  intro word member
  rcases List.mem_append.mp member with full | last
  · exact words_below p _ _ word full
  · split at last
    · have byte := (p.byteAt (p.tcpStart + p.segmentLen - 1)).isLt
      rw [List.mem_singleton.mp last]
      omega
    · cases last

def Packet.restSum (p : Packet) : Nat := p.netWord 26 + p.netWord 28 + p.protocol.toNat + p.segmentLen + p.segmentWords.sum

theorem tcp_checked_iff (p : Packet) (nonempty : 0 < p.segmentLen) :
    p.TcpChecked ↔ (p.restSum + 256 * p.daddr.toNat) % 65535 = 0 := by
  have small : ∀ word ∈ p.pseudoWords ++ p.segmentWords, word < 65536 := by
    intro word member
    rcases List.mem_append.mp member with pseudo | segment
    · rcases List.mem_append.mp pseudo with address | rest
      · exact words_below p _ _ word address
      · have protocol := p.protocol.isLt
        have total := word_below p 16
        simp only [List.mem_cons, List.not_mem_nil, or_false] at rest
        unfold Packet.segmentLen Packet.totLen at rest
        omega
    · exact segment_words_below p word segment
  have addresses : (p.netWords 26 4).sum = p.netWord 26 + p.netWord 28 + (p.netWord 30 + p.netWord 32) := by
    simp [Packet.netWords, List.range_succ, Nat.add_assoc]
  have total : (p.pseudoWords ++ p.segmentWords).sum = p.restSum + (p.netWord 30 + p.netWord 32) := by
    rw [List.sum_append, Packet.pseudoWords, List.sum_append, addresses, Packet.restSum]
    simp only [List.sum_cons, List.sum_nil]
    omega
  have weight : (p.restSum + (p.netWord 30 + p.netWord 32)) % 65535 = (p.restSum + 256 * p.daddr.toNat) % 65535 :=
    (address_swapped p 30).add_left p.restSum
  unfold Packet.TcpChecked
  rw [OnesComplement.valid_iff 65536 (by decide) _ small, total, weight]
  have positive : 0 < p.restSum := by
    unfold Packet.restSum
    omega
  exact ⟨fun valid => valid.1, fun divides => ⟨divides, by omega⟩⟩

theorem rewrite_rest (p : Packet) (newDaddr : BitVec 32) (whole : 34 ≤ p.length) (header : 5 ≤ p.ihl) :
    (rewriteDaddr p newDaddr).restSum = p.restSum := by
  have length := rewrite_segment_len p newDaddr whole
  have tcp : (rewriteDaddr p newDaddr).tcpStart = p.tcpStart := by rw [Packet.tcpStart, rewrite_ihl p newDaddr whole, Packet.tcpStart]
  have behind : 34 ≤ p.tcpStart := by
    unfold Packet.tcpStart
    omega
  have segment : (rewriteDaddr p newDaddr).segmentWords = p.segmentWords := by
    unfold Packet.segmentWords
    rw [length, tcp, rewrite_words p newDaddr whole _ _ behind]
    split
    · rw [rewrite_kept p newDaddr whole _ (by omega) (by omega)]
    · rfl
  unfold Packet.restSum Packet.protocol
  rw [segment, length, rewrite_word p newDaddr whole 26 (by omega) (by omega), rewrite_word p newDaddr whole 28 (by omega) (by omega),
    rewrite_kept p newDaddr whole 23 (by omega) (by omega)]

-- The checksum of the segment is left as it was.
theorem rewrite_tcp_iff (p : Packet) (newDaddr : BitVec 32) (whole : 34 ≤ p.length) (header : 5 ≤ p.ihl) (nonempty : 0 < p.segmentLen)
    (checked : p.TcpChecked) : (rewriteDaddr p newDaddr).TcpChecked ↔ newDaddr.toNat % 65535 = p.daddr.toNat % 65535 := by
  rw [tcp_checked_iff p nonempty] at checked
  rw [tcp_checked_iff _ (by rwa [rewrite_segment_len p newDaddr whole]), rewrite_rest p newDaddr whole header,
    rewrite_daddr p newDaddr whole]
  have swap := OnesComplement.swap_cancel 256 newDaddr.toNat p.daddr.toNat (by decide)
  constructor
  · intro valid
    exact swap.mp (Nat.ModEq.add_left_cancel' p.restSum (valid.trans checked.symm))
  · intro same
    have sums : (p.restSum + 256 * newDaddr.toNat) % 65535 = (p.restSum + 256 * p.daddr.toNat) % 65535 :=
      (swap.mpr same).add_left p.restSum
    exact sums.trans checked

theorem rewrite_dest (p : Packet) (newDaddr : BitVec 32) (whole : 34 ≤ p.length) (header : 5 ≤ p.ihl) :
    (rewriteDaddr p newDaddr).dest = p.dest := by
  have behind : 34 ≤ p.tcpStart := by
    unfold Packet.tcpStart
    omega
  rw [Packet.dest, Packet.tcpStart, rewrite_ihl p newDaddr whole, ← Packet.tcpStart, Packet.load16,
    rewrite_kept p newDaddr whole _ (by omega) (by omega), rewrite_kept p newDaddr whole _ (by omega) (by omega),
      Packet.dest, Packet.load16]

theorem delivered_iff (p : Packet) (server : ServerRecord) (intact : p.Intact) :
    Delivered server (rewriteDaddr p server.ipv4Addr) ↔ Indifferent server p := by
  obtain ⟨header, segment, inside, _, checked⟩ := intact
  have whole : 34 ≤ p.length := by omega
  have nonempty : 0 < p.segmentLen := by
    unfold Packet.segmentLen
    omega
  have dest := rewrite_dest p server.ipv4Addr whole header
  have ip := rewrite_ip_iff p server.ipv4Addr whole header
  have tcp := rewrite_tcp_iff p server.ipv4Addr whole header nonempty checked
  constructor
  · intro delivered
    exact ⟨dest ▸ delivered.port, ip.mp delivered.ip, tcp.mp delivered.tcp⟩
  · intro indifferent
    exact ⟨rewrite_daddr p server.ipv4Addr whole, dest.trans indifferent.port, ip.mpr indifferent.options, tcp.mpr indifferent.address⟩

theorem xdp_rewrite_iff (maps : Maps) (p : Packet) (intact : p.Intact) :
    Delivers maps p ↔ ∀ targetIdx server, selectServer maps p = some (targetIdx, server) → Indifferent server p := by
  unfold Delivers xdpHuddleRouter
  cases selected : selectServer maps p with
  | none => simp
  | some chosen =>
      obtain ⟨idx, record⟩ := chosen
      have exactly := delivered_iff p record intact
      constructor
      · intro delivers targetIdx server same
        obtain ⟨_, _, known, delivered⟩ := delivers.1 rfl
        cases same
        cases known
        exact exactly.mp delivered
      · intro indifferent
        exact ⟨fun _ => ⟨idx, record, rfl, exactly.mpr (indifferent idx record rfl)⟩, fun passed => absurd rfl passed⟩

def oneBackend (server : ServerRecord) : Maps := ⟨#v[1, 0, 0, 0], (Vector.replicate 64 ⟨0, 0, 0⟩).set 0 server⟩

-- A connection from port 12345 of 10.0.0.9 to port 80 of 10.1.10.2 begins.
def synPacket : Packet :=
  [2, 0, 0, 0, 0, 1, 2, 0, 0, 0, 0, 2, 0x08, 0x00,
    0x45, 0x00, 0x00, 0x28, 0x00, 0x00, 0x00, 0x00, 0x40, 0x06, 0x5c, 0xc5, 10, 0, 0, 9, 10, 1, 10, 2,
    0x30, 0x39, 0x00, 0x50, 0, 0, 0, 0, 0, 0, 0, 0, 0x50, 0x02, 0x20, 0x00, 0x41, 0x4e, 0x00, 0x00]

theorem syn_intact : synPacket.Intact := by
  refine ⟨?_, ?_, ?_, ?_, ?_⟩
  · decide
  · decide
  · decide
  · unfold Packet.IpChecked
    decide +kernel
  · unfold Packet.TcpChecked
    decide +kernel

theorem xdp_rewrite_syn : synPacket.Intact ∧ Delivers (oneBackend ⟨0x010a020a, 0x5000, 0⟩) synPacket := by
  refine ⟨syn_intact, (xdp_rewrite_iff _ _ syn_intact).mpr ?_⟩
  have selected : selectServer (oneBackend ⟨0x010a020a, 0x5000, 0⟩) synPacket = some (0, ⟨0x010a020a, 0x5000, 0⟩) := by
    decide +kernel
  intro targetIdx server known
  rw [selected] at known
  cases known
  exact ⟨by decide +kernel, by decide +kernel, by decide +kernel⟩

-- The server listens on port 8080, and the packet still names port 80.
theorem port_left_behind : synPacket.Intact ∧ ¬ Delivers (oneBackend ⟨0x010a020a, 0x901f, 0⟩) synPacket := by
  refine ⟨syn_intact, fun delivers => ?_⟩
  have selected : selectServer (oneBackend ⟨0x010a020a, 0x901f, 0⟩) synPacket = some (0, ⟨0x010a020a, 0x901f, 0⟩) := by
    decide +kernel
  have sent : (xdpHuddleRouter (oneBackend ⟨0x010a020a, 0x901f, 0⟩) synPacket).1 = .tx := by decide +kernel
  have kept : (xdpHuddleRouter (oneBackend ⟨0x010a020a, 0x901f, 0⟩) synPacket).2.1.dest = 0x5000 := by decide +kernel
  obtain ⟨_, _, known, delivered⟩ := delivers.1 sent
  rw [selected] at known
  cases known
  have port := delivered.port
  rw [kept] at port
  exact absurd port (by decide)

end HuddleCluster.Ebpf
