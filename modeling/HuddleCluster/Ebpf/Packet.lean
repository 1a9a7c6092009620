import HuddleCluster.Lib.OnesComplement

set_option autoImplicit false

namespace HuddleCluster.Ebpf

-- The bytes from data to data_end. The program runs on a little-endian host.
abbrev Packet := List (BitVec 8)

namespace Packet

def byteAt (p : Packet) (off : Nat) : BitVec 8 := p.getD off 0

def load16 (p : Packet) (off : Nat) : BitVec 16 := p.byteAt (off + 1) ++ p.byteAt off

def load32 (p : Packet) (off : Nat) : BitVec 32 := p.load16 (off + 2) ++ p.load16 off

def store16 (p : Packet) (off : Nat) (v : BitVec 16) : Packet := (p.set off (v.extractLsb' 0 8)).set (off + 1) (v.extractLsb' 8 8)

def store32 (p : Packet) (off : Nat) (v : BitVec 32) : Packet :=
    (p.store16 off (v.extractLsb' 0 16)).store16 (off + 2) (v.extractLsb' 16 16)

-- The fields of struct ethhdr, at 0, struct iphdr, at 14, and struct tcphdr.
def hProto (p : Packet) : BitVec 16 := p.load16 12

def ihl (p : Packet) : Nat := (p.byteAt 14 &&& 0xf).toNat

def protocol (p : Packet) : BitVec 8 := p.byteAt 23

def saddr (p : Packet) : BitVec 32 := p.load32 26

def daddr (p : Packet) : BitVec 32 := p.load32 30

def tcpStart (p : Packet) : Nat := 14 + p.ihl * 4

def source (p : Packet) : BitVec 16 := p.load16 p.tcpStart

def dest (p : Packet) : BitVec 16 := p.load16 (p.tcpStart + 2)

-- A word as the network orders its bytes.
def netWord (p : Packet) (off : Nat) : Nat := 256 * (p.byteAt off).toNat + (p.byteAt (off + 1)).toNat

def netWords (p : Packet) (start count : Nat) : List Nat := (List.range count).map fun i => p.netWord (start + 2 * i)

def totLen (p : Packet) : Nat := p.netWord 16

def segmentLen (p : Packet) : Nat := p.totLen - p.ihl * 4

-- A segment of odd length ends with half a word.
def segmentWords (p : Packet) : List Nat :=
  p.netWords p.tcpStart (p.segmentLen / 2) ++
    if p.segmentLen % 2 = 1 then [256 * (p.byteAt (p.tcpStart + p.segmentLen - 1)).toNat] else []

def pseudoWords (p : Packet) : List Nat := p.netWords 26 4 ++ [p.protocol.toNat, p.segmentLen]

def IpChecked (p : Packet) : Prop := OnesComplement.Valid 65536 (p.netWords 14 (2 * p.ihl))

def TcpChecked (p : Packet) : Prop := OnesComplement.Valid 65536 (p.pseudoWords ++ p.segmentWords)

structure Intact (p : Packet) : Prop where
  header : 5 ≤ p.ihl
  segment : p.ihl * 4 + 20 ≤ p.totLen
  whole : 14 + p.totLen ≤ p.length
  ip : p.IpChecked
  tcp : p.TcpChecked

end Packet

open Packet

theorem byte_set (p : Packet) (off x : Nat) (v : BitVec 8) (inside : off < p.length) :
    Packet.byteAt (p.set off v) x = if x = off then v else p.byteAt x := by
  unfold byteAt
  rw [List.getD_eq_getElem?_getD, List.getElem?_set, List.getD_eq_getElem?_getD]
  by_cases here : x = off
  · rw [if_pos here.symm, if_pos here, if_pos inside]
    rfl
  · rw [if_neg (Ne.symm here), if_neg here]

theorem store_length (p : Packet) (off : Nat) (v : BitVec 16) : (p.store16 off v).length = p.length := by
  rw [store16, List.length_set, List.length_set]

theorem store_byte (p : Packet) (off x : Nat) (v : BitVec 16) (inside : off + 1 < p.length) :
    (p.store16 off v).byteAt x =
      if x = off + 1 then v.extractLsb' 8 8 else if x = off then v.extractLsb' 0 8 else p.byteAt x := by
  rw [store16, byte_set _ _ _ _ (by rw [List.length_set]; exact inside), byte_set _ _ _ _ (by omega)]

theorem store_load (p : Packet) (off : Nat) (v : BitVec 16) (inside : off + 1 < p.length) : (p.store16 off v).load16 off = v := by
  rw [load16, store_byte p off _ v inside, store_byte p off _ v inside, if_pos rfl, if_neg (by omega), if_pos rfl]
  exact BitVec.extractLsb'_append_extractLsb'_eq_extractLsb' (by omega) |>.trans BitVec.extractLsb'_eq_self

theorem load_nat (p : Packet) (off : Nat) : (p.load16 off).toNat = (p.byteAt (off + 1)).toNat * 256 + (p.byteAt off).toNat := by
  rw [load16, BitVec.toNat_append, ← Nat.shiftLeft_add_eq_or_of_lt (p.byteAt off).isLt, Nat.shiftLeft_eq]

theorem load_wide_nat (p : Packet) (off : Nat) :
    (p.load32 off).toNat = (p.load16 (off + 2)).toNat * 65536 + (p.load16 off).toNat := by
  rw [load32, BitVec.toNat_append, ← Nat.shiftLeft_add_eq_or_of_lt (p.load16 off).isLt, Nat.shiftLeft_eq]

theorem word_below (p : Packet) (off : Nat) : p.netWord off < 65536 := by
  have high := (p.byteAt off).isLt
  have low := (p.byteAt (off + 1)).isLt
  unfold netWord
  omega

theorem words_below (p : Packet) (start count : Nat) : ∀ word ∈ p.netWords start count, word < 65536 := by
  intro word member
  obtain ⟨i, _, rfl⟩ := List.mem_map.mp member
  exact word_below p _

-- The host reads the two bytes in the other order.
theorem word_swapped (p : Packet) (off : Nat) : p.netWord off ≡ 256 * (p.load16 off).toNat [MOD 65535] := by
  rw [load_nat]
  unfold netWord
  rw [Nat.mul_comm 256 (p.byteAt off).toNat]
  exact OnesComplement.swap_mod 256 _ _ (by decide)

theorem words_swapped (p : Packet) (start count : Nat) :
    (p.netWords start count).sum ≡ 256 * ((List.range count).map fun i => (p.load16 (start + 2 * i)).toNat).sum [MOD 65535] := by
  induction count with
  | zero => rfl
  | succ count ih =>
      unfold netWords at ih ⊢
      rw [List.range_succ, List.map_append, List.sum_append, List.map_append, List.sum_append, Nat.mul_add]
      exact ih.add (by simpa using word_swapped p (start + 2 * count))

-- The high half of an address counts as much as the low half.
theorem address_swapped (p : Packet) (off : Nat) : p.netWord off + p.netWord (off + 2) ≡ 256 * (p.load32 off).toNat [MOD 65535] := by
  have halves := (word_swapped p off).add (word_swapped p (off + 2))
  have carried : (p.load32 off).toNat ≡ (p.load16 off).toNat + (p.load16 (off + 2)).toNat [MOD 65535] := by
    have once : 65536 ≡ 1 [MOD 65535] := rfl
    rw [load_wide_nat, Nat.add_comm]
    simpa using (once.mul_left (p.load16 (off + 2)).toNat).add_left (p.load16 off).toNat
  rw [← Nat.mul_add] at halves
  exact halves.trans (carried.symm.mul_left 256)

end HuddleCluster.Ebpf
