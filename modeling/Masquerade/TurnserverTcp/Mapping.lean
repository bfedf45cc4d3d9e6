import Masquerade.Addr
import Mathlib.Tactic.Common

/-! The relayed address of a slab index, and the index of an address. -/

namespace Masquerade.TurnserverTcp

abbrev Usize := BitVec 64

structure Ipv6Net where
  addr : Ipv6Addr
  prefixLen : ℕ
  le : prefixLen ≤ 128

namespace Ipv6Net

variable (net : Ipv6Net)

def netmask : Ipv6Addr := BitVec.allOnes 128 <<< (128 - net.prefixLen)

def hostmask : Ipv6Addr := BitVec.allOnes 128 >>> net.prefixLen

def network : Ipv6Addr := net.addr &&& net.netmask

def contains (ip : Ipv6Addr) : Bool := ip &&& net.netmask == net.network

end Ipv6Net

def minPrefixLen : ℕ := 128 - (64 - 15)

structure Mapping where
  subnet : Ipv6Net
  fits : minPrefixLen ≤ subnet.prefixLen

namespace Mapping

def new (subnet : Ipv6Net) : Except String Mapping :=
  if h : minPrefixLen > subnet.prefixLen then
    .error s!"Need at most /{minPrefixLen} subnet for a system with 64 usize bits, found /{subnet.prefixLen}"
  else .ok ⟨subnet, Nat.le_of_not_lt h⟩

variable (m : Mapping)

def fromIndex (index : Usize) : Option SocketAddrV6 :=
  -- The least 15 bits become the port, the rest is the host.
  let port : UInt16 := ⟨(index &&& 0x7FFF#64 ||| 0x8000#64).setWidth 16⟩
  let host : Ipv6Addr := index.setWidth 128 >>> 15
  let ip := m.subnet.network ||| host
  if m.subnet.contains ip then some ⟨ip, port, 0, 0⟩ else none

def toIndex (addr : SocketAddrV6) : Option Usize :=
  if m.subnet.contains addr.ip then
    let host := addr.ip &&& m.subnet.hostmask
    let ret := host <<< 15 ||| (0x7FFF#16 &&& addr.port.toBitVec).setWidth 128
    some (ret.setWidth 64)
  else none

end Mapping

section Bits

variable (net : Ipv6Net)

lemma getLsbD_netmask (k : ℕ) :
    net.netmask.getLsbD k = (decide (k < 128) && !decide (k < 128 - net.prefixLen)) := by
  simp only [Ipv6Net.netmask, BitVec.getLsbD_shiftLeft, BitVec.getLsbD_allOnes]
  by_cases hk : k < 128 <;> by_cases hp : k < 128 - net.prefixLen <;> simp [hk, hp]
  omega

lemma getLsbD_hostmask (k : ℕ) : net.hostmask.getLsbD k = decide (k < 128 - net.prefixLen) := by
  simp only [Ipv6Net.hostmask, BitVec.getLsbD_ushiftRight, BitVec.getLsbD_allOnes, decide_eq_decide]
  have := net.le
  omega

lemma getLsbD_network_of_lt {k : ℕ} (hk : k < 128 - net.prefixLen) :
    net.network.getLsbD k = false := by
  simp [Ipv6Net.network, getLsbD_netmask, hk]

lemma contains_iff (ip : Ipv6Addr) : net.contains ip = true ↔
    ∀ k, 128 - net.prefixLen ≤ k → k < 128 → ip.getLsbD k = net.network.getLsbD k := by
  rw [Ipv6Net.contains, beq_iff_eq]
  constructor
  · intro h k hk hlt
    rw [← h, BitVec.getLsbD_and, getLsbD_netmask]
    simp [hlt, Nat.not_lt.mpr hk]
  · intro h
    apply BitVec.eq_of_getLsbD_eq
    intro k hk
    rw [BitVec.getLsbD_and, getLsbD_netmask]
    by_cases hp : k < 128 - net.prefixLen
    · simp [hp, getLsbD_network_of_lt]
    · rw [h k (Nat.le_of_not_lt hp) hk]
      simp [hp, hk]

lemma getLsbD_low (w k : ℕ) : (BitVec.ofNat w 0x7FFF).getLsbD k =
    (decide (k < w) && decide (k < 15)) := by
  rw [BitVec.getLsbD_ofNat, show 0x7FFF = 2 ^ 15 - 1 by rfl, Nat.testBit_two_pow_sub_one]

lemma getLsbD_high (w k : ℕ) :
    (BitVec.ofNat w 0x8000).getLsbD k = (decide (k < w) && decide (15 = k)) := by
  rw [BitVec.getLsbD_ofNat, show 0x8000 = 2 ^ 15 by rfl, Nat.testBit_two_pow]

end Bits

namespace Mapping

variable (m : Mapping)

def portOf (index : Usize) : UInt16 := ⟨(index &&& 0x7FFF#64 ||| 0x8000#64).setWidth 16⟩

def ipOf (index : Usize) : Ipv6Addr := m.subnet.network ||| index.setWidth 128 >>> 15

def indexOf (addr : SocketAddrV6) : Usize :=
  ((addr.ip &&& m.subnet.hostmask) <<< 15 |||
    (0x7FFF#16 &&& addr.port.toBitVec).setWidth 128).setWidth 64

lemma fromIndex_eq_some {index : Usize} {addr : SocketAddrV6} : m.fromIndex index = some addr ↔
    m.subnet.contains (m.ipOf index) = true ∧ addr = ⟨m.ipOf index, portOf index, 0, 0⟩ := by
  rw [fromIndex, ← ipOf]
  by_cases h : m.subnet.contains (m.ipOf index) = true
  · simp [h, portOf, eq_comm]
  · simp [h]

lemma toIndex_eq_some {addr : SocketAddrV6} {index : Usize} : m.toIndex addr = some index ↔
    m.subnet.contains addr.ip = true ∧ index = m.indexOf addr := by
  rw [toIndex, indexOf]
  by_cases h : m.subnet.contains addr.ip = true
  · simp [h, eq_comm]
  · simp [h]

lemma getLsbD_portOf (index : Usize) (k : ℕ) : (portOf index).toBitVec.getLsbD k =
    (decide (k < 15) && index.getLsbD k || decide (15 = k)) := by
  simp only [portOf, BitVec.getLsbD_setWidth, BitVec.getLsbD_or, BitVec.getLsbD_and,
    getLsbD_low, getLsbD_high]
  by_cases hk : k < 16
  · have h64 : k < 64 := by omega
    simp [hk, h64, Bool.and_comm]
  · have h15 : ¬ k < 15 := by omega
    have hne : ¬ 15 = k := by omega
    simp [hk, h15, hne]

lemma getLsbD_ipOf (index : Usize) (k : ℕ) :
    (m.ipOf index).getLsbD k = (m.subnet.network.getLsbD k || index.getLsbD (15 + k)) := by
  simp only [ipOf, BitVec.getLsbD_or, BitVec.getLsbD_ushiftRight, BitVec.getLsbD_setWidth]
  by_cases hk : 15 + k < 128
  · simp [hk]
  · have h64 := BitVec.getLsbD_of_ge index (15 + k) (by omega)
    simp [hk, h64]

lemma getLsbD_indexOf (addr : SocketAddrV6) {k : ℕ} (hk : k < 64) : (m.indexOf addr).getLsbD k =
    if k < 15 then addr.port.toBitVec.getLsbD k
    else (addr.ip.getLsbD (k - 15) && decide (k - 15 < 128 - m.subnet.prefixLen)) := by
  simp only [indexOf, BitVec.getLsbD_setWidth, BitVec.getLsbD_or, BitVec.getLsbD_shiftLeft,
    BitVec.getLsbD_and, getLsbD_low, getLsbD_hostmask]
  have h128 : k < 128 := by omega
  by_cases h15 : k < 15
  · have h16 : k < 16 := by omega
    simp [hk, h128, h15, h16]
  · simp [hk, h128, h15]

/-- No bit of the network address lies where the host part of an index may have one. -/
def HostRoom : Prop := m.subnet.network.setWidth 49 = 0#49

instance : Decidable m.HostRoom := inferInstanceAs (Decidable (_ = _))

lemma hostRoom_iff : m.HostRoom ↔ ∀ k < 49, m.subnet.network.getLsbD k = false := by
  constructor
  · intro h k hk
    have hb := congrArg (fun x => x.getLsbD k) h
    simpa [BitVec.getLsbD_setWidth, hk] using hb
  · intro h
    apply BitVec.eq_of_getLsbD_eq
    intro k hk
    simpa [BitVec.getLsbD_setWidth, hk] using h k hk

lemma hostBits_le : 128 - m.subnet.prefixLen ≤ 49 := by
  have := m.fits
  simp only [minPrefixLen] at this
  omega

lemma toIndex_of_fromIndex (hroom : m.HostRoom) {index : Usize} {addr : SocketAddrV6}
    (h : m.fromIndex index = some addr) : m.toIndex addr = some index := by
  obtain ⟨hin, rfl⟩ := m.fromIndex_eq_some.mp h
  refine m.toIndex_eq_some.mpr ⟨hin, BitVec.eq_of_getLsbD_eq fun k hk => ?_⟩
  rw [getLsbD_indexOf _ _ hk]
  by_cases h15 : k < 15
  · rw [if_pos h15, getLsbD_portOf]
    simp [h15, (Nat.ne_of_lt h15).symm]
  rw [if_neg h15, getLsbD_ipOf, m.hostRoom_iff.mp hroom _ (by omega),
    Nat.add_sub_cancel' (by omega), Bool.false_or]
  by_cases hp : k - 15 < 128 - m.subnet.prefixLen
  · simp [hp]
  · -- A bit above the host part would have taken the address out of the subnet.
    have hout := (contains_iff _ _).mp hin (k - 15) (by omega) (by omega)
    rw [getLsbD_ipOf, m.hostRoom_iff.mp hroom _ (by omega), Nat.add_sub_cancel' (by omega),
      Bool.false_or] at hout
    simp [hp, hout]

lemma hostRoom_of_round_trip
    (h : ∀ index addr, m.fromIndex index = some addr → m.toIndex addr = some index) :
    m.HostRoom := by
  rw [hostRoom_iff]
  intro k hk
  by_contra hbit
  rw [Bool.not_eq_false] at hbit
  have habove : 128 - m.subnet.prefixLen ≤ k := by
    by_contra hlt
    rw [getLsbD_network_of_lt _ (by omega)] at hbit
    cases hbit
  -- The index whose host part is this bit alone is absorbed by the network address.
  have hip : m.ipOf (BitVec.twoPow 64 (15 + k)) = m.subnet.network := by
    apply BitVec.eq_of_getLsbD_eq
    intro j hj
    rw [getLsbD_ipOf, BitVec.getLsbD_twoPow]
    by_cases hjk : j = k
    · rw [hjk, hbit, Bool.true_or]
    · have hne : ¬ k = j := Ne.symm hjk
      simp [hne]
  have hin : m.subnet.contains (m.ipOf (BitVec.twoPow 64 (15 + k))) = true :=
    (contains_iff _ _).mpr fun j _ _ => by rw [hip]
  have hback := h _ _ (m.fromIndex_eq_some.mpr ⟨hin, rfl⟩)
  have hcut := congrArg (fun x => x.getLsbD (15 + k)) (m.toIndex_eq_some.mp hback).2
  simp only [BitVec.getLsbD_twoPow, getLsbD_indexOf _ _ (show 15 + k < 64 by omega)] at hcut
  have hhost : ¬ k < 128 - m.subnet.prefixLen := by omega
  have h64 : 15 + k < 64 := by omega
  simp [hhost, h64] at hcut

lemma fromIndex_of_toIndex {addr : SocketAddrV6} {index : Usize} (h : m.toIndex addr = some index) :
    m.fromIndex index = some ⟨addr.ip, addr.port ||| 0x8000, 0, 0⟩ := by
  obtain ⟨hin, rfl⟩ := m.toIndex_eq_some.mp h
  have hbits := (contains_iff _ _).mp hin
  have hip : m.ipOf (m.indexOf addr) = addr.ip := by
    apply BitVec.eq_of_getLsbD_eq
    intro k hk
    have hhost := m.hostBits_le
    rw [getLsbD_ipOf]
    by_cases hp : k < 128 - m.subnet.prefixLen
    · rw [getLsbD_indexOf _ _ (by omega), getLsbD_network_of_lt _ hp]
      simp [hp]
    · rw [hbits k (by omega) hk]
      by_cases h64 : 15 + k < 64
      · rw [getLsbD_indexOf _ _ h64]
        simp [hp]
      · rw [BitVec.getLsbD_of_ge (m.indexOf addr) _ (by omega), Bool.or_false]
  have hport : portOf (m.indexOf addr) = addr.port ||| 0x8000 := by
    refine UInt16.eq_of_toBitVec_eq (BitVec.eq_of_getLsbD_eq fun k hk => ?_)
    rw [getLsbD_portOf, getLsbD_indexOf _ _ (by omega)]
    have hhigh : (0x8000 : UInt16).toBitVec = BitVec.ofNat 16 0x8000 := rfl
    rw [UInt16.toBitVec_or, BitVec.getLsbD_or, hhigh, getLsbD_high]
    by_cases h15 : k < 15
    · simp [h15, hk]
    · obtain rfl : k = 15 := by omega
      simp
  refine m.fromIndex_eq_some.mpr ⟨by rw [hip]; exact hin, by rw [hip, hport]⟩

lemma port_or_high (port : UInt16) : port ||| 0x8000 = port ↔ 0x8000 ≤ port := by
  have hhigh : (0x8000 : UInt16).toBitVec = BitVec.ofNat 16 0x8000 := rfl
  have hmsb : port.toBitVec.getLsbD 15 = decide (2 ^ 15 ≤ port.toBitVec.toNat) := by
    rw [← BitVec.msb_eq_getLsbD_last, BitVec.msb_eq_decide]
  have hle : 0x8000 ≤ port ↔ port.toBitVec.getLsbD 15 = true := by
    rw [hmsb, decide_eq_true_iff]
    rfl
  rw [hle]
  constructor
  · intro h
    rw [← h, UInt16.toBitVec_or, BitVec.getLsbD_or, hhigh, getLsbD_high]
    simp
  · intro h
    refine UInt16.eq_of_toBitVec_eq (BitVec.eq_of_getLsbD_eq fun k hk => ?_)
    rw [UInt16.toBitVec_or, BitVec.getLsbD_or, hhigh, getLsbD_high]
    by_cases h15 : 15 = k
    · subst h15
      simp [h]
    · simp [h15]

end Mapping

end Masquerade.TurnserverTcp
