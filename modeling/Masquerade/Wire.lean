import Masquerade.Addr
import Masquerade.Lib.Exec

/-! The packet headers that are overlaid on the buffers, and the Internet checksum. -/

namespace Masquerade.Wire

open Lib

namespace IpProto

def udp : UInt8 := 17
def icmp6 : UInt8 := 58

end IpProto

abbrev Ip6Flags := BitVec 32

def bitRange (t : BitVec 32) (msb lsb : ℕ) : BitVec 32 := (t <<< (31 - msb)) >>> (31 - msb + lsb)

def setBitRange (t : BitVec 32) (msb lsb : ℕ) (value : BitVec 32) : BitVec 32 :=
  let mask := ((~~~0#32 <<< (31 - msb)) >>> (31 - msb + lsb)) <<< lsb
  (t &&& ~~~mask) ||| ((value <<< lsb) &&& mask)

def Ip6Flags.version (t : Ip6Flags) : BitVec 32 := bitRange t 31 28
def Ip6Flags.setVersion (t : Ip6Flags) (v : BitVec 32) : Ip6Flags := setBitRange t 31 28 v
def Ip6Flags.setTrafficClass (t : Ip6Flags) (v : BitVec 32) : Ip6Flags := setBitRange t 27 20 v
def Ip6Flags.setFlowLabel (t : Ip6Flags) (v : BitVec 32) : Ip6Flags := setBitRange t 19 0 v

structure Ip6Header where
  flags : Ip6Flags
  payloadLength : UInt16
  nextHeader : UInt8
  hopLimit : UInt8
  src : Ipv6Addr
  dst : Ipv6Addr
  deriving DecidableEq, Repr

structure UdpHeader where
  srcPort : UInt16
  dstPort : UInt16
  length : UInt16
  checksum : UInt16
  deriving DecidableEq, Repr

structure Icmp6Header where
  typ : UInt8
  code : UInt8
  checksum : UInt16
  arg : List.Vector UInt8 4
  deriving DecidableEq

structure EtherHeader where
  dst : List.Vector UInt8 6
  src : List.Vector UInt8 6
  typ : UInt16
  deriving DecidableEq

structure DcepOpenHeader where
  msgTyp : UInt8
  channelTyp : UInt8
  priority : UInt16
  reliabilityParameter : UInt32
  labelLen : UInt16
  protocolLen : UInt16
  deriving DecidableEq, Repr

structure StunAttrHeader where
  typ : UInt16
  length : UInt16
  deriving DecidableEq, Repr

def Ip6Header.asBytes (h : Ip6Header) : Bytes :=
  toBE 4 h.flags.toNat ++ u16Bytes h.payloadLength ++ [h.nextHeader, h.hopLimit] ++
    Ipv6Addr.octets h.src ++ Ipv6Addr.octets h.dst

def Ip6Header.ofBytes (b : Bytes) : Ip6Header where
  flags := BitVec.ofNat 32 (ofBE (slice b 0 4))
  payloadLength := u16Of (slice b 4 2)
  nextHeader := b.getD 6 0
  hopLimit := b.getD 7 0
  src := Ipv6Addr.fromOctets (slice b 8 16)
  dst := Ipv6Addr.fromOctets (slice b 24 16)

def UdpHeader.asBytes (h : UdpHeader) : Bytes :=
  u16Bytes h.srcPort ++ u16Bytes h.dstPort ++ u16Bytes h.length ++ u16Bytes h.checksum

def UdpHeader.ofBytes (b : Bytes) : UdpHeader where
  srcPort := u16Of (slice b 0 2)
  dstPort := u16Of (slice b 2 2)
  length := u16Of (slice b 4 2)
  checksum := u16Of (slice b 6 2)

def Icmp6Header.ofBytes (b : Bytes) : Icmp6Header where
  typ := b.getD 0 0
  code := b.getD 1 0
  checksum := u16Of (slice b 2 2)
  arg := ⟨[b.getD 4 0, b.getD 5 0, b.getD 6 0, b.getD 7 0], rfl⟩

def EtherHeader.ofBytes (b : Bytes) : EtherHeader where
  dst := ⟨[b.getD 0 0, b.getD 1 0, b.getD 2 0, b.getD 3 0, b.getD 4 0, b.getD 5 0], rfl⟩
  src := ⟨[b.getD 6 0, b.getD 7 0, b.getD 8 0, b.getD 9 0, b.getD 10 0, b.getD 11 0], rfl⟩
  typ := u16Of (slice b 12 2)

def DcepOpenHeader.asBytes (h : DcepOpenHeader) : Bytes :=
  [h.msgTyp, h.channelTyp] ++ u16Bytes h.priority ++ u32Bytes h.reliabilityParameter ++
    u16Bytes h.labelLen ++ u16Bytes h.protocolLen

def StunAttrHeader.asBytes (h : StunAttrHeader) : Bytes := u16Bytes h.typ ++ u16Bytes h.length

def Ip6Header.len (h : Ip6Header) : ℕ := 40 + h.payloadLength.toNat

def Ip6Header.fromPrefix (buffer : Bytes) : Option (Ip6Header × Bytes) :=
  if 40 ≤ buffer.length then some (ofBytes buffer, buffer.drop 40) else none

def UdpHeader.fromPrefix (buffer : Bytes) : Option (UdpHeader × Bytes) :=
  if 8 ≤ buffer.length then some (ofBytes buffer, buffer.drop 8) else none

def Icmp6Header.fromPrefix (buffer : Bytes) : Option (Icmp6Header × Bytes) :=
  if 8 ≤ buffer.length then some (ofBytes buffer, buffer.drop 8) else none

def EtherHeader.fromPrefix (buffer : Bytes) : Option (EtherHeader × Bytes) :=
  if 14 ≤ buffer.length then some (ofBytes buffer, buffer.drop 14) else none

def checksumAccum : Bytes → ℕ → ℕ → Exec ℕ
  | [], _, accum => .ok accum
  | b :: bs, offset, accum => do
    let accum ← addWithin 32 accum (if offset % 2 = 0 then b.toNat <<< 8 else b.toNat)
    checksumAccum bs (offset + 1) accum

lemma carry_lt {accum : ℕ} (h : 0xffff < accum) : (accum >>> 16) + (accum &&& 0xffff) < accum := by
  have hs : accum >>> 16 = accum / 65536 := Nat.shiftRight_eq_div_pow accum 16
  have ha : accum &&& 0xffff = accum % 65536 := Nat.and_two_pow_sub_one_eq_mod accum 16
  omega

def checksumFold (accum : ℕ) : ℕ :=
  if 0xffff < accum then checksumFold ((accum >>> 16) + (accum &&& 0xffff)) else accum
termination_by accum
decreasing_by exact carry_lt ‹_›

def ipChecksum (slices : List Bytes) : Exec UInt16 := do
  let accum ← checksumAccum slices.flatten 0 0
  return ~~~(UInt16.ofNat (checksumFold accum))

def udpChecksumFill (ip : Ip6Header) (udp : UdpHeader) (data : Bytes) : Exec UdpHeader := do
  let udp := { udp with checksum := 0 }
  let checksum ← ipChecksum
    [Ipv6Addr.octets ip.src, Ipv6Addr.octets ip.dst, [0, ip.nextHeader], u16Bytes ip.payloadLength,
      udp.asBytes, data]
  return { udp with checksum := if checksum = 0 then 0xffff else checksum }

@[simp] lemma Ip6Header.asBytes_length (h : Ip6Header) : h.asBytes.length = 40 := by simp [asBytes]

@[simp] lemma UdpHeader.asBytes_length (h : UdpHeader) : h.asBytes.length = 8 := by simp [asBytes]

@[simp] lemma DcepOpenHeader.asBytes_length (h : DcepOpenHeader) : h.asBytes.length = 12 := by
  simp [asBytes]

@[simp] lemma StunAttrHeader.asBytes_length (h : StunAttrHeader) : h.asBytes.length = 4 := by
  simp [asBytes]

lemma Ip6Header.ofBytes_asBytes (h : Ip6Header) (rest : Bytes) :
    ofBytes (h.asBytes ++ rest) = h := by
  have hf : slice (h.asBytes ++ rest) 0 4 = toBE 4 h.flags.toNat := rfl
  have hp : slice (h.asBytes ++ rest) 4 2 = u16Bytes h.payloadLength := rfl
  have hs : slice (h.asBytes ++ rest) 8 16 = Ipv6Addr.octets h.src := rfl
  have hd : slice (h.asBytes ++ rest) 24 16 = Ipv6Addr.octets h.dst := rfl
  have hn : (h.asBytes ++ rest).getD 6 0 = h.nextHeader := rfl
  have hl : (h.asBytes ++ rest).getD 7 0 = h.hopLimit := rfl
  simp only [ofBytes, hf, hp, hs, hd, hn, hl, u16Of_u16Bytes, Ipv6Addr.fromOctets_octets, ofBE_toBE]
  simp [Nat.mod_eq_of_lt h.flags.isLt]

lemma UdpHeader.ofBytes_asBytes (h : UdpHeader) (rest : Bytes) :
    ofBytes (h.asBytes ++ rest) = h := by
  have hs : slice (h.asBytes ++ rest) 0 2 = u16Bytes h.srcPort := rfl
  have hd : slice (h.asBytes ++ rest) 2 2 = u16Bytes h.dstPort := rfl
  have hl : slice (h.asBytes ++ rest) 4 2 = u16Bytes h.length := rfl
  have hc : slice (h.asBytes ++ rest) 6 2 = u16Bytes h.checksum := rfl
  simp only [ofBytes, hs, hd, hl, hc, u16Of_u16Bytes]

section Front

variable {b : Bytes} {n : ℕ}

lemma getD_take {i : ℕ} (h : i < n) (d : UInt8) : (b.take n).getD i d = b.getD i d := by
  rw [List.getD_eq_getElem?_getD, List.getD_eq_getElem?_getD, List.getElem?_take, if_pos h]

lemma Ip6Header.ofBytes_take (h : 40 ≤ n) : ofBytes (b.take n) = ofBytes b := by
  simp only [ofBytes, slice_take (show 0 + 4 ≤ n by omega), slice_take (show 4 + 2 ≤ n by omega),
    slice_take (show 8 + 16 ≤ n by omega), slice_take (show 24 + 16 ≤ n by omega),
    getD_take (show 6 < n by omega), getD_take (show 7 < n by omega)]

lemma UdpHeader.ofBytes_take (h : 8 ≤ n) : ofBytes (b.take n) = ofBytes b := by
  simp only [ofBytes, slice_take (show 0 + 2 ≤ n by omega), slice_take (show 2 + 2 ≤ n by omega),
    slice_take (show 4 + 2 ≤ n by omega), slice_take (show 6 + 2 ≤ n by omega)]

lemma Icmp6Header.ofBytes_take (h : 8 ≤ n) : ofBytes (b.take n) = ofBytes b := by
  simp only [ofBytes, slice_take (show 2 + 2 ≤ n by omega), getD_take (show 0 < n by omega),
    getD_take (show 1 < n by omega), getD_take (show 4 < n by omega), getD_take
    (show 5 < n by omega), getD_take (show 6 < n by omega), getD_take (show 7 < n by omega)]

lemma EtherHeader.ofBytes_take (h : 14 ≤ n) : ofBytes (b.take n) = ofBytes b := by
  have hg : ∀ i < 14, (b.take n).getD i 0 = b.getD i 0 := fun i hi => getD_take (by omega) 0
  simp (disch := omega) only [ofBytes, slice_take (show 12 + 2 ≤ n by omega), hg]

end Front

def wordSum : ℕ → Bytes → ℕ
  | _, [] => 0
  | offset, b :: bs => (if offset % 2 = 0 then b.toNat <<< 8 else b.toNat) + wordSum (offset + 1) bs

lemma wordSum_le (offset : ℕ) (bs : Bytes) :
    2 * wordSum offset bs ≤ 65535 * bs.length + if offset % 2 = 0 then 65025 else 0 := by
  induction bs generalizing offset with
  | nil => simp [wordSum]
  | cons b bs ih =>
    have hb := b.toNat_lt
    have hs : b.toNat <<< 8 = b.toNat * 256 := Nat.shiftLeft_eq b.toNat 8
    have hh := ih (offset + 1)
    simp only [wordSum, List.length_cons]
    split_ifs at hh ⊢ <;> omega

lemma checksumAccum_eq (bs : Bytes) (offset accum : ℕ) (h : accum + wordSum offset bs < 2 ^ 32) :
    checksumAccum bs offset accum = .ok (accum + wordSum offset bs) := by
  induction bs generalizing offset accum with
  | nil => simp [checksumAccum, wordSum]
  | cons b bs ih =>
    simp only [wordSum] at h ⊢
    rw [checksumAccum, addWithin_ok (by omega), ok_bind, ih _ _ (by omega), Nat.add_assoc]

lemma ipChecksum_eq (slices : List Bytes) (h : slices.flatten.length ≤ 131072) :
    ipChecksum slices = .ok (~~~(UInt16.ofNat (checksumFold (wordSum 0 slices.flatten)))) := by
  have hle := wordSum_le 0 slices.flatten
  rw [if_pos rfl] at hle
  rw [ipChecksum, checksumAccum_eq _ _ _ (by omega), ok_bind, Nat.zero_add]
  rfl

lemma udpChecksumFill_ok (ip : Ip6Header) (udp : UdpHeader) {data : Bytes}
    (h : data.length ≤ 65535) :
    ∃ c, udpChecksumFill ip udp data = .ok { udp with checksum := c } := by
  have hc := ipChecksum_eq [Ipv6Addr.octets ip.src, Ipv6Addr.octets ip.dst, [0, ip.nextHeader],
    u16Bytes ip.payloadLength, { udp with checksum := 0 : UdpHeader }.asBytes,
    data] (by simp; omega)
  rw [udpChecksumFill, hc]
  exact ⟨_, rfl⟩

end Masquerade.Wire
