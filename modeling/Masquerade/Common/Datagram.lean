import Masquerade.Common.HandleTurn

/-! The datagram that a `Send` indication leaves as. -/

namespace Masquerade.Common

open Lib Stun Wire

def datagramIp (relayed peer : SocketAddrV6) (n : ℕ) : Ip6Header where
  flags := 0x60000000#32
  payloadLength := UInt16.ofNat (n + 8)
  nextHeader := IpProto.udp
  hopLimit := 64
  src := relayed.ip
  dst := peer.ip

def datagramUdp (relayed peer : SocketAddrV6) (n : ℕ) (checksum : UInt16) : UdpHeader where
  srcPort := relayed.port
  dstPort := peer.port
  length := UInt16.ofNat (n + 8)
  checksum := checksum

def datagram (relayed peer : SocketAddrV6) (data : Bytes) (checksum : UInt16) : Bytes :=
  (datagramIp relayed peer data.length).asBytes ++
    (datagramUdp relayed peer data.length checksum).asBytes ++ data

lemma datagram_length (relayed peer : SocketAddrV6) (data : Bytes) (checksum : UInt16) :
    (datagram relayed peer data checksum).length = 48 + data.length := by
  simp [datagram]
  omega

lemma datagram_ip (relayed peer : SocketAddrV6) (data : Bytes) (checksum : UInt16) :
    Ip6Header.ofBytes (datagram relayed peer data checksum) =
      datagramIp relayed peer data.length := by
  rw [datagram, List.append_assoc, Ip6Header.ofBytes_asBytes]

lemma datagram_udp (relayed peer : SocketAddrV6) (data : Bytes) (checksum : UInt16) :
    UdpHeader.ofBytes ((datagram relayed peer data checksum).drop 40) =
      datagramUdp relayed peer data.length checksum := by
  rw [datagram, List.append_assoc, List.drop_left' (Ip6Header.asBytes_length _),
    UdpHeader.ofBytes_asBytes]

lemma setFlags (flags : Ip6Flags) :
    Ip6Flags.setFlowLabel (Ip6Flags.setTrafficClass (Ip6Flags.setVersion flags 6) 0) 0 =
      0x60000000#32 := by
  have h₁ : Ip6Flags.setVersion flags 6 = (flags &&& 0x0FFFFFFF#32) ||| 0x60000000#32 := rfl
  have h₂ : ∀ t, Ip6Flags.setTrafficClass t 0 = t &&& 0xF00FFFFF#32 := fun t => BitVec.or_zero
  have h₃ : ∀ t, Ip6Flags.setFlowLabel t 0 = t &&& 0xFFF00000#32 := fun t => BitVec.or_zero
  have h₄ : 0x0FFFFFFF#32 &&& (0xF00FFFFF#32 &&& 0xFFF00000#32) = 0#32 := by decide
  rw [h₁, h₂, h₃, BitVec.and_or_distrib_right, BitVec.and_or_distrib_right, BitVec.and_assoc,
    BitVec.and_assoc, h₄, BitVec.and_zero, BitVec.zero_or]
  decide

lemma toNat_ofNat16 {n : ℕ} (h : n < 65536) : (UInt16.ofNat n).toNat = n := by
  rw [UInt16.toNat_ofNat']
  exact Nat.mod_eq_of_lt h

lemma shift_data {b bytes : Bytes} {start : ℕ} (hs : 4 ≤ start)
    (hb : start + bytes.length ≤ b.length) (hroom : 48 + bytes.length ≤ b.length)
    (hbytes : bytes = slice b start bytes.length) :
    ∃ b₁, writeAt b 44 (slice b (start - 4) (4 + bytes.length)) = .ok b₁ ∧ b₁.length = b.length ∧
      b₁.drop 48 = bytes ++ b.drop (48 + bytes.length) := by
  have hml : (slice b (start - 4) (4 + bytes.length)).length = 4 + bytes.length :=
    slice_length_of_le (by omega)
  have hmoved : (slice b (start - 4) (4 + bytes.length)).drop 4 = bytes := by
    rw [slice, List.drop_take, List.drop_drop, show start - 4 + 4 = start by omega,
      Nat.add_sub_cancel_left]
    exact hbytes.symm
  have h44 : (b.take 44).length = 44 := by simp; omega
  refine ⟨_, writeAt_ok (by omega), splice_length (by omega), ?_⟩
  rw [splice, hml, List.append_assoc, List.drop_append, h44, List.drop_eq_nil_of_le (by omega),
    List.nil_append, List.drop_append_of_le_length (by omega), hmoved,
    show 44 + (4 + bytes.length) = 48 + bytes.length by omega]

lemma send_ok (relayed peer : SocketAddrV6) {data : Slice} (hd : data.bytes.length + 8 < 65536)
    (hs : 4 ≤ data.start) :
    ∃ checksum, udpChecksumFill (datagramIp relayed peer data.bytes.length)
      (datagramUdp relayed peer data.bytes.length 0)
        data.bytes = .ok (datagramUdp relayed peer data.bytes.length checksum) ∧
      ∀ b : Bytes, data.start + data.bytes.length ≤ b.length → 48 + data.bytes.length ≤ b.length →
        data.bytes = slice b data.start data.bytes.length → ∃ b', send relayed peer data b =
        .ok ⟨b', [datagram relayed peer data.bytes checksum], false⟩ := by
  obtain ⟨start, bytes⟩ := data
  simp only at hd hs ⊢
  obtain ⟨checksum, hfill⟩ := udpChecksumFill_ok (datagramIp relayed peer bytes.length)
    (datagramUdp relayed peer bytes.length 0) (show bytes.length ≤ 65535 by omega)
  refine ⟨checksum, hfill, fun b hb hroom hbytes => ?_⟩
  obtain ⟨b₁, hwrite, hlen, hrest⟩ := shift_data hs hb hroom hbytes
  have hip : Ip6Header.fromPrefix b₁ = some (Ip6Header.ofBytes b₁, b₁.drop 40) := if_pos (by omega)
  have hudp : UdpHeader.fromPrefix (b₁.drop 40) =
      some (UdpHeader.ofBytes (b₁.drop 40), bytes ++ b.drop (48 + bytes.length)) := by
    rw [← hrest, ← List.drop_drop (i := 8) (j := 40)]
    exact if_pos (by rw [List.length_drop]; omega)
  have hread : readAt (bytes ++ b.drop (48 + bytes.length)) 0 bytes.length = .ok bytes := by
    rw [readAt_ok (by simp), slice_zero, List.take_left]
  -- The checksum does not depend on the one that stood there before.
  have hfill' : ∀ c, udpChecksumFill (datagramIp relayed peer bytes.length)
      (datagramUdp relayed peer bytes.length c) bytes =
      .ok (datagramUdp relayed peer bytes.length checksum) :=
    fun _ => hfill
  have hpacket : ∀ tail, readAt ((datagramIp relayed peer bytes.length).asBytes ++
      (datagramUdp relayed peer bytes.length checksum).asBytes ++ (bytes ++ tail)) 0
        (datagramIp relayed peer bytes.length).len =
          .ok (datagram relayed peer bytes checksum) := by
    intro tail
    have hl : (datagramIp relayed peer bytes.length).len = 48 + bytes.length := by
      rw [Ip6Header.len, datagramIp, toNat_ofNat16 hd]
      omega
    rw [← List.append_assoc, hl, ← datagram,
      readAt_ok (by rw [List.length_append, datagram_length]; omega), slice_zero,
      List.take_left' (datagram_length _ _ _ _)]
  simp only [send, subChecked_ok hs, ok_bind, if_neg (show ¬ b.length < 48 + bytes.length by omega),
    readAt_ok (show start - 4 + (4 + bytes.length) ≤ b.length by omega), hwrite, Nat.mod_eq_of_lt
    (show bytes.length < 65536 by omega), addWithin_ok (show bytes.length + 8 < 2 ^ 16 by omega),
    hip, unwrapSome_some, hudp, hread, setFlags]
  have hf := hfill' (UdpHeader.ofBytes (b₁.drop 40)).checksum
  have hp := hpacket (b.drop (48 + bytes.length))
  simp only [datagramIp, datagramUdp] at hf hp
  rw [hf, ok_bind, hp, ok_bind]
  exact ⟨_, rfl⟩

end Masquerade.Common
