import Masquerade.Checksum
import Masquerade.Common.Relay

/-! The rewriting in place gives what building the packet or the message anew would give. -/

namespace Masquerade.Common

open Lib Stun Wire

def plainPacket (src dst : SocketAddrV6) (data : Bytes) : Exec Bytes := do
  let ip := datagramIp src dst data.length
  let udp ← udpChecksumFill ip (datagramUdp src dst data.length 0) data
  return ip.asBytes ++ udp.asBytes ++ data

def plainIndication [Crypto] (random : List.Vector UInt8 12) (sender : SocketAddrV6)
    (data : Bytes) : Exec Bytes := do
  let buffer ← setClass (List.replicate 65536 0) .indication
  let buffer ← setMethod buffer .data
  let buffer ← setCookie buffer magicCookie
  let buffer ← setTxid buffer random
  appendEach [.xorPeerAddress (.v6 sender), .data data] buffer

section

variable [Crypto] {b : Bytes}

theorem send_equals_plain (canonical : SocketAddr) (relayed : SocketAddrV6) {n : ℕ}
    (hdec : decode b n = .ok (.ok ())) (htxid : txid b ≠ .ok (List.replicate 12 0))
    (hclass : msgClass b = .ok .indication) (hmethod : method b = .ok .send) {a : TurnAttrs}
    (ha : parseTurn b = .ok a) (hunknown : a.unknownAttrs = none) {peer : SocketAddrV6}
    (hpeer : a.xorPeer = some (.v6 peer)) {data : Slice} (hdata : a.data = some data) :
    data.bytes.length + 8 < 65536 ∧ 48 + data.bytes.length ≤ b.length ∧ ∃ out packet checksum,
      handleTurn canonical relayed b = .ok ⟨out, [packet], false⟩ ∧
      plainPacket relayed peer data.bytes = .ok packet ∧
      packet = datagram relayed peer data.bytes checksum ∧
      Verifies (datagramIp relayed peer data.bytes.length)
        (datagramUdp relayed peer data.bytes.length checksum) data.bytes := by
  have h : Decodable b n := ⟨le_of_decode hdec, hdec⟩
  have hb := h.header.length
  have hn := h.1
  rw [parseTurn_eq (by omega), Except.ok.injEq] at ha
  subst ha
  have hanswer : answerTo canonical relayed b = .relay peer data :=
    answer_relay_iff.mpr ⟨msgClass_eq (by omega) hclass, method_eq (by omega) hmethod,
      hunknown, hpeer, hdata⟩
  have hzero : txidAt b ≠ List.replicate 12 0 := fun h => htxid (by rw [txid_ok hb, h])
  obtain ⟨hsmall, hroom, checksum, out, hfill, hout⟩ := handleTurn_relay h hzero hanswer
  refine ⟨hsmall, by omega, out, _, checksum, hout, ?_, rfl,
    udpChecksumFill_verifies (by omega) hfill⟩
  simp only [plainPacket, hfill, ok_bind, pure_eq_ok, datagram]

lemma plainIndication_eq (random : List.Vector UInt8 12) (sender : SocketAddrV6) (data : Bytes) :
    plainIndication random sender data =
      appendEach [.xorPeerAddress (.v6 sender), .data data]
        (dataHeader random ++ List.replicate 65516 0) := by
  have hzeros : ∀ k : ℕ, List.replicate (2 + (2 + (4 + (12 + k)))) (0 : UInt8) = List.replicate 2
      0 ++ (toBE 2 0 ++ (List.replicate 4 0 ++ (List.replicate 12 0 ++ List.replicate k 0))) := by
    intro k
    simp only [List.replicate_add]
    rfl
  have ht : (List.replicate 2 (0 : UInt8)).length = 2 := rfl
  have hc : (List.replicate 4 (0 : UInt8)).length = 4 := rfl
  have hx : (List.replicate 12 (0 : UInt8)).length = 12 := rfl
  rw [plainIndication, hzeros 65516, setClass_front _ ht, ok_bind,
    setMethod_front _ (by decide) (toBE_length _ _), ok_bind, typAt_toBE,
    data_indication_typ, setCookie_front _ (toBE_length _ _) (toBE_length _ _) hc, ok_bind,
    setTxid_front _ (toBE_length _ _) (toBE_length _ _) (u32Bytes_length _) hx, ok_bind, dataHeader]
  simp only [List.append_assoc]
  rfl

theorem handleNet_equals_plain (random : List.Vector UInt8 12) (hb : b.length = 65536) {length : ℕ}
    (hlength : length ≤ 65536) :
    (∃ r, handleNet length random b = .ok r) ∧
    (Ip6Flags.version (Ip6Header.ofBytes b).flags = 6 → (Ip6Header.ofBytes b).len = length →
      (Ip6Header.ofBytes b).nextHeader = IpProto.udp → 8 ≤ (Ip6Header.ofBytes b).payloadLength →
      (UdpHeader.ofBytes (b.drop 40)).length = (Ip6Header.ofBytes b).payloadLength →
      ∃ msg plain l,
        handleNet length random b =
          .ok (some (⟨(Ip6Header.ofBytes b).dst, (UdpHeader.ofBytes (b.drop 40)).dstPort,
            0, 0⟩, msg)) ∧
        plainIndication random ⟨(Ip6Header.ofBytes b).src,
          (UdpHeader.ofBytes (b.drop 40)).srcPort, 0, 0⟩
          (slice b 48 (length - 48)) = .ok plain ∧
        len msg = .ok l ∧ len plain = .ok l ∧ msg.take l = plain.take l) := by
  have hl : (b.take length).length = length := by simp [hb, hlength]
  have hreceived : Received b (b.take length) := ⟨hb, by rw [hl]⟩
  constructor
  · obtain ⟨-, hnet⟩ | ⟨receiver, m, -, -, -, -, -, hnet⟩ :=
      handleNet_message random (b.take length) (by omega)
    · exact ⟨none, by rw [← hnet b hreceived, hl]⟩
    · obtain ⟨tail, htail⟩ := hnet b hreceived
      exact ⟨_, by rw [← htail, hl]⟩
  intro hversion hlen hnext hpayload hudp
  have h8 : 8 ≤ (Ip6Header.ofBytes b).payloadLength.toNat := UInt16.le_iff_toNat_le.mp hpayload
  have h48 : 48 ≤ length := by
    rw [Ip6Header.len] at hlen
    omega
  have hip : Ip6Header.ofBytes (b.take length) = Ip6Header.ofBytes b :=
    Ip6Header.ofBytes_take (by omega)
  have hudp' : UdpHeader.ofBytes ((b.take length).drop 40) = UdpHeader.ofBytes (b.drop 40) := by
    rw [List.drop_take, UdpHeader.ofBytes_take (by omega)]
  have hslice : (b.take length).drop 48 = slice b 48 (length - 48) := by rw [List.drop_take, slice]
  have hsmall : ¬ (Ip6Header.ofBytes b).payloadLength < 8 := UInt16.not_lt.mpr hpayload
  have hclassify : classify (b.take length) = .data ⟨(Ip6Header.ofBytes b).src,
      (UdpHeader.ofBytes (b.drop 40)).srcPort, 0, 0⟩ ⟨(Ip6Header.ofBytes b).dst,
      (UdpHeader.ofBytes (b.drop 40)).dstPort, 0, 0⟩ (slice b 48 (length - 48)) := by
    simp only [classify, classifyUdp, hip, hudp', hslice, hversion, hlen, hl, hnext, hudp, ne_eq,
      not_true_eq_false, or_false, if_true, if_neg hsmall, if_neg (show ¬ length < 40 by omega)]
  generalize (⟨(Ip6Header.ofBytes b).src, (UdpHeader.ofBytes (b.drop 40)).srcPort, 0, 0⟩ :
    SocketAddrV6) = sender at *
  generalize (⟨(Ip6Header.ofBytes b).dst, (UdpHeader.ofBytes (b.drop 40)).dstPort, 0, 0⟩ :
    SocketAddrV6) = receiver at *
  have hbytes : (slice b 48 (length - 48)).length = length - 48 := slice_length_of_le (by omega)
  have hpad : 48 + (length - 48) + padding (length - 48) ≤ 65536 := by
    unfold padding
    omega
  obtain ⟨m, items, hbuilt, -, -, hplain, hrun⟩ :=
    udp_message random sender (slice b 48 (length - 48)) (by rw [hbytes]; omega)
  obtain ⟨tail, htail⟩ := hrun b (by rw [hbytes]; omega) (by rw [hbytes])
  obtain ⟨tail', htail'⟩ :=
    hplain (List.replicate 65516 0) (by rw [hbytes, List.length_replicate]; omega)
  have hnet := handleNet_eq random hreceived
  rw [hl, hclassify, Net.place, htail] at hnet
  refine ⟨m ++ tail, m ++ tail', m.length, hnet, ?_, hbuilt.len tail, hbuilt.len tail', ?_⟩
  · rw [plainIndication_eq, htail']
  · rw [List.take_left, List.take_left]

end

theorem send_equals_plain_hello :
    letI : Crypto := .recorded [] [] []
    ∃ out packet, handleTurn (.v4 ⟨0x7F000001, 4001⟩)
      ⟨0xFD000000000000000000000000000001, 32768, 0, 0⟩ sendIndication =
        .ok ⟨out, [packet], false⟩ ∧
      plainPacket ⟨0xFD000000000000000000000000000001, 32768, 0, 0⟩
        ⟨0xFD000000000000000000000000000002, 32769, 0, 0⟩
        [0x68, 0x65, 0x6C, 0x6C, 0x6F] = .ok packet := by
  let _ : Crypto := .recorded [] [] []
  have hpeer : (turnAttrs (itemsOf sendIndication)).xorPeer =
      some (.v6 ⟨0xFD000000000000000000000000000002, 32769, 0, 0⟩) := by decide +kernel
  have hdata : (turnAttrs (itemsOf sendIndication)).data =
      some ⟨48, [0x68, 0x65, 0x6C, 0x6C, 0x6F]⟩ := by
    decide +kernel
  obtain ⟨-, -, out, packet, -, hturn, hplain, -⟩ := send_equals_plain (b := sendIndication)
    (n := 56) (.v4 ⟨0x7F000001, 4001⟩) ⟨0xFD000000000000000000000000000001, 32768, 0, 0⟩
    (by decide +kernel) (by decide +kernel) (by decide +kernel) (by decide +kernel)
    (parseTurn_eq (by decide)) (by decide +kernel) hpeer hdata
  exact ⟨out, packet, hturn, hplain⟩

theorem handleNet_equals_plain_hello :
    letI : Crypto := .recorded [] [] []
    ∃ b : Bytes, b.length = 65536 ∧ slice b 48 (53 - 48) = [0x68, 0x65, 0x6C, 0x6C, 0x6F] ∧
      ∃ msg plain l,
      handleNet 53 (List.Vector.replicate 12 7) b = .ok (some (⟨2, 32769, 0, 0⟩, msg)) ∧
      plainIndication (List.Vector.replicate 12 7) ⟨1, 32768, 0, 0⟩ (slice b 48 (53 - 48)) =
        .ok plain ∧
      len msg = .ok l ∧ len plain = .ok l ∧ msg.take l = plain.take l := by
  let _ : Crypto := .recorded [] [] []
  have hlen : (datagram ⟨1, 32768, 0, 0⟩ ⟨2, 32769, 0, 0⟩ [0x68, 0x65, 0x6C, 0x6C, 0x6F] 0 ++
      List.replicate 65483 0).length = 65536 := by
    rw [List.length_append, datagram_length, List.length_replicate]
    rfl
  have htake : (datagram ⟨1, 32768, 0, 0⟩ ⟨2, 32769, 0, 0⟩ [0x68, 0x65, 0x6C, 0x6C, 0x6F] 0 ++
      List.replicate 65483 0).take 53 = datagram ⟨1, 32768, 0, 0⟩
      ⟨2, 32769, 0, 0⟩ [0x68, 0x65, 0x6C, 0x6C, 0x6F] 0 :=
    List.take_left' (datagram_length _ _ _ _)
  generalize datagram ⟨1, 32768, 0, 0⟩ ⟨2, 32769, 0, 0⟩ [0x68, 0x65, 0x6C, 0x6C, 0x6F] 0 ++
    List.replicate 65483 0 = b at hlen htake
  have hip : Ip6Header.ofBytes b = datagramIp ⟨1, 32768, 0, 0⟩ ⟨2, 32769, 0, 0⟩ 5 := by
    rw [← Ip6Header.ofBytes_take (n := 53) (by norm_num), htake, datagram_ip]
    rfl
  have hudp : UdpHeader.ofBytes (b.drop 40) = datagramUdp ⟨1, 32768, 0, 0⟩
      ⟨2, 32769, 0, 0⟩ 5 0 := by
    rw [← UdpHeader.ofBytes_take (n := 13) (by norm_num), show 13 = 53 - 40 by norm_num,
      ← List.drop_take, htake, datagram_udp]
    rfl
  have hpayload : slice b 48 (53 - 48) = [0x68, 0x65, 0x6C, 0x6C, 0x6F] := by
    rw [slice, ← List.drop_take, htake]
    rfl
  obtain ⟨msg, plain, l, hnet, hplain, hmsg⟩ :=
    (handleNet_equals_plain (List.Vector.replicate 12 7) hlen (show 53 ≤ 65536 by norm_num)).2
      (by rw [hip]; decide) (by rw [hip]; decide) (by rw [hip]; decide) (by rw [hip]; decide)
      (by rw [hip, hudp]; decide)
  rw [hip, hudp] at hnet hplain
  exact ⟨b, hlen, hpayload, msg, plain, l, hnet, hplain, hmsg⟩

end Masquerade.Common
