import Masquerade.Common.Auth
import Masquerade.Common.NetLaws

/-! From one client to the other: what goes in as a `Send` indication comes out as a `Data`
indication. -/

namespace Masquerade.Common

open Lib Stun Wire

section Datagram

variable (relayed peer : SocketAddrV6) (data : Bytes) (checksum : UInt16)

lemma classify_datagram (hd : data.length + 8 < 65536) :
    classify (datagram relayed peer data checksum) =
      .data ⟨relayed.ip, relayed.port, 0, 0⟩ ⟨peer.ip, peer.port, 0, 0⟩ data := by
  have hlen := datagram_length relayed peer data checksum
  have hip := datagram_ip relayed peer data checksum
  have hudp := datagram_udp relayed peer data checksum
  have hdata : (datagram relayed peer data checksum).drop 48 = data := by
    rw [datagram, List.drop_left' (by simp)]
  have hpayload : (datagramIp relayed peer data.length).payloadLength.toNat = data.length + 8 :=
    toNat_ofNat16 hd
  have hl : (datagramIp relayed peer data.length).len =
      (datagram relayed peer data checksum).length := by
    rw [Ip6Header.len, hpayload, hlen]
    omega
  have hsmall : ¬ (datagramIp relayed peer data.length).payloadLength < 8 := by
    rw [UInt16.lt_iff_toNat_lt, hpayload]
    simp
  have hv : Ip6Flags.version (datagramIp relayed peer data.length).flags = 6 := by
    show Ip6Flags.version 0x60000000#32 = 6
    decide
  simp only [classify, classifyUdp, hip, hudp, hdata, hl, hv, hlen]
  rw [if_neg (by simp; omega), if_pos (show (datagramIp relayed peer data.length).nextHeader =
    IpProto.udp from rfl), if_neg (by rintro (h | h); exacts [hsmall h, h rfl])]
  rfl

end Datagram

section

variable [Crypto]

section Wrote

variable {item : Item}

lemma read_xorPeer {a : SocketAddr} (ha : a.Plain) (h : (Attribute.xorPeerAddress a).Wrote item) :
    Stun.xorPeerAddress.read item = some a := by
  rw [AttrDec.read, h.value _ _ (sockaddr_writes _ _ a)]
  simp only [Stun.xorPeerAddress, sockaddr_decode _ _ ha h.afterHeader]

lemma read_xorRelayed {a : SocketAddr} (ha : a.Plain)
    (h : (Attribute.xorRelayedAddress a).Wrote item) :
    Stun.xorRelayedAddress.read item = some a := by
  rw [AttrDec.read, h.value _ _ (sockaddr_writes _ _ a)]
  simp only [Stun.xorRelayedAddress, sockaddr_decode _ _ ha h.afterHeader]

lemma read_data {bytes : Bytes} (hb : bytes.length < 65536)
    (h : (Attribute.data bytes).Wrote item) :
    ∃ start, Stun.data.read item = some ⟨start, bytes⟩ := by
  have hv := h.value _ _ (slice_writes _ hb)
  exact ⟨4 + item.pre.bytes.length + 4, by rw [AttrDec.read, hv]; rfl⟩

end Wrote

lemma allocate_tells {canonical : SocketAddr} {relayed : SocketAddrV6} (hr : relayed.Plain)
    {b : Bytes} {n : ℕ} (h : Decodable b n) (h100 : 100 ≤ b.length) {o : Outcome}
    (ho : handleTurn canonical relayed b = .ok o) (hreply : o.reply = true)
    (hmethod : methodAt b = .allocate) (hclass : classAt o.buffer = .success) :
    parsed Stun.xorRelayedAddress o.buffer = .ok (some (.v6 relayed)) := by
  obtain ⟨c, as, m, items, tail, -, -, harm, rfl, hm⟩ := handleTurn_reply h h100 ho hreply
  have hml := hm.built.length
  have hc : c = .success := by rw [← hm.class_append tail]; exact hclass
  subst hc
  rw [hmethod] at harm
  cases harm with
  | binding h => cases h
  | refresh _ h => cases h
  | createPermission _ h => cases h
  | allocate hv _ _ =>
    obtain ⟨i₁, i₂, i₃, i₄, rfl⟩ : ∃ i₁ i₂ i₃ i₄, items = [i₁, i₂, i₃, i₄] :=
      List.length_eq_four.mp hm.wrote.length_eq.symm
    obtain ⟨h₁, h₂, -⟩ : _ ∧ _ ∧ _ := by simpa using hm.wrote
    have hheard : heard Typ.xorRelayedAddress mustPrecede (itemsOf (m ++ tail)) = some i₂ := by
      have t₁ : i₁.typ = Typ.xorMappedAddress := h₁.typ
      have t₂ : i₂.typ = Typ.xorRelayedAddress := h₂.typ
      rw [hm.built.itemsOf tail, heard_cons, t₁, if_neg (by decide), if_neg (by decide),
        heard_cons, if_pos t₂]
    refine (parsed_eq (sockaddr_safe _ _) ?_).trans (congrArg Except.ok ?_)
    · simp only [List.length_append]
      omega
    · exact (congrArg (Option.bind · _) hheard).trans (read_xorRelayed (a := .v6 relayed) hr h₂)

lemma indication_reads {sender : SocketAddrV6} (hs : sender.Plain) {m : Bytes}
    {items : List Item} {as : List Attribute} (hm : Built m items) (htyp : typAt m = 0x0017#16)
    (hall : List.Forall₂ Attribute.Wrote (.xorPeerAddress (.v6 sender) :: as) items)
    (tail : Bytes) :
    (∃ n, len (m ++ tail) = .ok n ∧ decode (m ++ tail) n = .ok (.ok ())) ∧
      msgClass (m ++ tail) = .ok .indication ∧
      method (m ++ tail) = .ok .data ∧
      parsed Stun.xorPeerAddress (m ++ tail) = .ok (some (.v6 sender)) := by
  have hml := hm.length
  have hlen : (m ++ tail).length = m.length + tail.length := List.length_append
  have ht : typAt (m ++ tail) = 0x0017#16 := by rw [typAt_append tail (by omega), htyp]
  refine ⟨⟨_, hm.len tail, hm.decode tail⟩, ?_, ?_, ?_⟩
  · rw [msgClass_ok (by omega), ht]
    rfl
  · rw [method_ok (by omega), ht]
    rfl
  · cases hall with
    | @cons a x as items hx hall =>
      have tx : x.typ = Typ.xorPeerAddress := hx.typ
      have hheard : heard Typ.xorPeerAddress mustPrecede (itemsOf (m ++ tail)) = some x := by
        rw [hm.itemsOf tail, heard_cons, if_pos tx]
      exact (parsed_eq (sockaddr_safe _ _) (by omega)).trans (congrArg Except.ok
        ((congrArg (Option.bind · _) hheard).trans (read_xorPeer (a := .v6 sender) hs hx)))

lemma dataMessage_reads {sender : SocketAddrV6} (hs : sender.Plain)
    {bytes m : Bytes} {items : List Item} (hb : bytes.length < 65536)
    (hm : Built m items) (htyp : typAt m = 0x0017#16)
    (hall : List.Forall₂ Attribute.Wrote [.xorPeerAddress (.v6 sender), .data bytes] items)
    (tail : Bytes) :
    (∃ n, len (m ++ tail) = .ok n ∧ decode (m ++ tail) n = .ok (.ok ())) ∧
      msgClass (m ++ tail) = .ok .indication ∧
      method (m ++ tail) = .ok .data ∧ parsed Stun.xorPeerAddress (m ++ tail) = .ok
      (some (.v6 sender)) ∧ ∃ start, parsed Stun.data (m ++ tail) = .ok (some ⟨start, bytes⟩) := by
  have hml := hm.length
  have hlen : (m ++ tail).length = m.length + tail.length := List.length_append
  obtain ⟨hdecode, hclass, hmethod, hpeer⟩ := indication_reads hs hm htyp hall tail
  refine ⟨hdecode, hclass, hmethod, hpeer, ?_⟩
  obtain ⟨x, y, rfl⟩ := List.length_eq_two.mp hall.length_eq.symm
  obtain ⟨hx, hy⟩ : _ ∧ _ := by simpa using hall
  have tx : x.typ = Typ.xorPeerAddress := hx.typ
  have ty : y.typ = Typ.data := hy.typ
  have hheard : heard Typ.data mustPrecede (itemsOf (m ++ tail)) = some y := by
    rw [hm.itemsOf tail, heard_cons, tx, if_neg (by decide), if_neg (by decide),
      heard_cons, if_pos ty]
  obtain ⟨start, hread⟩ := read_data hb hy
  exact ⟨start, (parsed_eq (slice_safe _) (by omega)).trans
    (congrArg Except.ok ((congrArg (Option.bind · _) hheard).trans hread))⟩

theorem relay_end_to_end {RA RB : SocketAddrV6} (hA : RA.Plain) (hB : RB.Plain)
    {canonicalB : SocketAddr} {reqB : Bytes} {nB : ℕ} (hdecB : Decodable reqB nB)
    (h100 : 100 ≤ reqB.length) {oB : Outcome} (hoB : handleTurn canonicalB RB reqB = .ok oB)
    (hreplyB : oB.reply = true) (hmethodB : method reqB = .ok .allocate)
    (hclassB : msgClass oB.buffer = .ok .success) {peer : SocketAddr}
    (hpeer : parsed Stun.xorRelayedAddress oB.buffer = .ok (some peer))
    {canonicalA : SocketAddr} {b : Bytes} {n : ℕ} (hb : b.length = 65536) (hdec : Decodable b n)
    (htxid : txid b ≠ .ok (List.replicate 12 0)) (hclass : msgClass b = .ok .indication)
    (hmethod : method b = .ok .send) {a : TurnAttrs} (ha : parseTurn b = .ok a)
    (hunknown : a.unknownAttrs = none) (hxor : a.xorPeer = some peer) {start : ℕ} {D : Bytes}
    (hdata : a.data = some ⟨start, D⟩) :
    ∃ out packet, handleTurn canonicalA RA b = .ok ⟨out, [packet], false⟩ ∧ packet.length ≤ 65536 ∧
      ∀ (random : List.Vector UInt8 12) (tail : Bytes), (packet ++ tail).length = 65536 →
        ∃ msg, handleNet packet.length random (packet ++ tail) = .ok (some (RB, msg)) ∧
          (∃ n, len msg = .ok n ∧ decode msg n = .ok (.ok ())) ∧ msgClass msg = .ok .indication ∧
          method msg = .ok .data ∧ parsed Stun.xorPeerAddress msg = .ok (some (.v6 RA)) ∧
          ∃ start, parsed Stun.data msg = .ok (some ⟨start, D⟩) := by
  have hreqB := hdecB.header.length
  have hrespB : 2 ≤ oB.buffer.length := by
    obtain ⟨c, as, m, items, tail, -, -, -, rfl, hm⟩ := handleTurn_reply hdecB h100 hoB hreplyB
    have hml := hm.built.length
    simp only [List.length_append]
    omega
  have htells := allocate_tells hB hdecB h100 hoB hreplyB (method_eq (by omega) hmethodB)
    (msgClass_eq hrespB hclassB)
  obtain rfl : .v6 RB = peer := by simpa [htells] using hpeer
  rw [parseTurn_eq (by omega), Except.ok.injEq] at ha
  subst ha
  have hanswer : answerTo canonicalA RA b = .relay RB ⟨start, D⟩ :=
    answer_relay_iff.mpr ⟨msgClass_eq (by omega) hclass, method_eq (by omega) hmethod,
      hunknown, hxor, hdata⟩
  have hzero : txidAt b ≠ List.replicate 12 0 := fun h => htxid (by rw [txid_ok (by omega), h])
  obtain ⟨hsmall, hroom, checksum, out, -, hout⟩ := handleTurn_relay hdec hzero hanswer
  simp only at hsmall hroom hout
  have hn := hdec.1
  have hpacket := datagram_length RA RB D checksum
  refine ⟨out, _, hout, by omega, ?_⟩
  intro random tail htail
  have hreceived : Received (datagram RA RB D checksum ++ tail) (datagram RA RB D checksum) :=
    ⟨htail, List.take_left⟩
  have hclassify := classify_datagram RA RB D checksum hsmall
  rcases handleNet_message random (datagram RA RB D checksum) (by omega) with ⟨hdrop, -⟩ |
    ⟨receiver, m, items, hreceiver, hbuilt, htyp, hall, hrun⟩
  · rw [hclassify] at hdrop
    cases hdrop
  · obtain ⟨rest, hrest⟩ := hrun _ hreceived
    rw [hclassify] at hreceiver hall
    obtain rfl : RB = receiver := by
      rw [← Option.some.inj hreceiver]
      exact SocketAddrV6.eq_of_plain hB
    rw [← SocketAddrV6.eq_of_plain hA] at hall
    exact ⟨_, hrest, dataMessage_reads hA (by omega) hbuilt htyp hall rest⟩

end

def sendIndication : Bytes :=
  [0x00, 0x16, 0x00, 0x24, 0x21, 0x12, 0xA4, 0x42, 0x01, 0x02, 0x03, 0x04, 0x05, 0x06, 0x07, 0x08,
    0x09, 0x0A, 0x0B, 0x0C, 0x00, 0x12, 0x00, 0x14, 0x00, 0x02, 0xA1, 0x13, 0xDC, 0x12, 0xA4, 0x42,
    0x01, 0x02, 0x03, 0x04, 0x05, 0x06, 0x07, 0x08, 0x09, 0x0A, 0x0B, 0x0E, 0x00, 0x13, 0x00, 0x05,
    0x68, 0x65, 0x6C, 0x6C, 0x6F, 0x00, 0x00, 0x00]

theorem relay_end_to_end_hello :
    letI := allocateDigests
    ∃ out packet, handleTurn (.v4 ⟨0x7F000001, 4001⟩)
      ⟨0xFD000000000000000000000000000001, 32768, 0, 0⟩
        (sendIndication ++ List.replicate 65480 0) = .ok ⟨out, [packet], false⟩ ∧
          packet.length ≤ 65536 ∧
      ∀ (random : List.Vector UInt8 12) (tail : Bytes), (packet ++ tail).length = 65536 →
        ∃ msg, handleNet packet.length random (packet ++ tail) =
            .ok (some (⟨0xFD000000000000000000000000000002, 32769, 0, 0⟩, msg)) ∧
          (∃ n, len msg = .ok n ∧ decode msg n = .ok (.ok ())) ∧ msgClass msg = .ok .indication ∧
          method msg = .ok .data ∧ parsed Stun.xorPeerAddress msg =
            .ok (some (.v6 ⟨0xFD000000000000000000000000000001, 32768, 0, 0⟩)) ∧
          ∃ start, parsed Stun.data msg = .ok (some ⟨start, [0x68, 0x65, 0x6C, 0x6C, 0x6F]⟩) := by
  let _ := allocateDigests
  have hlen : (sendIndication ++ List.replicate 65480 0).length = 65536 := by
    rw [List.length_append, List.length_replicate]
    rfl
  have htake : (sendIndication ++ List.replicate 65480 0).take 56 = sendIndication :=
    List.take_left' rfl
  have hdec : Decodable (sendIndication ++ List.replicate 65480 0) 56 := by
    refine ⟨by omega, ?_⟩
    rw [decode_eq (by omega), htake, (verdict_ok_iff sendIndication).mpr (by decide)]
  have htyp : typAt (sendIndication ++ List.replicate 65480 0) = 0x0016#16 := by
    rw [← typAt_take (n := 56) (by omega), htake]
    decide
  have hitems : itemsOf (sendIndication ++ List.replicate 65480 0) = itemsOf sendIndication :=
    itemsOf_congr (n := 56) (by omega) (by decide) hdec.verdict.1 (by rw [htake]; rfl)
  have hallocate : Decodable (allocateRequest ++ List.replicate 24 0) 76 :=
    ⟨by decide, by decide +kernel⟩
  have hresponse : handleTurn (.v4 ⟨0x7F000001, 4000⟩)
      ⟨0xFD000000000000000000000000000002, 32769, 0, 0⟩ (allocateRequest ++ List.replicate 24 0) =
      .ok ⟨allocateResponse ++ List.replicate 12 0, [], true⟩ := by
    decide +kernel
  have htold : parsed Stun.xorRelayedAddress (allocateResponse ++ List.replicate 12 0) =
      .ok (some (.v6 ⟨0xFD000000000000000000000000000002, 32769, 0, 0⟩)) := by
    decide +kernel
  have hheard : (turnAttrs (itemsOf (sendIndication ++ List.replicate 65480 0))).data =
      some ⟨48, [0x68, 0x65, 0x6C, 0x6C, 0x6F]⟩ := by
    rw [hitems]
    decide +kernel
  refine relay_end_to_end (by decide) (by decide) hallocate (by decide) hresponse rfl
    (by decide +kernel) (by decide +kernel) htold hlen hdec ?_ ?_ ?_
    (parseTurn_eq (by omega)) ?_ ?_ hheard
  · rw [txid_ok (by omega), ← txidAt_take (n := 56) (by omega), htake]
    decide
  · rw [msgClass_ok (by omega), htyp]
    decide
  · rw [method_ok (by omega), htyp]
    decide
  · rw [hitems]
    decide +kernel
  · rw [hitems]
    decide +kernel

end Masquerade.Common
