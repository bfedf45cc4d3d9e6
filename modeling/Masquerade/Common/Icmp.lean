import Masquerade.Common.Relay

/-! Errors reported by the network about a datagram that was relayed. -/

namespace Masquerade.Common

open Lib Stun Wire

structure IcmpPacket (packet : Bytes) (dst : Ipv6Addr) (icmp : Icmp6Header)
    (body : Bytes) : Prop where
  version : Ip6Flags.version (Ip6Header.ofBytes packet).flags = 6
  len : (Ip6Header.ofBytes packet).len = packet.length
  nextHeader : (Ip6Header.ofBytes packet).nextHeader = IpProto.icmp6
  dst : (Ip6Header.ofBytes packet).dst = dst
  header : Icmp6Header.ofBytes (packet.drop 40) = icmp
  body : packet.drop 48 = body

section

variable [Crypto]

lemma handleTurn_sent {canonical : SocketAddr} {relayed : SocketAddrV6} {b : Bytes} {n : ℕ}
    (h : Decodable b n) {o : Outcome} (ho : handleTurn canonical relayed b = .ok o) {packet : Bytes}
    (hp : packet ∈ o.sent) :
    ∃ peer data checksum, answerTo canonical relayed b = .relay peer data ∧
      data.bytes.length + 8 < 65536 ∧
      packet = datagram relayed peer data.bytes checksum := by
  have hrun := ho
  rw [handleTurn_eq _ _ h.header.length] at hrun
  by_cases hzero : txidAt b = List.replicate 12 0
  · rw [if_pos hzero] at hrun
    cases hrun
    cases hp
  rw [if_neg hzero] at hrun
  cases ha : answerTo canonical relayed b with
  | ignore =>
    simp only [ha] at hrun
    cases hrun
    cases hp
  | respond class_ as =>
    simp only [ha, bind_eq_ok] at hrun
    obtain ⟨out, -, hrun⟩ := hrun
    cases hrun
    cases hp
  | relay peer data =>
    obtain ⟨hsmall, -, checksum, out, -, hout⟩ := handleTurn_relay h hzero ha
    rw [hout] at ho
    cases ho
    exact ⟨peer, data, checksum, rfl, hsmall, List.mem_singleton.mp hp⟩

omit [Crypto] in
lemma classify_icmp {packet body data : Bytes} {R P : SocketAddrV6}
    {icmp : Icmp6Header} {checksum : UInt16} (h : IcmpPacket packet R.ip icmp body)
    (htyp : 1 ≤ icmp.typ ∧ icmp.typ ≤ 3) (hsmall : data.length + 8 < 65536) (h48 : 48 ≤ body.length)
    (hquoted : body <+: datagram R P data checksum) :
    classify packet = .icmp ⟨P.ip, P.port, 0, 0⟩ ⟨R.ip, R.port, 0, 0⟩ icmp.typ icmp.code
      icmp.arg := by
  have hlen : 48 + body.length = packet.length := by
    have := congrArg List.length h.body
    rw [List.length_drop] at this
    omega
  have hbody := List.prefix_iff_eq_take.mp hquoted
  have hinner : Ip6Header.ofBytes (packet.drop 48) = datagramIp R P data.length := by
    rw [h.body, hbody, Ip6Header.ofBytes_take (by omega), datagram_ip]
  have hudp : UdpHeader.ofBytes (packet.drop 88) = datagramUdp R P data.length checksum := by
    rw [show 88 = 48 + 40 by norm_num, ← List.drop_drop, h.body, hbody, List.drop_take,
      UdpHeader.ofBytes_take (by omega), datagram_udp]
  have hpayload : (datagramIp R P data.length).payloadLength.toNat = data.length + 8 :=
    toNat_ofNat16 hsmall
  have hinnerSmall : ¬ (datagramIp R P data.length).payloadLength < 8 := by
    rw [UInt16.lt_iff_toNat_lt, hpayload]
    simp
  have houterSmall : ¬ (Ip6Header.ofBytes packet).payloadLength < 8 + 40 + 8 := by
    have hsum := h.len
    rw [Ip6Header.len] at hsum
    rw [UInt16.lt_iff_toNat_lt]
    simp
    omega
  have hall : ¬ ((Ip6Header.ofBytes packet).payloadLength < 8 + 40 + 8 ∨
      ¬ (1 ≤ icmp.typ ∧ icmp.typ ≤ 3) ∨ (datagramIp R P data.length).nextHeader ≠ IpProto.udp ∨
      (datagramIp R P data.length).payloadLength < 8 ∨
      (datagramUdp R P data.length checksum).length ≠ (datagramIp R P data.length).payloadLength ∨
      (Ip6Header.ofBytes packet).dst ≠ (datagramIp R P data.length).src) := by
    rintro (h' | h' | h' | h' | h' | h')
    · exact houterSmall h'
    · exact h' htyp
    · exact h' rfl
    · exact hinnerSmall h'
    · exact h' rfl
    · exact h' h.dst
  have hnotUdp : IpProto.icmp6 ≠ IpProto.udp := by decide
  simp only [classify, classifyIcmp, h.version, h.len, h.nextHeader, h.header, hinner,
    hudp, ne_eq, not_true_eq_false, or_false, if_neg (show ¬ packet.length < 40 by omega),
    if_neg hnotUdp, if_true]
  exact if_neg hall

omit [Crypto] in
lemma icmp_receiver {received : Bytes}
    (hnext : (Ip6Header.ofBytes received).nextHeader = IpProto.icmp6) {r : SocketAddrV6}
    (h : (classify received).receiver = some r) :
    r.ip = (Ip6Header.ofBytes received).dst := by
  have hnotUdp : IpProto.icmp6 ≠ IpProto.udp := by decide
  simp only [classify, hnext, if_neg hnotUdp, if_true] at h
  split_ifs at h with hfirst
  · cases h
  simp only [classifyIcmp] at h
  split_ifs at h with hdrop
  · cases h
  · simp only [not_or, not_not] at hdrop
    rw [← Option.some.inj h, hdrop.2.2.2.2.2]

theorem icmp_attributed :
    (∀ (canonical : SocketAddr) (R P : SocketAddrV6) (b : Bytes) (n : ℕ) (a : TurnAttrs)
      (o : Outcome) (E : Bytes),
      R.Plain → decode b n = .ok (.ok ()) → parseTurn b = .ok a → a.xorPeer = some (.v6 P) →
      handleTurn canonical R b = .ok o → E ∈ o.sent →
      ∀ (packet body buffer : Bytes) (icmp : Icmp6Header) (random : List.Vector UInt8 12),
        IcmpPacket packet R.ip icmp body → 1 ≤ icmp.typ ∧ icmp.typ ≤ 3 → 48 ≤ body.length →
        body <+: E → buffer.length = 65536 → buffer.take packet.length = packet →
        ∃ msg, handleNet packet.length random buffer = .ok (some (R, msg)) ∧
          (∃ l, len msg = .ok l ∧ decode msg l = .ok (.ok ())) ∧ msgClass msg = .ok .indication ∧
          method msg = .ok .data ∧ parsed Stun.xorPeerAddress msg = .ok (some (.v6 P)) ∧
          ∃ items item, attrs msg = .ok items ∧ item ∈ items ∧ item.typ = Typ.icmp ∧
            item.value = [icmp.typ, icmp.code, icmp.typ, icmp.code] ++ icmp.arg.toList) ∧
    ∀ (buffer msg : Bytes) (length : ℕ) (random : List.Vector UInt8 12) (r : SocketAddrV6),
      buffer.length = 65536 →
      length ≤ 65536 → (Ip6Header.ofBytes buffer).nextHeader = IpProto.icmp6 →
      handleNet length random buffer = .ok (some (r, msg)) →
      r.ip = (Ip6Header.ofBytes buffer).dst := by
  constructor
  · intro canonical R P b n a o E hR hdec ha hP ho hE packet body buffer icmp random hpacket htyp
      h48 hquoted hbuffer hfront
    have h : Decodable b n := ⟨le_of_decode hdec, hdec⟩
    rw [parseTurn_eq (by have := h.header.length; omega), Except.ok.injEq] at ha
    subst ha
    obtain ⟨peer, data, checksum, hanswer, hsmall, rfl⟩ := handleTurn_sent h ho hE
    obtain ⟨-, -, -, hpeer, -⟩ := answer_relay_iff.mp hanswer
    obtain rfl : P = peer := by simpa [hP] using hpeer
    have hplain : P.Plain := by
      obtain ⟨x, -, hx⟩ := Option.bind_eq_some_iff.mp hP
      exact (read_v6 hx).2
    have hclassify := classify_icmp hpacket htyp hsmall h48 hquoted
    rw [← SocketAddrV6.eq_of_plain hR, ← SocketAddrV6.eq_of_plain hplain] at hclassify
    have hreceived : Received buffer packet := ⟨hbuffer, hfront⟩
    rcases handleNet_message random packet hreceived.le with ⟨hdrop, -⟩ |
      ⟨receiver, m, items, hreceiver, hbuilt, htypAt, hall, hrun⟩
    · rw [hclassify] at hdrop
      cases hdrop
    rw [hclassify] at hreceiver hall
    obtain rfl : R = receiver := Option.some.inj hreceiver
    obtain ⟨tail, htail⟩ := hrun buffer hreceived
    obtain ⟨hdecode, hclass, hmethod, hxor⟩ := indication_reads hplain hbuilt htypAt hall tail
    refine ⟨m ++ tail, htail, hdecode, hclass, hmethod, hxor, items, ?_⟩
    obtain ⟨x, y, rfl⟩ := List.length_eq_two.mp hall.length_eq.symm
    obtain ⟨-, hy⟩ : _ ∧ _ := by simpa [Net.attributes] using hall
    exact ⟨y, by rw [attrs_eq, hbuilt.itemsOf tail], by simp, hy.typ, hy.value _ _ (icmp_writes _)⟩
  · intro buffer msg length random r hbuffer hlength hnext hnet
    have hl : (buffer.take length).length = length := by simp [hbuffer, hlength]
    have hreceived : Received buffer (buffer.take length) := ⟨hbuffer, by rw [hl]⟩
    by_cases hshort : length < 40
    · have hclassify : classify (buffer.take length) = .drop := if_pos (.inl (by omega))
      have hdropped := handleNet_eq random hreceived
      rw [hl, hclassify, hnet] at hdropped
      cases hdropped
    have hip : Ip6Header.ofBytes (buffer.take length) = Ip6Header.ofBytes buffer :=
      Ip6Header.ofBytes_take (by omega)
    rcases handleNet_message random (buffer.take length) (by omega) with ⟨-, hrun⟩ |
      ⟨receiver, m, items, hreceiver, -, -, -, hrun⟩
    · have hdropped := hrun buffer hreceived
      rw [hl, hnet] at hdropped
      cases hdropped
    · obtain ⟨tail, htail⟩ := hrun buffer hreceived
      rw [hl, hnet] at htail
      cases htail
      rw [← hip] at hnext ⊢
      exact icmp_receiver hnext hreceiver

end

def unreachable : Bytes :=
  (⟨0x60000000#32, 56, IpProto.icmp6, 64, 9, 0xFD000000000000000000000000000001⟩ :
    Ip6Header).asBytes ++ [0x01, 0x04, 0x00, 0x00, 0x00, 0x00, 0x00, 0x00] ++
    (datagram ⟨0xFD000000000000000000000000000001, 32768, 0, 0⟩
    ⟨0xFD000000000000000000000000000002, 32769, 0, 0⟩
      [0x68, 0x65, 0x6C, 0x6C, 0x6F] 0xC1FB).take 48

theorem icmp_attributed_unreachable :
    letI : Crypto := .recorded [] [] []
    ∃ buffer msg, buffer.take 96 = unreachable ∧
      handleNet 96 (List.Vector.replicate 12 7) buffer =
        .ok (some (⟨0xFD000000000000000000000000000001, 32768, 0, 0⟩, msg)) ∧
      parsed Stun.xorPeerAddress msg =
      .ok (some (.v6 ⟨0xFD000000000000000000000000000002, 32769, 0, 0⟩)) ∧
      (Ip6Header.ofBytes buffer).dst = 0xFD000000000000000000000000000001 := by
  let _ : Crypto := .recorded [] [] []
  have hpacket : unreachable.length = 96 := by decide
  have hlen : (unreachable ++ List.replicate 65440 0).length = 65536 := by
    rw [List.length_append, hpacket, List.length_replicate]
  have hbody : unreachable.drop 48 = _ := List.drop_left' rfl
  have htake : (unreachable ++ List.replicate 65440 0).take 96 = unreachable :=
    List.take_left' hpacket
  generalize unreachable ++ List.replicate 65440 0 = buffer at hlen htake
  have hip : Ip6Header.ofBytes buffer = Ip6Header.ofBytes unreachable := by
    rw [← htake, Ip6Header.ofBytes_take (by norm_num)]
  have hsent : (handleTurn (.v4 ⟨0x7F000001, 4001⟩)
      ⟨0xFD000000000000000000000000000001, 32768, 0, 0⟩ sendIndication).map (·.sent) =
      .ok [datagram ⟨0xFD000000000000000000000000000001, 32768, 0, 0⟩
        ⟨0xFD000000000000000000000000000002, 32769, 0, 0⟩ [0x68, 0x65, 0x6C, 0x6C, 0x6F]
          0xC1FB] := by decide +kernel
  cases ho : handleTurn (.v4 ⟨0x7F000001, 4001⟩) ⟨0xFD000000000000000000000000000001, 32768, 0, 0⟩
    sendIndication with
  | error e =>
    rw [ho] at hsent
    cases hsent
  | ok o =>
    rw [ho] at hsent
    obtain ⟨msg, hnet, -, -, -, hxor, -⟩ :=
      icmp_attributed.1 _ _ ⟨0xFD000000000000000000000000000002, 32769, 0, 0⟩ sendIndication 56
      _ o _ (by decide) (by decide +kernel) (parseTurn_eq (by decide)) (by decide +kernel) ho
      (by rw [show o.sent = _ from Except.ok.inj hsent]; exact List.mem_cons_self)
      unreachable _ buffer ⟨1, 4, 0, List.Vector.replicate 4 0⟩ (List.Vector.replicate 12 7)
      ⟨by decide, by decide, by decide, by decide, by decide, rfl⟩ (by decide) (by decide)
      (by rw [hbody]; exact List.take_prefix 48 _) hlen (by rw [hpacket, htake])
    rw [hpacket] at hnet
    have hdst := icmp_attributed.2 buffer msg 96 _ _ hlen (by norm_num) (by rw [hip]; decide) hnet
    exact ⟨buffer, msg, htake, hnet, hxor, hdst.symm⟩

end Masquerade.Common
