import Masquerade.Common.Fresh
import Masquerade.Common.Relay

/-! The two handlers in terms of who speaks to whom. -/

namespace Masquerade.Common

open Lib Stun Wire

variable [Crypto]

structure Asks (message : Bytes) (peer : SocketAddrV6) (data : Bytes) : Prop where
  decodes : verdict message = .ok ()
  txid : txid message ≠ .ok (List.replicate 12 0)
  indication : msgClass message = .ok .indication
  send : method message = .ok .send
  attrs : ∃ a start, parseTurn message = .ok a ∧ a.unknownAttrs = none ∧
    a.xorPeer = some (.v6 peer) ∧ a.data = some ⟨start, data⟩

def IsMessage (message : Bytes) : Prop := len message = .ok message.length ∧
    decode message message.length = .ok (.ok ())

structure Tells (message : Bytes) (peer : SocketAddrV6) (data : Bytes) : Prop where
  whole : IsMessage message
  indication : msgClass message = .ok .indication
  method : method message = .ok .data
  peer : parsed Stun.xorPeerAddress message = .ok (some (.v6 peer))
  data : ∃ start, parsed Stun.data message = .ok (some ⟨start, data⟩)

structure ReportsIcmp (message : Bytes) (peer : SocketAddrV6) (typ code : UInt8)
    (arg : List.Vector UInt8 4) : Prop where
  whole : IsMessage message
  indication : msgClass message = .ok .indication
  method : method message = .ok .data
  peer : parsed Stun.xorPeerAddress message = .ok (some (.v6 peer))
  icmp : ∃ items item, attrs message = .ok items ∧ item ∈ items ∧ item.typ = Typ.icmp ∧
    item.value = [typ, code, typ, code] ++ arg.toList

structure Answers (response request : Bytes) : Prop where
  whole : IsMessage response
  asked : msgClass request = .ok .request
  method : rawMethod response = rawMethod request
  txid : txid response = txid request
  answer : msgClass response = .ok .success ∨ msgClass response = .ok .error

structure Carries (packet : Bytes) (sender receiver : SocketAddrV6) (data : Bytes) : Prop where
  fields : classify packet = .data sender receiver data
  checksum : ∃ checksum, packet = datagram sender receiver data checksum ∧ udpChecksumFill
    (datagramIp sender receiver data.length) (datagramUdp sender receiver data.length 0) data =
      .ok (datagramUdp sender receiver data.length checksum)

omit [Crypto] in
lemma Built.isMessage {m : Bytes} {items : List Item} (h : Built m items) : IsMessage m := by
  have hlen := h.len []
  have hdecode := h.decode []
  rw [List.append_nil] at hlen hdecode
  exact ⟨hlen, hdecode⟩

variable (canonical : SocketAddr) {relayed : SocketAddrV6} {message : Bytes}

lemma asks_iff (relayed : SocketAddrV6) {peer : SocketAddrV6} {data : Bytes}
    (hv : verdict message = .ok ()) : Asks message peer data ↔ txidAt message ≠ List.replicate 12
    0 ∧ ∃ start, answerTo canonical relayed message = .relay peer ⟨start, data⟩ := by
  have hlen := answerable_length hv
  have htxid := txid_ok (b := message) (by omega)
  have hparse := parseTurn_eq (b := message) (by omega)
  constructor
  · rintro ⟨-, hzero, hclass, hmethod, a, start, ha, hunknown, hpeer, hdata⟩
    rw [hparse, Except.ok.injEq] at ha
    subst ha
    refine ⟨fun h => hzero (by rw [htxid, h]), start, ?_⟩
    exact answer_relay_iff.mpr ⟨msgClass_eq (by omega) hclass, method_eq (by omega) hmethod,
      hunknown, hpeer, hdata⟩
  · rintro ⟨hzero, start, ha⟩
    obtain ⟨hclass, hmethod, hunknown, hpeer, hdata⟩ := answer_relay_iff.mp ha
    refine ⟨hv, fun h => hzero ?_, ?_, ?_, _, start, hparse, hunknown, hpeer, hdata⟩
    · rw [htxid] at h
      exact Except.ok.inj h
    · rw [msgClass_ok (by omega)]
      exact congrArg Except.ok hclass
    · rw [method_ok (by omega)]
      exact congrArg Except.ok hmethod

omit [Crypto] in
lemma plain_peer {peer : SocketAddrV6} {data : Bytes} (h : Asks message peer data) :
    peer.Plain := by
  have hlen := answerable_length h.decodes
  obtain ⟨a, start, ha, -, hpeer, -⟩ := h.attrs
  rw [parseTurn_eq (by omega), Except.ok.injEq] at ha
  subst ha
  obtain ⟨item, -, hread⟩ := Option.bind_eq_some_iff.mp hpeer
  exact (read_v6 hread).2

omit [Crypto] in
lemma carries_datagram {sender receiver : SocketAddrV6} (hs : sender.Plain) (hr : receiver.Plain)
    {data : Bytes} {checksum : UInt16} (hsmall : data.length + 8 < 65536) (hfill : udpChecksumFill
    (datagramIp sender receiver data.length) (datagramUdp sender receiver data.length 0) data =
      .ok (datagramUdp sender receiver data.length checksum)) :
    Carries (datagram sender receiver data checksum) sender receiver data where
  fields := by
    rw [classify_datagram _ _ _ _ hsmall, ← SocketAddrV6.eq_of_plain hs,
      ← SocketAddrV6.eq_of_plain hr]
  checksum := ⟨checksum, rfl, hfill⟩

lemma turned_meaning (hr : relayed.Plain) (hv : verdict message = .ok ())
    (hle : message.length ≤ 65536) :
    turned canonical relayed message = ⟨none, []⟩ ∨
    (∃ m, turned canonical relayed message = ⟨some m, []⟩ ∧ Answers m message) ∨ ∃ peer data packet,
    turned canonical relayed message = ⟨none, [packet]⟩ ∧ Asks message peer data ∧
      Carries packet relayed peer data ∧ packet.length ≤ message.length := by
  have hlen := answerable_length hv
  generalize hobserved : turned canonical relayed message = observed
  have hcases := turned_cases canonical relayed hv hle
  rw [hobserved] at hcases
  cases hcases with
  | ignored => exact .inl rfl
  | @responded c as m items hzero hclass harm hm =>
    right
    left
    have hml := hm.built.length
    refine ⟨m, rfl, Built.isMessage hm.built, ?_, ?_, ?_, ?_⟩
    · rw [msgClass_ok (by omega)]
      exact congrArg Except.ok hclass
    · simp only [rawMethod, typ_ok (show 2 ≤ m.length by omega),
        typ_ok (show 2 ≤ message.length by omega), ok_bind, hm.typ, rawMethodOf_withClass]
    · rw [txid_ok (by omega), txid_ok (by omega), txidAt_eq hm.fixed]
    · have hmclass : msgClass m = .ok c := by rw [msgClass_ok (by omega), hm.typ, classOf_withClass]
      cases harm <;> simp [hmclass]
  | @sent peer data checksum hzero ha hsmall hroom hfill =>
    right
    right
    have hasks : Asks message peer data.bytes :=
      (asks_iff canonical relayed hv).mpr ⟨hzero, data.start, ha⟩
    refine ⟨peer, data.bytes, _, rfl, hasks, carries_datagram hr (plain_peer hasks) hsmall hfill,
      ?_⟩
    rw [datagram_length]
    omega

lemma turned_asks (hr : relayed.Plain) (hle : message.length ≤ 65536)
    {peer : SocketAddrV6} {data : Bytes} (h : Asks message peer data) :
    ∃ packet, turned canonical relayed message = ⟨none, [packet]⟩ ∧
      Carries packet relayed peer data ∧ packet.length ≤ message.length := by
  have hv := h.decodes
  obtain ⟨hzero, start, ha⟩ := (asks_iff canonical relayed hv).mp h
  obtain ⟨hsmall, hroom, checksum, hfill, hturned⟩ := turned_relay hv hle hzero ha
  refine ⟨_, hturned, carries_datagram hr (plain_peer h) hsmall hfill, ?_⟩
  rw [datagram_length]
  omega

section Packet

variable {packet : Bytes}

omit [Crypto] in
lemma classify_plain {sender receiver : SocketAddrV6} {data : Bytes}
    (h : classify packet = .data sender receiver data) :
    sender.Plain ∧ receiver.Plain := by
  simp only [classify, classifyUdp, classifyIcmp] at h
  split_ifs at h
  cases h
  exact ⟨⟨rfl, rfl⟩, ⟨rfl, rfl⟩⟩

omit [Crypto] in
lemma classify_peer_plain {peer receiver : SocketAddrV6} {typ code : UInt8}
    {arg : List.Vector UInt8 4} (h : classify packet = .icmp peer receiver typ code arg) :
    peer.Plain := by
  simp only [classify, classifyUdp, classifyIcmp] at h
  split_ifs at h
  cases h
  exact ⟨rfl, rfl⟩

variable (random : List.Vector UInt8 12) (hle : packet.length ≤ 65536)

include hle

lemma netted_data {sender receiver : SocketAddrV6} {data : Bytes}
    (h : classify packet = .data sender receiver data) :
    ∃ m, netted random packet = some (receiver, m) ∧ Tells m sender data := by
  have hdata : data.length < 65536 := by
    obtain ⟨rfl, h48⟩ : data = packet.drop 48 ∧ 48 ≤ packet.length := data_bytes h
    rw [List.length_drop]
    omega
  rcases netted_cases random hle with ⟨hnone, -⟩ |
    ⟨receiver', m, items, hreceiver, hsome, hbuilt, htyp, hall⟩
  · rw [h] at hnone
    cases hnone
  · rw [h] at hreceiver hall
    obtain rfl := Option.some.inj hreceiver
    obtain ⟨-, hclass, hmethod, hpeer, hread⟩ :=
      dataMessage_reads (classify_plain h).1 hdata hbuilt htyp hall []
    rw [List.append_nil] at hclass hmethod hpeer hread
    exact ⟨m, hsome, Built.isMessage hbuilt, hclass, hmethod, hpeer, hread⟩

lemma netted_icmp {peer receiver : SocketAddrV6} {typ code : UInt8} {arg : List.Vector UInt8 4}
    (h : classify packet = .icmp peer receiver typ code arg) :
    ∃ m, netted random packet = some (receiver, m) ∧ ReportsIcmp m peer typ code arg := by
  rcases netted_cases random hle with ⟨hnone, -⟩ |
    ⟨receiver', m, items, hreceiver, hsome, hbuilt, htyp, hall⟩
  · rw [h] at hnone
    cases hnone
  · rw [h] at hreceiver hall
    obtain rfl := Option.some.inj hreceiver
    obtain ⟨-, hclass, hmethod, hpeer⟩ :=
      indication_reads (classify_peer_plain h) hbuilt htyp hall []
    have hitems := hbuilt.itemsOf []
    rw [List.append_nil] at hclass hmethod hpeer hitems
    refine ⟨m, hsome, Built.isMessage hbuilt, hclass, hmethod, hpeer, items, ?_⟩
    obtain ⟨x, y, rfl⟩ := List.length_eq_two.mp hall.length_eq.symm
    obtain ⟨-, hy⟩ : _ ∧ _ := by simpa [Net.attributes] using hall
    exact ⟨y, by rw [attrs_eq, hitems], by simp, hy.typ, hy.value _ _ (icmp_writes _)⟩

lemma netted_meaning : netted random packet = none ∨
    (∃ sender receiver data m, classify packet = .data sender receiver data ∧
      netted random packet = some (receiver, m) ∧ Tells m sender data) ∨
    ∃ peer receiver typ code arg m, classify packet = .icmp peer receiver typ code arg ∧
      netted random packet = some (receiver, m) ∧ ReportsIcmp m peer typ code arg := by
  cases h : classify packet with
  | drop =>
    rcases netted_cases random hle with ⟨-, hnone⟩ | ⟨_, _, _, hreceiver, -⟩
    · exact .inl hnone
    · rw [h] at hreceiver
      cases hreceiver
  | data sender receiver data =>
    obtain ⟨m, hm, htells⟩ := netted_data random hle h
    exact .inr (.inl ⟨sender, receiver, data, m, rfl, hm, htells⟩)
  | icmp peer receiver typ code arg =>
    obtain ⟨m, hm, hreports⟩ := netted_icmp random hle h
    exact .inr (.inr ⟨peer, receiver, typ, code, arg, m, rfl, hm, hreports⟩)

end Packet

end Masquerade.Common
