import Masquerade.Common.Stale

/-! The handlers on an empty buffer: what a message or a packet means by itself. -/

namespace Masquerade.Common

open Lib Stun Wire

def fresh (received : Bytes) : Bytes := received ++ List.replicate (65536 - received.length) 0

section

variable {received : Bytes} (h : received.length ≤ 65536)

include h

lemma fresh_length : (fresh received).length = 65536 := by
  rw [fresh, List.length_append, List.length_replicate]
  omega

lemma fresh_received : Received (fresh received) received := ⟨fresh_length h, List.take_left⟩

end

lemma Received.splice {b received : Bytes} (hb : b.length = 65536) (h : received.length ≤ 65536) :
    Received (splice b 0 received) received where
  length := by rw [splice_length (by omega), hb]
  front := by simp [Lib.splice]

variable [Crypto] (canonical : SocketAddr) (relayed : SocketAddrV6) (random : List.Vector UInt8 12)

def turned (message : Bytes) : Observed :=
  match handleTurn canonical relayed (fresh message) with
  | .ok o => o.observed
  | .error _ => ⟨none, []⟩

def netted (packet : Bytes) : Option (SocketAddrV6 × Bytes) :=
  match handleNet packet.length random (fresh packet) with
  | .ok r => shown r
  | .error _ => none

variable {b received : Bytes}

omit [Crypto] in
lemma Received.decodable_iff (h : Received b received) : Decodable b received.length ↔
    verdict received = .ok () := by
  have hle := h.le
  have hb := h.length
  rw [Decodable, decode_eq (by omega), h.front, Except.ok.injEq]
  exact ⟨And.right, fun hv => ⟨by omega, hv⟩⟩

lemma handleTurn_turned (h : Received b received) (hv : verdict received = .ok ()) :
    ∃ o, handleTurn canonical relayed b = .ok o ∧
      o.observed = turned canonical relayed received := by
  have hb := h.length
  have hle := h.le
  obtain ⟨obs, hobs⟩ := handleTurn_observed canonical relayed (h.decodable_iff.mpr hv)
  obtain ⟨o, ho, hsame⟩ := hobs b rfl (by omega) (by omega)
  obtain ⟨o', ho', hsame'⟩ := hobs (fresh received) (by rw [h.front, (fresh_received hle).front])
    (by rw [fresh_length hle]; exact hle) (by rw [fresh_length hle]; norm_num)
  refine ⟨o, ho, ?_⟩
  rw [hsame, turned, ho']
  exact hsame'.symm

lemma turned_eq {b : Bytes} {n : ℕ} (h : Decodable b n) (h100 : 100 ≤ b.length)
    (hn : n ≤ 65536) {o : Outcome} (ho : handleTurn canonical relayed b = .ok o) :
    turned canonical relayed (b.take n) = o.observed := by
  have hlen : (b.take n).length = n := by simp [h.1]
  have hle : (b.take n).length ≤ 65536 := by omega
  have hfront := (fresh_received hle).front
  rw [hlen] at hfront
  obtain ⟨obs, hobs⟩ := handleTurn_observed canonical relayed h
  obtain ⟨o', ho', hsame⟩ := hobs b rfl h.1 h100
  obtain ⟨o'', ho'', hsame'⟩ := hobs (fresh (b.take n)) hfront.symm
    (by rw [fresh_length hle]; exact hn) (by rw [fresh_length hle]; norm_num)
  obtain rfl := Except.ok.inj (ho'.symm.trans ho)
  rw [turned, ho'', hsame]
  exact hsame'

lemma handleNet_netted (h : Received b received) :
    ∃ r, handleNet received.length random b = .ok r ∧ shown r = netted random received := by
  obtain ⟨out, hout⟩ := handleNet_shown random h.le
  obtain ⟨r, hr, hsame⟩ := hout b h
  obtain ⟨r', hr', hsame'⟩ := hout _ (fresh_received h.le)
  refine ⟨r, hr, ?_⟩
  rw [hsame, netted, hr']
  exact hsame'.symm

lemma turned_reply {o : Outcome} (h : Received b received) (hv : verdict received = .ok ())
    (ho : handleTurn canonical relayed b = .ok o) (hreply : o.reply = true) :
    ∃ m items tail, o = ⟨m ++ tail, [], true⟩ ∧ Built m items ∧
      turned canonical relayed received = ⟨some m, []⟩ := by
  have hb := h.length
  obtain ⟨c, as, m, items, tail, -, -, -, rfl, hm⟩ :=
    handleTurn_reply (h.decodable_iff.mpr hv) (by omega) ho hreply
  obtain ⟨o', ho', hobs⟩ := handleTurn_turned canonical relayed h hv
  obtain rfl := Except.ok.inj (ho'.symm.trans ho)
  exact ⟨m, items, tail, rfl, hm.built, hobs.symm.trans (hm.observed tail)⟩

lemma netted_message {receiver : SocketAddrV6} {msg : Bytes} (h : Received b received)
    (hnet : handleNet received.length random b = .ok (some (receiver, msg))) :
    ∃ m items tail, msg = m ++ tail ∧ Built m items ∧
      netted random received = some (receiver, m) := by
  obtain ⟨r, hr, hshown⟩ := handleNet_netted random h
  obtain rfl := Except.ok.inj (hr.symm.trans hnet)
  rcases handleNet_message random received h.le with ⟨-, hnone⟩ |
    ⟨receiver', m, items, -, hbuilt, -, -, hrun⟩
  · rw [hnone b h] at hnet
    cases hnet
  · obtain ⟨tail, htail⟩ := hrun b h
    rw [htail, Except.ok.injEq, Option.some.injEq, Prod.mk.injEq] at hnet
    obtain ⟨rfl, rfl⟩ := hnet
    exact ⟨m, items, tail, rfl, hbuilt, hshown.symm.trans (shown_message hbuilt _ tail)⟩

section Fields

variable {message : Bytes}

omit [Crypto] in
lemma answerable_length (hv : verdict message = .ok ()) : 20 + lengthAt message ≤ message.length :=
  ((verdict_ok_iff message).mp hv).1

variable (hv : verdict message = .ok ()) (hle : message.length ≤ 65536)

include hv hle

omit [Crypto] in
lemma fresh_typ : typAt (fresh message) = typAt message := by
  have hlen := answerable_length hv
  rw [← typAt_take (b := fresh message) (n := message.length) (by omega),
    (fresh_received hle).front]

omit [Crypto] hv in
lemma fresh_slice {i n : ℕ} (h : i + n ≤ message.length) :
    slice (fresh message) i n = slice message i n := by
  rw [← slice_take h (b := fresh message), (fresh_received hle).front]

omit [Crypto] in
lemma fresh_items : itemsOf (fresh message) = itemsOf message := by
  have hlen := answerable_length hv
  refine (itemsOf_congr le_rfl ?_ hlen ?_).symm
  · rw [fresh_length hle]
    exact hle
  · rw [(fresh_received hle).front, List.take_length]

lemma fresh_answer : answerTo canonical relayed (fresh message) =
    answerTo canonical relayed message := by
  rw [answerTo, answerTo, classAt, classAt, methodAt, methodAt, fresh_typ hv hle,
    fresh_items hv hle]

end Fields

section Answered

variable {canonical relayed} {message : Bytes} (hv : verdict message = .ok ())
  (hle : message.length ≤ 65536)

include hv hle

lemma turned_ignore (h : txidAt message = List.replicate 12 0 ∨
    answerTo canonical relayed message = .ignore) :
    turned canonical relayed message = ⟨none, []⟩ := by
  have hlen := answerable_length hv
  have hturn := handleTurn_eq canonical relayed (b := fresh message)
    (by rw [fresh_length hle]; norm_num)
  rw [txidAt_eq (fresh_slice hle (by omega)), fresh_answer canonical relayed hv hle] at hturn
  have hout : handleTurn canonical relayed (fresh message) = .ok ⟨fresh message, [], false⟩ := by
    rcases h with hzero | ha
    · rw [hturn, if_pos hzero]
    · rw [hturn, ha]
      exact ite_self _
  rw [turned, hout]
  rfl

lemma turned_respond (hzero : txidAt message ≠ List.replicate 12 0) {c : Stun.Class}
    {as : List Attribute} (ha : answerTo canonical relayed message = .respond c as) :
    ∃ m items, turned canonical relayed message = ⟨some m, []⟩ ∧ Response message c as m items := by
  have hlen := answerable_length hv
  have hfixed : slice (fresh message) 4 16 = slice message 4 16 := fresh_slice hle (by omega)
  have hanswer := (fresh_answer canonical relayed hv hle).trans ha
  obtain ⟨m, items, hm, hrun⟩ := handleTurn_respond ((fresh_received hle).decodable_iff.mpr hv)
    (by rwa [txidAt_eq hfixed]) hanswer
  obtain ⟨tail, htail⟩ := hrun _ (by rw [fresh_length hle]; norm_num) rfl rfl hanswer
  refine ⟨m, items, ?_, hm.built, by rw [hm.typ, fresh_typ hv hle], hm.fixed.trans hfixed, hm.wrote⟩
  rw [turned, htail]
  exact hm.observed tail

lemma turned_relay (hzero : txidAt message ≠ List.replicate 12 0) {peer : SocketAddrV6}
    {data : Slice} (ha : answerTo canonical relayed message = .relay peer data) :
    data.bytes.length + 8 < 65536 ∧ 48 + data.bytes.length ≤ message.length ∧ ∃ checksum,
      udpChecksumFill (datagramIp relayed peer data.bytes.length)
        (datagramUdp relayed peer data.bytes.length 0)
        data.bytes = .ok (datagramUdp relayed peer data.bytes.length checksum) ∧
      turned canonical relayed message = ⟨none, [datagram relayed peer data.bytes checksum]⟩ := by
  have hlen := answerable_length hv
  obtain ⟨hsmall, hroom, checksum, out, hfill, hout⟩ := handleTurn_relay
    ((fresh_received hle).decodable_iff.mpr hv) (by rwa [txidAt_eq (fresh_slice hle (by omega))])
    ((fresh_answer canonical relayed hv hle).trans ha)
  refine ⟨hsmall, hroom, checksum, hfill, ?_⟩
  rw [turned, hout]
  rfl

end Answered

inductive Turned (message : Bytes) : Observed → Prop
  | ignored : Turned message ⟨none, []⟩
  | responded {c : Stun.Class} {as : List Attribute} {m : Bytes} {items : List Item} :
      txidAt message ≠ List.replicate 12 0 → classAt message = .request →
      Arm canonical relayed (methodAt message) (turnAttrs (itemsOf message)) c as →
      Response message c as m items → Turned message ⟨some m, []⟩
  | sent {peer : SocketAddrV6} {data : Slice} {checksum : UInt16} :
      txidAt message ≠ List.replicate 12 0 → answerTo canonical relayed message = .relay peer data →
      data.bytes.length + 8 < 65536 → 48 + data.bytes.length ≤ message.length → udpChecksumFill
      (datagramIp relayed peer data.bytes.length) (datagramUdp relayed peer data.bytes.length 0)
        data.bytes = .ok (datagramUdp relayed peer data.bytes.length checksum) →
      Turned message ⟨none, [datagram relayed peer data.bytes checksum]⟩

lemma turned_cases {message : Bytes} (hv : verdict message = .ok ())
    (hle : message.length ≤ 65536) :
    Turned canonical relayed message (turned canonical relayed message) := by
  by_cases hzero : txidAt message = List.replicate 12 0
  · rw [turned_ignore hv hle (.inl hzero)]
    exact .ignored
  cases ha : answerTo canonical relayed message with
  | ignore =>
    rw [turned_ignore hv hle (.inr ha)]
    exact .ignored
  | respond c as =>
    obtain ⟨hclass, harm⟩ := answer_respond ha
    obtain ⟨m, items, hturned, hm⟩ := turned_respond hv hle hzero ha
    rw [hturned]
    exact .responded hzero hclass harm hm
  | relay peer data =>
    obtain ⟨hsmall, hroom, checksum, hfill, hturned⟩ := turned_relay hv hle hzero ha
    rw [hturned]
    exact .sent hzero ha hsmall hroom hfill

section Packet

variable {packet : Bytes}

omit [Crypto] in
lemma data_bytes {sender receiver : SocketAddrV6} {bytes : Bytes}
    (h : classify packet = .data sender receiver bytes) :
    bytes = packet.drop 48 ∧ 48 ≤ packet.length := by
  simp only [classify, classifyUdp, classifyIcmp] at h
  split_ifs at h with hip hudp hsmall
  obtain ⟨-, -, hbytes⟩ : _ ∧ _ ∧ _ := by simpa using h
  refine ⟨hbytes.symm, ?_⟩
  have hlen : (Ip6Header.ofBytes packet).len = packet.length := by
    by_contra hne
    exact hip (.inr (.inr hne))
  have hpayload : 8 ≤ (Ip6Header.ofBytes packet).payloadLength.toNat := by
    have := fun hlt => hsmall (.inl hlt)
    rw [UInt16.lt_iff_toNat_lt] at this
    simpa using this
  rw [Ip6Header.len] at hlen
  omega

omit [Crypto] in
lemma icmp_length {peer receiver : SocketAddrV6} {typ code : UInt8} {arg : List.Vector UInt8 4}
    (h : classify packet = .icmp peer receiver typ code arg) : 96 ≤ packet.length := by
  simp only [classify, classifyUdp, classifyIcmp] at h
  split_ifs at h with hip hudp hsmall hicmp hshort
  have hlen : (Ip6Header.ofBytes packet).len = packet.length := by
    by_contra hne
    exact hip (.inr (.inr hne))
  have hpayload : 56 ≤ (Ip6Header.ofBytes packet).payloadLength.toNat := by
    have := fun hlt => hshort (.inl hlt)
    rw [UInt16.lt_iff_toNat_lt] at this
    simpa using this
  rw [Ip6Header.len] at hlen
  omega

end Packet

lemma netted_cases {packet : Bytes} (hle : packet.length ≤ 65536) :
    (classify packet).receiver = none ∧ netted random packet = none ∨ ∃ receiver m items,
    (classify packet).receiver = some receiver ∧ netted random packet = some (receiver, m) ∧
      Built m items ∧ typAt m = 0x0017#16 ∧
        List.Forall₂ Attribute.Wrote (classify packet).attributes items := by
  rcases handleNet_message random packet hle with ⟨hnone, hrun⟩ |
    ⟨receiver, m, items, hreceiver, hbuilt, htyp, hall, hrun⟩
  · left
    refine ⟨hnone, ?_⟩
    rw [netted, hrun _ (fresh_received hle)]
    rfl
  · right
    obtain ⟨tail, htail⟩ := hrun _ (fresh_received hle)
    refine ⟨receiver, m, items, hreceiver, ?_, hbuilt, htyp, hall⟩
    rw [netted, htail]
    exact shown_message hbuilt receiver tail

end Masquerade.Common
