import Masquerade.Common.Datagram
import Masquerade.Common.HandleNet
import Masquerade.Common.TurnLaws

/-! What a received packet means, and the indication that is made of it. -/

namespace Masquerade.Common

open Lib Stun Wire

section Indication

def dataHeader (random : List.Vector UInt8 12) : Bytes :=
  toBE 2 0x0017 ++ (toBE 2 0 ++ (u32Bytes magicCookie ++ random.toList))

lemma dataHeader_length (random : List.Vector UInt8 12) : (dataHeader random).length = 20 := by
  simp [dataHeader]

lemma dataIndication_eq (random : List.Vector UInt8 12) {b : Bytes} (hb : 20 ≤ b.length) :
    dataIndication random b = .ok (dataHeader random ++ b.drop 20) := by
  obtain ⟨t, l, c, x, r, rfl, ht, hl, hc, hx⟩ := header_split hb
  have hdrop : (t ++ (l ++ (c ++ (x ++ r)))).drop 20 = r := by
    have happ : t ++ (l ++ (c ++ (x ++ r))) = (t ++ (l ++ (c ++ x))) ++ r := by
      simp only [List.append_assoc]
    rw [happ, List.drop_left' (by simp [ht, hl, hc, hx])]
  rw [dataIndication, setClass_front _ ht, ok_bind, setMethod_front _ (by decide) (toBE_length _ _),
    ok_bind, typAt_toBE, data_indication_typ, setLength_front _ (toBE_length _ _) hl,
    ok_bind, setCookie_front _ (toBE_length _ _) (toBE_length _ _) hc, ok_bind,
    setTxid_front _ (toBE_length _ _) (toBE_length _ _) (u32Bytes_length _) hx, hdrop, dataHeader]
  simp only [List.append_assoc]
  rfl

lemma typAt_dataHeader (random : List.Vector UInt8 12) : typAt (dataHeader random) = 0x0017#16 :=
  typAt_toBE 0x0017#16 _

lemma lengthAt_dataHeader (random : List.Vector UInt8 12) : lengthAt (dataHeader random) = 0 := by
  rw [lengthAt, dataHeader, slice_append_right _ _ (i := 0) (by simp), slice_zero,
    List.take_left' (by simp), ofBE_toBE, Nat.zero_mod]

lemma cookieAt_dataHeader (random : List.Vector UInt8 12) :
    cookieAt (dataHeader random) = magicCookie := by
  rw [cookieAt, dataHeader, ← List.append_assoc, slice_append_right _ _ (i := 0) (by simp),
    slice_zero, List.take_left' (by simp), u32Of_u32Bytes]

lemma dataHeader_built (random : List.Vector UInt8 12) : Built (dataHeader random) [] := by
  have hl := dataHeader_length random
  have hb : Built ((dataHeader random).take 20) [] :=
    .header (by omega) (by rw [typAt_dataHeader]; decide) (cookieAt_dataHeader random)
      (lengthAt_dataHeader random)
  rwa [List.take_of_length_le (by omega)] at hb

end Indication

section Classify

inductive Net
  | drop
  | data (sender receiver : SocketAddrV6) (bytes : Bytes)
  | icmp (peer receiver : SocketAddrV6) (typ code : UInt8) (arg : List.Vector UInt8 4)

def classifyUdp (received : Bytes) : Net :=
  let ip := Ip6Header.ofBytes received
  let udp := UdpHeader.ofBytes (received.drop 40)
  if ip.payloadLength < 8 ∨ udp.length ≠ ip.payloadLength then .drop
  else .data ⟨ip.src, udp.srcPort, 0, 0⟩ ⟨ip.dst, udp.dstPort, 0, 0⟩ (received.drop 48)

def classifyIcmp (received : Bytes) : Net :=
  let ip := Ip6Header.ofBytes received
  let icmp := Icmp6Header.ofBytes (received.drop 40)
  let inner := Ip6Header.ofBytes (received.drop 48)
  let udp := UdpHeader.ofBytes (received.drop 88)
  if ip.payloadLength < 8 + 40 + 8 ∨ ¬ (1 ≤ icmp.typ ∧ icmp.typ ≤ 3) ∨
      inner.nextHeader ≠ IpProto.udp ∨ inner.payloadLength < 8 ∨ udp.length ≠ inner.payloadLength ∨
      ip.dst ≠ inner.src then .drop
  else .icmp ⟨inner.dst, udp.dstPort, 0, 0⟩ ⟨inner.src, udp.srcPort, 0, 0⟩ icmp.typ
    icmp.code icmp.arg

def classify (received : Bytes) : Net :=
  let ip := Ip6Header.ofBytes received
  if received.length < 40 ∨ Ip6Flags.version ip.flags ≠ 6 ∨ ip.len ≠ received.length then .drop
  else if ip.nextHeader = IpProto.udp then classifyUdp received
  else if ip.nextHeader = IpProto.icmp6 then classifyIcmp received
  else .drop

end Classify

section Place

variable {m₁ bytes : Bytes} {items : List Item}

lemma dataAttrHeader {n : ℕ} (h : n < 65536) :
    (⟨Typ.data, UInt16.ofNat n⟩ : StunAttrHeader).asBytes = u16Bytes Typ.data ++ toBE 2 n := by
  rw [StunAttrHeader.asBytes, u16Bytes, u16Bytes, toNat_ofNat16 h]

lemma place_data (hm : m₁.length = 44) (hl : lengthAt m₁ = 24) {h p r : Bytes} (hh : h.length = 4)
    (hp : p.length = padding bytes.length) (hn : bytes.length < 65536) :
    (do
      let b ← writeAt (m₁ ++ (h ++ (bytes ++ (p ++ r)))) 44
        (⟨Typ.data, UInt16.ofNat bytes.length⟩ : StunAttrHeader).asBytes
      let b ← writeAt b (48 + bytes.length) (List.replicate (padding bytes.length) 0)
      setLength b (28 + bytes.length + padding bytes.length)) =
      .ok (grow m₁ Typ.data bytes.length (fun _ => bytes) ++ r) := by
  have hhdr : (u16Bytes Typ.data ++ toBE 2 bytes.length).length = 4 := by simp
  have hw₁ : splice (m₁ ++ (h ++ (bytes ++ (p ++ r)))) 44
      (u16Bytes Typ.data ++ toBE 2 bytes.length) = _ :=
    splice_append hm.symm (hhdr.trans hh.symm)
  have hw₂ : splice ((m₁ ++ ((u16Bytes Typ.data ++ toBE 2 bytes.length) ++ bytes)) ++ (p ++ r))
      (48 + bytes.length) (List.replicate (padding bytes.length) 0) = _ :=
    splice_append (by simp [hm]; omega) (by simp [hp])
  simp only [List.append_assoc] at hw₁ hw₂
  rw [dataAttrHeader hn, writeAt_ok (by simp [hm, hh]; omega), ok_bind, hw₁,
    writeAt_ok (by simp [hm, hp]; omega), ok_bind, hw₂, setLength, writeAt_ok (by simp [hm]; omega),
    splice_append_left (by simp [hm]), grow, tlv, withLength, hl]
  simp only [List.append_assoc]

variable [Crypto]

lemma xorPeer_writable (addr : SocketAddr) : (Attribute.xorPeerAddress addr).Writable :=
  ⟨_, _, sockaddr_writes _ _ addr⟩

lemma xorPeer_size (addr : SocketAddrV6) : (Attribute.xorPeerAddress (.v6 addr)).size = 24 := by
  rw [Attribute.size_eq (a := .xorPeerAddress (.v6 addr)) (sockaddr_writes _ _ (.v6 addr))]
  simp [sockaddrSize, padding]

lemma data_wrote {m : Bytes} {items : List Item} (hm : Built m items) (hn : bytes.length < 65536) :
    (Attribute.data bytes).Wrote (grownItem m Typ.data bytes.length fun _ => bytes) := by
  have hml := hm.length
  have hpre : 16 ≤ (grownItem m Typ.data bytes.length fun _ => bytes).pre.bytes.length := by
    simp only [grownItem, prefixOf, List.length_drop]
    rw [withLength_length (by omega)]
    omega
  exact ⟨rfl, hpre, fun n f hw => (slice_writes Typ.data hn).unique hw hpre⟩

lemma udp_message (random : List.Vector UInt8 12) (sender : SocketAddrV6) (bytes : Bytes)
    (hn : 28 + bytes.length + padding bytes.length < 65536) :
    ∃ m items, Built m items ∧ typAt m = 0x0017#16 ∧
      List.Forall₂ Attribute.Wrote [.xorPeerAddress (.v6 sender), .data bytes] items ∧
      (∀ tail : Bytes, 28 + bytes.length + padding bytes.length ≤ tail.length → ∃ tail',
        appendEach [.xorPeerAddress (.v6 sender), .data bytes] (dataHeader random ++ tail) =
          .ok (m ++ tail')) ∧
      ∀ b : Bytes, 48 + bytes.length + padding bytes.length ≤ b.length →
        slice b 48 bytes.length = bytes →
        ∃ tail, (do
          let b ← dataIndication random b
          let b ← appendEach [.xorPeerAddress (.v6 sender)] b
          let b ← writeAt b 44 (⟨Typ.data, UInt16.ofNat bytes.length⟩ : StunAttrHeader).asBytes
          let b ← writeAt b (48 + bytes.length) (List.replicate (padding bytes.length) 0)
          setLength b (28 + bytes.length + padding bytes.length)) = .ok (m ++ tail) := by
  have hcost : cost [Attribute.xorPeerAddress (.v6 sender)] = 24 := xorPeer_size sender
  have hzero := lengthAt_dataHeader random
  obtain ⟨m₁, new, hext, hall, hl, heach⟩ := appendEach_grows [.xorPeerAddress (.v6 sender)]
    (by simpa using xorPeer_writable _) (dataHeader_built random) (by omega)
  have hl₁ : lengthAt m₁ = 24 := by omega
  have hm₁ := hext.built.length
  have hgrow := hext.built.grow (t := Typ.data) (n := bytes.length) (f := fun _ => bytes)
    (fun _ _ => rfl) (by omega)
  refine ⟨_, _, hgrow, ?_, List.rel_append hall (.cons (data_wrote hext.built (by omega)) .nil), ?_,
    ?_⟩
  · rw [typAt_grow (by omega), typAt, slice_zero, hext.typ, ← slice_zero, ← typAt, typAt_dataHeader]
  · intro tail htail
    have hwrites := slice_writes Typ.data (show bytes.length < 65536 by omega)
    have hroom : 4 + bytes.length + padding bytes.length ≤ (tail.drop 24).length := by
      rw [List.length_drop]
      omega
    have hdata := appendTraced_eq hwrites hext.built.whole (by omega) hroom
    have hboth : appendEach [.xorPeerAddress (.v6 sender), .data bytes]
        (dataHeader random ++ tail) = appendEach [.xorPeerAddress (.v6 sender)]
        (dataHeader random ++ tail) >>= appendEach [.data bytes] := by
      simp only [appendEach, bind_assoc, ok_bind]
    rw [hboth, heach _ (by omega), ok_bind, hcost]
    rw [appendEach, show (Attribute.data bytes).append (m₁ ++ tail.drop 24) = _ from hdata, ok_bind,
      unwrapOk_ok, ok_bind]
    exact ⟨_, rfl⟩
  · intro b hb hbytes
    -- The data and its surroundings, behind what the first append has written.
    have hsplit : (b.drop 20).drop 24 = slice b 44 4 ++ (bytes ++ (slice b (48 + bytes.length)
        (padding bytes.length) ++ b.drop (48 + bytes.length + padding bytes.length))) := by
      rw [List.drop_drop, slice_append_drop b (48 + bytes.length), ← hbytes,
        slice_length_of_le (by omega), slice_append_drop b 48, slice_append_drop b 44]
    rw [dataIndication_eq random (by omega), ok_bind, heach _ (by rw [List.length_drop]; omega),
      ok_bind, hcost, hsplit, place_data (by omega) hl₁ (slice_length_of_le (by omega))
      (slice_length_of_le (by omega)) (by omega)]
    exact ⟨_, rfl⟩

lemma icmp_message (random : List.Vector UInt8 12) (peer : SocketAddrV6) (typ code : UInt8)
    (arg : List.Vector UInt8 4) :
    ∃ m items, Built m items ∧ typAt m = 0x0017#16 ∧
      List.Forall₂ Attribute.Wrote [.xorPeerAddress (.v6 peer), .icmp typ code arg] items ∧
      ∀ b : Bytes, 56 ≤ b.length → ∃ tail, (do
        let b ← dataIndication random b
        appendEach [.xorPeerAddress (.v6 peer), .icmp typ code arg] b) = .ok (m ++ tail) := by
  have hicmp := icmp_writes (typ, code, arg)
  have hcost : cost [Attribute.xorPeerAddress (.v6 peer), .icmp typ code arg] = 36 := by
    have hsize : (Attribute.icmp typ code arg).size = 12 :=
      Attribute.size_eq (a := .icmp typ code arg) hicmp
    simp [cost, xorPeer_size, hsize]
  have hzero := lengthAt_dataHeader random
  obtain ⟨m, new, hext, hall, -, heach⟩ :=
    appendEach_grows [.xorPeerAddress (.v6 peer), .icmp typ code arg]
    (by simpa using ⟨xorPeer_writable _, ⟨_, _, hicmp⟩⟩) (dataHeader_built random) (by omega)
  refine ⟨m, new, hext.built, ?_, hall, ?_⟩
  · rw [typAt, slice_zero, hext.typ, ← slice_zero, ← typAt, typAt_dataHeader]
  · intro b hb
    rw [dataIndication_eq random (by omega), ok_bind, heach _ (by rw [List.length_drop]; omega)]
    exact ⟨_, rfl⟩

end Place

section Handle

variable {b received : Bytes}

structure Received (b received : Bytes) : Prop where
  length : b.length = 65536
  front : b.take received.length = received

lemma Received.le (h : Received b received) : received.length ≤ 65536 := by
  have := congrArg List.length h.front
  rw [List.length_take, h.length] at this
  omega

lemma Received.drop (h : Received b received) (k : ℕ) :
    received.drop k = (b.drop k).take (received.length - k) := by
  rw [← List.drop_take, h.front]

lemma Received.ip6 (h : Received b received) {k : ℕ} (hk : k + 40 ≤ received.length) :
    Ip6Header.fromPrefix (b.drop k) =
      some (Ip6Header.ofBytes (received.drop k), b.drop (k + 40)) := by
  have hb := h.length
  have hle := h.le
  rw [Ip6Header.fromPrefix, if_pos (by rw [List.length_drop]; omega), h.drop,
    Ip6Header.ofBytes_take (by omega), List.drop_drop]

lemma Received.udp (h : Received b received) {k : ℕ} (hk : k + 8 ≤ received.length) :
    UdpHeader.fromPrefix (b.drop k) =
      some (UdpHeader.ofBytes (received.drop k), b.drop (k + 8)) := by
  have hb := h.length
  have hle := h.le
  rw [UdpHeader.fromPrefix, if_pos (by rw [List.length_drop]; omega), h.drop,
    UdpHeader.ofBytes_take (by omega), List.drop_drop]

lemma Received.icmp6 (h : Received b received) {k : ℕ} (hk : k + 8 ≤ received.length) :
    Icmp6Header.fromPrefix (b.drop k) =
      some (Icmp6Header.ofBytes (received.drop k), b.drop (k + 8)) := by
  have hb := h.length
  have hle := h.le
  rw [Icmp6Header.fromPrefix, if_pos (by rw [List.length_drop]; omega), h.drop,
    Icmp6Header.ofBytes_take (by omega), List.drop_drop]

variable [Crypto] (random : List.Vector UInt8 12)

def Net.place (b : Bytes) : Net → Exec (Option (SocketAddrV6 × Bytes))
  | .drop => .ok none
  | .data sender receiver bytes => do
    let b ← (do
      let b ← dataIndication random b
      let b ← appendEach [.xorPeerAddress (.v6 sender)] b
      let b ← writeAt b 44 (⟨Typ.data, UInt16.ofNat bytes.length⟩ : StunAttrHeader).asBytes
      let b ← writeAt b (48 + bytes.length) (List.replicate (padding bytes.length) 0)
      setLength b (28 + bytes.length + padding bytes.length))
    return some (receiver, b)
  | .icmp peer receiver typ code arg => do
    let b ← (do
      let b ← dataIndication random b
      appendEach [.xorPeerAddress (.v6 peer), .icmp typ code arg] b)
    return some (receiver, b)

lemma relayUdp_eq (h : Received b received)
    (hl : (Ip6Header.ofBytes received).len = received.length) :
    relayUdp (Ip6Header.ofBytes received) (b.drop 40) random b =
      (classifyUdp received).place random b := by
  have hle := h.le
  simp only [relayUdp, classifyUdp]
  by_cases hsmall : (Ip6Header.ofBytes received).payloadLength < 8
  · rw [if_pos hsmall, if_pos (.inl hsmall)]
    rfl
  have h48 : 8 ≤ (Ip6Header.ofBytes received).payloadLength.toNat := by
    rw [UInt16.lt_iff_toNat_lt] at hsmall
    simpa using hsmall
  have hsum : 40 + (Ip6Header.ofBytes received).payloadLength.toNat = received.length := hl
  rw [if_neg hsmall, h.udp (by omega), unwrapSome_some, ok_bind]
  simp only []
  by_cases hudp : (UdpHeader.ofBytes (received.drop 40)).length ≠
    (Ip6Header.ofBytes received).payloadLength
  · rw [if_pos hudp, if_pos (.inr hudp)]
    rfl
  have hboth := not_or.mpr ⟨hsmall, hudp⟩
  rw [if_neg hudp, if_neg hboth]
  have hlen : (UdpHeader.ofBytes (received.drop 40)).length.toNat =
      (received.drop 48).length + 8 := by
    rw [not_not.mp hudp, List.length_drop]
    omega
  have hpad : (4 - (UdpHeader.ofBytes (received.drop 40)).length.toNat % 4) % 4 =
      padding (received.drop 48).length := by
    rw [hlen, padding]
    omega
  have hfits : (received.drop 48).length + 48 + padding (received.drop 48).length ≤ 65536 := by
    rw [List.length_drop, padding]
    omega
  have hstun : 24 + 4 - 8 + padding (received.drop 48).length + ((received.drop 48).length + 8) =
      28 + (received.drop 48).length + padding (received.drop 48).length := by omega
  rw [hpad, hlen, hstun, if_neg (by omega), subChecked_ok (by omega), ok_bind, Nat.add_sub_cancel]
  simp only [Net.place, bind_assoc]

lemma relayIcmp_eq (h : Received b received)
    (hl : (Ip6Header.ofBytes received).len = received.length) :
    relayIcmp (Ip6Header.ofBytes received) (b.drop 40) random b =
      (classifyIcmp received).place random b := by
  simp only [relayIcmp, classifyIcmp]
  by_cases hsmall : (Ip6Header.ofBytes received).payloadLength < 8 + 40 + 8
  · rw [if_pos hsmall, if_pos (.inl hsmall)]
    rfl
  have h56 : 56 ≤ (Ip6Header.ofBytes received).payloadLength.toNat := by
    rw [UInt16.lt_iff_toNat_lt] at hsmall
    simpa using hsmall
  have hsum : 40 + (Ip6Header.ofBytes received).payloadLength.toNat = received.length := hl
  have hicmp : Icmp6Header.fromPrefix (b.drop 40) = some (_, b.drop 48) := h.icmp6 (by omega)
  have hinner : Ip6Header.fromPrefix (b.drop 48) = some (_, b.drop 88) := h.ip6 (by omega)
  have hudp : UdpHeader.fromPrefix (b.drop 88) = some (_, b.drop 96) := h.udp (by omega)
  rw [if_neg hsmall, hicmp]
  simp only [unwrapSome_some, ok_bind, hinner, hudp, hsmall, false_or, pure_eq_ok]
  generalize Icmp6Header.ofBytes (received.drop 40) = icmp
  generalize Ip6Header.ofBytes (received.drop 48) = inner
  generalize UdpHeader.ofBytes (received.drop 88) = udp
  by_cases h₁ : ¬ (1 ≤ icmp.typ ∧ icmp.typ ≤ 3)
  · rw [if_pos h₁, if_pos (.inl h₁), Net.place]
  by_cases h₂ : inner.nextHeader ≠ IpProto.udp
  · rw [if_neg h₁, if_pos h₂, if_pos (.inr (.inl h₂)), Net.place]
  by_cases h₃ : inner.payloadLength < 8
  · rw [if_neg h₁, if_neg h₂, if_pos h₃, if_pos (.inr (.inr (.inl h₃))), Net.place]
  by_cases h₄ : udp.length ≠ inner.payloadLength
  · rw [if_neg h₁, if_neg h₂, if_neg h₃, if_pos h₄,
      if_pos (.inr (.inr (.inr (.inl h₄)))), Net.place]
  by_cases h₅ : (Ip6Header.ofBytes received).dst ≠ inner.src
  · rw [if_neg h₁, if_neg h₂, if_neg h₃, if_neg h₄, if_pos h₅,
      if_pos (.inr (.inr (.inr (.inr h₅)))), Net.place]
  have hall := not_or.mpr ⟨h₁, not_or.mpr ⟨h₂, not_or.mpr ⟨h₃, not_or.mpr ⟨h₄, h₅⟩⟩⟩⟩
  rw [if_neg h₁, if_neg h₂, if_neg h₃, if_neg h₄, if_neg h₅, if_neg hall]
  simp only [Net.place, bind_assoc]
  rfl

lemma handleNet_eq (h : Received b received) :
    handleNet received.length random b = (classify received).place random b := by
  have hb := h.length
  have hip : Ip6Header.fromPrefix b = some (Ip6Header.ofBytes b, b.drop 40) := if_pos (by omega)
  simp only [handleNet, hip, unwrapSome_some, ok_bind, classify]
  by_cases hr : received.length < 40
  · have hl : (Ip6Header.ofBytes b).len ≠ received.length := by unfold Ip6Header.len; omega
    rw [if_pos (show received.length < 40 ∨ _ from .inl hr), if_pos hl]
    exact ite_self _
  have hof : Ip6Header.ofBytes b = Ip6Header.ofBytes received := by
    rw [← Ip6Header.ofBytes_take (b := b) (not_lt.mp hr), h.front]
  rw [hof]
  by_cases hv : Ip6Flags.version (Ip6Header.ofBytes received).flags ≠ 6
  · rw [if_pos hv, if_pos (.inr (.inl hv)), Net.place, pure_eq_ok]
  by_cases hl : (Ip6Header.ofBytes received).len ≠ received.length
  · rw [if_neg hv, if_pos hl, if_pos (.inr (.inr hl)), Net.place, pure_eq_ok]
  have hall := not_or.mpr ⟨hr, not_or.mpr ⟨hv, hl⟩⟩
  rw [if_neg hv, if_neg hl, if_neg hall, relayUdp_eq random h (not_not.mp hl),
    relayIcmp_eq random h (not_not.mp hl)]
  split_ifs <;> rfl

def Net.receiver : Net → Option SocketAddrV6
  | .drop => none
  | .data _ receiver _ => some receiver
  | .icmp _ receiver _ _ _ => some receiver

def Net.attributes : Net → List Attribute
  | .drop => []
  | .data sender _ bytes => [.xorPeerAddress (.v6 sender), .data bytes]
  | .icmp peer _ typ code arg => [.xorPeerAddress (.v6 peer), .icmp typ code arg]

lemma handleNet_message (received : Bytes) (hle : received.length ≤ 65536) :
    ((classify received).receiver = none ∧ ∀ b, Received b received →
    handleNet received.length random b = .ok none) ∨ ∃ receiver m items,
    (classify received).receiver = some receiver ∧ Built m items ∧ typAt m = 0x0017#16 ∧
      List.Forall₂ Attribute.Wrote (classify received).attributes items ∧ ∀ b, Received b received →
      ∃ tail, handleNet received.length random b = .ok (some (receiver, m ++ tail)) := by
  cases hc : classify received with
  | drop =>
    refine .inl ⟨rfl, fun b hb => ?_⟩
    rw [handleNet_eq random hb, hc, Net.place]
  | data sender receiver bytes =>
    have hbytes : bytes = received.drop 48 := by
      simp only [classify, classifyUdp, classifyIcmp] at hc
      split_ifs at hc
      cases hc
      rfl
    have hn : 48 + bytes.length + padding bytes.length ≤ 65536 := by
      rw [hbytes, List.length_drop, padding]
      omega
    obtain ⟨m, items, hbuilt, htyp, hall, -, hrun⟩ := udp_message random sender bytes (by omega)
    refine .inr ⟨receiver, m, items, rfl, hbuilt, htyp, hall, fun b hb => ?_⟩
    have hslice : slice b 48 bytes.length = bytes := by
      rw [hbytes, List.length_drop, slice, ← hb.drop]
    obtain ⟨tail, htail⟩ := hrun b (by rw [hb.length]; exact hn) hslice
    rw [handleNet_eq random hb, hc, Net.place, htail]
    exact ⟨tail, rfl⟩
  | icmp peer receiver typ code arg =>
    obtain ⟨m, items, hbuilt, htyp, hall, hrun⟩ := icmp_message random peer typ code arg
    refine .inr ⟨receiver, m, items, rfl, hbuilt, htyp, hall, fun b hb => ?_⟩
    obtain ⟨tail, htail⟩ := hrun b (by rw [hb.length]; norm_num)
    rw [handleNet_eq random hb, hc, Net.place, htail]
    exact ⟨tail, rfl⟩

end Handle

end Masquerade.Common
