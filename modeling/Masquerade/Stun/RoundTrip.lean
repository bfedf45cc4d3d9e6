import Masquerade.Stun.Attribute

/-! Every attribute that can be appended is read back as it was written. -/

namespace Masquerade.Stun

open Lib

section

variable [Crypto]

def Attribute.FromCallers : Attribute → Prop
  | mappedAddress a | alternateServer a | xorMappedAddress a | xorPeerAddress a
  | xorRelayedAddress a =>
    a.Plain
  | username s | realm s | nonce s | alternateDomain s | software s => s.asBytes.length < 65536
  | data bs => bs.length < 65536
  | unknownAttributes _ words => ZerosTrail words.toList
  | errorCode code reason | addressErrorCode _ code reason =>
    code ≤ 799 ∧ 4 + reason.asBytes.length < 65536
  | _ => True

/-- The decoder of the same type gives the value back; `ICMP` has no decoder, so its bytes are
given. -/
def Attribute.ReadsBack (p : Prefix) (v : Bytes) : Attribute → Prop
  | mappedAddress a => Stun.mappedAddress.decode p v = .ok (.ok a)
  | alternateServer a => Stun.alternateServer.decode p v = .ok (.ok a)
  | xorMappedAddress a => Stun.xorMappedAddress.decode p v = .ok (.ok a)
  | xorPeerAddress a => Stun.xorPeerAddress.decode p v = .ok (.ok a)
  | xorRelayedAddress a => Stun.xorRelayedAddress.decode p v = .ok (.ok a)
  | username s => Stun.username.decode p v = .ok (.ok s)
  | realm s => Stun.realm.decode p v = .ok (.ok s)
  | nonce s => Stun.nonce.decode p v = .ok (.ok s)
  | alternateDomain s => Stun.alternateDomain.decode p v = .ok (.ok s)
  | software s => Stun.software.decode p v = .ok (.ok s)
  | priority n => Stun.priority.decode p v = .ok (.ok n)
  | iceControlled n => Stun.iceControlled.decode p v = .ok (.ok n)
  | iceControlling n => Stun.iceControlling.decode p v = .ok (.ok n)
  | lifetime n => Stun.lifetime.decode p v = .ok (.ok n)
  | useCandidate => Stun.useCandidate.decode p v = .ok (.ok ())
  | dontFragment => Stun.dontFragment.decode p v = .ok (.ok ())
  | data bs => ∃ start, Stun.data.decode p v = .ok (.ok ⟨start, bs⟩)
  | unknownAttributes n words => (Stun.unknownAttributes n).decode p v = .ok (.ok words)
  | errorCode code reason => Stun.errorCode.decode p v = .ok (.ok (code, reason))
  | addressErrorCode family code reason =>
    Stun.addressErrorCode.decode p v = .ok (.ok (family, code, reason))
  | channelNumber n => Stun.channelNumber.decode p v = .ok (.ok n)
  | evenPort r => Stun.evenPort.decode p v = .ok (.ok r)
  | requestedAddressFamily b => Stun.requestedAddressFamily.decode p v = .ok (.ok b)
  | requestedTransport b => Stun.requestedTransport.decode p v = .ok (.ok b)
  | additionalAddressFamily b => Stun.additionalAddressFamily.decode p v = .ok (.ok b)
  | reservationToken token => Stun.reservationToken.decode p v = .ok (.ok token)
  | icmp typ code arg => v = [typ, code, typ, code] ++ arg.toList
  | messageIntegrity key =>
    ∃ i, Stun.messageIntegrity.decode p v = .ok (.ok i) ∧ i.verify key = true
  | fingerprint => Stun.fingerprint.decode p v = .ok (.ok ())

def Attribute.Faithful (a : Attribute) : Prop :=
  ∃ n f, a.encoder.enc.Writes a.encoder.value n f ∧ ∀ p, 16 ≤ p.bytes.length → a.ReadsBack p (f p)

lemma unknownAttributes_faithful {n : ℕ} {words : List.Vector UInt16 n}
    (h : ZerosTrail words.toList) {b : Bytes} {r : Bytes × Item}
    (hr : (Attribute.unknownAttributes n words).append b = .ok (.ok r)) :
    (Attribute.unknownAttributes n words).Faithful := by
  obtain ⟨xs, k, hw, hx⟩ := h
  have hl : 2 * xs.length < 65536 := by
    obtain ⟨len, p, v, w, hlen, hv, henc⟩ := appendTraced_encodes hr
    have hsize : len = xs.length * 2 % 65536 := by
      simp only [Attribute.encoder, unknownAttributesEnc, hw, filter_zeros_trail hx] at hlen
      exact (Except.ok.inj hlen).symm
    simp only [Attribute.encoder, unknownAttributesEnc, hw] at henc
    rcases encodeWords_fits hx k 0 v henc with rfl | hfit
    · simp
    · omega
  exact ⟨_, _, unknownAttributes_writes hw hx hl, fun p _ => unknownAttributes_decode hw p⟩

lemma Attribute.faithful_or_unknown {a : Attribute} (h : a.FromCallers) :
    a.Faithful ∨ ∃ n words, a = .unknownAttributes n words := by
  cases a with
  | mappedAddress a =>
    exact .inl ⟨_, _, sockaddr_writes _ _ a, fun p hp => sockaddr_decode _ _ h hp⟩
  | alternateServer a =>
    exact .inl ⟨_, _, sockaddr_writes _ _ a, fun p hp => sockaddr_decode _ _ h hp⟩
  | xorMappedAddress a =>
    exact .inl ⟨_, _, sockaddr_writes _ _ a, fun p hp => sockaddr_decode _ _ h hp⟩
  | xorPeerAddress a =>
    exact .inl ⟨_, _, sockaddr_writes _ _ a, fun p hp => sockaddr_decode _ _ h hp⟩
  | xorRelayedAddress a =>
    exact .inl ⟨_, _, sockaddr_writes _ _ a, fun p hp => sockaddr_decode _ _ h hp⟩
  | username s => exact .inl ⟨_, _, str_writes _ h, fun p _ => str_decode _ s p⟩
  | realm s => exact .inl ⟨_, _, str_writes _ h, fun p _ => str_decode _ s p⟩
  | nonce s => exact .inl ⟨_, _, str_writes _ h, fun p _ => str_decode _ s p⟩
  | alternateDomain s => exact .inl ⟨_, _, str_writes _ h, fun p _ => str_decode _ s p⟩
  | software s => exact .inl ⟨_, _, str_writes _ h, fun p _ => str_decode _ s p⟩
  | priority n =>
    exact .inl ⟨_, _, numeric_writes _ u32Bytes_length n,
      fun p _ => numeric_decode _ u32Bytes_length u32Of_u32Bytes n p⟩
  | lifetime n =>
    exact .inl ⟨_, _, numeric_writes _ u32Bytes_length n,
      fun p _ => numeric_decode _ u32Bytes_length u32Of_u32Bytes n p⟩
  | iceControlled n =>
    exact .inl ⟨_, _, numeric_writes _ u64Bytes_length n,
      fun p _ => numeric_decode _ u64Bytes_length u64Of_u64Bytes n p⟩
  | iceControlling n =>
    exact .inl ⟨_, _, numeric_writes _ u64Bytes_length n,
      fun p _ => numeric_decode _ u64Bytes_length u64Of_u64Bytes n p⟩
  | useCandidate => exact .inl ⟨_, _, empty_writes _, fun p _ => rfl⟩
  | dontFragment => exact .inl ⟨_, _, empty_writes _, fun p _ => rfl⟩
  | data bs => exact .inl ⟨_, _, slice_writes _ h, fun p _ => ⟨_, rfl⟩⟩
  | unknownAttributes n words => exact .inr ⟨n, words, rfl⟩
  | errorCode code reason =>
    exact .inl ⟨_, _, errorCode_writes h.1 h.2, fun p _ => errorCode_decode 0 h.1 reason p⟩
  | addressErrorCode family code reason =>
    exact .inl ⟨_, _, addressErrorCode_writes family h.1 h.2,
      fun p _ => addressErrorCode_decode family h.1 reason p⟩
  | channelNumber n =>
    exact .inl ⟨_, _, channelNumber_writes n, fun p _ => channelNumber_decode n p⟩
  | evenPort r => exact .inl ⟨_, _, evenPort_writes r, fun p _ => evenPort_decode r p⟩
  | requestedAddressFamily b =>
    exact .inl ⟨_, _, weirdByte_writes _ b, fun p _ => weirdByte_decode _ b p⟩
  | requestedTransport b =>
    exact .inl ⟨_, _, weirdByte_writes _ b, fun p _ => weirdByte_decode _ b p⟩
  | additionalAddressFamily b =>
    exact .inl ⟨_, _, weirdByte_writes _ b, fun p _ => weirdByte_decode _ b p⟩
  | reservationToken token =>
    exact .inl ⟨_, _, reservationToken_writes token, fun p _ => reservationToken_decode token p⟩
  | icmp typ code arg => exact .inl ⟨_, _, icmp_writes (typ, code, arg), fun p _ => rfl⟩
  | messageIntegrity key =>
    exact .inl ⟨_, _, messageIntegrity_writes key, fun p _ =>
      ⟨_, messageIntegrity_decode key p, (verify_iff _ key).mpr rfl⟩⟩
  | fingerprint => exact .inl ⟨_, _, fingerprint_writes, fun p _ => fingerprint_decode p⟩

lemma Attribute.faithful {a : Attribute} (h : a.FromCallers) {b : Bytes} {r : Bytes × Item}
    (hr : a.append b = .ok (.ok r)) : a.Faithful := by
  obtain hfaithful | ⟨n, words, rfl⟩ := faithful_or_unknown h
  · exact hfaithful
  · exact unknownAttributes_faithful h hr

lemma Attribute.Faithful.readsBack {a : Attribute} (h : a.Faithful) {item : Item}
    (hw : a.Wrote item) :
    a.ReadsBack item.pre item.value := by
  obtain ⟨n, f, hwrites, hread⟩ := h
  rw [hw.value n f hwrites]
  exact hread _ hw.afterHeader

def appendAll : List Attribute → Bytes → Exec (Except Error (Bytes × List Item))
  | [], buffer => .ok (.ok (buffer, []))
  | a :: as, buffer => do
    match ← a.append buffer with
    | .error e => return .error e
    | .ok (buffer, item) =>
      match ← appendAll as buffer with
      | .error e => return .error e
      | .ok (buffer, items) => return .ok (buffer, item :: items)

lemma appendAll_cons {a : Attribute} {as : List Attribute} {b b' : Bytes} {items : List Item}
    (h : appendAll (a :: as) b = .ok (.ok (b', items))) :
    ∃ b₁ item items', a.append b = .ok (.ok (b₁, item)) ∧ appendAll as b₁ = .ok (.ok (b', items')) ∧
      items = item :: items' := by
  simp only [appendAll, bind_eq_ok] at h
  obtain ⟨r, hr, h⟩ := h
  match r with
  | .error e => cases h
  | .ok (b₁, item) =>
    simp only [bind_eq_ok] at h
    obtain ⟨r', hr', h⟩ := h
    match r' with
    | .error e => cases h
    | .ok (b₂, items') =>
      cases h
      exact ⟨b₁, item, items', hr, hr', rfl⟩

lemma Attribute.append_built {a : Attribute} (ha : a.FromCallers)
    {m tail b : Bytes} {items : List Item} {item : Item} (hm : Built m items)
    (h : a.append (m ++ tail) = .ok (.ok (b, item))) :
    ∃ m' tail', b = m' ++ tail' ∧ Built m' (items ++ [item]) ∧ item.typ = a.typ ∧
      a.ReadsBack item.pre item.value := by
  have hfaithful := a.faithful ha h
  obtain ⟨n, f, hw, -⟩ := a.faithful ha h
  obtain ⟨hn, ht⟩ := appendTraced_room hw hm.whole h
  rw [← Attribute.size_eq hw] at ht
  obtain ⟨m', item', hext, hwrote, -, happend⟩ :=
    Attribute.append_grows ⟨n, f, hw⟩ hm (by rw [Attribute.size_eq hw]; omega)
  rw [happend tail ht] at h
  simp only [Except.ok.injEq, Prod.mk.injEq] at h
  obtain ⟨rfl, rfl⟩ := h
  exact ⟨_, _, rfl, hext.built, hwrote.typ, hfaithful.readsBack hwrote⟩

lemma appendAll_built (as : List Attribute) (hc : ∀ a ∈ as, a.FromCallers)
    {m tail b : Bytes} {items new : List Item} (hm : Built m items)
    (h : appendAll as (m ++ tail) = .ok (.ok (b, new))) :
    ∃ m' tail', b = m' ++ tail' ∧ Built m' (items ++ new) ∧
      List.Forall₂ (fun a item => item.typ = a.typ ∧ a.ReadsBack item.pre item.value) as new := by
  induction as generalizing m tail items new with
  | nil =>
    simp only [appendAll, Except.ok.injEq, Prod.mk.injEq] at h
    obtain ⟨rfl, rfl⟩ := h
    exact ⟨m, tail, rfl, by simpa using hm, .nil⟩
  | cons a as ih =>
    obtain ⟨b₁, item, new', ha, has, rfl⟩ := appendAll_cons h
    obtain ⟨m₁, tail₁, rfl, hm₁, hread⟩ := Attribute.append_built (hc a List.mem_cons_self) hm ha
    obtain ⟨m', tail', rfl, hm', hall⟩ := ih (fun x hx => hc x (List.mem_cons_of_mem _ hx)) hm₁ has
    exact ⟨m', tail', rfl, by simpa using hm', .cons hread hall⟩

theorem append_round_trip {buffer : Bytes} (hb : 20 ≤ buffer.length)
    (htop : typAt buffer >>> 14 = 0) (hcookie : cookieAt buffer = magicCookie)
    (hlen : lengthAt buffer = 0) {as : List Attribute} (hc : ∀ a ∈ as, a.FromCallers)
    {buffer' : Bytes} {items : List Item} (h : appendAll as buffer = .ok (.ok (buffer', items))) :
    (∃ n, len buffer' = .ok n ∧ decode buffer' n = .ok (.ok ())) ∧ attrs buffer' = .ok items ∧
      List.Forall₂ (fun a item => item.typ = a.typ ∧ a.ReadsBack item.pre item.value) as items := by
  have hm := Built.header hb htop hcookie hlen
  rw [← List.take_append_drop 20 buffer] at h
  obtain ⟨m, tail, rfl, hbuilt, hall⟩ := appendAll_built as hc hm h
  rw [List.nil_append] at hbuilt
  exact ⟨⟨_, hbuilt.len tail, hbuilt.decode tail⟩, by rw [attrs_eq, hbuilt.itemsOf], hall⟩

end

def signedResponse : Bytes :=
  [0x01, 0x01, 0x00, 0x44, 0x21, 0x12, 0xA4, 0x42, 0x01, 0x02, 0x03, 0x04, 0x05, 0x06, 0x07, 0x08,
    0x09, 0x0A, 0x0B, 0x0C, 0x80, 0x22, 0x00, 0x05, 0x74, 0x65, 0x73, 0x74, 0x20, 0x00, 0x00, 0x00,
    0x00, 0x20, 0x00, 0x14, 0x00, 0x02, 0xA1, 0x13, 0xDC, 0x12, 0xA4, 0x42, 0x01, 0x02, 0x03, 0x04,
    0x05, 0x06, 0x07, 0x08, 0x09, 0x0A, 0x0B, 0x0E, 0x00, 0x08, 0x00, 0x14, 0x62, 0x49, 0xF9, 0x9B,
    0xEB, 0x6A, 0x24, 0x09, 0xB0, 0x08, 0x26, 0xF1, 0x96, 0xE4, 0x01, 0xF0, 0x19, 0xF1, 0x7B, 0x36,
    0x80, 0x28, 0x00, 0x04, 0xCA, 0x98, 0xFB, 0x0A]

@[reducible] def signedDigests : Crypto :=
  .recorded [(([0x73, 0x65, 0x63, 0x72, 0x65, 0x74], withLength (signedResponse.take 56) 60),
    ⟨slice signedResponse 60 20, rfl⟩)] [] [(signedResponse.take 80, 0x99CCAE44)]

def signedAttributes : List Attribute :=
  [.software ⟨[0x74, 0x65, 0x73, 0x74, 0x20], by decide⟩,
    .xorMappedAddress (.v6 ⟨0xFD000000000000000000000000000002, 32769, 0, 0⟩),
    .messageIntegrity [0x73, 0x65, 0x63, 0x72, 0x65, 0x74], .fingerprint]

theorem append_round_trip_signed :
    letI := signedDigests
    (∃ n, len signedResponse = .ok n ∧ decode signedResponse n = .ok (.ok ())) ∧
      attrs signedResponse = .ok (itemsOf signedResponse) ∧ List.Forall₂
      (fun a item => item.typ = a.typ ∧ a.ReadsBack item.pre item.value) signedAttributes
        (itemsOf signedResponse) := by
  let _ := signedDigests
  have happend : appendAll signedAttributes (withLength (signedResponse.take 20) 0 ++
      List.replicate 68 0) = .ok (.ok (signedResponse, itemsOf signedResponse)) := by
    decide +kernel
  refine append_round_trip (by decide) (by decide) (by decide) (by decide) ?_ happend
  simp [signedAttributes, Attribute.FromCallers, SocketAddr.Plain, SocketAddrV6.Plain]

end Masquerade.Stun
