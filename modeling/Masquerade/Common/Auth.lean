import Masquerade.Common.Handled

/-! What stands behind a response: the request was signed, and so is the response. -/

namespace Masquerade.Common

open Lib Stun Wire

section

variable [Crypto]

def First (items : List Item) (typ : UInt16) (behind : List UInt16) (item : Item) : Prop :=
  item.typ = typ ∧ ∃ before after, items = before ++ item :: after ∧ ∀ x ∈ before, x.typ ≠ typ ∧
    x.typ ∉ behind

structure Authenticated (b : Bytes) (items : List Item) (u r : Str) : Prop where
  username : ∃ item, First items Typ.username [Typ.messageIntegrity, Typ.fingerprint] item ∧
    item.value = u.asBytes
  realm : ∃ item, First items Typ.realm [Typ.messageIntegrity, Typ.fingerprint] item ∧
    item.value = r.asBytes
  mac : ∃ item offset, First items Typ.messageIntegrity [Typ.fingerprint] item ∧ item.At b offset ∧
    item.value.length = 20 ∧ item.value =
      (Crypto.hmacSha1 (longTermKey u r) (withLength (b.take (20 + offset)) (offset + 24))).toList

section Request

variable {b : Bytes} {items : List Item}

omit [Crypto] in
lemma first_of_heard {typ : UInt16} {stops : UInt16 → Bool} {behind : List UInt16}
    {item : Item} (h : heard typ stops items = some item) (hb : ∀ t ∈ behind, stops t = true) :
    First items typ behind item := by
  obtain ⟨ht, before, after, rfl, hbefore⟩ := heard_eq_some_iff.mp h
  refine ⟨ht, before, after, rfl, fun x hx => ⟨(hbefore x hx).1, fun hmem => ?_⟩⟩
  have := hb _ hmem
  rw [(hbefore x hx).2] at this
  cases this

omit [Crypto] in
lemma str_read {typ : UInt16} {item : Item} {s : Str} (h : (strAttr typ).read item = some s) :
    item.value = s.asBytes := by
  simp only [AttrDec.read, strAttr] at h
  cases hs : fromUtf8 item.value with
  | none => simp [hs] at h
  | some s' =>
    simp only [hs, Option.some.injEq] at h
    rw [← h, fromUtf8_eq_some.mp hs]

omit [Crypto] in
lemma integrity_read {item : Item} {i : Integrity 20}
    (h : Stun.messageIntegrity.read item = some i) :
    item.value = i.mac.toList ∧ i.pre = item.pre := by
  simp only [AttrDec.read, Stun.messageIntegrity, integrityAttr, tryInto] at h
  by_cases hl : item.value.length = 20
  · simp only [hl, dif_pos, Option.some.injEq] at h
    rw [← h]
    exact ⟨rfl, rfl⟩
  · simp [hl] at h

omit [Crypto] in
lemma signed_bytes {item : Item} {offset : ℕ} (h : item.At b offset) (hl : item.value.length = 20) :
    item.pre.all = withLength (b.take (20 + offset)) (offset + 24) := by
  have hsize : item.size = 24 := by simp [Item.size, hl, padding]
  rw [Prefix.all, h.firstFour, h.bytes, hsize, withLength_eq, List.take_take, List.drop_take, slice,
    List.append_assoc, min_eq_left (by omega), show 20 + offset - 4 = 16 + offset by omega]

lemma Verified.authenticated (hb : 4 ≤ b.length) {u r : Str} {i : Integrity 20}
    (h : Verified (turnAttrs (itemsOf b)) u r i) : Authenticated b (itemsOf b) u r := by
  obtain ⟨x, hx, hxr⟩ := Option.bind_eq_some_iff.mp h.username
  obtain ⟨y, hy, hyr⟩ := Option.bind_eq_some_iff.mp h.realm
  obtain ⟨z, hz, hzr⟩ := Option.bind_eq_some_iff.mp h.integrity
  obtain ⟨hmac, hpre⟩ := integrity_read hzr
  obtain ⟨offset, hat⟩ := itemsOf_mem hb (heard_mem hz).1
  have hl : z.value.length = 20 := by rw [hmac, List.Vector.toList_length]
  refine ⟨⟨x, first_of_heard hx (by simp [mustPrecede]), str_read hxr⟩,
    ⟨y, first_of_heard hy (by simp [mustPrecede]), str_read hyr⟩, z, offset,
    first_of_heard hz (by simp), hat, hl, ?_⟩
  rw [hmac, ← (verify_iff i _).mp h.verify, hpre, signed_bytes hat hl]

end Request

section Response

variable {canonical : SocketAddr} {relayed : SocketAddrV6} {b m : Bytes} {c : Stun.Class}
  {as : List Attribute} {items : List Item}

lemma error_read {code : UInt16} (hc : code ≤ 799) {item : Item}
    (h : (Attribute.errorCode code emptyStr).Wrote item) :
    Stun.errorCode.read item = some (code, emptyStr) := by
  rw [AttrDec.read, h.value _ _ (errorCode_writes hc (by decide)), errorCode_decode 0 hc emptyStr]

omit [Crypto] in
lemma errorCode_safe : Stun.errorCode.Safe := by
  intro p v _
  match v with
  | [] | [_] | [_, _] | [_, _, _] => exact ⟨_, rfl⟩
  | _ :: _ :: _ :: _ :: _ => exact ⟨_, rfl⟩

lemma heard_wrote {a : Attribute} {front back : List Attribute} {stops : UInt16 → Bool}
    (h : List.Forall₂ Attribute.Wrote (front ++ a :: back) items)
    (hfront : ∀ x ∈ front, x.typ ≠ a.typ ∧ stops x.typ = false) :
    ∃ item, heard a.typ stops items = some item ∧ a.Wrote item := by
  induction front generalizing items with
  | nil =>
    obtain ⟨item, rest, hi, -, rfl⟩ := List.forall₂_cons_left_iff.mp h
    exact ⟨item, by rw [heard_cons, if_pos hi.typ], hi⟩
  | cons x front ih =>
    obtain ⟨item, rest, hi, hrest, rfl⟩ := List.forall₂_cons_left_iff.mp h
    obtain ⟨h₁, h₂⟩ := hfront x List.mem_cons_self
    obtain ⟨y, hy, hwrote⟩ := ih hrest fun x' hx' => hfront x' (List.mem_cons_of_mem _ hx')
    refine ⟨y, ?_, hwrote⟩
    rw [heard_cons, hi.typ, if_neg h₁, h₂, if_neg Bool.false_ne_true, hy]

lemma Response.reads {A : Type} {dec : AttrDec A} (hd : dec.Safe)
    {a : Attribute} (ht : a.typ = dec.typ) {front back : List Attribute}
    (h : Response b c (front ++ a :: back) m items)
    (hfront : ∀ x ∈ front, x.typ ≠ dec.typ ∧ dec.mustPrecede x.typ = false) (tail : Bytes) :
    ∃ item, a.Wrote item ∧ parsed dec (m ++ tail) = .ok (dec.read item) := by
  have hml := h.built.length
  obtain ⟨item, hheard, hwrote⟩ := heard_wrote h.wrote (ht ▸ hfront)
  refine ⟨item, hwrote, ?_⟩
  rw [parsed_eq hd (by simp; omega), h.built.itemsOf tail, ← ht, hheard, Option.bind_some]

lemma Response.code {code : UInt16} (hc : code ≤ 799)
    (h : Response b c (.errorCode code emptyStr :: as) m items) (tail : Bytes) :
    parsed Stun.errorCode (m ++ tail) = .ok (some (code, emptyStr)) := by
  obtain ⟨item, hwrote, hread⟩ := Response.reads errorCode_safe rfl
    (show Response b c ([] ++ _ :: as) m items from h) (by simp) tail
  rw [hread, error_read hc hwrote]

lemma Response.no_code (h : Response b c as m items) (has : ∀ a ∈ as, a.typ ≠ Typ.errorCode)
    (tail : Bytes) :
    parsed Stun.errorCode (m ++ tail) = .ok none := by
  have hml := h.built.length
  have hitems : ∀ x ∈ items, x.typ ≠ Stun.errorCode.typ := by
    intro x hx ht
    have hmem := List.mem_map_of_mem (f := Item.typ) hx
    rw [wrote_typs h.wrote, ht] at hmem
    obtain ⟨a, ha, hat⟩ := List.mem_map.mp hmem
    exact has a ha hat
  rw [parsed_eq errorCode_safe (by simp; omega), h.built.itemsOf tail, heard_eq_none hitems]
  rfl

lemma Arm.code {method : Method} {a : TurnAttrs} (h : Arm canonical relayed method a c as) :
    (∃ code rest, code ≤ 799 ∧ as = .errorCode code emptyStr :: rest) ∨
      ∀ x ∈ as, x.typ ≠ Typ.errorCode := by
  cases h with
  | unknownMethod => exact .inl ⟨404, _, by decide, rfl⟩
  | unknownAttrs => exact .inl ⟨420, _, by decide, rfl⟩
  | unauthenticated => exact .inl ⟨401, _, by decide, rfl⟩
  | forbidden => exact .inl ⟨403, _, by decide, rfl⟩
  | nonUdp => exact .inl ⟨442, _, by decide, rfl⟩
  | channelBind => exact .inl ⟨438, _, by decide, rfl⟩
  | binding | allocate | refresh | createPermission =>
    right
    simp only [List.forall_mem_cons, Attribute.typ_xorMappedAddress,
      Attribute.typ_xorRelayedAddress, Attribute.typ_lifetime, Attribute.typ_messageIntegrity,
      List.not_mem_nil, false_imp_iff, implies_true, and_true]
    decide

lemma mac_read {key : Bytes} {item : Item} (h : (Attribute.messageIntegrity key).Wrote item) :
    ∃ i, Stun.messageIntegrity.read item = some i ∧ i.verify key = true := by
  refine ⟨⟨item.pre, Crypto.hmacSha1 key item.pre.all⟩, ?_, (verify_iff _ key).mpr rfl⟩
  rw [AttrDec.read, h.value _ _ (messageIntegrity_writes key), messageIntegrity_decode]

lemma Response.carries_mac {key : Bytes} {back : List Attribute}
    (h : Response b c (as ++ .messageIntegrity key :: back) m items)
    (has : ∀ a ∈ as, a.typ ≠ Typ.messageIntegrity ∧ a.typ ≠ Typ.fingerprint) (tail : Bytes) :
    ∃ i, parsed Stun.messageIntegrity (m ++ tail) = .ok (some i) ∧ i.verify key = true := by
  have hfront : ∀ a ∈ as, a.typ ≠ Stun.messageIntegrity.typ ∧
      Stun.messageIntegrity.mustPrecede a.typ = false := by
    intro a ha
    exact ⟨(has a ha).1, beq_eq_false_iff_ne.mpr (has a ha).2⟩
  have hsafe : Stun.messageIntegrity.Safe := integrity_safe _ _
  obtain ⟨item, hwrote, hparsed⟩ := h.reads hsafe rfl hfront tail
  obtain ⟨i, hread, hverify⟩ := mac_read hwrote
  exact ⟨i, by rw [hparsed, hread], hverify⟩

lemma Arm.signed {method : Method} {a : TurnAttrs} (h : Arm canonical relayed method a c as)
    (hc : (c = .success ∧ method ≠ .binding) ∨
      ∃ code ∈ [442, 438], ∃ rest, as = .errorCode code emptyStr :: rest) :
    ∃ u r i front, Verified a u r i ∧ as = front ++ [.messageIntegrity (longTermKey u r)] ∧
      ∀ x ∈ front, x.typ ≠ Typ.messageIntegrity ∧ x.typ ≠ Typ.fingerprint := by
  -- The codes of the other error responses are neither of the two.
  have hother : ∀ code ∈ [404, 420, 401, 403], ∀ rest,
      ((Stun.Class.error = .success ∧ method ≠ .binding) ∨
        ∃ code' ∈ [442, 438], ∃ rest', Attribute.errorCode code emptyStr :: rest =
          .errorCode code' emptyStr :: rest') →
      False := by
    rintro code hcode rest (⟨hs, -⟩ | ⟨code', hcode', rest', heq⟩)
    · cases hs
    · cases heq
      fin_cases hcode <;> exact absurd hcode' (by decide)
  cases h with
  | binding hm =>
    rcases hc with ⟨-, hb⟩ | ⟨code, -, rest, heq⟩
    · exact absurd hm hb
    · cases heq
  | unknownMethod => exact (hother 404 (by decide) _ hc).elim
  | unknownAttrs => exact (hother 420 (by decide) _ hc).elim
  | unauthenticated => exact (hother 401 (by decide) _ hc).elim
  | forbidden => exact (hother 403 (by decide) _ hc).elim
  | nonUdp hv =>
    refine ⟨_, _, _, [.errorCode 442 emptyStr], hv, by rw [hv.turnKey]; rfl, ?_⟩
    simp only [List.forall_mem_singleton, Attribute.typ_errorCode]
    decide
  | allocate hv =>
    refine ⟨_, _, _, [.xorMappedAddress canonical, .xorRelayedAddress (.v6 relayed),
      .lifetime (a.lifetime.getD 1000)], hv, by rw [hv.turnKey]; rfl, ?_⟩
    simp only [List.forall_mem_cons, Attribute.typ_xorMappedAddress,
      Attribute.typ_xorRelayedAddress, Attribute.typ_lifetime, List.not_mem_nil, false_imp_iff,
      implies_true, and_true]
    decide
  | refresh hv =>
    refine ⟨_, _, _, [.lifetime (a.lifetime.getD 1000)], hv, by rw [hv.turnKey]; rfl, ?_⟩
    simp only [List.forall_mem_singleton, Attribute.typ_lifetime]
    decide
  | createPermission hv => exact ⟨_, _, _, [], hv, by rw [hv.turnKey]; rfl, by simp⟩
  | channelBind hv =>
    refine ⟨_, _, _, [.errorCode 438 emptyStr], hv, by rw [hv.turnKey]; rfl, ?_⟩
    simp only [List.forall_mem_singleton, Attribute.typ_errorCode]
    decide

end Response

def Checked (b response : Bytes) : Prop :=
  (msgClass response = .ok .success ∧ method b ≠ .ok .binding) ∨
    ∃ code ∈ [442, 438], ∃ reason, parsed Stun.errorCode response = .ok (some (code, reason))

theorem checked_response_authenticated {canonical : SocketAddr} {relayed : SocketAddrV6}
    {b : Bytes} {n : ℕ} (h : Decodable b n) (h100 : 100 ≤ b.length) {o : Outcome}
    (ho : handleTurn canonical relayed b = .ok o) (hreply : o.reply = true)
    (hchecked : Checked b o.buffer) :
    ∃ items u r, attrs b = .ok items ∧ Authenticated b items u r ∧
      ∃ i, parsed Stun.messageIntegrity o.buffer = .ok (some i) ∧
        i.verify (longTermKey u r) = true := by
  obtain ⟨c, as, m, items, tail, -, -, harm, rfl, hm⟩ := handleTurn_reply h h100 ho hreply
  have hml := hm.built.length
  have hl : (m ++ tail).length = m.length + tail.length := List.length_append
  have hc : (c = .success ∧ methodAt b ≠ .binding) ∨
      ∃ code ∈ [442, 438], ∃ rest, as = .errorCode code emptyStr :: rest := by
    rcases hchecked with ⟨hclass, hmethod⟩ | ⟨code, hcode, reason, hparsed⟩
    · refine .inl ⟨?_, fun hb => hmethod ?_⟩
      · rw [← hm.class_append tail, msgClass_eq (by simp only; omega) hclass]
      · rw [method_ok (by omega), ← methodAt, hb]
    · rcases harm.code with ⟨k, rest, hk, rfl⟩ | hnone
      · have hsame := (hm.code hk tail).symm.trans hparsed
        obtain ⟨rfl, -⟩ : k = code ∧ emptyStr = reason := by simpa using hsame
        exact .inr ⟨k, hcode, rest, rfl⟩
      · rw [hm.no_code hnone tail] at hparsed
        cases hparsed
  obtain ⟨u, r, i, front, hv, rfl, hfront⟩ := harm.signed hc
  exact ⟨itemsOf b, u, r, attrs_eq b, hv.authenticated (by omega), hm.carries_mac hfront tail⟩

end

def allocateRequest : Bytes :=
  [0x00, 0x03, 0x00, 0x38, 0x21, 0x12, 0xA4, 0x42, 0x01, 0x02, 0x03, 0x04, 0x05, 0x06, 0x07, 0x08,
    0x09, 0x0A, 0x0B, 0x0C, 0x00, 0x06, 0x00, 0x04, 0x75, 0x73, 0x65, 0x72, 0x00, 0x14, 0x00, 0x04,
    0x6E, 0x6F, 0x6E, 0x65, 0x00, 0x15, 0x00, 0x04, 0x6E, 0x6F, 0x6E, 0x65, 0x00, 0x19, 0x00, 0x04,
    0x11, 0x00, 0x00, 0x00, 0x00, 0x08, 0x00, 0x14, 0xB8, 0x15, 0x53, 0x0F, 0x27, 0xA8, 0x26, 0x53,
    0xA0, 0x87, 0x9C, 0x5A, 0x4D, 0xB1, 0x9F, 0x48, 0xFD, 0xF3, 0xCC, 0x9A]

def allocateResponse : Bytes :=
  [0x01, 0x03, 0x00, 0x44, 0x21, 0x12, 0xA4, 0x42, 0x01, 0x02, 0x03, 0x04, 0x05, 0x06, 0x07, 0x08,
    0x09, 0x0A, 0x0B, 0x0C, 0x00, 0x20, 0x00, 0x08, 0x00, 0x01, 0x2E, 0xB2, 0x5E, 0x12, 0xA4, 0x43,
    0x00, 0x16, 0x00, 0x14, 0x00, 0x02, 0xA1, 0x13, 0xDC, 0x12, 0xA4, 0x42, 0x01, 0x02, 0x03, 0x04,
    0x05, 0x06, 0x07, 0x08, 0x09, 0x0A, 0x0B, 0x0E, 0x00, 0x0D, 0x00, 0x04, 0x00, 0x00, 0x03, 0xE8,
    0x00, 0x08, 0x00, 0x14, 0x4F, 0xDE, 0x59, 0xBE, 0x2B, 0xE6, 0xCC, 0x7D, 0x4B, 0x03, 0x80, 0xA4,
    0x36, 0xEE, 0x70, 0x00, 0x38, 0x76, 0xE9, 0x7A]

def userKey : List.Vector UInt8 16 :=
  ⟨[0x9A, 0xC1, 0x33, 0x6A, 0xC2, 0xEF, 0x12, 0xB8, 0xA1, 0x06, 0x00, 0x7A, 0xAB, 0x74,
    0x25, 0xF3], rfl⟩

def userCredentials : Bytes :=
  [0x75, 0x73, 0x65, 0x72, 0x3A, 0x6E, 0x6F, 0x6E, 0x65, 0x3A, 0x70, 0x61, 0x73, 0x73, 0x77, 0x6F,
    0x72, 0x64]

@[reducible] def allocateDigests : Crypto :=
  .recorded [((userKey.toList, allocateRequest.take 52), ⟨slice allocateRequest 56 20, rfl⟩),
    ((userKey.toList, allocateResponse.take 64), ⟨slice allocateResponse 68 20, rfl⟩)]
    [(userCredentials, userKey)] []

theorem checked_response_authenticated_allocate :
    letI := allocateDigests
    Checked (allocateRequest ++ List.replicate 24 0) (allocateResponse ++ List.replicate 12 0) ∧
    ∃ items u r, attrs (allocateRequest ++ List.replicate 24 0) = .ok items ∧
      Authenticated (allocateRequest ++ List.replicate 24 0) items u r ∧
      ∃ i, parsed Stun.messageIntegrity (allocateResponse ++ List.replicate 12 0) = .ok (some i) ∧
        i.verify (longTermKey u r) = true := by
  let _ := allocateDigests
  have hchecked : Checked (allocateRequest ++ List.replicate 24 0)
      (allocateResponse ++ List.replicate 12 0) :=
    .inl ⟨by decide +kernel, by decide +kernel⟩
  have ho : handleTurn (.v4 ⟨0x7F000001, 4000⟩) ⟨0xFD000000000000000000000000000002, 32769, 0, 0⟩
      (allocateRequest ++ List.replicate 24 0) =
      .ok ⟨allocateResponse ++ List.replicate 12 0, [], true⟩ := by
    decide +kernel
  exact ⟨hchecked, checked_response_authenticated (n := 76) ⟨by decide, by decide +kernel⟩
    (by decide) ho rfl hchecked⟩

end Masquerade.Common
