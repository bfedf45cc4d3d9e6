import Masquerade.Stun.Attribute

/-! An attribute is appended whole or the buffer is left as it was. -/

namespace Masquerade.Stun

open Lib

section InPlace

variable {A : Type}

/-- `Stun::append` on the borrowed buffer, which is there also after an error. -/
def appendInPlace (enc : AttrEnc A) (attr : A) (buffer : Bytes) :
    Exec (Except Error Unit × Bytes) := do
  let attrLen ← enc.length attr
  let paddLen := padding attrLen
  let test ← subChecked (65535 - 4) paddLen
  if test < attrLen then
    return (.error .notStun, buffer)
  let test ← subChecked test attrLen
  if buffer.length < 4 then
    return (.error (.tooShort (20 + 4 + attrLen + paddLen)), buffer)
  let offset := ofBE (← readAt buffer 2 2)
  if test < offset then
    return (.error .notStun, buffer)
  let newLength ← addWithin 16 offset 4
  let newLength ← addWithin 16 newLength attrLen
  let newLength ← addWithin 16 newLength paddLen
  let newLen := 20 + newLength
  if buffer.length < newLen then
    return (.error (.tooShort newLen), buffer)
  -- All checks complete
  let i := 20 + offset
  let buffer ← writeAt buffer 2 (toBE 2 newLength)
  let buffer ← writeAt buffer i (u16Bytes enc.typ)
  let buffer ← writeAt buffer (i + 2) (toBE 2 attrLen)
  let buffer ← writeAt buffer (i + 4 + attrLen) (List.replicate paddLen 0)
  let pre : Prefix := ⟨slice buffer 0 4, slice buffer 4 (i - 4)⟩
  let value ← enc.encode attr pre (slice buffer (i + 4) attrLen)
  let buffer ← writeAt buffer (i + 4) value
  return (.ok (), buffer)

def outcome (buffer : Bytes) : Except Error (Bytes × Item) → Except Error Unit × Bytes
  | .error e => (.error e, buffer)
  | .ok (buffer', _) => (.ok (), buffer')

lemma map_bind {α β γ : Type} (x : Exec α) (f : α → Exec β) (g : β → γ) :
    (x >>= f).map g = x >>= fun a => (f a).map g := by
  cases x <;> rfl

lemma appendInPlace_eq (enc : AttrEnc A) (attr : A) (buffer : Bytes) :
    appendInPlace enc attr buffer = (appendTraced enc attr buffer).map (outcome buffer) := by
  simp only [appendInPlace, appendTraced, map_bind, apply_ite (Except.map (outcome buffer))]
  rfl

def currentLength (b : Bytes) : ℕ := if b.length < 4 then 0 else lengthAt b

lemma appendTraced_notStun_iff {enc : AttrEnc A} {attr : A} {b : Bytes} :
    appendTraced enc attr b = .ok (.error .notStun) ↔ ∃ n, enc.length attr = .ok n ∧
      65535 < currentLength b + 4 + n + padding n := by
  simp only [appendTraced, bind_eq_ok]
  refine exists_congr fun n => and_congr_right fun hn => ?_
  have hpad := padding_lt n
  have hbe : ofBE (slice b 2 2) = lengthAt b := rfl
  rw [subChecked_ok (by omega)]
  simp only [Except.ok.injEq, exists_eq_left']
  by_cases hbig : 65535 - 4 - padding n < n
  · simp only [hbig, if_true, pure_eq_ok, true_iff]
    omega
  rw [if_neg hbig]
  simp only [bind_eq_ok]
  rw [subChecked_ok (by omega)]
  simp only [Except.ok.injEq, exists_eq_left']
  by_cases hfour : b.length < 4
  · simp only [hfour, if_true, pure_eq_ok, Except.ok.injEq, Except.error.injEq, reduceCtorEq,
      false_iff, currentLength]
    omega
  rw [if_neg hfour, currentLength, if_neg hfour]
  simp only [bind_eq_ok]
  rw [readAt_ok (by omega)]
  simp only [Except.ok.injEq, exists_eq_left', hbe]
  by_cases hroom : 65535 - 4 - padding n - n < lengthAt b
  · simp only [hroom, if_true, pure_eq_ok, true_iff]
    omega
  -- no other return gives this error
  rw [if_neg hroom, addWithin_ok (by omega), ok_bind, addWithin_ok (by omega), ok_bind,
    addWithin_ok (by omega), ok_bind]
  constructor
  · intro h
    split at h
    · cases h
    · simp only [bind_eq_ok] at h
      obtain ⟨b₁, -, b₂, -, b₃, -, b₄, -, w, -, b₅, -, h⟩ := h
      cases h
  · omega

lemma appendTraced_header {enc : AttrEnc A} {attr : A} {n : ℕ} (hn : enc.length attr = .ok n)
    {b : Bytes} (hb : b.length < 4) (hroom : 4 + n + padding n ≤ 65535) :
    appendTraced enc attr b = .ok (.error (.tooShort (20 + 4 + n + padding n))) := by
  have hpad := padding_lt n
  simp only [appendTraced, hn, ok_bind]
  rw [subChecked_ok (by omega), ok_bind, if_neg (by omega), subChecked_ok (by omega), ok_bind,
    if_pos hb, pure_eq_ok]

end InPlace

section Long

lemma copyFrom_long {v src w : Bytes} (hl : 65536 ≤ src.length)
    (hv : v.length = src.length % 65536) :
    copyFrom v src ≠ .ok w := by
  have hne : v.length ≠ src.length := by omega
  simp [copyFrom, hne]

lemma errorCode_long {a : UInt16 × Str} {n : ℕ} {p : Prefix} {v w : Bytes}
    (hl : 65536 ≤ 4 + a.2.asBytes.length) (hn : errorCodeEnc.length a = .ok n) (hv : v.length = n) :
    errorCodeEnc.encode a p v ≠ .ok w := by
  intro h
  have hsize := addWithin_eq hn
  have hlt : a.2.asBytes.length % 65536 < 65536 := Nat.mod_lt _ (by norm_num)
  simp only [errorCodeEnc, bind_eq_ok] at h
  obtain ⟨-, -, v₁, h₁, v₂, h₂, v₃, h₃, v₄, h₄, h⟩ := h
  have hlen : v₄.length = v.length := by
    rw [writeAt_length h₄, writeAt_length h₃, writeAt_length h₂, writeAt_length h₁]
  have hfour : ¬ v₄.length < 4 := by omega
  simp only [copyTail, hfour, if_false, pure_eq_ok, bind_eq_ok] at h
  obtain ⟨tail, htail, -⟩ := h
  unfold copyFrom at htail
  split at htail
  · rename_i heq
    -- then the reason is shorter than 65536 bytes, but the sum has overflowed
    rw [List.length_drop] at heq
    unfold errorCodeEnc addWithin at hn
    simp only at hn
    split at hn
    · omega
    · cases hn
  · cases htail

lemma takeWhile_zeros_trail {xs : List UInt16} (h : 0 ∉ xs) (k : ℕ) :
    (xs ++ List.replicate k 0).takeWhile (fun a => a != 0) = xs := by
  have hx : ∀ a ∈ xs, (a != 0) = true := by
    intro a ha
    simp only [bne_iff_ne, ne_eq]
    rintro rfl
    exact h ha
  rw [List.takeWhile_append_of_pos hx]
  cases k <;> simp [List.replicate_succ]

end Long

structure Encoding where
  length : ℕ
  bytes : Prefix → Bytes

def Attribute.Proper : Attribute → Prop
  | errorCode code _ | addressErrorCode _ code _ => code ≤ 799
  | unknownAttributes _ words => ZerosTrail words.toList
  | _ => True

section

variable [Crypto]

def Attribute.encoding : Attribute → Encoding
  | mappedAddress a | alternateServer a => ⟨sockaddrSize a, sockaddrBytes false a⟩
  | xorMappedAddress a | xorPeerAddress a | xorRelayedAddress a =>
    ⟨sockaddrSize a, sockaddrBytes true a⟩
  | username s | realm s | nonce s | alternateDomain s | software s =>
    ⟨s.asBytes.length, fun _ => s.asBytes⟩
  | priority n | lifetime n => ⟨4, fun _ => u32Bytes n⟩
  | iceControlled n | iceControlling n => ⟨8, fun _ => u64Bytes n⟩
  | useCandidate | dontFragment => ⟨0, fun _ => []⟩
  | data bs => ⟨bs.length, fun _ => bs⟩
  | unknownAttributes _ words =>
    let types := words.toList.takeWhile fun a => a != 0
    ⟨2 * types.length, fun _ => types.flatMap u16Bytes⟩
  | errorCode code reason => ⟨4 + reason.asBytes.length, fun _ => errorBytes 0 code reason⟩
  | addressErrorCode family code reason =>
    ⟨4 + reason.asBytes.length, fun _ => errorBytes family code reason⟩
  | channelNumber n => ⟨4, fun _ => u16Bytes n ++ [0, 0]⟩
  | evenPort r => ⟨1, fun _ => [r.toUInt8 <<< 7]⟩
  | requestedAddressFamily b | requestedTransport b | additionalAddressFamily b =>
    ⟨4, fun _ => [b, 0, 0, 0]⟩
  | reservationToken token => ⟨8, fun _ => token.toList⟩
  | icmp typ code arg => ⟨8, fun _ => [typ, code, typ, code] ++ arg.toList⟩
  | messageIntegrity key => ⟨20, fun p => (Crypto.hmacSha1 key p.all).toList⟩
  | fingerprint => ⟨4, fun p => u32Bytes (Crypto.crc32 p.all ^^^ fingerprintMagic)⟩

lemma Attribute.writes {a : Attribute} (ha : a.Proper) (hl : a.encoding.length < 65536) :
    a.encoder.enc.Writes a.encoder.value a.encoding.length a.encoding.bytes := by
  cases a with
  | mappedAddress a | alternateServer a | xorMappedAddress a | xorPeerAddress a
  | xorRelayedAddress a =>
    exact sockaddr_writes _ _ a
  | username s | realm s | nonce s | alternateDomain s | software s => exact str_writes _ hl
  | priority n | lifetime n => exact numeric_writes _ u32Bytes_length n
  | iceControlled n | iceControlling n => exact numeric_writes _ u64Bytes_length n
  | useCandidate | dontFragment => exact empty_writes _
  | data bs => exact slice_writes _ hl
  | unknownAttributes n words =>
    obtain ⟨xs, k, hw, hx⟩ := ha
    simp only [encoding, hw, takeWhile_zeros_trail hx] at hl ⊢
    exact unknownAttributes_writes hw hx hl
  | errorCode code reason => exact errorCode_writes ha hl
  | addressErrorCode family code reason => exact addressErrorCode_writes family ha hl
  | channelNumber n => exact channelNumber_writes n
  | evenPort r => exact evenPort_writes r
  | requestedAddressFamily b | requestedTransport b | additionalAddressFamily b =>
    exact weirdByte_writes _ b
  | reservationToken token => exact reservationToken_writes token
  | icmp typ code arg => exact icmp_writes (typ, code, arg)
  | messageIntegrity key => exact messageIntegrity_writes key
  | fingerprint => exact fingerprint_writes

lemma Attribute.encode_long {a : Attribute} (ha : a.Proper) (hl : 65536 ≤ a.encoding.length)
    {n : ℕ} {p : Prefix} {v w : Bytes} (hn : a.encoder.enc.length a.encoder.value = .ok n)
    (hv : v.length = n) :
    a.encoder.enc.encode a.encoder.value p v ≠ .ok w := by
  cases a with
  | mappedAddress a | alternateServer a | xorMappedAddress a | xorPeerAddress a
  | xorRelayedAddress a =>
    cases a <;> simp [encoding, sockaddrSize] at hl
  | username s | realm s | nonce s | alternateDomain s | software s | data s =>
    exact copyFrom_long hl (hv.trans (Except.ok.inj hn).symm)
  | unknownAttributes k words =>
    obtain ⟨xs, j, hw, hx⟩ := ha
    simp only [encoding, hw, takeWhile_zeros_trail hx] at hl
    simp only [encoder, unknownAttributesEnc, hw, filter_zeros_trail hx, Except.ok.injEq] at hn ⊢
    intro h
    rcases encodeWords_fits hx j 0 v h with rfl | hfit
    · simp at hl
    · have hmod := Nat.mod_lt (xs.length * 2) (show 0 < 65536 by norm_num)
      omega
  | errorCode code reason => exact errorCode_long (a := (code, reason)) hl hn hv
  | addressErrorCode family code reason =>
    intro h
    obtain ⟨w', hw', -⟩ := bind_eq_ok.mp h
    exact errorCode_long (a := (code, reason)) hl hn hv hw'
  | _ => simp [encoding] at hl

def Attribute.padded (a : Attribute) : ℕ := 4 + a.encoding.length + padding a.encoding.length

structure Stored (a : Attribute) (b b' : Bytes) : Prop where
  length : b'.length = b.length
  front : b'.take 2 = b.take 2
  field : lengthAt b' = lengthAt b + a.padded
  between : slice b' 4 (16 + lengthAt b) = slice b 4 (16 + lengthAt b)
  wrote : slice b' (20 + lengthAt b) a.padded =
    tlv a.typ (a.encoding.bytes (prefixOf (b'.take (20 + lengthAt b))))
  complete : (a.encoding.bytes (prefixOf (b'.take (20 + lengthAt b)))).length = a.encoding.length
  behind : b'.drop (20 + lengthAt b + a.padded) = b.drop (20 + lengthAt b + a.padded)

inductive Appended (a : Attribute) (b : Bytes) : Except Error Unit × Bytes → Prop
  | stored {b' : Bytes} : Stored a b b' → Appended a b (.ok (), b')
  | full : 65535 < currentLength b + a.padded → Appended a b (.error .notStun, b)
  | short {n : ℕ} : currentLength b + a.padded ≤ 65535 → b.length < n →
      Appended a b (.error (.tooShort n), b)

lemma Attribute.append_stored {a : Attribute} (ha : a.Proper)
    (hl : a.encoding.length < 65536) {b : Bytes} (hfits : lengthAt b + a.padded ≤ 65535)
    (hroom : 20 + lengthAt b + a.padded ≤ b.length) :
    ∃ b' item, a.append b = .ok (.ok (b', item)) ∧ Stored a b b' := by
  have hw := a.writes ha hl
  set n := a.encoding.length with hn
  set f := a.encoding.bytes with hf
  have hpadded : a.padded = 4 + n + padding n := rfl
  set m := b.take (20 + lengthAt b) with hm
  have hml : m.length = 20 + lengthAt b := List.length_take_of_le (by omega)
  have hlength : lengthAt m = lengthAt b := lengthAt_take (by omega)
  have hwhole : Whole m := by rw [Whole, hml, hlength]
  have hrest : (b.drop (20 + lengthAt b)).drop (4 + n + padding n) =
      b.drop (20 + lengthAt b + a.padded) := by
    rw [List.drop_drop, hpadded]
  have hrun : a.append b = .ok (.ok (grow m a.typ n f ++ b.drop (20 + lengthAt b + a.padded),
      grownItem m a.typ n f)) := by
    have htail : 4 + n + padding n ≤ (b.drop (20 + lengthAt b)).length := by
      rw [List.length_drop]
      omega
    have heq := appendTraced_eq hw hwhole (by omega) htail
    rwa [show m ++ b.drop (20 + lengthAt b) = b from List.take_append_drop _ _, hrest] at heq
  -- the value is written behind the updated header
  set m' := withLength m (lengthAt m + 4 + n + padding n) with hm'
  have hm'l : m'.length = 20 + lengthAt b := by rw [hm', withLength_length (by omega), hml]
  have hgrow : grow m a.typ n f = m' ++ tlv a.typ (f (prefixOf m')) := rfl
  have hvl : (f (prefixOf m')).length = n :=
    hw.size _ (by simp only [prefixOf, List.length_drop]; omega)
  have htlv : (tlv a.typ (f (prefixOf m'))).length = a.padded := by rw [tlv_length, hvl, hpadded]
  have hgrown : (grow m a.typ n f).length = 20 + lengthAt b + a.padded := by
    rw [hgrow, List.length_append, hm'l, htlv]
  have hfront : (grow m a.typ n f ++ b.drop (20 + lengthAt b + a.padded)).take
      (20 + lengthAt b) = m' := by
    rw [List.take_append_of_le_length (by omega), hgrow, List.take_left' hm'l]
  refine ⟨_, _, hrun, ?_, ?_, ?_, ?_, ?_, ?_, ?_⟩
  · rw [List.length_append, List.length_drop]
    omega
  · rw [List.take_append_of_le_length (by omega), grow_take_two (by omega), hm, List.take_take,
      min_eq_left (by omega)]
  · rw [lengthAt_append _ (by omega), lengthAt_grow (by omega) (by omega), hlength, hpadded]
    omega
  · rw [slice_append_left (by omega), slice_grow (by omega) (by omega), hm, slice_take (by omega)]
  · rw [hfront, slice_append_left (by omega), hgrow, slice_append_right _ _ (i := 0) (by omega),
      slice_zero, List.take_of_length_le htlv.le]
  · rw [hfront, ← hf, hvl]
  · exact List.drop_left' hgrown

lemma Attribute.appended {a : Attribute} (ha : a.Proper)
    (hl : a.encoding.length < 65536) (b : Bytes) :
    ∃ r, appendInPlace a.encoder.enc a.encoder.value b = .ok r ∧ Appended a b r := by
  have hw := a.writes ha hl
  have hpadded : a.padded = 4 + a.encoding.length + padding a.encoding.length := rfl
  rw [appendInPlace_eq]
  by_cases hfits : currentLength b + a.padded ≤ 65535
  · by_cases hfour : b.length < 4
    · refine ⟨_, congrArg _ (appendTraced_header hw.length hfour (by omega)), .short hfits ?_⟩
      omega
    rw [currentLength, if_neg hfour] at hfits
    by_cases hroom : 20 + lengthAt b + a.padded ≤ b.length
    · obtain ⟨b', item, hrun, hstored⟩ := a.append_stored ha hl hfits hroom
      exact ⟨_, congrArg _ hrun, .stored hstored⟩
    · refine ⟨_, congrArg _ (appendTraced_short hw (by omega) (by omega) (by omega)),
        .short ?_ (by omega)⟩
      rwa [currentLength, if_neg hfour]
  · have hnot := appendTraced_notStun_iff.mpr
      ⟨_, hw.length, (by omega : 65535 < currentLength b + 4 + _ + padding _)⟩
    exact ⟨_, congrArg _ hnot, .full (by omega)⟩

theorem append_atomic_iff (a : Attribute) (ha : a.Proper) (b : Bytes) :
    (∃ r, appendInPlace a.encoder.enc a.encoder.value b = .ok r ∧ Appended a b r) ↔
      a.encoding.length < 65536 ∨
      ∃ n, a.encoder.enc.length a.encoder.value = .ok n ∧
        65535 < currentLength b + 4 + n + padding n := by
  by_cases hl : a.encoding.length < 65536
  · exact iff_of_true (a.appended ha hl b) (.inl hl)
  have hpadded : a.padded = 4 + a.encoding.length + padding a.encoding.length := rfl
  rw [appendInPlace_eq]
  constructor
  · rintro ⟨r, hr, hdone⟩
    cases htraced : appendTraced a.encoder.enc a.encoder.value b with
    | error e => rw [htraced] at hr; cases hr
    | ok r' =>
      rw [htraced] at hr
      obtain rfl := Except.ok.inj hr
      match r' with
      | .ok (b', item) =>
        -- the encoder has been handed fewer bytes than it has
        obtain ⟨n, p, v, w, hn, hv, henc⟩ := appendTraced_encodes htraced
        exact absurd henc (a.encode_long ha (by omega) hn hv)
      | .error .notStun => exact .inr (appendTraced_notStun_iff.mp htraced)
      | .error (.tooShort n) =>
        cases hdone with
        | short hfits => omega
  · rintro (hshort | hlong)
    · exact absurd hshort hl
    · exact ⟨_, congrArg _ (appendTraced_notStun_iff.mpr hlong), .full (by omega)⟩

end

theorem append_atomic_iff_data :
    letI : Crypto := .recorded [] [] []
    ∃ r, appendInPlace dataEnc [0x68, 0x69] (List.replicate 28 0) = .ok r ∧
      Appended (.data [0x68, 0x69]) (List.replicate 28 0) r := by
  let _ : Crypto := .recorded [] [] []
  exact (append_atomic_iff (.data [0x68, 0x69]) trivial (List.replicate 28 0)).mpr
    (.inl (by decide))

lemma long_data (bs : Bytes) (hl : bs.length = 65536) :
    appendInPlace dataEnc bs (List.replicate 24 0) = .error .index := by
  have hcopy : ∀ p v, v.length = 0 → dataEnc.encode bs p v = .error .index := by
    intro p v hv
    simp [dataEnc, sliceAttrEnc, copyFrom, hv, hl]
  have hzero : dataEnc.length bs = .ok 0 := by simp [dataEnc, sliceAttrEnc, hl]
  have hoff : ofBE (slice (List.replicate 24 (0 : UInt8)) 2 2) = 0 := by decide
  simp only [appendInPlace, hzero, ok_bind]
  rw [subChecked_ok (by decide), ok_bind, if_neg (by decide), subChecked_ok (by decide),
    ok_bind, if_neg (by decide), readAt_ok (by decide), ok_bind, hoff, if_neg (by decide),
    addWithin_ok (by decide), ok_bind, addWithin_ok (by decide), ok_bind, addWithin_ok (by decide),
    ok_bind, if_neg (by decide), writeAt_ok (by decide), ok_bind, writeAt_ok (by decide),
    ok_bind, writeAt_ok (by decide), ok_bind, writeAt_ok (by decide), ok_bind,
    hcopy _ _ (by simp [slice]), error_bind]

theorem long_data_panics :
    letI : Crypto := .recorded [] [] []
    (Attribute.data (List.replicate 65536 0)).Proper ∧
      appendInPlace dataEnc (List.replicate 65536 0) (List.replicate 24 0) = .error .index ∧
      ¬ ∃ r, appendInPlace dataEnc (List.replicate 65536 0) (List.replicate 24 0) = .ok r ∧
        Appended (.data (List.replicate 65536 0)) (List.replicate 24 0) r := by
  let _ : Crypto := .recorded [] [] []
  have hpanic := long_data (List.replicate 65536 0) List.length_replicate
  refine ⟨trivial, hpanic, ?_⟩
  rintro ⟨r, hr, -⟩
  rw [hpanic] at hr
  cases hr

end Masquerade.Stun
