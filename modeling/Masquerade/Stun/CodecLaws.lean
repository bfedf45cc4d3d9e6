import Masquerade.Stun.Codecs

/-! What each encoder writes, and that its decoder reads it back. -/

namespace Masquerade.Stun

open Lib

def obscure (xor : Bool) (p : Prefix) (bs : Bytes) : Bytes := if xor then xorWith p bs else bs

lemma xorIf_ok (xor : Bool) {p : Prefix} {bs : Bytes} (hp : 16 ≤ p.bytes.length)
    (hb : bs.length ≤ 16) :
    xorIf xor p bs = .ok (obscure xor p bs) := by
  cases xor
  · rfl
  · exact Prefix.xorBytes_ok hp hb

@[simp] lemma obscure_length (xor : Bool) {p : Prefix} {bs : Bytes} (hp : 16 ≤ p.bytes.length)
    (hb : bs.length ≤ 16) : (obscure xor p bs).length = bs.length := by
  cases xor
  · rfl
  · exact xorWith_length (by omega)

lemma obscure_obscure (xor : Bool) {p : Prefix} {bs : Bytes} (hp : 16 ≤ p.bytes.length)
    (hb : bs.length ≤ 16) :
    obscure xor p (obscure xor p bs) = bs := by
  cases xor
  · rfl
  · exact xorWith_xorWith (by omega)

lemma four_le_cases {v : Bytes} (h : 4 ≤ v.length) :
    ∃ v₀ v₁ v₂ v₃ w, v = v₀ :: v₁ :: v₂ :: v₃ :: w :=
  match v, h with
  | v₀ :: v₁ :: v₂ :: v₃ :: w, _ => ⟨v₀, v₁, v₂, v₃, w, rfl⟩

def sockaddrSize : SocketAddr → ℕ
  | .v4 _ => 8
  | .v6 _ => 20

def sockaddrOctets : SocketAddr → Bytes
  | .v4 addr => Ipv4Addr.octets addr.ip
  | .v6 addr => Ipv6Addr.octets addr.ip

def sockaddrBytes (xor : Bool) (a : SocketAddr) (p : Prefix) : Bytes :=
  [0, if a.isIpv4 then 0x01 else 0x02] ++ obscure xor p (u16Bytes a.port) ++
    obscure xor p (sockaddrOctets a)

lemma sockaddrOctets_length (a : SocketAddr) : (sockaddrOctets a).length + 4 = sockaddrSize a := by
  cases a <;> simp [sockaddrOctets, sockaddrSize]

lemma sockaddrOctets_le (a : SocketAddr) : (sockaddrOctets a).length ≤ 16 := by
  cases a <;> simp [sockaddrOctets]

lemma sockaddr_writes (typ : UInt16) (xor : Bool) (a : SocketAddr) :
    (sockaddrAttrEnc typ xor).Writes a (sockaddrSize a) (sockaddrBytes xor a) where
  length := by cases a <;> rfl
  size p hp := by
    have hport := obscure_length xor hp (show (u16Bytes a.port).length ≤ 16 by simp)
    have hip := obscure_length xor hp (sockaddrOctets_le a)
    simp only [sockaddrBytes, List.length_append, hport, hip, u16Bytes_length,
      ← sockaddrOctets_length]
    simp only [List.length_cons, List.length_nil]
    omega
  encode p v hp hv := by
    have hport := obscure_length xor hp (show (u16Bytes a.port).length ≤ 16 by simp)
    have hip := obscure_length xor hp (sockaddrOctets_le a)
    rw [u16Bytes_length] at hport
    have hsize := sockaddrOctets_length a
    obtain ⟨v₀, v₁, v₂, v₃, w, rfl⟩ := four_le_cases (show 4 ≤ v.length by omega)
    obtain ⟨x, y, hxy⟩ := List.length_eq_two.mp hport
    have hw : w.length = (sockaddrOctets a).length := by simp only [List.length_cons] at hv; omega
    simp only [sockaddrAttrEnc, xorIf_ok xor hp (show (u16Bytes a.port).length ≤ 16 by simp),
      sockaddrBytes, hxy]
    cases a with
    | v4 addr =>
      simp only [sockaddrOctets] at hip hw ⊢
      simp [xorIf_ok xor hp, writeAt, splice, copyTail, copyFrom, hip, hw]
    | v6 addr =>
      simp only [sockaddrOctets] at hip hw ⊢
      simp [xorIf_ok xor hp, writeAt, splice, copyTail, copyFrom, hip, hw]

lemma sockaddr_decode (typ : UInt16) (xor : Bool) {a : SocketAddr}
    (ha : a.Plain) {p : Prefix} (hp : 16 ≤ p.bytes.length) :
    (sockaddrAttr typ xor).decode p (sockaddrBytes xor a p) = .ok (.ok a) := by
  have hport := obscure_length xor hp (show (u16Bytes a.port).length ≤ 16 by simp)
  have hpp := obscure_obscure xor hp (show (u16Bytes a.port).length ≤ 16 by simp)
  have hip := obscure_length xor hp (sockaddrOctets_le a)
  have hii := obscure_obscure xor hp (sockaddrOctets_le a)
  rw [u16Bytes_length] at hport
  obtain ⟨x, y, hxy⟩ := List.length_eq_two.mp hport
  rw [hxy] at hpp
  simp only [sockaddrBytes, hxy]
  cases a with
  | v4 addr =>
    simp only [sockaddrOctets, Ipv4Addr.octets_length] at hip hii
    simp only [SocketAddr.port] at hpp
    simp [sockaddrAttr, sockaddrOctets, SocketAddr.isIpv4, indexAt, readAt, slice,
      xorIf_ok xor hp, hip, hpp, hii, List.take_of_length_le (Nat.le_of_eq hip)]
  | v6 addr =>
    obtain ⟨ip, port, flowinfo, scopeId⟩ := addr
    obtain ⟨rfl, rfl⟩ : flowinfo = 0 ∧ scopeId = 0 := ha
    simp only [sockaddrOctets, Ipv6Addr.octets_length] at hip hii
    simp only [SocketAddr.port] at hpp
    simp [sockaddrAttr, sockaddrOctets, SocketAddr.isIpv4, indexAt, readAt, slice,
      xorIf_ok xor hp, hip, hpp, hii, List.take_of_length_le (Nat.le_of_eq hip)]

lemma sockaddr_safe (typ : UInt16) (xor : Bool) : (sockaddrAttr typ xor).Safe := by
  intro p v hp
  by_cases h4 : v.length < 4
  · exact ⟨.error .unexpectedLength, by simp [sockaddrAttr, h4]⟩
  · have hport : (slice v 2 2).length ≤ 16 := by simp
    simp only [sockaddrAttr, h4, if_false, indexAt_ok 0 (show 1 < v.length by omega), ok_bind,
      readAt_ok (show 2 + 2 ≤ v.length by omega), xorIf_ok xor hp hport]
    split_ifs with h₁ h₂
    · have hip : (slice v 4 4).length ≤ 16 := by simp
      simp only [readAt_ok (show 4 + 4 ≤ v.length by omega), xorIf_ok xor hp hip, ok_bind]
      exact ⟨_, rfl⟩
    · have hip : (slice v 4 16).length ≤ 16 := by simp
      simp only [readAt_ok (show 4 + 16 ≤ v.length by omega), xorIf_ok xor hp hip, ok_bind]
      exact ⟨_, rfl⟩
    · exact ⟨_, rfl⟩
    · exact ⟨_, rfl⟩

section Values

variable (typ : UInt16)

lemma numeric_writes {A : Type} {width : ℕ} {toBe : A → Bytes}
    (hw : ∀ a, (toBe a).length = width) (a : A) :
    (numericAttrEnc typ width toBe).Writes a width (fun _ => toBe a) where
  length := rfl
  size _ _ := hw a
  encode _ _ _ hv := copyFrom_ok (hv.trans (hw a).symm)

lemma numeric_decode {A : Type} {width : ℕ} {toBe : A → Bytes} {fromBe : Bytes → A}
    (hw : ∀ a, (toBe a).length = width) (hr : ∀ a, fromBe (toBe a) = a) (a : A) (p : Prefix) :
    (numericAttr typ width fromBe).decode p (toBe a) = .ok (.ok a) := by
  simp [numericAttr, hw, hr]

lemma str_writes {s : Str} (h : s.asBytes.length < 65536) :
    (strAttrEnc typ).Writes s s.asBytes.length (fun _ => s.asBytes) where
  length := by simp [strAttrEnc, Nat.mod_eq_of_lt h]
  size _ _ := rfl
  encode _ _ _ hv := copyFrom_ok hv

lemma str_decode (s : Str) (p : Prefix) : (strAttr typ).decode p s.asBytes = .ok (.ok s) := by
  simp [strAttr]

lemma slice_writes {bs : Bytes} (h : bs.length < 65536) :
    (sliceAttrEnc typ).Writes bs bs.length (fun _ => bs) where
  length := by simp [sliceAttrEnc, Nat.mod_eq_of_lt h]
  size _ _ := rfl
  encode _ _ _ hv := copyFrom_ok hv

lemma empty_writes : (emptyAttrEnc typ).Writes () 0 (fun _ => []) where
  length := rfl
  size _ _ := rfl
  encode _ v _ hv := by rw [List.length_eq_zero_iff.mp hv]; rfl

lemma weirdByte_writes (b : UInt8) : (weirdByteAttrEnc typ).Writes b 4 (fun _ => [b, 0, 0, 0]) where
  length := rfl
  size _ _ := rfl
  encode p v _ hv := by
    obtain ⟨v₀, v₁, v₂, v₃, w, rfl⟩ := four_le_cases (Nat.le_of_eq hv.symm)
    obtain rfl : w = [] := by simpa using hv
    rfl

lemma weirdByte_decode (b : UInt8) (p : Prefix) :
    (weirdByteAttr typ).decode p [b, 0, 0, 0] = .ok (.ok b) := rfl

lemma numeric_safe {A : Type} (width : ℕ) (fromBe : Bytes → A) :
    (numericAttr typ width fromBe).Safe :=
  fun _ _ _ => ⟨_, rfl⟩

lemma str_safe : (strAttr typ).Safe := fun _ _ _ => ⟨_, rfl⟩

lemma slice_safe : (sliceAttr typ).Safe := fun _ _ _ => ⟨_, rfl⟩

lemma weirdByte_safe : (weirdByteAttr typ).Safe := by
  intro p v _
  cases v with
  | nil => exact ⟨_, rfl⟩
  | cons b v => exact ⟨.ok b, rfl⟩

lemma integrity_safe (l : ℕ) : (integrityAttr typ l).Safe := fun _ _ _ => ⟨_, rfl⟩

end Values

lemma channelNumber_writes (a : UInt16) :
    channelNumberEnc.Writes a 4 (fun _ => u16Bytes a ++ [0, 0]) where
  length := rfl
  size _ _ := by simp
  encode p v _ hv := by
    obtain ⟨v₀, v₁, v₂, v₃, w, rfl⟩ := four_le_cases (Nat.le_of_eq hv.symm)
    obtain rfl : w = [] := by simpa using hv
    rfl

lemma channelNumber_safe : channelNumber.Safe := fun _ _ _ => ⟨_, rfl⟩

lemma channelNumber_decode (a : UInt16) (p : Prefix) :
    channelNumber.decode p (u16Bytes a ++ [0, 0]) = .ok (.ok a) := by
  have ht : (u16Bytes a ++ [0, 0]).take 2 = u16Bytes a := rfl
  simp [channelNumber, ht]

lemma evenPort_writes (a : Bool) : evenPortEnc.Writes a 1 (fun _ => [a.toUInt8 <<< 7]) where
  length := rfl
  size _ _ := rfl
  encode p v _ hv := by
    obtain ⟨v₀, rfl⟩ := List.length_eq_one_iff.mp hv
    rfl

lemma evenPort_decode (a : Bool) (p : Prefix) :
    evenPort.decode p [a.toUInt8 <<< 7] = .ok (.ok a) := by
  cases a <;> rfl

lemma reservationToken_writes (a : List.Vector UInt8 8) :
    reservationTokenEnc.Writes a 8 (fun _ => a.toList) where
  length := rfl
  size _ _ := a.toList_length
  encode _ _ _ hv := copyFrom_ok (hv.trans a.toList_length.symm)

lemma tryInto_toList {n : ℕ} (a : List.Vector UInt8 n) : tryInto n a.toList = some a := by
  rw [tryInto, dif_pos a.toList_length]
  rfl

lemma reservationToken_decode (a : List.Vector UInt8 8) (p : Prefix) :
    reservationToken.decode p a.toList = .ok (.ok a) := by
  simp [reservationToken, tryInto_toList]

lemma icmp_writes (a : UInt8 × UInt8 × List.Vector UInt8 4) :
    icmpEnc.Writes a 8 (fun _ => [a.1, a.2.1, a.1, a.2.1] ++ a.2.2.toList) where
  length := rfl
  size _ _ := by simp
  encode p v _ hv := by
    obtain ⟨v₀, v₁, v₂, v₃, w, rfl⟩ := four_le_cases (show 4 ≤ v.length by omega)
    have hw : w.length = 4 := by simpa using hv
    simp [icmpEnc, writeAt, splice, hw]

def errorBytes (family : UInt8) (code : UInt16) (reason : Str) : Bytes :=
  [family, 0, (code / 100).toUInt8, (code % 100).toUInt8] ++ reason.asBytes

lemma errorCode_writes {code : UInt16} {reason : Str} (hc : code ≤ 799)
    (hr : 4 + reason.asBytes.length < 65536) :
    errorCodeEnc.Writes (code, reason) (4 + reason.asBytes.length)
      (fun _ => errorBytes 0 code reason) where
  length := by
    simp only [errorCodeEnc, Nat.mod_eq_of_lt (show reason.asBytes.length < 65536 by omega)]
    exact addWithin_ok hr
  size _ _ := by simp [errorBytes]; omega
  encode p v _ hv := by
    obtain ⟨v₀, v₁, v₂, v₃, w, rfl⟩ := four_le_cases (show 4 ≤ v.length by omega)
    have hw : w.length = reason.asBytes.length := by simp only [List.length_cons] at hv; omega
    simp [errorCodeEnc, writeAt, splice, copyTail, copyFrom, hc, hw, errorBytes]

lemma addressErrorCode_writes (family : UInt8) {code : UInt16} {reason : Str} (hc : code ≤ 799)
    (hr : 4 + reason.asBytes.length < 65536) :
    addressErrorCodeEnc.Writes (family, code, reason) (4 + reason.asBytes.length)
      (fun _ => errorBytes family code reason) where
  length := (errorCode_writes hc hr).length
  size _ _ := by simp [errorBytes]; omega
  encode p v hp hv := by
    simp only [addressErrorCodeEnc, (errorCode_writes hc hr).encode p v hp hv, ok_bind]
    simp [errorBytes, writeAt, splice]

lemma errorNumber_split {code : UInt16} (hc : code ≤ 799) :
    errorNumber (code / 100).toUInt8 (code % 100).toUInt8 = code := by
  have hn : code.toNat ≤ 799 := by simpa [UInt16.le_iff_toNat_le] using hc
  have hq : code.toNat / 100 < 8 := by omega
  have hr : code.toNat % 100 < 100 := by omega
  have ha : ∀ n, n &&& 7 = n % 8 := fun n => Nat.and_two_pow_sub_one_eq_mod n 3
  apply UInt16.toNat_inj.mp
  simp [errorNumber, ha, Nat.mod_eq_of_lt hq,
    Nat.mod_eq_of_lt (show code.toNat % 100 < 256 by omega)]
  omega

lemma errorCode_decode (family : UInt8) {code : UInt16} (hc : code ≤ 799) (reason : Str)
    (p : Prefix) :
    errorCode.decode p (errorBytes family code reason) = .ok (.ok (code, reason)) := by
  have hn := errorNumber_split hc
  have hl : ¬ reason.asBytes.length + 1 + 1 + 1 + 1 < 4 := by omega
  simp [errorCode, errorBytes, indexAt, hl, hn]

lemma addressErrorCode_decode (family : UInt8) {code : UInt16} (hc : code ≤ 799) (reason : Str)
    (p : Prefix) :
    addressErrorCode.decode p (errorBytes family code reason) =
      .ok (.ok (family, code, reason)) := by
  simp only [addressErrorCode, errorCode_decode family hc, ok_bind]
  rfl

def ZerosTrail (words : List UInt16) : Prop := ∃ xs k, words = xs ++ List.replicate k 0 ∧ 0 ∉ xs

lemma filter_zeros_trail {xs : List UInt16} (h : 0 ∉ xs) (k : ℕ) :
    (xs ++ List.replicate k 0).filter (fun a => a != 0) = xs := by
  have hx : xs.filter (fun a => a != 0) = xs := by
    apply List.filter_eq_self.mpr
    intro a ha
    simp only [bne_iff_ne, ne_eq]
    rintro rfl
    exact h ha
  rw [List.filter_append, hx]
  simp

lemma encodeWords_zeros (k i : ℕ) (value : Bytes) :
    encodeWords (List.replicate k 0) i value = .ok value := by
  cases k with
  | zero => rfl
  | succ k => simp [List.replicate_succ, encodeWords]

lemma encodeWords_fits {xs : List UInt16} (hx : 0 ∉ xs) (k i : ℕ) (value : Bytes) {r : Bytes}
    (h : encodeWords (xs ++ List.replicate k 0) i value = .ok r) :
    xs = [] ∨ 2 * i + 2 * xs.length ≤ value.length := by
  induction xs generalizing i value with
  | nil => exact .inl rfl
  | cons a xs ih =>
    have ha : a ≠ 0 := fun he => hx (by simp [he])
    simp only [List.cons_append, encodeWords, ha, if_false, bind_eq_ok] at h
    obtain ⟨v, hv, hr⟩ := h
    have hfit : i * 2 + (u16Bytes a).length ≤ value.length := by
      unfold writeAt at hv
      split at hv
      · assumption
      · cases hv
    rw [writeAt_ok hfit] at hv
    obtain rfl := Except.ok.inj hv
    simp only [u16Bytes_length] at hfit
    rcases ih (fun he => hx (List.mem_cons_of_mem _ he)) (i + 1) _ hr with rfl | hle
    · simp only [List.length_cons, List.length_nil]; omega
    · rw [splice_length (by simpa using hfit)] at hle
      simp only [List.length_cons]; omega

lemma encodeWords_eq {xs : List UInt16} (hx : 0 ∉ xs) (k : ℕ) (done value : Bytes)
    (hv : value.length = 2 * xs.length) {i : ℕ} (hi : done.length = 2 * i) :
    encodeWords (xs ++ List.replicate k 0) i (done ++ value) =
      .ok (done ++ xs.flatMap u16Bytes) := by
  induction xs generalizing i done value with
  | nil =>
    obtain rfl : value = [] := List.length_eq_zero_iff.mp (by simpa using hv)
    simp [encodeWords_zeros]
  | cons a xs ih =>
    have ha : a ≠ 0 := fun he => hx (by simp [he])
    obtain ⟨v₀, v₁, w, rfl⟩ : ∃ v₀ v₁ w, value = v₀ :: v₁ :: w := by
      match value, hv with
      | v₀ :: v₁ :: w, _ => exact ⟨v₀, v₁, w, rfl⟩
    have hs : splice (done ++ ([v₀, v₁] ++ w)) (i * 2) (u16Bytes a) = done ++ (u16Bytes a ++ w) :=
      splice_append (by omega) (by simp)
    rw [← List.append_assoc] at hs
    simp only [List.cons_append, encodeWords, ha, if_false]
    rw [writeAt_ok (by simp [hi]; omega), ok_bind]
    change encodeWords _ _ (splice (done ++ ([v₀, v₁] ++ w)) _ _) = _
    rw [← List.append_assoc, hs, ← List.append_assoc, ih (fun he => hx (List.mem_cons_of_mem _ he))
      _ w (by simp at hv; omega) (by simp [hi]; omega)]
    simp

lemma unknownAttributes_writes {n : ℕ} {words : List.Vector UInt16 n} {xs : List UInt16} {k : ℕ}
    (hw : words.toList = xs ++ List.replicate k 0) (hx : 0 ∉ xs) (hl : 2 * xs.length < 65536) :
    (unknownAttributesEnc n).Writes words (2 * xs.length) (fun _ => xs.flatMap u16Bytes) where
  length := by
    simp only [unknownAttributesEnc, hw, filter_zeros_trail hx]
    rw [Nat.mul_comm, Nat.mod_eq_of_lt hl]
  size _ _ := by
    simp [List.length_flatMap]
    omega
  encode p v _ hv := by
    simp only [unknownAttributesEnc, hw]
    exact encodeWords_eq hx k [] v hv rfl

lemma chunkWords_flatMap (xs : List UInt16) : chunkWords (xs.flatMap u16Bytes) = xs := by
  induction xs with
  | nil => rfl
  | cons a xs ih =>
    have h : (a :: xs).flatMap u16Bytes = UInt8.ofNat (a.toNat / 256 ^ 1) ::
        UInt8.ofNat (a.toNat / 256 ^ 0) :: xs.flatMap u16Bytes := rfl
    rw [h, chunkWords, ih]
    exact congrArg (· :: xs) (u16Of_u16Bytes a)

lemma unknownAttributes_decode {n : ℕ} {words : List.Vector UInt16 n} {xs : List UInt16} {k : ℕ}
    (hw : words.toList = xs ++ List.replicate k 0) (p : Prefix) :
    (unknownAttributes n).decode p (xs.flatMap u16Bytes) = .ok (.ok words) := by
  have hn : xs.length + k = n := by
    have := words.toList_length
    simpa [hw] using this
  have ht : xs.take n = xs := List.take_of_length_le (by omega)
  have hk : n - xs.length = k := by omega
  simp only [unknownAttributes, chunkWords_flatMap, Except.ok.injEq]
  refine congrArg Except.ok (Subtype.ext ?_)
  simp only [ht, hk]
  exact hw.symm

variable [Crypto]

lemma messageIntegrity_writes (key : Bytes) :
    messageIntegrityEnc.Writes key 20 (fun p => (Crypto.hmacSha1 key p.all).toList) where
  length := rfl
  size _ _ := List.Vector.toList_length _
  encode _ _ _ hv := copyFrom_ok (hv.trans (List.Vector.toList_length _).symm)

lemma messageIntegrity_decode (key : Bytes) (p : Prefix) :
    messageIntegrity.decode p (Crypto.hmacSha1 key p.all).toList =
      .ok (.ok ⟨p, Crypto.hmacSha1 key p.all⟩) := by
  simp [messageIntegrity, integrityAttr, tryInto_toList]

lemma verify_iff (i : Integrity 20) (key : Bytes) : i.verify key = true ↔
    Crypto.hmacSha1 key i.pre.all = i.mac := by
  simp [Integrity.verify]

lemma fingerprint_writes :
    fingerprintEnc.Writes () 4 (fun p => u32Bytes (Crypto.crc32 p.all ^^^ fingerprintMagic)) where
  length := rfl
  size _ _ := u32Bytes_length _
  encode _ _ _ hv := copyFrom_ok (hv.trans (u32Bytes_length _).symm)

lemma fingerprint_decode (p : Prefix) :
    fingerprint.decode p (u32Bytes (Crypto.crc32 p.all ^^^ fingerprintMagic)) = .ok (.ok ()) := by
  simp [fingerprint]

end Masquerade.Stun
