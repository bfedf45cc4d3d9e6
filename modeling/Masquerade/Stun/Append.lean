import Masquerade.Stun.Attrs

/-! Appending an attribute in place, and what it makes of a whole message. -/

namespace Masquerade.Stun

open Lib

variable {A : Type}

/-- `Stun::append`, which also reports the prefix the encoder saw and the value it stored. -/
def appendTraced (enc : AttrEnc A) (attr : A) (buffer : Bytes) :
    Exec (Except Error (Bytes × Item)) := do
  let attrLen ← enc.length attr
  let paddLen := padding attrLen
  let test ← subChecked (65535 - 4) paddLen
  if test < attrLen then
    return .error .notStun
  let test ← subChecked test attrLen
  if buffer.length < 4 then
    return .error (.tooShort (20 + 4 + attrLen + paddLen))
  let offset := ofBE (← readAt buffer 2 2)
  if test < offset then
    return .error .notStun
  let newLength ← addWithin 16 offset 4
  let newLength ← addWithin 16 newLength attrLen
  let newLength ← addWithin 16 newLength paddLen
  let newLen := 20 + newLength
  if buffer.length < newLen then
    return .error (.tooShort newLen)
  let i := 20 + offset
  let buffer ← writeAt buffer 2 (toBE 2 newLength)
  let buffer ← writeAt buffer i (u16Bytes enc.typ)
  let buffer ← writeAt buffer (i + 2) (toBE 2 attrLen)
  let buffer ← writeAt buffer (i + 4 + attrLen) (List.replicate paddLen 0)
  let pre : Prefix := ⟨slice buffer 0 4, slice buffer 4 (i - 4)⟩
  let value ← enc.encode attr pre (slice buffer (i + 4) attrLen)
  let buffer ← writeAt buffer (i + 4) value
  return .ok (buffer, ⟨pre, enc.typ, value⟩)

def append (enc : AttrEnc A) (attr : A) (buffer : Bytes) : Exec (Except Error Bytes) := do
  match ← appendTraced enc attr buffer with
  | .error e => return .error e
  | .ok (buffer, _) => return .ok buffer

def Whole (m : Bytes) : Prop := m.length = 20 + lengthAt m

def tlv (typ : UInt16) (value : Bytes) : Bytes :=
  u16Bytes typ ++ toBE 2 value.length ++ value ++ List.replicate (padding value.length) 0

def withLength (m : Bytes) (n : ℕ) : Bytes := splice m 2 (toBE 2 n)

def prefixOf (m : Bytes) : Prefix := ⟨m.take 4, m.drop 4⟩

def grow (m : Bytes) (typ : UInt16) (n : ℕ) (f : Prefix → Bytes) : Bytes :=
  let m := withLength m (lengthAt m + 4 + n + padding n)
  m ++ tlv typ (f (prefixOf m))

def grownItem (m : Bytes) (typ : UInt16) (n : ℕ) (f : Prefix → Bytes) : Item :=
  let p := prefixOf (withLength m (lengthAt m + 4 + n + padding n))
  ⟨p, typ, f p⟩

lemma withLength_length {m : Bytes} (h : 4 ≤ m.length) (n : ℕ) :
    (withLength m n).length = m.length :=
  splice_length (by simpa using h)

lemma tlv_length (typ : UInt16) (value : Bytes) :
    (tlv typ value).length = 4 + value.length + padding value.length := by
  simp [tlv]
  omega

lemma splice_attribute (tail : Bytes) {head size value zeros : Bytes} (h₁ : head.length = 2)
    (h₂ : size.length = 2) (ht : 4 + value.length + zeros.length ≤ tail.length) :
    splice (splice (splice (splice tail 0 head) 2 size) (4 + value.length) zeros) 4 value =
      head ++ (size ++ (value ++ (zeros ++ tail.drop (4 + value.length + zeros.length)))) := by
  have hsplit : tail = slice tail 0 2 ++ (slice tail 2 2 ++ (slice tail 4 value.length ++ (slice
      tail (4 + value.length) zeros.length ++ tail.drop (4 + value.length + zeros.length)))) := by
    rw [slice_append_drop, slice_append_drop, slice_append_drop tail 2 2,
      slice_append_drop tail 0 2, List.drop_zero]
  have hl₁ : (slice tail 0 2).length = 2 := slice_length_of_le (by omega)
  have hl₂ : (slice tail 2 2).length = 2 := slice_length_of_le (by omega)
  have hl₃ : (slice tail 4 value.length).length = value.length := slice_length_of_le (by omega)
  have hl₄ : (slice tail (4 + value.length) zeros.length).length = zeros.length :=
    slice_length_of_le (by omega)
  generalize slice tail 0 2 = t₁ at hsplit hl₁
  generalize slice tail 2 2 = t₂ at hsplit hl₂
  generalize slice tail 4 value.length = t₃ at hsplit hl₃
  generalize slice tail (4 + value.length) zeros.length = t₄ at hsplit hl₄
  generalize tail.drop (4 + value.length + zeros.length) = r at hsplit ⊢
  subst hsplit
  have hw₁ : splice (t₁ ++ (t₂ ++ (t₃ ++ (t₄ ++ r)))) 0 head = head ++ (t₂ ++ (t₃ ++ (t₄ ++ r))) :=
    splice_append (p := []) rfl (by omega)
  have hw₂ : splice (head ++ (t₂ ++ (t₃ ++ (t₄ ++ r)))) 2 size =
      head ++ (size ++ (t₃ ++ (t₄ ++ r))) :=
    splice_append h₁.symm (by omega)
  have hw₃ : splice ((head ++ (size ++ t₃)) ++ (t₄ ++ r)) (4 + value.length) zeros =
      (head ++ (size ++ t₃)) ++ (zeros ++ r) := splice_append (by simp; omega) hl₄.symm
  have hw₄ : splice ((head ++ size) ++ (t₃ ++ (zeros ++ r))) 4 value =
      (head ++ size) ++ (value ++ (zeros ++ r)) := splice_append (by simp; omega) hl₃.symm
  simp only [List.append_assoc] at hw₃ hw₄
  rw [hw₁, hw₂, hw₃, hw₄]

lemma appendTraced_eq {enc : AttrEnc A} {attr : A} {n : ℕ} {f : Prefix → Bytes}
    (hw : enc.Writes attr n f) {m tail : Bytes} (hm : Whole m)
    (hn : lengthAt m + 4 + n + padding n < 65536) (ht : 4 + n + padding n ≤ tail.length) :
    appendTraced enc attr (m ++ tail) =
      .ok (.ok (grow m enc.typ n f ++ tail.drop (4 + n + padding n), grownItem m enc.typ n f)) := by
  have hml : m.length = 20 + lengthAt m := hm
  have hoff : ofBE (slice (m ++ tail) 2 2) = lengthAt m := by
    rw [lengthAt, slice, slice, List.drop_append_of_le_length (by omega),
      List.take_append_of_le_length (by simp; omega)]
  have hpad := padding_lt n
  set newLength := lengthAt m + 4 + n + padding n with hnew
  set m' := withLength m newLength with hm'
  have hm'l : m'.length = 20 + lengthAt m := by rw [hm', withLength_length (by omega), hml]
  have hsplice : splice (m ++ tail) 2 (toBE 2 newLength) = m' ++ tail :=
    splice_append_left (by simp; omega)
  simp only [appendTraced, hw.length, ok_bind]
  rw [subChecked_ok (by omega), ok_bind, if_neg (by omega), subChecked_ok (by omega), ok_bind,
    if_neg (by simp; omega), readAt_ok (by simp; omega), ok_bind, hoff, if_neg (by omega),
    addWithin_ok (by omega), ok_bind, addWithin_ok (by omega), ok_bind, addWithin_ok (by omega),
    ok_bind, if_neg (by simp; omega), writeAt_ok (by simp; omega), ok_bind, ← hnew, hsplice]
  -- From here on only the part after the message changes.
  set t₁ := splice tail 0 (u16Bytes enc.typ) with ht₁
  set t₂ := splice t₁ 2 (toBE 2 n) with ht₂
  set t₃ := splice t₂ (4 + n) (List.replicate (padding n) 0) with ht₃
  have hl₁ : t₁.length = tail.length := splice_length (by simp; omega)
  have hl₂ : t₂.length = tail.length := (splice_length (by simp; omega)).trans hl₁
  have hl₃ : t₃.length = tail.length := (splice_length (by simp; omega)).trans hl₂
  rw [writeAt_ok (by simp; omega), ok_bind, splice_append_right (i := 0) (by omega), ← ht₁,
    writeAt_ok (by simp; omega), ok_bind, splice_append_right (i := 2) (by omega), ← ht₂,
    writeAt_ok (by simp; omega), ok_bind, splice_append_right (i := 4 + n) (by omega), ← ht₃]
  have hfour : slice (m' ++ t₃) 0 4 = m'.take 4 := by
    rw [slice_zero, List.take_append_of_le_length (by omega)]
  have hrest : slice (m' ++ t₃) 4 (20 + lengthAt m - 4) = m'.drop 4 := by
    rw [slice, List.drop_append_of_le_length (by omega),
      List.take_append_of_le_length (by simp; omega), List.take_of_length_le (by simp; omega)]
  have hp : 16 ≤ (prefixOf m').bytes.length := by simp [prefixOf]; omega
  have hvl := hw.size _ hp
  have hpre : (⟨m'.take 4, m'.drop 4⟩ : Prefix) = prefixOf m' := rfl
  simp only [hfour, hrest, hpre]
  rw [hw.encode (prefixOf m') _ hp (slice_length_of_le (by simp; omega)), ok_bind,
    writeAt_ok (by simp; omega), ok_bind, splice_append_right (i := 4) (by omega), ht₃, ht₂, ht₁]
  have hall : splice (splice (splice (splice tail 0 (u16Bytes enc.typ)) 2 (toBE 2 n))
      (4 + (f (prefixOf m')).length) (List.replicate (padding n) 0)) 4 (f (prefixOf m')) = _ :=
    splice_attribute tail (by simp) (by simp) (by simp; omega)
  rw [hvl] at hall
  rw [hall]
  simp only [grow, grownItem, tlv, hvl, ← hnew, ← hm', List.length_replicate,
    List.append_assoc, pure_eq_ok]

lemma appendTraced_full {enc : AttrEnc A} {attr : A} {n : ℕ} {f : Prefix → Bytes}
    (hw : enc.Writes attr n f) {m : Bytes} (hm : 4 ≤ m.length)
    (hn : 65536 ≤ lengthAt m + 4 + n + padding n) :
    appendTraced enc attr m = .ok (.error .notStun) := by
  have hoff : ofBE (slice m 2 2) = lengthAt m := rfl
  have hpad := padding_lt n
  simp only [appendTraced, hw.length, ok_bind]
  rw [subChecked_ok (by omega), ok_bind]
  by_cases hbig : 65535 - 4 - padding n < n
  · rw [if_pos hbig, pure_eq_ok]
  · rw [if_neg hbig, subChecked_ok (by omega), ok_bind, if_neg (by omega), readAt_ok (by omega),
      ok_bind, hoff, if_pos (by omega), pure_eq_ok]

lemma appendTraced_short {enc : AttrEnc A} {attr : A} {n : ℕ}
    {f : Prefix → Bytes} (hw : enc.Writes attr n f) {m : Bytes}
    (hm : 4 ≤ m.length) (hn : lengthAt m + 4 + n + padding n < 65536)
    (ht : m.length < 20 + (lengthAt m + 4 + n + padding n)) :
    appendTraced enc attr m = .ok (.error (.tooShort (20 + (lengthAt m + 4 + n + padding n)))) := by
  have hoff : ofBE (slice m 2 2) = lengthAt m := rfl
  have hpad := padding_lt n
  simp only [appendTraced, hw.length, ok_bind]
  rw [subChecked_ok (by omega), ok_bind, if_neg (by omega), subChecked_ok (by omega),
    ok_bind, if_neg (by omega), readAt_ok (by omega), ok_bind, hoff, if_neg (by omega),
    addWithin_ok (by omega), ok_bind, addWithin_ok (by omega), ok_bind, addWithin_ok (by omega),
    ok_bind, if_pos (by omega), pure_eq_ok]

lemma appendTraced_encodes {enc : AttrEnc A} {attr : A} {b : Bytes} {r : Bytes × Item}
    (h : appendTraced enc attr b = .ok (.ok r)) :
    ∃ n p v w, enc.length attr = .ok n ∧ v.length = n ∧ enc.encode attr p v = .ok w := by
  simp only [appendTraced, bind_eq_ok] at h
  obtain ⟨n, hn, test, -, h⟩ := h
  split at h
  · cases h
  simp only [bind_eq_ok] at h
  obtain ⟨test', -, h⟩ := h
  split at h
  · cases h
  simp only [bind_eq_ok] at h
  obtain ⟨field, -, h⟩ := h
  split at h
  · cases h
  simp only [bind_eq_ok] at h
  obtain ⟨l₁, hl₁, l₂, hl₂, l₃, hl₃, h⟩ := h
  split at h
  · cases h
  simp only [bind_eq_ok] at h
  obtain ⟨b₁, hb₁, b₂, hb₂, b₃, hb₃, b₄, hb₄, w, hw, h⟩ := h
  refine ⟨n, _, _, w, hn, slice_length_of_le ?_, hw⟩
  rw [writeAt_length hb₄, writeAt_length hb₃, writeAt_length hb₂, writeAt_length hb₁]
  have h₁ := addWithin_eq hl₁
  have h₂ := addWithin_eq hl₂
  have h₃ := addWithin_eq hl₃
  omega

lemma appendTraced_room {enc : AttrEnc A} {attr : A} {n : ℕ} {f : Prefix → Bytes}
    (hw : enc.Writes attr n f) {m tail : Bytes} (hm : Whole m) {r : Bytes × Item}
    (h : appendTraced enc attr (m ++ tail) = .ok (.ok r)) :
    lengthAt m + 4 + n + padding n < 65536 ∧ 4 + n + padding n ≤ tail.length := by
  have hml : m.length = 20 + lengthAt m := hm
  have hl := lengthAt_append tail (show 4 ≤ m.length by omega)
  have hlen : (m ++ tail).length = m.length + tail.length := List.length_append
  by_cases hn : lengthAt m + 4 + n + padding n < 65536
  · refine ⟨hn, ?_⟩
    by_contra ht
    rw [appendTraced_short hw (by omega) (by omega) (by omega)] at h
    cases h
  · rw [appendTraced_full hw (by omega) (by omega)] at h
    cases h

end Masquerade.Stun
