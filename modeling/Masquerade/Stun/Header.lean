import Masquerade.Lib.BigEndian
import Masquerade.Lib.Exec

/-! The 20-byte STUN header: field access, message type, and the incremental `decode`. -/

namespace Masquerade.Stun

open Lib

def magicCookie : UInt32 := 0x2112A442

inductive Class
  | request
  | indication
  | success
  | error
  deriving DecidableEq, Repr

inductive Method
  | unknown
  | binding
  | allocate
  | refresh
  | send
  | data
  | createPermission
  | channelBind
  deriving DecidableEq, Repr

inductive Error
  | notStun
  | tooShort (needed : ℕ)
  deriving DecidableEq, Repr

def Method.ofCode (value : BitVec 16) : Method :=
  if value = 0x001 then .binding
  else if value = 0x003 then .allocate
  else if value = 0x004 then .refresh
  else if value = 0x006 then .send
  else if value = 0x007 then .data
  else if value = 0x008 then .createPermission
  else if value = 0x009 then .channelBind
  else .unknown

/-- `method as u16`; the discriminant of `Unknown` is -1. -/
def Method.code : Method → BitVec 16
  | .unknown => 0xFFFF
  | .binding => 0x001
  | .allocate => 0x003
  | .refresh => 0x004
  | .send => 0x006
  | .data => 0x007
  | .createPermission => 0x008
  | .channelBind => 0x009

def Class.bits : Class → BitVec 16
  | .request => 0x0000
  | .indication => 0x0010
  | .success => 0x0100
  | .error => 0x0110

def typAt (buffer : Bytes) : BitVec 16 := BitVec.ofNat 16 (ofBE (slice buffer 0 2))
def lengthAt (buffer : Bytes) : ℕ := ofBE (slice buffer 2 2)
def cookieAt (buffer : Bytes) : UInt32 := u32Of (slice buffer 4 4)
def txidAt (buffer : Bytes) : Bytes := slice buffer 8 12

def typ (buffer : Bytes) : Exec (BitVec 16) := do
  let field ← readAt buffer 0 2
  return BitVec.ofNat 16 (ofBE field)

def length (buffer : Bytes) : Exec ℕ := do
  let field ← readAt buffer 2 2
  return ofBE field

def cookie (buffer : Bytes) : Exec UInt32 := do
  let field ← readAt buffer 4 4
  return u32Of field

def txid (buffer : Bytes) : Exec Bytes := readAt buffer 8 12

def setTyp (buffer : Bytes) (value : BitVec 16) : Exec Bytes :=
  writeAt buffer 0 (toBE 2 value.toNat)
def setLength (buffer : Bytes) (value : ℕ) : Exec Bytes := writeAt buffer 2 (toBE 2 value)
def setCookie (buffer : Bytes) (value : UInt32) : Exec Bytes := writeAt buffer 4 (u32Bytes value)
def setTxid (buffer : Bytes) (value : List.Vector UInt8 12) : Exec Bytes :=
  writeAt buffer 8 value.toList

def len (buffer : Bytes) : Exec ℕ := do
  let l ← length buffer
  return l + 20

def decode (buffer : Bytes) (len : ℕ) : Exec (Except Error Unit) := do
  require (len ≤ buffer.length)
  if len < 2 then
    return .error (.tooShort 2)
  if (← typ buffer) >>> 14 ≠ 0 then
    return .error .notStun
  if len < 4 then
    return .error (.tooShort 4)
  if ¬ 4 ∣ (← length buffer) then
    return .error .notStun
  if len < 8 then
    return .error (.tooShort 8)
  if (← cookie buffer) ≠ magicCookie then
    return .error .notStun
  let expLen := 20 + (← length buffer)
  if len < expLen then
    return .error (.tooShort expLen)
  return .ok ()

def classOf (typ : BitVec 16) : Class :=
  if typ &&& 0x0110#16 = 0x0000#16 then .request
  else if typ &&& 0x0110#16 = 0x0010#16 then .indication
  else if typ &&& 0x0110#16 = 0x0100#16 then .success
  else .error

def msgClass (buffer : Bytes) : Exec Class := do
  let t ← typ buffer
  if t &&& 0x0110#16 = 0x0000#16 then return .request
  else if t &&& 0x0110#16 = 0x0010#16 then return .indication
  else if t &&& 0x0110#16 = 0x0100#16 then return .success
  else if t &&& 0x0110#16 = 0x0110#16 then return .error
  else throw .assertion

def rawMethodOf (typ : BitVec 16) : BitVec 16 :=
  (typ &&& 0x3E00#16) >>> 2 ||| (typ &&& 0x00E0#16) >>> 1 ||| (typ &&& 0x000F#16)

def rawMethod (buffer : Bytes) : Exec (BitVec 16) := do
  let t ← typ buffer
  return rawMethodOf t

def method (buffer : Bytes) : Exec Method := do
  let m ← rawMethod buffer
  return Method.ofCode m

def withClass (typ : BitVec 16) (c : Class) : BitVec 16 := typ &&& ~~~0x0110#16 ||| c.bits

def setClass (buffer : Bytes) (c : Class) : Exec Bytes := do
  let t ← typ buffer
  setTyp buffer (withClass t c)

def withRawMethod (typ m : BitVec 16) : BitVec 16 :=
  (typ &&& 0x0110#16) ||| (m &&& 0x1F80#16) <<< 2 ||| (m &&& 0x0070#16) <<< 1 ||| (m &&& 0x000F#16)

def setRawMethod (buffer : Bytes) (m : BitVec 16) : Exec Bytes := do
  require (m ≤ 0xFFF#16)
  let t ← typ buffer
  setTyp buffer (withRawMethod t m)

def setMethod (buffer : Bytes) (m : Method) : Exec Bytes := setRawMethod buffer m.code

lemma typ_ok {b : Bytes} (h : 2 ≤ b.length) : typ b = .ok (typAt b) := by
  simp only [typ, readAt_ok (show 0 + 2 ≤ b.length by omega), ok_bind]
  rfl

lemma length_ok {b : Bytes} (h : 4 ≤ b.length) : length b = .ok (lengthAt b) := by
  simp only [length, readAt_ok (show 2 + 2 ≤ b.length by omega), ok_bind]
  rfl

lemma cookie_ok {b : Bytes} (h : 8 ≤ b.length) : cookie b = .ok (cookieAt b) := by
  simp only [cookie, readAt_ok (show 4 + 4 ≤ b.length by omega), ok_bind]
  rfl

lemma txid_ok {b : Bytes} (h : 20 ≤ b.length) : txid b = .ok (txidAt b) :=
  readAt_ok (show 8 + 12 ≤ b.length by omega)

lemma len_ok {b : Bytes} (h : 4 ≤ b.length) : len b = .ok (lengthAt b + 20) := by
  simp only [len, length_ok h, ok_bind]
  rfl

lemma lengthAt_lt (b : Bytes) : lengthAt b < 65536 := by
  have hl := ofBE_lt (slice b 2 2)
  have hp : 256 ^ (slice b 2 2).length ≤ 256 ^ 2 := Nat.pow_le_pow_right (by norm_num) (by simp)
  unfold lengthAt
  omega

lemma and_class_bits (t : BitVec 16) : t &&& 0x0110#16 = 0x0000#16 ∨ t &&& 0x0110#16 = 0x0010#16 ∨
    t &&& 0x0110#16 = 0x0100#16 ∨ t &&& 0x0110#16 = 0x0110#16 := by
  have h : t &&& 0x0110#16 = (t &&& BitVec.twoPow 16 4) ||| (t &&& BitVec.twoPow 16 8) := by
    rw [← BitVec.and_or_distrib_left]
    rfl
  rw [h, BitVec.and_twoPow, BitVec.and_twoPow]
  split_ifs <;> decide

lemma msgClass_ok {b : Bytes} (h : 2 ≤ b.length) : msgClass b = .ok (classOf (typAt b)) := by
  simp only [msgClass, typ_ok h, ok_bind]
  rcases and_class_bits (typAt b) with ht | ht | ht | ht <;> simp [classOf, ht]

lemma method_ok {b : Bytes} (h : 2 ≤ b.length) :
    method b = .ok (Method.ofCode (rawMethodOf (typAt b))) := by
  simp only [method, rawMethod, typ_ok h, ok_bind]
  rfl

@[simp] lemma classOf_withClass (t : BitVec 16) (c : Class) : classOf (withClass t c) = c := by
  have h : withClass t c &&& 0x0110#16 = c.bits := by
    rw [withClass, BitVec.and_or_distrib_right, BitVec.and_assoc]
    cases c <;> simp [Class.bits]
  cases c <;> simp [classOf, h, Class.bits]

@[simp] lemma rawMethodOf_withClass (t : BitVec 16) (c : Class) :
    rawMethodOf (withClass t c) = rawMethodOf t := by
  have h : ∀ mask : BitVec 16, mask &&& 0x0110#16 = 0 → withClass t c &&& mask = t &&& mask := by
    intro mask hm
    have hn : ~~~0x0110#16 &&& mask = mask := by
      have hs : (~~~0x0110#16 ||| 0x0110#16) &&& mask = mask := BitVec.allOnes_and
      rw [BitVec.and_or_distrib_right, BitVec.and_comm 0x0110#16, hm] at hs
      simpa using hs
    have hb : c.bits &&& mask = 0 := by
      have hc : c.bits = 0x0110#16 &&& c.bits := by cases c <;> rfl
      rw [hc, BitVec.and_comm, ← BitVec.and_assoc, hm]
      simp
    rw [withClass, BitVec.and_or_distrib_right, BitVec.and_assoc, hn, hb]
    simp
  simp only [rawMethodOf, h 0x3E00#16 (by decide), h 0x00E0#16 (by decide), h 0x000F#16 (by decide)]

@[simp] lemma withClass_top (t : BitVec 16) (c : Class) : withClass t c >>> 14 = t >>> 14 := by
  have hb : c.bits >>> 14 = 0 := by cases c <;> rfl
  rw [withClass, BitVec.ushiftRight_or_distrib, BitVec.ushiftRight_and_distrib, hb]
  ext i hi
  interval_cases i <;> simp

lemma data_indication_typ (t : BitVec 16) :
    withRawMethod (withClass t .indication) Method.data.code = 0x0017#16 := by
  have h : withClass t .indication &&& 0x0110#16 = 0x0010#16 := by
    rw [withClass, BitVec.and_or_distrib_right, BitVec.and_assoc]
    simp [Class.bits]
  rw [withRawMethod, h]
  rfl

def verdict (received : Bytes) : Except Error Unit :=
  if received.length < 2 then .error (.tooShort 2)
  else if typAt received >>> 14 ≠ 0 then .error .notStun
  else if received.length < 4 then .error (.tooShort 4)
  else if ¬ 4 ∣ lengthAt received then .error .notStun
  else if received.length < 8 then .error (.tooShort 8)
  else if cookieAt received ≠ magicCookie then .error .notStun
  else if received.length < 20 + lengthAt received then .error (.tooShort (20 + lengthAt received))
  else .ok ()

lemma typAt_take {b : Bytes} {n : ℕ} (h : 2 ≤ n) : typAt (b.take n) = typAt b := by
  rw [typAt, slice_take (by omega), typAt]

lemma lengthAt_take {b : Bytes} {n : ℕ} (h : 4 ≤ n) : lengthAt (b.take n) = lengthAt b := by
  rw [lengthAt, slice_take (by omega), lengthAt]

lemma cookieAt_take {b : Bytes} {n : ℕ} (h : 8 ≤ n) : cookieAt (b.take n) = cookieAt b := by
  rw [cookieAt, slice_take (by omega), cookieAt]

lemma txidAt_take {b : Bytes} {n : ℕ} (h : 20 ≤ n) : txidAt (b.take n) = txidAt b := by
  rw [txidAt, slice_take (by omega), txidAt]

lemma typAt_append {m : Bytes} (tail : Bytes) (h : 2 ≤ m.length) : typAt (m ++ tail) = typAt m := by
  rw [typAt, typAt, slice_append_left (by omega)]

lemma lengthAt_append {m : Bytes} (tail : Bytes) (h : 4 ≤ m.length) :
    lengthAt (m ++ tail) = lengthAt m := by
  rw [lengthAt, lengthAt, slice_append_left (by omega)]

lemma cookieAt_append {m : Bytes} (tail : Bytes) (h : 8 ≤ m.length) :
    cookieAt (m ++ tail) = cookieAt m := by
  rw [cookieAt, cookieAt, slice_append_left (by omega)]

lemma decode_eq {b : Bytes} {n : ℕ} (h : n ≤ b.length) : decode b n = .ok (verdict (b.take n)) := by
  have hl : (b.take n).length = n := by simp [h]
  simp only [decode, verdict, hl, require_ok h, ok_bind]
  by_cases h2 : n < 2
  · rw [if_pos h2, if_pos h2, pure_eq_ok]
  rw [if_neg h2, if_neg h2, typ_ok (by omega), typAt_take (by omega), ok_bind]
  by_cases ht : typAt b >>> 14 ≠ 0
  · rw [if_pos ht, if_pos ht, pure_eq_ok]
  rw [if_neg ht, if_neg ht]
  by_cases h4 : n < 4
  · rw [if_pos h4, if_pos h4, pure_eq_ok]
  rw [if_neg h4, if_neg h4, length_ok (by omega), lengthAt_take (by omega), ok_bind]
  by_cases hd : ¬ 4 ∣ lengthAt b
  · rw [if_pos hd, if_pos hd, pure_eq_ok]
  rw [if_neg hd, if_neg hd]
  by_cases h8 : n < 8
  · rw [if_pos h8, if_pos h8, pure_eq_ok]
  rw [if_neg h8, if_neg h8, cookie_ok (by omega), cookieAt_take (by omega), ok_bind]
  by_cases hc : cookieAt b ≠ magicCookie
  · rw [if_pos hc, if_pos hc, pure_eq_ok]
  rw [if_neg hc, if_neg hc, ok_bind]
  split_ifs <;> rfl

lemma le_of_decode {b : Bytes} {n : ℕ} {r : Except Error Unit} (h : decode b n = .ok r) :
    n ≤ b.length := by
  by_contra hlong
  simp [decode, require, hlong] at h

lemma verdict_ok_iff (r : Bytes) : verdict r = .ok () ↔ 20 + lengthAt r ≤ r.length ∧
    typAt r >>> 14 = 0 ∧ 4 ∣ lengthAt r ∧ cookieAt r = magicCookie := by
  unfold verdict
  split_ifs <;> simp_all <;> omega

section Fields

variable {t l c x r : Bytes}

lemma header_split {b : Bytes} (hb : 20 ≤ b.length) : ∃ t l c x r : Bytes,
    b = t ++ (l ++ (c ++ (x ++ r))) ∧ t.length = 2 ∧ l.length = 2 ∧ c.length = 4 ∧
      x.length = 12 := by
  refine ⟨slice b 0 2, slice b 2 2, slice b 4 4, slice b 8 12, b.drop 20, ?_,
    slice_length_of_le (by omega), slice_length_of_le (by omega), slice_length_of_le (by omega),
    slice_length_of_le (by omega)⟩
  rw [slice_append_drop b 8 12, slice_append_drop b 4 4, slice_append_drop b 2 2,
    slice_append_drop b 0 2, List.drop_zero]

lemma typAt_toBE (value : BitVec 16) (r : Bytes) : typAt (toBE 2 value.toNat ++ r) = value := by
  rw [typAt, slice_zero, List.take_left' (by simp), ofBE_toBE]
  simp [Nat.mod_eq_of_lt value.isLt]

lemma setTyp_front (value : BitVec 16) (ht : t.length = 2) :
    setTyp (t ++ r) value = .ok (toBE 2 value.toNat ++ r) := by
  rw [setTyp, writeAt_ok (by simp; omega)]
  exact congrArg _ (splice_append (p := []) rfl (by simp [ht]))

lemma setClass_front (class_ : Class) (ht : t.length = 2) :
    setClass (t ++ r) class_ = .ok (toBE 2 (withClass (typAt (t ++ r)) class_).toNat ++ r) := by
  rw [setClass, typ_ok (by simp; omega), ok_bind, setTyp_front _ ht]

lemma setMethod_front (m : Method) (hm : m.code ≤ 0xFFF#16) (ht : t.length = 2) :
    setMethod (t ++ r) m = .ok (toBE 2 (withRawMethod (typAt (t ++ r)) m.code).toNat ++ r) := by
  rw [setMethod, setRawMethod, require_ok hm, ok_bind, typ_ok (by simp; omega), ok_bind,
    setTyp_front _ ht]

lemma setLength_front (n : ℕ) (ht : t.length = 2) (hl : l.length = 2) :
    setLength (t ++ (l ++ r)) n = .ok (t ++ (toBE 2 n ++ r)) := by
  rw [setLength, writeAt_ok (by simp; omega), splice_append ht.symm (by simp [hl])]

lemma setCookie_front (value : UInt32) (ht : t.length = 2) (hl : l.length = 2) (hc : c.length = 4) :
    setCookie (t ++ (l ++ (c ++ r))) value = .ok (t ++ (l ++ (u32Bytes value ++ r))) := by
  rw [setCookie, writeAt_ok (by simp; omega), ← List.append_assoc,
    splice_append (by simp [ht, hl]) (by simp [hc]), List.append_assoc]

lemma setTxid_front (value : List.Vector UInt8 12) (ht : t.length = 2) (hl : l.length = 2)
    (hc : c.length = 4) (hx : x.length = 12) :
    setTxid (t ++ (l ++ (c ++ (x ++ r)))) value = .ok (t ++ (l ++ (c ++ (value.toList ++ r)))) := by
  rw [setTxid, writeAt_ok (by simp; omega), ← List.append_assoc, ← List.append_assoc,
    splice_append (by simp [ht, hl, hc]) (by simp [hx])]
  simp only [List.append_assoc]

end Fields

end Masquerade.Stun
