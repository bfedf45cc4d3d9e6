import Mathlib.Data.UInt
import Mathlib.Tactic

/-! Numbers written in network byte order. -/

namespace Masquerade.Lib

abbrev Bytes := List UInt8

def toBE : ℕ → ℕ → Bytes
  | 0, _ => []
  | w + 1, n => UInt8.ofNat (n / 256 ^ w) :: toBE w n

def ofBE : Bytes → ℕ
  | [] => 0
  | b :: bs => b.toNat * 256 ^ bs.length + ofBE bs

@[simp] lemma toBE_length (w n : ℕ) : (toBE w n).length = w := by
  induction w with
  | zero => rfl
  | succ w ih => simp [toBE, ih]

lemma ofBE_lt (bs : Bytes) : ofBE bs < 256 ^ bs.length := by
  induction bs with
  | nil => simp [ofBE]
  | cons b bs ih =>
    have hb : b.toNat + 1 ≤ 256 := b.toNat_lt
    have hmul := Nat.mul_le_mul_right (256 ^ bs.length) hb
    simp only [ofBE, List.length_cons, Nat.pow_succ]
    linarith

@[simp] lemma ofBE_toBE (w n : ℕ) : ofBE (toBE w n) = n % 256 ^ w := by
  induction w with
  | zero => simp [toBE, ofBE, Nat.mod_one]
  | succ w ih =>
    have hm : n % (256 ^ w * 256) = n % 256 ^ w + 256 ^ w * (n / 256 ^ w % 256) := Nat.mod_mul
    simp only [toBE, ofBE, toBE_length, ih, UInt8.toNat_ofNat', Nat.pow_succ, Nat.reducePow, hm]
    ring

lemma toBE_mul_add (w k n : ℕ) : toBE w (k * 256 ^ w + n) = toBE w n := by
  induction w generalizing k with
  | zero => rfl
  | succ w ih =>
    have hk : k * 256 ^ (w + 1) = k * 256 * 256 ^ w := by ring
    have hd : (k * 256 * 256 ^ w + n) / 256 ^ w = k * 256 + n / 256 ^ w := by
      rw [Nat.add_comm, Nat.add_mul_div_right _ _ (by positivity), Nat.add_comm]
    have hb : UInt8.ofNat (k * 256 + n / 256 ^ w) = UInt8.ofNat (n / 256 ^ w) := by
      apply UInt8.toNat_inj.mp
      simp only [UInt8.toNat_ofNat', Nat.reducePow]
      omega
    rw [toBE, toBE, hk, ih, hd, hb]

lemma toBE_ofBE (bs : Bytes) : toBE bs.length (ofBE bs) = bs := by
  induction bs with
  | nil => rfl
  | cons b bs ih =>
    have hd : (b.toNat * 256 ^ bs.length + ofBE bs) / 256 ^ bs.length = b.toNat := by
      rw [Nat.add_comm, Nat.add_mul_div_right _ _ (by positivity),
        Nat.div_eq_of_lt (ofBE_lt bs), Nat.zero_add]
    rw [List.length_cons, toBE, ofBE, hd, toBE_mul_add, ih]
    simp

def u16Bytes (n : UInt16) : Bytes := toBE 2 n.toNat
def u32Bytes (n : UInt32) : Bytes := toBE 4 n.toNat
def u64Bytes (n : UInt64) : Bytes := toBE 8 n.toNat

def u16Of (bs : Bytes) : UInt16 := UInt16.ofNat (ofBE bs)
def u32Of (bs : Bytes) : UInt32 := UInt32.ofNat (ofBE bs)
def u64Of (bs : Bytes) : UInt64 := UInt64.ofNat (ofBE bs)

@[simp] lemma u16Bytes_length (n : UInt16) : (u16Bytes n).length = 2 := toBE_length 2 _
@[simp] lemma u32Bytes_length (n : UInt32) : (u32Bytes n).length = 4 := toBE_length 4 _
@[simp] lemma u64Bytes_length (n : UInt64) : (u64Bytes n).length = 8 := toBE_length 8 _

@[simp] lemma u16Of_u16Bytes (n : UInt16) : u16Of (u16Bytes n) = n := by
  simp [u16Of, u16Bytes, Nat.mod_eq_of_lt n.toNat_lt]

@[simp] lemma u32Of_u32Bytes (n : UInt32) : u32Of (u32Bytes n) = n := by
  simp [u32Of, u32Bytes, Nat.mod_eq_of_lt n.toNat_lt]

@[simp] lemma u64Of_u64Bytes (n : UInt64) : u64Of (u64Bytes n) = n := by
  simp [u64Of, u64Bytes, Nat.mod_eq_of_lt n.toNat_lt]

lemma u32Bytes_u32Of {bs : Bytes} (h : bs.length = 4) : u32Bytes (u32Of bs) = bs := by
  have hlt : ofBE bs < 2 ^ 32 := by simpa [h] using ofBE_lt bs
  rw [u32Bytes, u32Of, UInt32.toNat_ofNat_of_lt' hlt, ← h, toBE_ofBE]

end Masquerade.Lib
