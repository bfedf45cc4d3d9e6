import Mathlib.Data.List.Basic
import Mathlib.Tactic

/-! Reading and overwriting stretches of a list by position. -/

namespace Masquerade.Lib

variable {α : Type}

def slice (b : List α) (i n : ℕ) : List α := (b.drop i).take n

def splice (b : List α) (i : ℕ) (v : List α) : List α :=
  b.take i ++ v ++ b.drop (i + v.length)

@[simp] lemma slice_length (b : List α) (i n : ℕ) :
    (slice b i n).length = min n (b.length - i) := by
  simp [slice]

lemma slice_length_of_le {b : List α} {i n : ℕ} (h : i + n ≤ b.length) :
    (slice b i n).length = n := by
  simp only [slice_length]
  omega

lemma slice_zero (b : List α) (n : ℕ) : slice b 0 n = b.take n := by simp [slice]

lemma slice_append_drop (b : List α) (i n : ℕ) : slice b i n ++ b.drop (i + n) = b.drop i := by
  rw [slice, ← List.drop_drop, List.take_append_drop]

lemma slice_append_left {p q : List α} {i n : ℕ} (h : i + n ≤ p.length) :
    slice (p ++ q) i n = slice p i n := by
  rw [slice, slice, List.drop_append_of_le_length (by omega),
    List.take_append_of_le_length (by simp; omega)]

lemma slice_append_right (p q : List α) {i j n : ℕ} (h : j = p.length + i) :
    slice (p ++ q) j n = slice q i n := by
  rw [slice, slice, h, List.drop_length_add_append]

lemma getElem?_slice (b : List α) (i n j : ℕ) :
    (slice b i n)[j]? = if j < n then b[i + j]? else none := by
  simp [slice, List.getElem?_take]

lemma slice_take {b : List α} {i m n : ℕ} (h : i + m ≤ n) : slice (b.take n) i m = slice b i m := by
  apply List.ext_getElem?
  intro k
  rw [getElem?_slice, getElem?_slice, List.getElem?_take]
  split_ifs <;> first | rfl | omega

lemma slice_congr {b b' : List α} {i m n : ℕ} (h : b.take n = b'.take n) (hn : i + m ≤ n) :
    slice b i m = slice b' i m := by
  rw [← slice_take hn, h, slice_take hn]

lemma take_congr {b b' : List α} {m n : ℕ} (h : b.take n = b'.take n) (hn : m ≤ n) :
    b.take m = b'.take m := by
  simpa only [slice_zero] using slice_congr (i := 0) h (by omega)

@[simp] lemma splice_length {b v : List α} {i : ℕ} (h : i + v.length ≤ b.length) :
    (splice b i v).length = b.length := by
  simp only [splice, List.length_append, List.length_take, List.length_drop]
  omega

lemma splice_append {p q r v : List α} {i : ℕ} (hi : i = p.length) (h : v.length = q.length) :
    splice (p ++ (q ++ r)) i v = p ++ (v ++ r) := by
  have hd : (p ++ (q ++ r)).drop (p.length + v.length) = r := by
    rw [h, ← List.append_assoc, ← List.length_append, List.drop_left]
  rw [hi, splice, hd, List.take_left, List.append_assoc]

lemma splice_append_left {p q v : List α} {i : ℕ} (h : i + v.length ≤ p.length) :
    splice (p ++ q) i v = splice p i v ++ q := by
  rw [splice, splice, List.take_append_of_le_length (by omega), List.drop_append_of_le_length h]
  simp only [List.append_assoc]

lemma splice_append_right {p q v : List α} {i j : ℕ} (h : j = p.length + i) :
    splice (p ++ q) j v = p ++ splice q i v := by
  subst h
  have hd : (p ++ q).drop (p.length + i + v.length) = q.drop (i + v.length) := by
    rw [Nat.add_assoc, List.drop_length_add_append]
  rw [splice, splice, List.take_length_add_append, hd]
  simp only [List.append_assoc]

end Masquerade.Lib
