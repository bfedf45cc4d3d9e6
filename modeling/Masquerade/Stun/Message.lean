import Masquerade.Stun.Append

/-! Whole messages: a header followed by attributes that tile its length, kept so by appending. -/

namespace Masquerade.Stun

open Lib

inductive Covers (typ rest : Bytes) : ℕ → List Item → ℕ → Prop
  | nil (offset : ℕ) : Covers typ rest offset [] offset
  | cons {offset stop : ℕ} {items : List Item} : 16 + offset + 4 + attrLenAt rest offset ≤
      rest.length → Covers typ rest (endAt rest offset) items stop →
      Covers typ rest offset (itemAt typ rest offset :: items) stop

variable {typ rest : Bytes}

lemma Covers.le {i j : ℕ} {xs : List Item} (h : Covers typ rest i xs j) : i ≤ j := by
  induction h with
  | nil => exact le_rfl
  | cons _ _ ih => unfold endAt at ih; omega

lemma Covers.append {i j k : ℕ} {xs ys : List Item} (h : Covers typ rest i xs j)
    (h' : Covers typ rest j ys k) :
    Covers typ rest i (xs ++ ys) k := by
  induction h with
  | nil => exact h'
  | cons hl _ ih => exact .cons hl (ih h')

lemma Covers.items_eq {i j : ℕ} {xs : List Item} (h : Covers typ rest i xs j) (n : ℕ)
    (hn : j - i ≤ n) :
    Attrs.items n ⟨typ, j, rest, i⟩ = xs := by
  induction h generalizing n with
  | nil i =>
    have hf : ¬ (⟨typ, i, rest, i⟩ : Attrs).Fits := by
      rintro ⟨hl, _⟩
      simp only [endAt] at hl
      omega
    cases n <;> simp [Attrs.items, hf]
  | @cons i j items hl hc ih =>
    have hle := hc.le
    have hend : i + 4 ≤ endAt rest i := by unfold endAt; omega
    cases n with
    | zero => omega
    | succ n =>
      have hf : (⟨typ, j, rest, i⟩ : Attrs).Fits := ⟨hle, hl⟩
      simp only [Attrs.items, hf, if_true]
      rw [ih n (by omega)]

lemma Covers.congr {rest' : Bytes} {i j : ℕ} {xs : List Item} (h : Covers typ rest i xs j)
    (hr : rest.take (16 + j) = rest'.take (16 + j)) : Covers typ rest' i xs j := by
  induction h with
  | nil i => exact .nil i
  | @cons i j items hl hc ih =>
    have hle := hc.le
    have hend : endAt rest i = i + 4 + attrLenAt rest i + padding (attrLenAt rest i) := rfl
    have hlen : attrLenAt rest i = attrLenAt rest' i := by
      rw [attrLenAt, attrLenAt, slice_congr hr (by omega)]
    have hnext : endAt rest i = endAt rest' i := by rw [endAt, endAt, hlen]
    have hitem : itemAt typ rest i = itemAt typ rest' i := by
      rw [itemAt, itemAt, ← hnext, ← hlen, take_congr hr (by omega), slice_congr hr (by omega),
        slice_congr hr (by omega)]
    have hsize := congrArg List.length hr
    simp only [List.length_take] at hsize
    rw [hitem]
    exact .cons (by omega) (hnext ▸ ih hr)

lemma withLength_eq (m : Bytes) (n : ℕ) : withLength m n = m.take 2 ++ (toBE 2 n ++ m.drop 4) := by
  rw [withLength, splice, List.append_assoc]
  simp

lemma prefixOf_withLength {m : Bytes} (h : 4 ≤ m.length) (n : ℕ) :
    prefixOf (withLength m n) = ⟨m.take 2 ++ toBE 2 n, m.drop 4⟩ := by
  have hl : (m.take 2 ++ toBE 2 n).length = 4 := by simp; omega
  rw [prefixOf, withLength_eq, ← List.append_assoc, List.take_left' hl, List.drop_left' hl]

structure Built (m : Bytes) (items : List Item) : Prop where
  whole : Whole m
  top : typAt m >>> 14 = 0
  aligned : 4 ∣ lengthAt m
  cookie : cookieAt m = magicCookie
  covers : Covers (m.take 2) (m.drop 4) 0 items (lengthAt m)

lemma Built.length {m : Bytes} {items : List Item} (h : Built m items) :
    m.length = 20 + lengthAt m := h.whole

section Grow

variable {m : Bytes} {t : UInt16} {n : ℕ} {f : Prefix → Bytes}

lemma grow_eq : grow m t n f = m.take 2 ++ (toBE 2 (lengthAt m + 4 + n + padding n) ++
    (m.drop 4 ++ tlv t (grownItem m t n f).value)) := by
  simp only [grow, grownItem]
  rw [withLength_eq]
  simp only [List.append_assoc]

lemma grow_take_two (h : 4 ≤ m.length) : (grow m t n f).take 2 = m.take 2 := by
  rw [grow_eq, List.take_left' (by simp; omega)]

lemma grow_drop_four (h : 4 ≤ m.length) :
    (grow m t n f).drop 4 = m.drop 4 ++ tlv t (grownItem m t n f).value := by
  rw [grow_eq, ← List.append_assoc, List.drop_left' (by simp; omega)]

lemma typAt_grow (h : 4 ≤ m.length) : typAt (grow m t n f) = typAt m := by
  rw [typAt, typAt, slice_zero, slice_zero, grow_take_two h]

lemma lengthAt_grow (h : 4 ≤ m.length) (hn : lengthAt m + 4 + n + padding n < 65536) :
    lengthAt (grow m t n f) = lengthAt m + 4 + n + padding n := by
  have hs : slice (grow m t n f) 2 2 = toBE 2 (lengthAt m + 4 + n + padding n) := by
    rw [grow_eq, slice_append_right _ _ (i := 0) (by simp; omega), slice_zero,
      List.take_left' (by simp)]
  rw [lengthAt, hs, ofBE_toBE]
  exact Nat.mod_eq_of_lt hn

lemma slice_grow {i k : ℕ} (hi : 4 ≤ i) (h : i + k ≤ m.length) :
    slice (grow m t n f) i k = slice m i k := by
  have hd : ∀ b : Bytes, slice b i k = slice (b.drop 4) (i - 4) k := by
    intro b
    rw [slice, slice, List.drop_drop, show 4 + (i - 4) = i by omega]
  rw [hd, hd m, grow_drop_four (by omega), slice_append_left (by simp; omega)]

lemma grownItem_value_length (hm : Whole m) (hs : ∀ p, 16 ≤ p.bytes.length → (f p).length = n) :
    (grownItem m t n f).value.length = n := by
  apply hs
  simp only [prefixOf, List.length_drop]
  have hml : m.length = 20 + lengthAt m := hm
  rw [withLength_length (by omega)]
  omega

lemma tlv_typ (t : UInt16) (v : Bytes) : slice (tlv t v) 0 2 = u16Bytes t := by
  rw [slice_zero, tlv, List.append_assoc, List.append_assoc, List.take_left' (by simp)]

lemma tlv_size (t : UInt16) (v : Bytes) : slice (tlv t v) 2 2 = toBE 2 v.length := by
  rw [tlv, List.append_assoc, List.append_assoc, slice_append_right _ _ (i := 0) (by simp),
    slice_zero, List.take_left' (by simp)]

lemma tlv_value (t : UInt16) (v : Bytes) : slice (tlv t v) 4 v.length = v := by
  rw [tlv, List.append_assoc, slice_append_right _ _ (i := 0) (by simp), slice_zero, List.take_left]

lemma itemAt_tlv (typ : Bytes) {body v : Bytes} {offset : ℕ} (hb : body.length = 16 + offset)
    (hv : v.length < 65536) :
    attrLenAt (body ++ tlv t v) offset = v.length ∧ itemAt typ (body ++ tlv t v) offset =
      ⟨⟨typ ++ toBE 2 (offset + 4 + v.length + padding v.length), body⟩, t, v⟩ := by
  have hlen : attrLenAt (body ++ tlv t v) offset = v.length := by
    rw [attrLenAt, slice_append_right _ _ (i := 2) (by omega), tlv_size, ofBE_toBE]
    exact Nat.mod_eq_of_lt hv
  refine ⟨hlen, ?_⟩
  rw [itemAt, endAt, hlen, slice_append_right _ _ (i := 0) (by omega), slice_append_right _ _
    (i := 4) (by omega), tlv_typ, tlv_value, u16Of_u16Bytes, List.take_left' hb]

lemma padding_dvd (n : ℕ) : 4 ∣ 4 + n + padding n := by unfold padding; omega

lemma Built.grow {items : List Item} (h : Built m items)
    (hs : ∀ p, 16 ≤ p.bytes.length → (f p).length = n)
    (hn : lengthAt m + 4 + n + padding n < 65536) :
    Built (grow m t n f) (items ++ [grownItem m t n f]) := by
  have hml := h.length
  have hv := grownItem_value_length (t := t) h.whole hs
  have hl := lengthAt_grow (t := t) (f := f) (show 4 ≤ m.length by omega) hn
  refine ⟨?_, ?_, ?_, ?_, ?_⟩
  · have hg := congrArg List.length (grow_eq (m := m) (t := t) (n := n) (f := f))
    simp only [List.length_append, List.length_take, List.length_drop, toBE_length,
      tlv_length, hv] at hg
    rw [Whole, hl, hg]
    omega
  · rw [typAt_grow (by omega), h.top]
  · have := h.aligned
    have := padding_dvd n
    rw [hl]
    omega
  · rw [cookieAt, slice_grow (by omega) (by omega), ← cookieAt, h.cookie]
  · have hb : (m.drop 4).length = 16 + lengthAt m := by simp; omega
    obtain ⟨hlen, hitem⟩ :=
      itemAt_tlv (t := t) (m.take 2) hb (v := (grownItem m t n f).value) (by omega)
    have hgrown : grownItem m t n f = itemAt (m.take 2)
        (m.drop 4 ++ tlv t (grownItem m t n f).value) (lengthAt m) := by
      rw [hitem, hv, ← prefixOf_withLength (by omega)]
      rfl
    have hend : endAt (m.drop 4 ++ tlv t (grownItem m t n f).value) (lengthAt m) =
        lengthAt m + 4 + n + padding n := by rw [endAt, hlen, hv]
    have hold : Covers (m.take 2) (m.drop 4 ++ tlv t (grownItem m t n f).value) 0 items
        (lengthAt m) := by
      apply h.covers.congr
      rw [← hb, List.take_length, List.take_left]
    rw [grow_take_two (by omega), grow_drop_four (by omega), hl]
    apply hold.append
    nth_rewrite 2 [hgrown]
    refine .cons ?_ ?_
    · rw [hlen, List.length_append, hb, tlv_length]
      omega
    · rw [hend]
      exact .nil _

end Grow

structure Extends (m : Bytes) (items : List Item) (m' : Bytes) (new : List Item) : Prop where
  built : Built m' (items ++ new)
  typ : m'.take 2 = m.take 2
  fixed : slice m' 4 16 = slice m 4 16

lemma Extends.trans {m m₁ m₂ : Bytes} {items new₁ new₂ : List Item} (h₁ : Extends m items m₁ new₁)
    (h₂ : Extends m₁ (items ++ new₁) m₂ new₂) : Extends m items m₂ (new₁ ++ new₂) where
  built := by rw [← List.append_assoc]; exact h₂.built
  typ := h₂.typ.trans h₁.typ
  fixed := h₂.fixed.trans h₁.fixed

section Read

variable {m : Bytes} {items : List Item}

lemma Built.itemsOf (h : Built m items) (tail : Bytes) : itemsOf (m ++ tail) = items := by
  have hml := h.length
  have hlen : (m ++ tail).length = m.length + tail.length := List.length_append
  have hiter : intoIter (m ++ tail) = ⟨m.take 2, lengthAt m, m.drop 4 ++ tail, 0⟩ := by
    rw [intoIter, if_neg (by omega), if_neg (by omega), if_neg (by omega),
      slice_append_left (by omega), slice_zero, slice_append_left (by omega),
      List.drop_append_of_le_length (by omega)]
    rfl
  have hc : Covers (m.take 2) (m.drop 4 ++ tail) 0 items (lengthAt m) := by
    apply h.covers.congr
    have hb : (m.drop 4).length = 16 + lengthAt m := by simp; omega
    rw [← hb, List.take_length, List.take_left]
  rw [Stun.itemsOf, hiter]
  exact hc.items_eq _ (Nat.sub_le _ _)

lemma Built.decode (h : Built m items) (tail : Bytes) :
    decode (m ++ tail) m.length = .ok (.ok ()) := by
  rw [decode_eq (by simp), List.take_left,
    (verdict_ok_iff m).mpr ⟨h.length.ge, h.top, h.aligned, h.cookie⟩]

lemma Built.len (h : Built m items) (tail : Bytes) : len (m ++ tail) = .ok m.length := by
  have hml := h.length
  rw [len_ok (by simp; omega), lengthAt_append tail (by omega), hml, Nat.add_comm]

end Read

lemma Built.header {buffer : Bytes} (hb : 20 ≤ buffer.length) (htop : typAt buffer >>> 14 = 0)
    (hcookie : cookieAt buffer = magicCookie) (hlen : lengthAt buffer = 0) :
    Built (buffer.take 20) [] where
  whole := by rw [Whole, lengthAt_take (by omega), hlen]; simp [hb]
  top := by rw [typAt_take (by omega), htop]
  aligned := by rw [lengthAt_take (by omega), hlen]; exact dvd_zero 4
  cookie := by rw [cookieAt_take (by omega), hcookie]
  covers := by rw [lengthAt_take (by omega), hlen]; exact .nil 0

end Masquerade.Stun
