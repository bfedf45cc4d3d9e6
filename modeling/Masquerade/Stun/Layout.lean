import Masquerade.Stun.Message
import Masquerade.Stun.Parse

/-! Where the attributes of a received message lie, whether or not they tile it. -/

namespace Masquerade.Stun

open Lib

def Item.size (item : Item) : ℕ := 4 + item.value.length + padding item.value.length

section Covers

variable {typ rest : Bytes}

lemma itemAt_value_length {i : ℕ} (h : 16 + i + 4 + attrLenAt rest i ≤ rest.length) :
    (itemAt typ rest i).value.length = attrLenAt rest i := slice_length_of_le h

lemma itemAt_size (typ : Bytes) {i : ℕ} (h : 16 + i + 4 + attrLenAt rest i ≤ rest.length) :
    i + (itemAt typ rest i).size = endAt rest i := by
  rw [Item.size, itemAt_value_length h, endAt]
  omega

lemma Covers.stop_eq {i j : ℕ} {xs : List Item} (h : Covers typ rest i xs j) :
    j = i + (xs.map Item.size).sum := by
  induction h with
  | nil => simp
  | @cons i j items hl _ ih =>
    have hs := itemAt_size typ hl
    simp only [List.map_cons, List.sum_cons]
    omega

lemma Covers.split {i k : ℕ} {xs ys : List Item} (h : Covers typ rest i (xs ++ ys) k) :
    ∃ j, Covers typ rest i xs j ∧ Covers typ rest j ys k := by
  induction xs generalizing i with
  | nil => exact ⟨i, .nil i, h⟩
  | cons x xs ih =>
    cases h with
    | cons hl hc =>
      obtain ⟨j, hx, hy⟩ := ih hc
      exact ⟨j, .cons hl hx, hy⟩

lemma Covers.mem {i j : ℕ} {xs : List Item} (h : Covers typ rest i xs j) {item : Item}
    (hi : item ∈ xs) :
    ∃ k, item = itemAt typ rest k ∧ 16 + k + 4 + attrLenAt rest k ≤ rest.length ∧
      endAt rest k ≤ j := by
  induction h with
  | nil => exact absurd hi List.not_mem_nil
  | @cons i j items hl hc ih =>
    rcases List.mem_cons.mp hi with rfl | hi
    · exact ⟨i, rfl, hl, hc.le⟩
    · exact ih hi

lemma Covers.items_append {i j l n : ℕ} {xs : List Item} (h : Covers typ rest i xs j) (hj : j ≤ l)
    (hn : l - i ≤ n) :
    Attrs.items n ⟨typ, l, rest, i⟩ = xs ++ Attrs.items n ⟨typ, l, rest, j⟩ := by
  induction h generalizing n with
  | nil => rfl
  | @cons i j items hl hc ih =>
    have hle := hc.le
    have hend : i + 4 ≤ endAt rest i := by unfold endAt; omega
    cases n with
    | zero => omega
    | succ n =>
      have hf : (⟨typ, l, rest, i⟩ : Attrs).Fits := ⟨hle.trans hj, hl⟩
      rw [Attrs.items, if_pos hf]
      simp only [List.cons_append, List.cons.injEq, true_and]
      rw [ih hj (n := n) (by omega),
        Attrs.items_fuel n (n + 1) _ (by simp only; omega) (by simp only; omega)]

lemma items_covers (n : ℕ) (s : Attrs) (h : s.offset ≤ s.length) :
    ∃ j ≤ s.length, Covers s.typ s.rest s.offset (s.items n) j := by
  induction n generalizing s with
  | zero => exact ⟨s.offset, h, .nil _⟩
  | succ n ih =>
    by_cases hf : s.Fits
    · obtain ⟨j, hj, hc⟩ := ih { s with offset := endAt s.rest s.offset } hf.1
      rw [Attrs.items, if_pos hf]
      exact ⟨j, hj, .cons hf.2 hc⟩
    · rw [Attrs.items, if_neg hf]
      exact ⟨s.offset, h, .nil _⟩

end Covers

def Attrs.last : ℕ → Attrs → Exec Attrs
  | 0, s => .ok s
  | fuel + 1, s => do
    match ← s.next with
    | none => return s
    | some (_, s) => last fuel s

lemma Covers.last_eq {typ rest : Bytes} {i j : ℕ} {xs : List Item}
    (h : Covers typ rest i xs j) (hj : j < 65536) {n : ℕ} (hn : j - i ≤ n) :
    Attrs.last n ⟨typ, j, rest, i⟩ = .ok ⟨typ, j, rest, j⟩ := by
  induction h generalizing n with
  | nil i =>
    have hf : ¬ (⟨typ, i, rest, i⟩ : Attrs).Fits := by
      rintro ⟨hl, _⟩
      simp only [endAt] at hl
      omega
    have hnext := Attrs.next_eq ⟨typ, i, rest, i⟩ hj
    rw [if_neg hf] at hnext
    cases n with
    | zero => rfl
    | succ n => simp only [Attrs.last, hnext, ok_bind, pure_eq_ok]
  | @cons i j items hl hc ih =>
    have hle := hc.le
    have hend : i + 4 ≤ endAt rest i := by unfold endAt; omega
    cases n with
    | zero => omega
    | succ n =>
      have hf : (⟨typ, j, rest, i⟩ : Attrs).Fits := ⟨hle, hl⟩
      have hnext := Attrs.next_eq ⟨typ, j, rest, i⟩ hj
      rw [if_pos hf] at hnext
      simp only [Attrs.last, hnext, ok_bind]
      exact ih hj (by omega)

lemma intoIter_eq {b : Bytes} (h : 4 ≤ b.length) :
    intoIter b = ⟨b.take 2, lengthAt b, b.drop 4, 0⟩ := by
  rw [intoIter, if_neg (by omega), if_neg (by omega), if_neg (by omega), slice_zero]
  rfl

lemma itemsOf_covers {b : Bytes} (h : 4 ≤ b.length) :
    ∃ j ≤ lengthAt b, Covers (b.take 2) (b.drop 4) 0 (itemsOf b) j := by
  rw [itemsOf, intoIter_eq h]
  exact items_covers _ ⟨b.take 2, lengthAt b, b.drop 4, 0⟩ (Nat.zero_le _)

lemma itemsOf_of_covers {b : Bytes} (h : 4 ≤ b.length) {xs : List Item}
    {j : ℕ} (hc : Covers (b.take 2) (b.drop 4) 0 xs j) (hj : j ≤ lengthAt b) :
    ∃ after, itemsOf b = xs ++ after := by
  rw [itemsOf, intoIter_eq h, hc.items_append hj (Nat.sub_le _ _)]
  exact ⟨_, rfl⟩

structure Item.At (item : Item) (b : Bytes) (offset : ℕ) : Prop where
  firstFour : item.pre.firstFour = b.take 2 ++ toBE 2 (offset + item.size)
  bytes : item.pre.bytes = slice b 4 (16 + offset)
  typ : item.typ = u16Of (slice b (20 + offset) 2)
  value : item.value = slice b (24 + offset) item.value.length
  inBuffer : 24 + offset + item.value.length ≤ b.length
  announced : offset + item.size ≤ lengthAt b

lemma Item.At.bytes_length {item : Item} {b : Bytes} {offset : ℕ} (h : item.At b offset) :
    item.pre.bytes.length = 16 + offset := by
  have hb := h.inBuffer
  rw [h.bytes, slice_length_of_le (by omega)]

lemma slice_drop (b : Bytes) (k i n : ℕ) : slice (b.drop k) i n = slice b (k + i) n := by
  rw [slice, slice, List.drop_drop]

lemma itemAt_at {b : Bytes} {offset : ℕ} (hb : 4 ≤ b.length)
    (h : 16 + offset + 4 + attrLenAt (b.drop 4) offset ≤ (b.drop 4).length)
    (hj : endAt (b.drop 4) offset ≤ lengthAt b) :
    (itemAt (b.take 2) (b.drop 4) offset).At b offset where
  firstFour := by rw [itemAt_size _ h]; rfl
  bytes := by rw [slice]; rfl
  typ := by
    simp only [itemAt]
    rw [slice_drop b 4 (16 + offset), show 4 + (16 + offset) = 20 + offset by omega]
  value := by
    rw [itemAt_value_length h]
    simp only [itemAt]
    rw [slice_drop b 4 (16 + offset + 4), show 4 + (16 + offset + 4) = 24 + offset by omega]
  inBuffer := by
    rw [itemAt_value_length h]
    rw [List.length_drop] at h
    omega
  announced := by rw [itemAt_size _ h]; exact hj

lemma itemsOf_mem {b : Bytes} (h : 4 ≤ b.length) {item : Item} (hi : item ∈ itemsOf b) :
    ∃ offset, item.At b offset := by
  obtain ⟨j, hj, hc⟩ := itemsOf_covers h
  obtain ⟨k, rfl, hk, hend⟩ := hc.mem hi
  exact ⟨k, itemAt_at h hk (hend.trans hj)⟩

lemma itemsOf_afterHeader {b : Bytes} (h : 4 ≤ b.length) : AfterHeader (itemsOf b) := by
  intro item hi
  obtain ⟨offset, hat⟩ := itemsOf_mem h hi
  rw [hat.bytes_length]
  omega

lemma size_add_size_le {b : Bytes} (h : 4 ≤ b.length) {x y : Item} (hx : x ∈ itemsOf b)
    (hy : y ∈ itemsOf b) (hxy : x.typ ≠ y.typ) : x.size + y.size ≤ lengthAt b := by
  obtain ⟨j, hj, hc⟩ := itemsOf_covers h
  have hsum := hc.stop_eq
  obtain ⟨before, after, hsplit⟩ := List.mem_iff_append.mp hx
  rw [hsplit] at hy hsum
  have hy' : y ∈ before ++ after := by
    simp only [List.mem_append, List.mem_cons] at hy ⊢
    rcases hy with hy | rfl | hy
    · exact .inl hy
    · exact absurd rfl hxy
    · exact .inr hy
  have hle := List.le_sum_of_mem (List.mem_map_of_mem (f := Item.size) hy')
  simp only [List.map_append, List.map_cons, List.sum_append, List.sum_cons] at hsum hle
  omega

lemma itemsOf_congr {b b' : Bytes} {n : ℕ} (hb : n ≤ b.length) (hb' : n ≤ b'.length)
    (hn : 20 + lengthAt b ≤ n) (h : b.take n = b'.take n) : itemsOf b = itemsOf b' := by
  have hlen : lengthAt b = lengthAt b' := by
    rw [← lengthAt_take (show 4 ≤ n by omega), h, lengthAt_take (by omega)]
  have htyp : b.take 2 = b'.take 2 := take_congr h (by omega)
  have hrest : ∀ j ≤ lengthAt b, (b.drop 4).take (16 + j) = (b'.drop 4).take (16 + j) := by
    intro j hj
    exact slice_congr h (show 4 + (16 + j) ≤ n by omega)
  obtain ⟨j, hj, hc⟩ := itemsOf_covers (show 4 ≤ b.length by omega)
  obtain ⟨j', hj', hc'⟩ := itemsOf_covers (show 4 ≤ b'.length by omega)
  obtain ⟨after', ha'⟩ :=
    itemsOf_of_covers (show 4 ≤ b'.length by omega) (htyp ▸ hc.congr (hrest j hj)) (hlen ▸ hj)
  obtain ⟨after, ha⟩ := itemsOf_of_covers (show 4 ≤ b.length by omega)
    (htyp ▸ hc'.congr (hrest j' (hlen ▸ hj')).symm) (hlen ▸ hj')
  have hl := congrArg List.length ha
  have hl' := congrArg List.length ha'
  rw [List.length_append] at hl hl'
  rw [ha', List.length_eq_zero_iff.mp (show after'.length = 0 by omega), List.append_nil]

def parsed {A : Type} (dec : AttrDec A) (b : Bytes) : Exec (Option A) := do
  let items ← attrs b
  let (a, _) ← parse dec items
  return a

lemma parsed_eq {A : Type} {dec : AttrDec A} (hd : dec.Safe) {b : Bytes} (hb : 4 ≤ b.length) :
    parsed dec b = .ok ((heard dec.typ dec.mustPrecede (itemsOf b)).bind dec.read) := by
  simp only [parsed, attrs_eq, ok_bind, parse_eq hd (itemsOf_afterHeader hb), pure_eq_ok]

end Masquerade.Stun
