import Masquerade.Stun.Layout

/-! The iteration over a buffer of any length and content: that it ends, and where its items lie. -/

namespace Masquerade.Stun

open Lib

inductive Attrs.Yields : Attrs → List Item → Prop
  | done {s : Attrs} : s.next = .ok none → Yields s []
  | item {s s' : Attrs} {item : Item} {items : List Item} : s.next = .ok (some (item, s')) →
      Yields s' items → Yields s (item :: items)

lemma Attrs.yields_items (n : ℕ) (s : Attrs) (h : s.length < 65536) (hn : s.length - s.offset ≤ n) :
    s.Yields (s.items n) := by
  have hnext := s.next_eq h
  induction n generalizing s with
  | zero =>
    have hf : ¬ s.Fits := by
      rintro ⟨hl, -⟩
      unfold endAt at hl
      omega
    rw [if_neg hf] at hnext
    exact .done hnext
  | succ n ih =>
    by_cases hf : s.Fits
    · have hend : s.offset + 4 ≤ endAt s.rest s.offset := by unfold endAt; omega
      have hle := hf.1
      rw [if_pos hf] at hnext
      rw [items, if_pos hf]
      exact .item hnext (ih _ h (by simp only; omega) (next_eq _ h))
    · rw [if_neg hf] at hnext
      rw [items, if_neg hf]
      exact .done hnext

structure Item.Placed (b : Bytes) (start : ℕ) (item : Item) : Prop where
  aligned : 4 ∣ start
  afterHeader : 20 ≤ start
  announced : start + item.size ≤ 20 + lengthAt b
  inBuffer : start + 4 + item.value.length ≤ b.length
  value : item.value = slice b (start + 4) item.value.length
  pre : item.pre.firstFour ++ item.pre.bytes = splice (b.take start) 2
    (toBE 2 (start + item.size - 20))
  firstFour : item.pre.firstFour.length = 4
  bytes : 16 ≤ item.pre.bytes.length
  xor : ∀ dest : Bytes, dest.length ≤ 16 → ∃ r, item.pre.xorBytes dest = .ok r

lemma four_dvd_size (item : Item) : 4 ∣ item.size := by
  unfold Item.size padding
  omega

lemma Item.At.placed {b : Bytes} {offset : ℕ} {item : Item} (h : item.At b offset)
    (hoffset : 4 ∣ offset) :
    item.Placed b (20 + offset) where
  aligned := (show 4 ∣ 20 by norm_num).add hoffset
  afterHeader := Nat.le_add_right 20 offset
  announced := by
    have := h.announced
    omega
  inBuffer := by
    have := h.inBuffer
    omega
  value := by
    rw [show 20 + offset + 4 = 24 + offset by omega]
    exact h.value
  pre := by
    have hb := h.inBuffer
    have hsplit : b.take (20 + offset) = b.take 2 ++ (slice b 2 2 ++ slice b 4 (16 + offset)) := by
      rw [show 20 + offset = 2 + (2 + (16 + offset)) by omega, List.take_add, List.take_add,
        List.drop_drop]
      rfl
    have hl : (b.take 2).length = 2 := List.length_take_of_le (by omega)
    rw [h.firstFour, h.bytes, hsplit,
      splice_append hl.symm (by rw [slice_length_of_le (by omega), toBE_length]), List.append_assoc,
      show 20 + offset + item.size - 20 = offset + item.size by omega]
  firstFour := by
    have hb := h.inBuffer
    rw [h.firstFour, List.length_append, toBE_length, List.length_take_of_le (by omega)]
  bytes := by rw [h.bytes_length]; omega
  xor dest hdest := ⟨_, Prefix.xorBytes_ok (by rw [h.bytes_length]; omega) hdest⟩

lemma Covers.placed {b : Bytes} (hb : 4 ≤ b.length) {i j : ℕ} {xs : List Item}
    (h : Covers (b.take 2) (b.drop 4) i xs j) (hi : 4 ∣ i) (hj : j ≤ lengthAt b) :
    ∃ placed : List (ℕ × Item), placed.map Prod.snd = xs ∧
      (∀ p ∈ placed, p.2.Placed b p.1 ∧ 20 + i ≤ p.1) ∧
      placed.Pairwise fun p q => p.1 + p.2.size ≤ q.1 := by
  induction h with
  | nil => exact ⟨[], rfl, by simp, .nil⟩
  | @cons i j items hl hc ih =>
    have hat := itemAt_at hb hl (hc.le.trans hj)
    have hend := itemAt_size (b.take 2) hl
    have hfour := four_dvd_size (itemAt (b.take 2) (b.drop 4) i)
    obtain ⟨placed, rfl, hplaced, hpairs⟩ := ih (by rw [← hend]; exact hi.add hfour) hj
    refine ⟨(20 + i, itemAt (b.take 2) (b.drop 4) i) :: placed, rfl, ?_, .cons ?_ hpairs⟩
    · intro p hp
      rcases List.mem_cons.mp hp with rfl | hp
      · exact ⟨hat.placed hi, le_rfl⟩
      · have hle := (hplaced p hp).2
        exact ⟨(hplaced p hp).1, by omega⟩
    · intro p hp
      have hle := (hplaced p hp).2
      simp only
      omega

theorem iteration_safe (b : Bytes) : ∃ placed : List (ℕ × Item),
    (intoIter b).Yields (placed.map Prod.snd) ∧ (∀ p ∈ placed, p.2.Placed b p.1) ∧
    placed.Pairwise fun p q => p.1 + p.2.size ≤ q.1 := by
  have hyields := (intoIter b).yields_items _ (intoIter_length_lt b) (Nat.sub_le _ _)
  by_cases hb : 4 ≤ b.length
  · obtain ⟨j, hj, hc⟩ := itemsOf_covers hb
    obtain ⟨placed, hmap, hplaced, hpairs⟩ := hc.placed hb (dvd_zero 4) hj
    exact ⟨placed, by rw [hmap]; exact hyields, fun p hp => (hplaced p hp).1, hpairs⟩
  · -- without a length field there are no attributes
    have hempty : (intoIter b).length = 0 := if_pos (by omega)
    rw [hempty] at hyields
    exact ⟨[], hyields, by simp, .nil⟩

end Masquerade.Stun
