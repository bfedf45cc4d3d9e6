import Masquerade.Stun.Parse

/-! The unknown attributes that are reported: an array that is set, list and flag at once. -/

namespace Masquerade.Stun

open Lib

def unknownTypes (items : List Item) : List UInt16 :=
  ((items.map Item.typ).filter comprehensionRequired).eraseDups

structure Reports (n : ℕ) (items : List Item) : Prop where
  none_iff : collectUnknown n items = none ↔ unknownTypes items = []
  lists : ∀ words, collectUnknown n items = some words → words.toList =
    (unknownTypes items).take n ++ List.replicate (n - ((unknownTypes items).take n).length) 0
  writes : ∀ words, collectUnknown n items = some words →
    (unknownAttributesEnc n).Writes words (2 * ((unknownTypes items).take n).length) fun _ =>
    ((unknownTypes items).take n).flatMap u16Bytes

section Types

variable (items : List Item) (item : Item)

lemma unknownTypes_snoc : unknownTypes (items ++ [item]) = unknownTypes items ++
    if comprehensionRequired item.typ ∧ item.typ ∉ unknownTypes items then [item.typ] else [] := by
  simp only [unknownTypes, List.map_append, List.filter_append, List.eraseDups_append,
    List.map_cons, List.map_nil, List.mem_eraseDups]
  congr 1
  by_cases hreq : comprehensionRequired item.typ = true
  · by_cases hmem : item.typ ∈ (items.map Item.typ).filter comprehensionRequired
    · simp only [List.filter_cons, hreq, if_true, List.filter_nil, List.removeAll, hmem,
        List.elem_eq_mem, decide_true, Bool.not_true, Bool.false_eq_true, if_false,
        not_true_eq_false, and_false]
      rfl
    · simp only [List.filter_cons, hreq, if_true, List.filter_nil, List.removeAll, hmem,
        List.elem_eq_mem, decide_false, Bool.not_false, not_false_eq_true, and_true]
      rfl
  · simp only [List.filter_cons, hreq, Bool.false_eq_true, if_false, List.filter_nil, false_and]
    rfl

lemma unknownTypes_nodup : (unknownTypes items).Nodup := by
  induction items using List.reverseRecOn with
  | nil => exact .nil
  | append_singleton items item ih =>
    rw [unknownTypes_snoc]
    split_ifs with h
    · exact List.nodup_append.mpr ⟨ih, List.nodup_singleton _, fun a ha b hb => by
        rw [List.mem_singleton.mp hb]
        exact fun heq => h.2 (heq ▸ ha)⟩
    · rwa [List.append_nil]

lemma mem_unknownTypes {t : UInt16} : t ∈ unknownTypes items ↔
    comprehensionRequired t ∧ ∃ item ∈ items, item.typ = t := by
  rw [unknownTypes, List.mem_eraseDups, List.mem_filter, List.mem_map, and_comm]

lemma unknownTypes_append (xs ys : List Item) :
    unknownTypes (xs ++ ys) = unknownTypes xs ++ (unknownTypes ys).filter fun t =>
      t ∉ unknownTypes xs := by
  induction ys using List.reverseRecOn with
  | nil => simp [unknownTypes]
  | append_singleton ys item ih =>
    rw [← List.append_assoc, unknownTypes_snoc, unknownTypes_snoc, List.filter_append,
      ← List.append_assoc, ← ih]
    congr 1
    have hmem : item.typ ∈ unknownTypes (xs ++ ys) ↔ item.typ ∈ unknownTypes xs ∨
        item.typ ∈ unknownTypes ys := by
      rw [mem_unknownTypes, mem_unknownTypes, mem_unknownTypes, ← and_or_left]
      simp only [List.mem_append, or_and_right, exists_or]
    by_cases hxs : item.typ ∈ unknownTypes xs
    · rw [if_neg fun h => h.2 (hmem.mpr (.inl hxs))]
      split_ifs <;> simp [hxs]
    · by_cases hnew : comprehensionRequired item.typ ∧ item.typ ∉ unknownTypes ys
      · rw [if_pos hnew, if_pos ⟨hnew.1, fun h => (hmem.mp h).elim hxs hnew.2⟩]
        simp [hxs]
      · rw [if_neg hnew, if_neg fun h => hnew ⟨h.1, fun hys => h.2 (hmem.mpr (.inr hys))⟩,
          List.filter_nil]

lemma unknownTypes_length (n : ℕ) (h : 0 ∉ (unknownTypes items).take n) :
    ((unknownTypes items).take n).length ≤ 32767 := by
  have hnodup : ((unknownTypes items).take n).Nodup :=
    (unknownTypes_nodup items).sublist (List.take_sublist _ _)
  have hsub : (((unknownTypes items).take n).map UInt16.toNat).toFinset ⊆ Finset.Ico 1 32768 := by
    intro x hx
    obtain ⟨t, ht, rfl⟩ := List.mem_map.mp (List.mem_toFinset.mp hx)
    have hreq := ((mem_unknownTypes items).mp (List.mem_of_mem_take ht)).1
    have hlt : t.toNat < 32768 := by
      simpa [comprehensionRequired, UInt16.lt_iff_toNat_lt] using hreq
    have hne : t.toNat ≠ 0 := fun h0 => h (by rwa [show t = 0 from UInt16.toNat_inj.mp h0] at ht)
    exact Finset.mem_Ico.mpr ⟨by omega, hlt⟩
  have hcard := Finset.card_le_card hsub
  rw [List.toFinset_card_of_nodup (hnodup.map fun _ _ => UInt16.toNat_inj.mp)] at hcard
  simpa using hcard

end Types

section Slots

lemma enterSlot_eq (t : UInt16) {xs : List UInt16} (hx : 0 ∉ xs) (k : ℕ) :
    enterSlot t (xs ++ List.replicate k 0) = if t = 0 ∨ t ∈ xs ∨
      k = 0 then xs ++ List.replicate k 0 else xs ++ t :: List.replicate (k - 1) 0 := by
  induction xs with
  | nil =>
    cases k with
    | zero => simp [enterSlot]
    | succ k =>
      by_cases ht : t = 0
      · simp [enterSlot, List.replicate_succ, ht]
      · simp [enterSlot, List.replicate_succ, ht, Ne.symm ht]
  | cons x xs ih =>
    simp only [List.mem_cons, not_or] at hx
    rw [List.cons_append, enterSlot, ih hx.2, if_neg (Ne.symm hx.1)]
    by_cases hxt : x = t
    · simp [hxt]
    · rw [if_neg hxt]
      simp only [List.mem_cons, Ne.symm hxt, false_or]
      split_ifs <;> rfl

def entered (n : ℕ) (items : List Item) : List UInt16 :=
  ((unknownTypes items).filter fun t => t ≠ 0).take n

lemma zero_notMem_entered (n : ℕ) (items : List Item) : 0 ∉ entered n items := by
  intro h
  simpa using (List.mem_filter.mp (List.mem_of_mem_take h)).2

lemma unknownSlots_snoc (n : ℕ) (items : List Item) (item : Item) :
    unknownSlots n (items ++ [item]) = if comprehensionRequired item.typ then enterSlot item.typ
      (unknownSlots n items) else unknownSlots n items := by
  rw [unknownSlots, List.foldl_append]
  rfl

lemma unknownSlots_eq (n : ℕ) (items : List Item) :
    unknownSlots n items = entered n items ++ List.replicate (n - (entered n items).length) 0 := by
  induction items using List.reverseRecOn with
  | nil => simp [unknownSlots, entered, unknownTypes]
  | append_singleton items item ih =>
    rw [unknownSlots_snoc, ih]
    by_cases hreq : comprehensionRequired item.typ = true
    · rw [if_pos hreq, enterSlot_eq _ (zero_notMem_entered n items)]
      set F := (unknownTypes items).filter fun t => t ≠ 0 with hF
      have hlen : (entered n items).length = min n F.length := List.length_take
      by_cases hmem : item.typ ∈ unknownTypes items
      · have hsame : entered n (items ++ [item]) = entered n items := by
          rw [entered, unknownTypes_snoc, if_neg (by simp [hmem]), List.append_nil, entered]
        rw [hsame, if_pos]
        by_cases hzero : item.typ = 0
        · exact .inl hzero
        -- it has a slot of its own, or the slots are all taken
        have hin : item.typ ∈ F := List.mem_filter.mpr ⟨hmem, by simpa using hzero⟩
        rcases Nat.lt_or_ge n F.length with hfull | hroom
        · exact .inr (.inr (by omega))
        · exact .inr (.inl (by rwa [entered, ← hF, List.take_of_length_le hroom]))
      · by_cases hzero : item.typ = 0
        · have hsame : entered n (items ++ [item]) = entered n items := by
            rw [entered, unknownTypes_snoc, if_pos ⟨hreq, hmem⟩, List.filter_append, hzero]
            simp [entered]
          rw [hsame, if_pos (.inl hzero)]
        · have hmore : entered n (items ++ [item]) = (F ++ [item.typ]).take n := by
            rw [entered, unknownTypes_snoc, if_pos ⟨hreq, hmem⟩, List.filter_append, ← hF]
            simp [hzero]
          have hout : item.typ ∉ entered n items :=
            fun h => hmem (List.mem_of_mem_filter (List.mem_of_mem_take h))
          rw [hmore]
          rcases Nat.lt_or_ge F.length n with hroom | hfull
          · have hall : entered n items = F := List.take_of_length_le hroom.le
            rw [if_neg (by simp only [hzero, hout, false_or]; omega), hall,
              List.take_of_length_le (by simp; omega)]
            simp only [List.length_append, List.length_singleton, List.append_assoc,
              List.singleton_append]
            rw [Nat.sub_sub]
          · have hsame : (F ++ [item.typ]).take n = entered n items :=
              List.take_append_of_le_length hfull
            rw [if_pos (.inr (.inr (by omega))), hsame]
    · have hsame : entered n (items ++ [item]) = entered n items := by
        rw [entered, unknownTypes_snoc, if_neg (by simp [hreq]), List.append_nil, entered]
      rw [if_neg hreq, hsame]

lemma take_filter_of_all {p : UInt16 → Bool} {xs : List UInt16} {n : ℕ}
    (h : ∀ x ∈ xs.take n, p x = true) :
    (xs.filter p).take n = xs.take n := by
  have hfront : (xs.take n).filter p = xs.take n := List.filter_eq_self.mpr h
  have hsplit : xs.filter p = xs.take n ++ (xs.drop n).filter p := by
    rw [← hfront, ← List.filter_append, List.take_append_drop]
  rcases Nat.lt_or_ge xs.length n with hshort | hlong
  · rw [hsplit, List.drop_of_length_le hshort.le, List.filter_nil, List.append_nil,
      List.take_take, min_self]
  · rw [hsplit, List.take_append_of_le_length (by simp; omega), List.take_take, min_self]

end Slots

variable {n : ℕ} {items : List Item}

lemma entered_of_notMem (h : 0 ∉ (unknownTypes items).take n) :
    entered n items = (unknownTypes items).take n := by
  apply take_filter_of_all
  intro t ht
  simp only [ne_eq, decide_eq_true_eq]
  rintro rfl
  exact h ht

def enterable (items : List Item) : List UInt16 := (unknownTypes items).filter fun t => t ≠ 0

lemma enterable_append (xs ys : List Item) :
    enterable (xs ++ ys) = enterable xs ++ (enterable ys).filter fun t => t ∉ enterable xs := by
  rw [enterable, unknownTypes_append, List.filter_append, List.filter_filter, enterable, enterable,
    List.filter_filter]
  congr 1
  apply List.filter_congr
  intro t _
  by_cases hzero : t = 0 <;> simp [hzero]

lemma entered_append (n : ℕ) (xs ys : List Item) : entered n (xs ++ ys) = entered n xs ++
    ((enterable ys).filter fun t => t ∉ enterable xs).take (n - (enterable xs).length) := by
  have happend := congrArg (List.take n) (enterable_append xs ys)
  rwa [List.take_append] at happend

lemma filter_unknownSlots (n : ℕ) (items : List Item) :
    (unknownSlots n items).filter (fun t => t ≠ 0) = entered n items := by
  have hkept : (entered n items).filter (fun t => t ≠ 0) = entered n items :=
    List.filter_eq_self.mpr fun t ht => by
      have hne : t ≠ 0 := fun h0 => zero_notMem_entered n items (h0 ▸ ht)
      simpa using hne
  rw [unknownSlots_eq, List.filter_append, hkept]
  simp

lemma collectUnknown_eq_iff {items' : List Item} :
    collectUnknown n items = collectUnknown n items' ↔ entered n items = entered n items' := by
  constructor
  · intro h
    have hslots : unknownSlots n items = unknownSlots n items' := by
      simp only [collectUnknown] at h
      split_ifs at h with hall hall' hall'
      · have hzeros : ∀ {xs : List UInt16}, xs.all (fun t => t == 0) = true →
            xs = List.replicate xs.length 0 := by
          intro xs hxs
          exact List.eq_replicate_iff.mpr ⟨rfl, by simpa using hxs⟩
        rw [hzeros hall, hzeros hall', unknownSlots_length, unknownSlots_length]
      · exact congrArg List.Vector.toList (Option.some.inj h)
    rw [← filter_unknownSlots, hslots, filter_unknownSlots]
  · intro h
    have hslots : unknownSlots n items = unknownSlots n items' := by
      rw [unknownSlots_eq, unknownSlots_eq, h]
    simp only [collectUnknown, hslots]

lemma collectUnknown_eq_none_iff_entered : collectUnknown n items = none ↔
    entered n items = [] := by
  have hempty : collectUnknown n ([] : List Item) = none := by
    simp [collectUnknown, unknownSlots]
  rw [← hempty, collectUnknown_eq_iff]
  simp [entered, unknownTypes]

lemma collectUnknown_eq_none_iff (hn : 0 < n) :
    collectUnknown n items = none ↔ unknownTypes items = [] ∨ unknownTypes items = [0] := by
  have hslots := unknownSlots_eq n items
  have hnodup := unknownTypes_nodup items
  simp only [collectUnknown, ite_eq_left_iff, reduceCtorEq, imp_false, not_not,
    List.all_eq_true, beq_iff_eq]
  constructor
  · intro hall
    -- any other type would have a slot
    have hzeros : ∀ t ∈ unknownTypes items, t = 0 := by
      intro t ht
      by_contra hne
      have hfirst : entered n items ≠ [] := by
        have hin : t ∈ (unknownTypes items).filter fun t => t ≠ 0 :=
          List.mem_filter.mpr ⟨ht, by simpa using hne⟩
        rw [entered, ne_eq, List.take_eq_nil_iff, not_or]
        exact ⟨hn.ne', List.ne_nil_of_mem hin⟩
      obtain ⟨x, hx⟩ := List.exists_mem_of_ne_nil _ hfirst
      have hzero := hall x (by rw [hslots]; exact List.mem_append_left _ hx)
      exact zero_notMem_entered n items (hzero ▸ hx)
    rcases hU : unknownTypes items with _ | ⟨t, _ | ⟨u, rest⟩⟩
    · exact .inl rfl
    · exact .inr (by rw [hzeros t (by rw [hU]; exact List.mem_cons_self)])
    · rw [hU] at hnodup hzeros
      rw [hzeros t (by simp), hzeros u (by simp)] at hnodup
      simp at hnodup
  · intro hU t ht
    have hnone : entered n items = [] := by rcases hU with hU | hU <;> simp [entered, hU]
    rw [hslots, hnone] at ht
    exact List.eq_of_mem_replicate (by simpa only [List.nil_append] using ht)

lemma collectUnknown_toList {words : List.Vector UInt16 n}
    (h : collectUnknown n items = some words) :
    words.toList = unknownSlots n items := by
  simp only [collectUnknown, Option.ite_none_left_eq_some] at h
  rw [← Option.some.inj h.2]
  rfl

lemma reports_iff (hn : 0 < n) : Reports n items ↔ 0 ∉ (unknownTypes items).take n := by
  constructor
  · intro h hzero
    cases hwords : collectUnknown n items with
    | none =>
      rw [h.none_iff.mp hwords] at hzero
      simp at hzero
    | some words =>
      -- the zero is not counted in the length
      have hlength := (h.writes words hwords).length
      simp only [unknownAttributesEnc, h.lists words hwords, List.filter_append,
        Except.ok.injEq] at hlength
      have hlt : (((unknownTypes items).take n).filter fun a => a != 0).length <
          ((unknownTypes items).take n).length :=
        List.length_filter_lt_length_iff_exists.mpr ⟨0, hzero, by simp⟩
      have hfree : (List.replicate (n - ((unknownTypes items).take n).length) (0 : UInt16)).filter
          (fun a => a != 0) = [] :=
        List.filter_eq_nil_iff.mpr fun a ha => by simp [List.eq_of_mem_replicate ha]
      rw [hfree, List.append_nil] at hlength
      have hmod :=
        Nat.mod_le ((((unknownTypes items).take n).filter fun a => a != 0).length * 2) 65536
      omega
  · intro h
    have hwords : ∀ words, collectUnknown n items = some words →
        words.toList = (unknownTypes items).take n ++
        List.replicate (n - ((unknownTypes items).take n).length) 0 := by
      intro words hwords
      rw [collectUnknown_toList hwords, unknownSlots_eq, entered_of_notMem h]
    have hbound := unknownTypes_length items n h
    have hzero : unknownTypes items ≠ [0] := by
      intro hU
      obtain ⟨n, rfl⟩ := Nat.exists_eq_succ_of_ne_zero hn.ne'
      exact h (by rw [hU]; exact List.mem_cons_self)
    exact ⟨(collectUnknown_eq_none_iff hn).trans (or_iff_left hzero), hwords,
      fun words hw => unknownAttributes_writes (hwords words hw) h (by omega)⟩

end Masquerade.Stun
