import Mathlib.Data.List.Nodup

/-! Slots with stable keys: a freed slot is kept on a stack and given out again before a new one is
made. -/

namespace Masquerade.Lib

structure Slab (α : Type) where
  slots : List (Option α)
  free : List ℕ
  nodup : free.Nodup
  mem_free : ∀ k, k ∈ free ↔ slots[k]? = some none

namespace Slab

variable {α : Type}

def empty : Slab α where
  slots := []
  free := []
  nodup := List.nodup_nil
  mem_free k := by simp

def get (s : Slab α) (k : ℕ) : Option α := s.slots[k]?.join

def vacantKey (s : Slab α) : ℕ := s.free.headD s.slots.length

lemma vacantKey_nil {s : Slab α} (h : s.free = []) : s.vacantKey = s.slots.length := by
  rw [vacantKey, h, List.headD_nil]

lemma vacantKey_cons {s : Slab α} {k : ℕ} {rest : List ℕ} (h : s.free = k :: rest) :
    s.vacantKey = k := by
  rw [vacantKey, h, List.headD_cons]

lemma slots_of_free_cons {s : Slab α} {k : ℕ} {rest : List ℕ} (h : s.free = k :: rest) :
    s.slots[k]? = some none :=
  (s.mem_free k).mp (by simp [h])

lemma get_eq_none_of_mem {s : Slab α} {k : ℕ} (h : k ∈ s.free) : s.get k = none := by
  simp [get, (s.mem_free k).mp h]

lemma lt_of_get {s : Slab α} {k : ℕ} {a : α} (h : s.get k = some a) : k < s.slots.length := by
  by_contra hk
  simp [get, List.getElem?_eq_none (Nat.le_of_not_lt hk)] at h

lemma vacantKey_le (s : Slab α) : s.vacantKey ≤ s.slots.length := by
  cases hf : s.free with
  | nil => exact Nat.le_of_eq (vacantKey_nil hf)
  | cons k rest =>
    rw [vacantKey_cons hf]
    by_contra hk
    have hs := slots_of_free_cons hf
    rw [List.getElem?_eq_none (by omega)] at hs
    cases hs

@[simp] lemma get_empty (k : ℕ) : (empty : Slab α).get k = none := rfl

lemma slots_of_free_nil {s : Slab α} (h : s.free = []) (k : ℕ) : s.slots[k]? ≠ some none := by
  simp [← s.mem_free k, h]

def filled (s : Slab α) (a : α) : List (Option α) :=
  match s.free with
  | [] => s.slots ++ [some a]
  | k :: _ => s.slots.set k (some a)

lemma getElem?_filled (s : Slab α) (a : α) (j : ℕ) :
    (s.filled a)[j]? = if j = s.vacantKey then some (some a) else s.slots[j]? := by
  unfold filled
  cases hf : s.free with
  | nil =>
    rw [vacantKey_nil hf]
    rcases Nat.lt_trichotomy j s.slots.length with hlt | rfl | hgt
    · rw [List.getElem?_append_left hlt, if_neg (Nat.ne_of_lt hlt)]
    · simp
    · rw [List.getElem?_eq_none (by simp; omega), if_neg (Nat.ne_of_gt hgt),
        List.getElem?_eq_none (Nat.le_of_lt hgt)]
  | cons k rest =>
    rw [vacantKey_cons hf, List.getElem?_set]
    by_cases hkj : k = j
    · subst hkj
      have hlt : k < s.slots.length := by
        by_contra hk
        have hs := slots_of_free_cons hf
        rw [List.getElem?_eq_none (Nat.le_of_not_lt hk)] at hs
        cases hs
      simp [hlt]
    · rw [if_neg hkj, if_neg (Ne.symm hkj)]

def insert (s : Slab α) (a : α) : Slab α where
  slots := s.filled a
  free := s.free.tail
  nodup := s.nodup.sublist (List.tail_sublist _)
  mem_free := by
    intro j
    have hj := s.mem_free j
    rw [getElem?_filled]
    cases hf : s.free with
    | nil =>
      have hn := slots_of_free_nil hf j
      split_ifs <;> simp [hn]
    | cons k rest =>
      have hn := (List.nodup_cons.mp (hf ▸ s.nodup)).1
      rw [hf, List.mem_cons] at hj
      rw [List.tail_cons, vacantKey_cons hf]
      by_cases hkj : j = k
      · simp [hkj, hn]
      · rw [if_neg hkj, ← hj]
        simp [hkj]

def remove (s : Slab α) (k : ℕ) : Slab α :=
  match hk : s.get k with
  | none => s
  | some a =>
    { slots := s.slots.set k none
      free := k :: s.free
      nodup := List.nodup_cons.mpr ⟨fun h => by simp [get_eq_none_of_mem h] at hk, s.nodup⟩
      mem_free := by
        intro j
        have hlt := lt_of_get hk
        rw [List.mem_cons, s.mem_free j, List.getElem?_set]
        by_cases hkj : k = j
        · subst hkj
          simp [hlt]
        · simp [hkj, Ne.symm hkj] }

def modify (s : Slab α) (k : ℕ) (f : α → α) : Slab α where
  slots := s.slots.modify k (Option.map f)
  free := s.free
  nodup := s.nodup
  mem_free := by
    intro j
    rw [s.mem_free j, List.getElem?_modify]
    by_cases hkj : k = j
    · simp [hkj, Option.map_eq_some_iff]
    · simp [hkj]

lemma get_insert (s : Slab α) (a : α) (j : ℕ) :
    (s.insert a).get j = if j = s.vacantKey then some a else s.get j := by
  rw [get, insert, getElem?_filled]
  split_ifs <;> rfl

lemma get_vacantKey (s : Slab α) : s.get s.vacantKey = none := by
  cases hf : s.free with
  | nil => simp [get, vacantKey_nil hf]
  | cons k rest => rw [vacantKey_cons hf, get_eq_none_of_mem (by simp [hf])]

lemma get_remove (s : Slab α) (k j : ℕ) : (s.remove k).get j = if j = k then none else s.get j := by
  unfold remove
  split
  next hk =>
    by_cases hkj : j = k
    · rw [if_pos hkj, hkj, hk]
    · rw [if_neg hkj]
  next a hk =>
    rw [get, List.getElem?_set]
    by_cases hkj : k = j
    · subst hkj
      simp [lt_of_get hk]
    · simp [hkj, Ne.symm hkj, get]

lemma get_modify (s : Slab α) (k : ℕ) (f : α → α) (j : ℕ) :
    (s.modify k f).get j = if j = k then (s.get k).map f else s.get j := by
  rw [get, modify, List.getElem?_modify]
  by_cases hkj : k = j
  · subst hkj
    cases hs : s.slots[k]? with
    | none => simp [get, hs]
    | some o => cases o <;> simp [get, hs]
  · simp [hkj, Ne.symm hkj, get]

lemma get_modify_of_get {s : Slab α} {k : ℕ} {a : α} (f : α → α) (h : s.get k = some a) :
    (s.modify k f).get k = some (f a) := by
  rw [get_modify, if_pos rfl, h, Option.map_some]

lemma get_modify_eq_some {s : Slab α} {k j : ℕ} {f : α → α} {a : α}
    (h : (s.modify k f).get j = some a) :
    (j ≠ k ∧ s.get j = some a) ∨ ∃ a₀, j = k ∧ s.get k = some a₀ ∧ a = f a₀ := by
  rw [get_modify] at h
  split_ifs at h with hj
  · obtain ⟨a₀, ha₀, rfl⟩ := Option.map_eq_some_iff.mp h
    exact .inr ⟨a₀, hj, ha₀, rfl⟩
  · exact .inl ⟨hj, h⟩

lemma get_insert_eq_some {s : Slab α} {j : ℕ} {a b : α} (h : (s.insert a).get j = some b) :
    (j ≠ s.vacantKey ∧ s.get j = some b) ∨ (j = s.vacantKey ∧ b = a) := by
  rw [get_insert] at h
  split_ifs at h with hj
  · exact .inr ⟨hj, (Option.some.inj h).symm⟩
  · exact .inl ⟨hj, h⟩

lemma get_remove_eq_some {s : Slab α} {k j : ℕ} {a : α} (h : (s.remove k).get j = some a) :
    j ≠ k ∧ s.get j = some a := by
  rw [get_remove] at h
  split_ifs at h with hj
  exact ⟨hj, h⟩

@[simp] lemma modify_modify (s : Slab α) (k : ℕ) (f g : α → α) :
    (s.modify k f).modify k g = s.modify k fun a => g (f a) := by
  have h : (Option.map g ∘ Option.map f) = Option.map fun a => g (f a) := by
    funext o
    cases o <;> rfl
  simp only [modify, List.modify_modify_eq, h]

end Slab

end Masquerade.Lib
