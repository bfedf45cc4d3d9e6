import Mathlib.Tactic

/-! Sums with end-around carry, for words of which `m` is the greatest. -/

namespace Masquerade.Lib

def carryAdd (m a b : ℕ) : ℕ := if m < a + b then a + b - m else a + b

def onesSum (m : ℕ) (words : List ℕ) : ℕ := words.foldl (carryAdd m) 0

variable {m a b x y : ℕ} {words : List ℕ}

lemma carryAdd_le (ha : a ≤ m) (hb : b ≤ m) : carryAdd m a b ≤ m := by
  unfold carryAdd
  split_ifs <;> omega

lemma carryAdd_mod (m a b : ℕ) : carryAdd m a b % m = (a + b) % m := by
  unfold carryAdd
  split_ifs with h
  · rw [← Nat.add_mod_right, Nat.sub_add_cancel h.le]
  · rfl

lemma carryAdd_eq_zero : carryAdd m a b = 0 ↔ a + b = 0 := by
  unfold carryAdd
  split_ifs <;> omega

lemma eq_of_residue (hx : x ≤ m) (hy : y ≤ m) (hmod : x % m = y % m)
    (hzero : x = 0 ↔ y = 0) : x = y := by
  rcases hx.lt_or_eq with hx | rfl
  · rcases hy.lt_or_eq with hy | rfl
    · rwa [Nat.mod_eq_of_lt hx, Nat.mod_eq_of_lt hy] at hmod
    · rw [Nat.mod_self, Nat.mod_eq_of_lt hx] at hmod
      rw [hmod, hzero.mp hmod]
  · rcases hy.lt_or_eq with hy | rfl
    · rw [Nat.mod_self, Nat.mod_eq_of_lt hy] at hmod
      rw [← hmod, hzero.mpr hmod.symm]
    · rfl

lemma foldl_carryAdd (ha : a ≤ m) (h : ∀ w ∈ words, w ≤ m) :
    words.foldl (carryAdd m) a ≤ m ∧ words.foldl (carryAdd m) a % m = (a + words.sum) % m ∧
      (words.foldl (carryAdd m) a = 0 ↔ a + words.sum = 0) := by
  induction words generalizing a with
  | nil => exact ⟨ha, rfl, Iff.rfl⟩
  | cons w words ih =>
    have hw := h w List.mem_cons_self
    obtain ⟨hle, hmod, hzero⟩ := ih (carryAdd_le ha hw) fun x hx => h x (List.mem_cons_of_mem _ hx)
    rw [List.foldl_cons, List.sum_cons]
    refine ⟨hle, ?_, ?_⟩
    · rw [hmod, Nat.add_mod, carryAdd_mod, ← Nat.add_mod, Nat.add_assoc]
    · have hadd := carryAdd_eq_zero (m := m) (a := a) (b := w)
      omega

lemma eq_onesSum (h : ∀ w ∈ words, w ≤ m) (hx : x ≤ m) (hmod : x % m = words.sum % m)
    (hzero : x = 0 ↔ words.sum = 0) : x = onesSum m words := by
  obtain ⟨hle, hmod', hzero'⟩ := foldl_carryAdd (Nat.zero_le m) h
  rw [Nat.zero_add] at hmod' hzero'
  exact eq_of_residue hx hle (hmod.trans hmod'.symm) (hzero.trans hzero'.symm)

end Masquerade.Lib
