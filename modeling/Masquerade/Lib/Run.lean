import Mathlib.Tactic.Common

/-! Runs of a partial step function, each step within what is allowed in its state. -/

namespace Masquerade.Lib

variable {σ ι : Type} (step : σ → ι → Option σ) (allowed : σ → ι → Prop)

inductive Reaches (s : σ) : σ → Prop
  | refl : Reaches s s
  | next {t t' : σ} (i : ι) : Reaches s t → allowed t i → step t i = some t' → Reaches s t'

variable {step allowed}

lemma Reaches.invariant {P : σ → Prop} {s t : σ} (h : Reaches step allowed s t) (hs : P s)
    (hstep : ∀ t i t', P t → allowed t i → step t i = some t' → P t') : P t := by
  induction h with
  | refl => exact hs
  | next i _ hi ht ih => exact hstep _ i _ ih hi ht

lemma Reaches.mono {allowed' : σ → ι → Prop} {s t : σ} (h : Reaches step allowed s t)
    (himp : ∀ t i, allowed t i → allowed' t i) : Reaches step allowed' s t := by
  induction h with
  | refl => exact .refl
  | next i _ hi ht ih => exact ih.next i (himp _ i hi) ht

variable (step allowed)

def runWithin [∀ s i, Decidable (allowed s i)] : σ → List ι → Option σ
  | s, [] => some s
  | s, i :: is => if allowed s i then (step s i).bind fun t => runWithin t is else none

variable {step allowed}

lemma Reaches.append {s t u : σ} (h₁ : Reaches step allowed s t) (h₂ : Reaches step allowed t u) :
    Reaches step allowed s u := by
  induction h₂ with
  | refl => exact h₁
  | next i _ hi ht ih => exact ih.next i hi ht

lemma Reaches.of_runWithin [∀ s i, Decidable (allowed s i)] {s t : σ} (is : List ι)
    (h : runWithin step allowed s is = some t) : Reaches step allowed s t := by
  induction is generalizing s with
  | nil =>
    obtain rfl : s = t := by simpa [runWithin] using h
    exact .refl
  | cons i is ih =>
    simp only [runWithin] at h
    split_ifs at h with hi
    obtain ⟨u, hu, hrest⟩ := Option.bind_eq_some_iff.mp h
    exact (Reaches.refl.next i hi hu).append (ih hrest)

end Masquerade.Lib
