import Mathlib.Data.PEquiv

/-! Lists of partial bijections, of which the first that applies is taken. -/

namespace Masquerade.Lib

variable {α : Type}

def firstMatch : List (α ≃. α) → α → α
  | [], a => a
  | e :: es, a => (e a).getD (firstMatch es a)

def firstMatchBack (es : List (α ≃. α)) (b : α) : α := firstMatch (es.map PEquiv.symm) b

def Unambiguous (es : List (α ≃. α)) (a : α) : Prop :=
  (∀ e ∈ es, e a = none ∧ e.symm a = none) ∨ ∃ before e after b, es = before ++ e :: after ∧
    e a = some b ∧ ∀ e' ∈ before, e' a = none ∧ e'.symm b = none

section

variable {es : List (α ≃. α)} {a b : α}

lemma firstMatch_of_none (h : ∀ e ∈ es, e a = none) : firstMatch es a = a := by
  induction es with
  | nil => rfl
  | cons e es ih =>
    rw [firstMatch, h e List.mem_cons_self, Option.getD_none,
      ih fun e' he' => h e' (List.mem_cons_of_mem _ he')]

lemma firstMatch_append {before after : List (α ≃. α)} {e : α ≃. α}
    (hb : ∀ e' ∈ before, e' a = none) (he : e a = some b) :
    firstMatch (before ++ e :: after) a = b := by
  induction before with
  | nil => rw [List.nil_append, firstMatch, he, Option.getD_some]
  | cons e' before ih =>
    rw [List.cons_append, firstMatch, hb e' List.mem_cons_self, Option.getD_none,
      ih fun x hx => hb x (List.mem_cons_of_mem _ hx)]

lemma exists_first (es : List (α ≃. α)) (a : α) : (∀ e ∈ es, e a = none) ∨
    ∃ before e after b, es = before ++ e :: after ∧ e a = some b ∧ ∀ e' ∈ before, e' a = none := by
  induction es with
  | nil => exact .inl fun e he => absurd he List.not_mem_nil
  | cons e es ih =>
    cases he : e a with
    | some b => exact .inr ⟨[], e, es, b, rfl, he, fun e' he' => absurd he' List.not_mem_nil⟩
    | none =>
      rcases ih with hnone | ⟨before, e', after, b, rfl, he', hbefore⟩
      · exact .inl (List.forall_mem_cons.mpr ⟨he, hnone⟩)
      · exact .inr ⟨e :: before, e', after, b, rfl, he', List.forall_mem_cons.mpr ⟨he, hbefore⟩⟩

lemma firstMatchBack_of_none (h : ∀ e ∈ es, e.symm b = none) : firstMatchBack es b = b := by
  apply firstMatch_of_none
  simpa using h

lemma firstMatchBack_append {before after : List (α ≃. α)} {e : α ≃. α}
    (hb : ∀ e' ∈ before, e'.symm b = none) (he : e.symm b = some a) :
    firstMatchBack (before ++ e :: after) b = a := by
  rw [firstMatchBack, List.map_append, List.map_cons]
  exact firstMatch_append (by simpa using hb) he

lemma firstMatchBack_ne (hes : ∃ e ∈ es, e.symm b ≠ none) (h : ∀ e ∈ es, e a = none)
    (after : List (α ≃. α)) : firstMatchBack (es ++ after) b ≠ a := by
  rcases exists_first (es.map PEquiv.symm) b with hnone | ⟨before, f, rest, a', hsplit, hf, hbefore⟩
  · obtain ⟨e, he, hne⟩ := hes
    exact absurd (hnone _ (List.mem_map_of_mem he)) hne
  · rw [firstMatchBack, List.map_append, hsplit, List.append_assoc, List.cons_append,
      firstMatch_append hbefore hf]
    rintro rfl
    have hmem : f ∈ es.map PEquiv.symm := hsplit ▸ List.mem_append_right _ List.mem_cons_self
    obtain ⟨e, he, rfl⟩ := List.mem_map.mp hmem
    have hforth : e a' = some b := (PEquiv.eq_some_iff e).mp hf
    rw [h e he] at hforth
    cases hforth

lemma firstMatchBack_firstMatch_iff (es : List (α ≃. α)) (a : α) :
    firstMatchBack es (firstMatch es a) = a ↔ Unambiguous es a := by
  rcases exists_first es a with hnone | ⟨before, e, after, b, rfl, he, hbefore⟩
  · rw [firstMatch_of_none hnone]
    constructor
    · intro h
      refine .inl fun e he => ⟨hnone e he, ?_⟩
      by_contra hsome
      have hne := firstMatchBack_ne (b := a) ⟨e, he, hsome⟩ hnone []
      rw [List.append_nil] at hne
      exact hne h
    · rintro (hall | ⟨before, e, after, b, rfl, he, -⟩)
      · exact firstMatchBack_of_none fun e he => (hall e he).2
      · rw [hnone e (List.mem_append_right _ List.mem_cons_self)] at he
        cases he
  · rw [firstMatch_append hbefore he]
    constructor
    · intro h
      refine .inr ⟨before, e, after, b, rfl, he, fun e' he' => ⟨hbefore e' he', ?_⟩⟩
      by_contra hsome
      exact firstMatchBack_ne ⟨e', he', hsome⟩ hbefore (e :: after) h
    · rintro (hall | ⟨before', e', after', b', hsplit, he', hbefore'⟩)
      · rw [(hall e (List.mem_append_right _ List.mem_cons_self)).1] at he
        cases he
      · have hfirst : firstMatch (before ++ e :: after) a = b := firstMatch_append hbefore he
        have hb : b = b' := by
          rw [← hfirst, hsplit, firstMatch_append (fun x hx => (hbefore' x hx).1) he']
        rw [hsplit, hb]
        exact firstMatchBack_append (fun x hx => (hbefore' x hx).2)
          ((PEquiv.eq_some_iff e').mpr he')

end

end Masquerade.Lib
