import Mathlib.Tactic

/-! Frames cut off the front of a stream, as soon as the bytes there suffice. -/

namespace Masquerade.Lib

inductive Next
  | frame (n : ℕ)
  | wait
  | close
  deriving DecidableEq, Repr

variable {α : Type}

/-- A decision, once made, does not change when more bytes come in. -/
structure Framing (α : Type) where
  next : List α → Next
  bounds : ∀ {xs n}, next xs = .frame n → 0 < n ∧ n ≤ xs.length
  frame_append : ∀ {xs n} ys, next xs = .frame n → next (xs ++ ys) = .frame n

namespace Framing

variable (F : Framing α)

def greedy (xs : List α) : List (List α) × List α :=
  match _h : F.next xs with
  | .frame n => (xs.take n :: (greedy (xs.drop n)).1, (greedy (xs.drop n)).2)
  | .wait => ([], xs)
  | .close => ([], xs)
termination_by xs.length
decreasing_by
  all_goals
    have := F.bounds _h
    rw [List.length_drop]
    omega

inductive Taken (xs : List α) : List (List α) → List α → Prop
  | nil : Taken xs [] xs
  | snoc {frames : List (List α)} {rest : List α} {n : ℕ} : Taken xs frames rest →
      F.next rest = .frame n → Taken xs (frames ++ [rest.take n]) (rest.drop n)

variable {F} {xs rest : List α} {frames : List (List α)}

lemma greedy_of_frame {n : ℕ} (h : F.next xs = .frame n) :
    F.greedy xs = (xs.take n :: (F.greedy (xs.drop n)).1, (F.greedy (xs.drop n)).2) := by
  rw [greedy]
  split
  next m hm =>
    obtain rfl : n = m := by simpa [h] using hm
    rfl
  next hm => simp [h] at hm
  next hm => simp [h] at hm

lemma greedy_of_not_frame (h : ∀ n, F.next xs ≠ .frame n) : F.greedy xs = ([], xs) := by
  rw [greedy]
  split
  next m hm => exact absurd hm (h m)
  next => rfl
  next => rfl

lemma Taken.greedy (h : F.Taken xs frames rest) :
    F.greedy xs = (frames ++ (F.greedy rest).1, (F.greedy rest).2) := by
  induction h with
  | nil => rfl
  | snoc _ hnext ih => rw [ih, greedy_of_frame hnext, List.append_assoc, List.singleton_append]

lemma Taken.greedy_eq (h : F.Taken xs frames rest) (hrest : ∀ n, F.next rest ≠ .frame n) :
    F.greedy xs = (frames, rest) := by
  rw [h.greedy, greedy_of_not_frame hrest, List.append_nil]

lemma Taken.append (h : F.Taken xs frames rest) (ys : List α) :
    F.Taken (xs ++ ys) frames (rest ++ ys) := by
  induction h with
  | nil => exact .nil
  | @snoc frames rest n _ hnext ih =>
    have hle := (F.bounds hnext).2
    have hsnoc := ih.snoc (F.frame_append ys hnext)
    rwa [List.take_append_of_le_length hle, List.drop_append_of_le_length hle] at hsnoc

end Framing

end Masquerade.Lib
