import Masquerade.Lib.Splice
import Mathlib.Data.Vector.Basic

/-! Computations that may panic: bounds, overflow and unwrap checks made explicit. -/

namespace Masquerade.Lib

inductive Panic
  | index
  | unwrap
  | overflow
  | assertion
  deriving DecidableEq, Repr

abbrev Exec := Except Panic

variable {α β ε : Type}

def require (p : Prop) [Decidable p] : Exec Unit := if p then .ok () else .error .assertion

def addWithin (w a b : ℕ) : Exec ℕ := if a + b < 2 ^ w then .ok (a + b) else .error .overflow

def subChecked (a b : ℕ) : Exec ℕ := if b ≤ a then .ok (a - b) else .error .overflow

def readAt (b : List α) (i n : ℕ) : Exec (List α) :=
  if i + n ≤ b.length then .ok (slice b i n) else .error .index

def indexAt (b : List α) (i : ℕ) : Exec α :=
  match b[i]? with
  | some a => .ok a
  | none => .error .index

def writeAt (b : List α) (i : ℕ) (v : List α) : Exec (List α) :=
  if i + v.length ≤ b.length then .ok (splice b i v) else .error .index

/-- `copy_from_slice` panics unless the two slices are equally long. -/
def copyFrom (dst src : List α) : Exec (List α) :=
  if dst.length = src.length then .ok src else .error .index

def tryInto (n : ℕ) (value : List α) : Option (List.Vector α n) :=
  if h : value.length = n then some ⟨value, h⟩ else none

def unwrapSome : Option α → Exec α
  | some a => .ok a
  | none => .error .unwrap

def unwrapOk : Except ε α → Exec α
  | .ok a => .ok a
  | .error _ => .error .unwrap

@[simp] lemma pure_eq_ok (a : α) : (pure a : Exec α) = .ok a := rfl

@[simp] lemma ok_bind (a : α) (f : α → Exec β) : (Except.ok a >>= f) = f a := rfl

@[simp] lemma error_bind (e : Panic) (f : α → Exec β) : (Except.error e >>= f) = .error e := rfl

lemma bind_eq_ok {x : Exec α} {f : α → Exec β} {r : β} :
    x >>= f = .ok r ↔ ∃ a, x = .ok a ∧ f a = .ok r := by
  cases x <;> simp

@[simp] lemma require_ok {p : Prop} [Decidable p] (h : p) : require p = .ok () := if_pos h

lemma require_error {p : Prop} [Decidable p] (h : ¬ p) : require p = .error .assertion := if_neg h

lemma addWithin_ok {w a b : ℕ} (h : a + b < 2 ^ w) : addWithin w a b = .ok (a + b) := if_pos h

lemma subChecked_ok {a b : ℕ} (h : b ≤ a) : subChecked a b = .ok (a - b) := if_pos h

lemma readAt_ok {b : List α} {i n : ℕ} (h : i + n ≤ b.length) :
    readAt b i n = .ok (slice b i n) := if_pos h

lemma writeAt_ok {b : List α} {i : ℕ} {v : List α} (h : i + v.length ≤ b.length) :
    writeAt b i v = .ok (splice b i v) := if_pos h

lemma addWithin_eq {w a b c : ℕ} (h : addWithin w a b = .ok c) : c = a + b := by
  unfold addWithin at h
  split at h
  · exact (Except.ok.inj h).symm
  · cases h

lemma writeAt_length {b v r : List α} {i : ℕ} (h : writeAt b i v = .ok r) :
    r.length = b.length := by
  unfold writeAt at h
  split at h
  · rw [← Except.ok.inj h, splice_length ‹_›]
  · cases h

lemma indexAt_ok {b : List α} {i : ℕ} (d : α) (h : i < b.length) :
    indexAt b i = .ok (b.getD i d) := by
  simp [indexAt, h]

lemma copyFrom_ok {dst src : List α} (h : dst.length = src.length) :
    copyFrom dst src = .ok src := if_pos h

@[simp] lemma unwrapSome_some (a : α) : unwrapSome (some a) = .ok a := rfl

@[simp] lemma unwrapOk_ok (a : α) : unwrapOk (.ok a : Except ε α) = .ok a := rfl

end Masquerade.Lib
