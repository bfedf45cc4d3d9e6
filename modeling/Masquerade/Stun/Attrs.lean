import Masquerade.Stun.Attr
import Masquerade.Stun.Header

/-! Iteration over the attributes of a message. -/

namespace Masquerade.Stun

open Lib

def padding (n : ℕ) : ℕ := (4 - n % 4) % 4

structure Attrs where
  typ : Bytes
  length : ℕ
  rest : Bytes
  offset : ℕ
  deriving DecidableEq, Repr

def Attrs.next (s : Attrs) : Exec (Option (Item × Attrs)) := do
  if s.length ≤ s.offset then
    return none
  let remaining ← subChecked s.length s.offset
  if remaining < 4 then
    return none
  let i := 16 + s.offset
  if s.rest.length < i + 4 then
    return none
  let attrTyp := u16Of (← readAt s.rest i 2)
  let attrLen := ofBE (← readAt s.rest (i + 2) 2)
  let attrPad := padding attrLen
  let remaining ← subChecked remaining 4
  let pre ← readAt s.rest 0 i
  let i := i + 4
  if remaining < attrLen then
    return none
  let left ← subChecked remaining attrLen
  if left < attrPad then
    return none
  if s.rest.length < i + attrLen then
    return none
  let lengthAt ← addWithin 16 s.offset 4
  let lengthAt ← addWithin 16 lengthAt attrLen
  let lengthAt ← addWithin 16 lengthAt attrPad
  let value ← readAt s.rest i attrLen
  return some (⟨⟨s.typ ++ toBE 2 lengthAt, pre⟩, attrTyp, value⟩, { s with offset := lengthAt })

def intoIter (buffer : Bytes) : Attrs where
  typ := if buffer.length < 2 then [0, 0] else slice buffer 0 2
  length := if buffer.length < 4 then 0 else ofBE (slice buffer 2 2)
  rest := if buffer.length < 4 then [] else buffer.drop 4
  offset := 0

-- Every item advances the offset by at least four, so the length is fuel enough.
def Attrs.collect : ℕ → Attrs → Exec (List Item)
  | 0, _ => .ok []
  | fuel + 1, s => do
    match ← s.next with
    | none => return []
    | some (item, s) =>
      let items ← collect fuel s
      return item :: items

def attrs (buffer : Bytes) : Exec (List Item) := (intoIter buffer).collect (intoIter buffer).length

def attrLenAt (rest : Bytes) (offset : ℕ) : ℕ := ofBE (slice rest (16 + offset + 2) 2)

def endAt (rest : Bytes) (offset : ℕ) : ℕ :=
  offset + 4 + attrLenAt rest offset + padding (attrLenAt rest offset)

def itemAt (typ rest : Bytes) (offset : ℕ) : Item where
  pre := ⟨typ ++ toBE 2 (endAt rest offset), rest.take (16 + offset)⟩
  typ := u16Of (slice rest (16 + offset) 2)
  value := slice rest (16 + offset + 4) (attrLenAt rest offset)

def Attrs.Fits (s : Attrs) : Prop :=
  endAt s.rest s.offset ≤ s.length ∧ 16 + s.offset + 4 + attrLenAt s.rest s.offset ≤ s.rest.length

instance (s : Attrs) : Decidable s.Fits := inferInstanceAs (Decidable (_ ∧ _))

lemma padding_lt (n : ℕ) : padding n < 4 := by unfold padding; omega

lemma Attrs.next_eq (s : Attrs) (h : s.length < 65536) :
    s.next = .ok (if s.Fits then
      some (itemAt s.typ s.rest s.offset, { s with offset := endAt s.rest s.offset })
        else none) := by
  have hlen : ofBE (slice s.rest (16 + s.offset + 2) 2) = attrLenAt s.rest s.offset := rfl
  have hend : endAt s.rest s.offset =
    s.offset + 4 + attrLenAt s.rest s.offset + padding (attrLenAt s.rest s.offset) := rfl
  simp only [next]
  by_cases h₁ : s.length ≤ s.offset
  · rw [if_pos h₁, if_neg (by rintro ⟨_, _⟩; omega), pure_eq_ok]
  rw [if_neg h₁, subChecked_ok (by omega), ok_bind]
  by_cases h₂ : s.length - s.offset < 4
  · rw [if_pos h₂, if_neg (by rintro ⟨_, _⟩; omega), pure_eq_ok]
  rw [if_neg h₂]
  by_cases h₃ : s.rest.length < 16 + s.offset + 4
  · rw [if_pos h₃, if_neg (by rintro ⟨_, _⟩; omega), pure_eq_ok]
  rw [if_neg h₃, readAt_ok (by omega), ok_bind, readAt_ok (by omega), ok_bind,
    subChecked_ok (by omega), ok_bind, readAt_ok (by omega), ok_bind]
  simp only [hlen]
  by_cases h₄ : s.length - s.offset - 4 < attrLenAt s.rest s.offset
  · rw [if_pos h₄, if_neg (by rintro ⟨_, _⟩; omega), pure_eq_ok]
  rw [if_neg h₄, subChecked_ok (by omega), ok_bind]
  by_cases h₅ : s.length - s.offset - 4 - attrLenAt s.rest s.offset <
    padding (attrLenAt s.rest s.offset)
  · rw [if_pos h₅, if_neg (by rintro ⟨_, _⟩; omega), pure_eq_ok]
  rw [if_neg h₅]
  by_cases h₆ : s.rest.length < 16 + s.offset + 4 + attrLenAt s.rest s.offset
  · rw [if_pos h₆, if_neg (by rintro ⟨_, _⟩; omega), pure_eq_ok]
  rw [if_neg h₆, addWithin_ok (by omega), ok_bind, addWithin_ok (by omega), ok_bind, addWithin_ok
    (by omega), ok_bind, readAt_ok (by omega), ok_bind, if_pos ⟨by omega, by omega⟩, slice_zero]
  rfl

def Attrs.items : ℕ → Attrs → List Item
  | 0, _ => []
  | fuel + 1, s =>
    if s.Fits then itemAt s.typ s.rest s.offset ::
      items fuel { s with offset := endAt s.rest s.offset } else []

lemma Attrs.collect_eq (fuel : ℕ) (s : Attrs) (h : s.length < 65536) :
    s.collect fuel = .ok (s.items fuel) := by
  induction fuel generalizing s with
  | zero => rfl
  | succ fuel ih =>
    simp only [collect, items, s.next_eq h, ok_bind]
    by_cases hf : s.Fits
    · simp only [hf, if_true, ih { s with offset := endAt s.rest s.offset } h, ok_bind, pure_eq_ok]
    · simp only [hf, if_false, pure_eq_ok]

lemma Attrs.items_fuel (m n : ℕ) (s : Attrs) (hm : s.length - s.offset ≤ m)
    (hn : s.length - s.offset ≤ n) :
    s.items m = s.items n := by
  induction m generalizing n s with
  | zero =>
    cases n with
    | zero => rfl
    | succ n =>
      have hf : ¬ s.Fits := by
        rintro ⟨hl, _⟩
        unfold endAt at hl
        omega
      simp only [items, hf, if_false]
  | succ m ih =>
    by_cases hf : s.Fits
    · have hl : s.offset + 4 ≤ endAt s.rest s.offset := by unfold endAt; omega
      have hle : endAt s.rest s.offset ≤ s.length := hf.1
      cases n with
      | zero => omega
      | succ n =>
        simp only [items, hf, if_true]
        rw [ih n { s with offset := endAt s.rest s.offset } (by simp only; omega)
          (by simp only; omega)]
    · cases n <;> simp only [items, hf, if_false]

def itemsOf (buffer : Bytes) : List Item := (intoIter buffer).items (intoIter buffer).length

lemma intoIter_length_lt (buffer : Bytes) : (intoIter buffer).length < 65536 := by
  simp only [intoIter]
  split_ifs
  · omega
  · exact lengthAt_lt buffer

lemma attrs_eq (buffer : Bytes) : attrs buffer = .ok (itemsOf buffer) :=
  Attrs.collect_eq _ _ (intoIter_length_lt buffer)

end Masquerade.Stun
