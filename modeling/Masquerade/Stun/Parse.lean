import Masquerade.Stun.Attrs
import Masquerade.Stun.CodecLaws

/-! The adapters that pick the known attributes out of the iteration, and what each of them
hears. -/

namespace Masquerade.Stun

open Lib

variable {A : Type}

def comprehensionRequired (typ : UInt16) : Bool := typ < 0x8000

structure AttrParser (A : Type) where
  armed : Bool
  dest : Option A

def AttrParser.step (dec : AttrDec A) (s : AttrParser A) (item : Item) :
    Exec (AttrParser A × Option Item) := do
  if item.typ = dec.typ then
    if s.armed then
      let r ← dec.decode item.pre item.value
      return (⟨false, r.toOption⟩, none)
    else
      return (s, none)
  else if dec.mustPrecede item.typ then
    return ({ s with armed := false }, some item)
  else
    return (s, some item)

def AttrParser.run (dec : AttrDec A) : AttrParser A → List Item → Exec (Option A × List Item)
  | s, [] => .ok (s.dest, [])
  | s, item :: items => do
    let (s, out) ← s.step dec item
    let (dest, rest) ← run dec s items
    return (dest, out.toList ++ rest)

/-- `AttrIter::parse` run to the end: the destination, and the attributes it passes on. -/
def parse (dec : AttrDec A) (items : List Item) : Exec (Option A × List Item) :=
  AttrParser.run dec ⟨true, none⟩ items

def enterSlot (typ : UInt16) : List UInt16 → List UInt16
  | [] => []
  | d :: ds => if d = typ then d :: ds else if d = 0 then typ :: ds else d :: enterSlot typ ds

def unknownSlots (n : ℕ) (items : List Item) : List UInt16 :=
  items.foldl (fun ret item => if comprehensionRequired item.typ then enterSlot item.typ ret else
    ret) (List.replicate n 0)

@[simp] lemma enterSlot_length (typ : UInt16) (ds : List UInt16) :
    (enterSlot typ ds).length = ds.length := by
  induction ds with
  | nil => rfl
  | cons d ds ih =>
    simp only [enterSlot]
    split_ifs <;> simp [ih]

lemma foldl_enterSlot_length (items : List Item) (ds : List UInt16) :
    (items.foldl (fun ret item => if comprehensionRequired item.typ then enterSlot item.typ ret else
      ret) ds).length =
      ds.length := by
  induction items generalizing ds with
  | nil => rfl
  | cons item items ih =>
    rw [List.foldl_cons, ih]
    split_ifs <;> simp

lemma unknownSlots_length (n : ℕ) (items : List Item) : (unknownSlots n items).length = n := by
  rw [unknownSlots, foldl_enterSlot_length, List.length_replicate]

def collectUnknown (n : ℕ) (items : List Item) : Option (List.Vector UInt16 n) :=
  if (unknownSlots n items).all (fun t => t == 0) then none else some
    ⟨unknownSlots n items, unknownSlots_length n items⟩

lemma enterSlot_zerosTrail (typ : UInt16) {ds : List UInt16} (h : ZerosTrail ds) :
    ZerosTrail (enterSlot typ ds) := by
  obtain ⟨xs, k, rfl, hx⟩ := h
  induction xs with
  | nil =>
    cases k with
    | zero => exact ⟨[], 0, rfl, List.not_mem_nil⟩
    | succ k =>
      by_cases ht : typ = 0
      · exact ⟨[], k + 1, by simp [enterSlot, List.replicate_succ, ht], List.not_mem_nil⟩
      · exact ⟨[typ], k, by simp [enterSlot, List.replicate_succ, Ne.symm ht],
          by simpa using Ne.symm ht⟩
  | cons x xs ih =>
    simp only [List.mem_cons, not_or] at hx
    obtain ⟨ys, j, hy, hz⟩ := ih hx.2
    simp only [List.cons_append, enterSlot, if_neg (Ne.symm hx.1)]
    split_ifs with ht
    · exact ⟨x :: xs, k, rfl, by simpa using hx⟩
    · exact ⟨x :: ys, j, by rw [hy]; rfl, by simpa using ⟨hx.1, hz⟩⟩

lemma foldl_enterSlot_zerosTrail (items : List Item) {ds : List UInt16} (h : ZerosTrail ds) :
    ZerosTrail (items.foldl
      (fun ret item => if comprehensionRequired item.typ then enterSlot item.typ ret else
        ret) ds) := by
  induction items generalizing ds with
  | nil => exact h
  | cons item items ih =>
    rw [List.foldl_cons]
    apply ih
    split_ifs
    · exact enterSlot_zerosTrail _ h
    · exact h

lemma collectUnknown_zerosTrail {n : ℕ} {items : List Item} {words : List.Vector UInt16 n}
    (h : collectUnknown n items = some words) : ZerosTrail words.toList := by
  simp only [collectUnknown, Option.ite_none_left_eq_some] at h
  rw [← Option.some.inj h.2]
  exact foldl_enterSlot_zerosTrail items ⟨[], n, rfl, List.not_mem_nil⟩

section Heard

def heard (typ : UInt16) (stops : UInt16 → Bool) (items : List Item) : Option Item :=
  (items.find? fun item => item.typ == typ || stops item.typ).filter fun item => item.typ == typ

def AttrDec.read (dec : AttrDec A) (item : Item) : Option A :=
  match dec.decode item.pre item.value with
  | .ok (.ok a) => some a
  | _ => none

def AfterHeader (items : List Item) : Prop := ∀ item ∈ items, 16 ≤ item.pre.bytes.length

def without (typ : UInt16) (items : List Item) : List Item :=
  items.filter fun item => item.typ != typ

variable {typ : UInt16} {stops : UInt16 → Bool}

lemma heard_cons (item : Item) (items : List Item) : heard typ stops (item :: items) =
    if item.typ = typ then some item
    else if stops item.typ then none else heard typ stops items := by
  simp only [heard, List.find?_cons]
  by_cases ht : item.typ = typ
  · simp [ht]
  · have hb : (item.typ == typ) = false := by simpa using ht
    by_cases hs : stops item.typ <;> simp [ht, hb, hs]

lemma AttrDec.read_eq {dec : AttrDec A} {item : Item} {r : Except dec.Err A}
    (h : dec.decode item.pre item.value = .ok r) : dec.read item = r.toOption := by
  rw [read, h]
  cases r <;> rfl

lemma run_eq {dec : AttrDec A} (hd : dec.Safe) {items : List Item} (h : AfterHeader items)
    (armed : Bool) (dest : Option A) : AttrParser.run dec ⟨armed, dest⟩ items =
      .ok (if armed then ((heard dec.typ dec.mustPrecede items).map dec.read).getD dest else dest,
        without dec.typ items) := by
  induction items generalizing armed dest with
  | nil => cases armed <;> rfl
  | cons item items ih =>
    have hi := h item List.mem_cons_self
    have hrest : AfterHeader items := fun x hx => h x (List.mem_cons_of_mem _ hx)
    simp only [AttrParser.run, AttrParser.step, heard_cons, without, List.filter_cons]
    by_cases ht : item.typ = dec.typ
    · cases armed with
      | false => simp [ht, ih hrest, without]
      | true =>
        obtain ⟨r, hr⟩ := hd item.pre item.value hi
        simp [ht, hr, ih hrest, without, AttrDec.read_eq hr]
    · by_cases hs : dec.mustPrecede item.typ = true
      · simp [ht, hs, ih hrest, without]
      · simp [ht, hs, ih hrest, without]

lemma parse_eq {dec : AttrDec A} (hd : dec.Safe) {items : List Item} (h : AfterHeader items) :
    parse dec items = .ok ((heard dec.typ dec.mustPrecede items).bind dec.read,
      without dec.typ items) := by
  rw [parse, run_eq hd h, if_pos rfl]
  cases heard dec.typ dec.mustPrecede items <;> rfl

lemma AfterHeader.without {items : List Item} (h : AfterHeader items) (t : UInt16) :
    AfterHeader (without t items) :=
  fun item hi => h item (List.mem_of_mem_filter hi)

lemma heard_without {t : UInt16} (ht : t ≠ typ) (items : List Item) :
    heard typ stops (without t items) = heard typ (fun x => stops x && x != t) items := by
  induction items with
  | nil => rfl
  | cons item items ih =>
    rw [without, List.filter_cons]
    by_cases hi : item.typ = t
    · simp [hi, heard_cons, ht, ← ih, without]
    · simp [hi, heard_cons, ← ih, without]

lemma heard_append_of_mem {stop : Item} {xs ys : List Item} (hs : stop ∈ xs)
    (h : stop.typ = typ ∨ stops stop.typ) : heard typ stops (xs ++ ys) = heard typ stops xs := by
  have hf : ∃ x, xs.find? (fun item => item.typ == typ || stops item.typ) = some x := by
    rw [← Option.isSome_iff_exists, List.find?_isSome]
    exact ⟨stop, hs, by simpa using h⟩
  obtain ⟨x, hx⟩ := hf
  rw [heard, heard, List.find?_append, hx, Option.some_or]

lemma heard_stopped {stop : Item} (ht : stop.typ ≠ typ) (hs : stops stop.typ = true)
    (xs : List Item) :
    heard typ stops (xs ++ [stop]) = heard typ stops xs := by
  induction xs with
  | nil => rw [List.nil_append, heard_cons, if_neg ht, if_pos hs]; rfl
  | cons x xs ih => rw [List.cons_append, heard_cons, heard_cons, ih]

lemma heard_append_of_not {xs : List Item} (h : ∀ x ∈ xs, x.typ ≠ typ ∧ stops x.typ = false)
    (ys : List Item) :
    heard typ stops (xs ++ ys) = heard typ stops ys := by
  induction xs with
  | nil => rfl
  | cons x xs ih =>
    rw [List.forall_mem_cons] at h
    rw [List.cons_append, heard_cons, if_neg h.1.1, h.1.2]
    exact ih h.2

lemma heard_mem {items : List Item} {item : Item} (h : heard typ stops items = some item) :
    item ∈ items ∧ item.typ = typ := by
  rw [heard, Option.filter_eq_some_iff] at h
  exact ⟨List.mem_of_find?_eq_some h.1, by simpa using h.2⟩

lemma heard_eq_none {items : List Item} (h : ∀ x ∈ items, x.typ ≠ typ) :
    heard typ stops items = none := by
  cases hh : heard typ stops items with
  | none => rfl
  | some item => exact absurd (heard_mem hh).2 (h item (heard_mem hh).1)

lemma heard_eq_some_iff {items : List Item} {item : Item} : heard typ stops items = some item ↔
    item.typ = typ ∧ ∃ before after, items = before ++ item :: after ∧
      ∀ x ∈ before, x.typ ≠ typ ∧ stops x.typ = false := by
  rw [heard, Option.filter_eq_some_iff, List.find?_eq_some_iff_append]
  constructor
  · rintro ⟨⟨-, before, after, rfl, hb⟩, ht⟩
    exact ⟨by simpa using ht, before, after, rfl, fun x hx => by simpa using hb x hx⟩
  · rintro ⟨ht, before, after, rfl, hb⟩
    exact ⟨⟨by simp [ht], before, after, rfl, fun x hx => by simpa using hb x hx⟩, by simp [ht]⟩

end Heard

end Masquerade.Stun
