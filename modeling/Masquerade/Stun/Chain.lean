import Masquerade.Stun.Layout

/-! Adapters chained one behind another, the first of them at the message, and what reaches each of
them. -/

namespace Masquerade.Stun

open Lib

structure Adapter where
  A : Type
  dec : AttrDec A
  safe : dec.Safe

def Adapter.typ (a : Adapter) : UInt16 := a.dec.typ

def Parsers : List Adapter → Type
  | [] => Unit
  | a :: as => AttrParser a.A × Parsers as

def Parsers.fresh : (as : List Adapter) → Parsers as
  | [] => ()
  | _ :: as => (⟨true, none⟩, fresh as)

def pass : (as : List Adapter) → Parsers as → Item → Exec (Parsers as × Option Item)
  | [], ps, item => .ok (ps, some item)
  | a :: as, (p, ps), item => do
    let (p, out) ← p.step a.dec item
    match out with
    | none => return ((p, ps), none)
    | some item =>
      let (ps, out) ← pass as ps item
      return ((p, ps), out)

def drain (as : List Adapter) : Parsers as → List Item → Exec (Parsers as × List Item)
  | ps, [] => .ok (ps, [])
  | ps, item :: items => do
    let (ps, out) ← pass as ps item
    let (ps, rest) ← drain as ps items
    return (ps, out.toList ++ rest)

def Adapter.expected (items : List Item) (a : Adapter) : Option a.A :=
  (heard a.typ a.dec.mustPrecede items).bind a.dec.read

def Parsers.Hold (f : (a : Adapter) → Option a.A) : (as : List Adapter) → Parsers as → Prop
  | [], _ => True
  | a :: as, (p, ps) => p.dest = f a ∧ Hold f as ps

def typs (as : List Adapter) : List UInt16 := as.map Adapter.typ

def untaken (as : List Adapter) (items : List Item) : List Item :=
  items.filter fun item => item.typ ∉ typs as

/-- The first attribute for `a` comes behind one that it had to precede, but all such ones have been
taken by the adapters before `a`. -/
structure Outrun (before : List Adapter) (a : Adapter) (items xs : List Item) (x : Item)
    (ys : List Item) : Prop where
  split : items = xs ++ x :: ys
  typ : x.typ = a.typ
  first : ∀ y ∈ xs, y.typ ≠ a.typ
  late : ∃ y ∈ xs, a.dec.mustPrecede y.typ = true
  hidden : ∀ y ∈ xs, a.dec.mustPrecede y.typ = true → y.typ ∈ typs before
  decodes : a.dec.read x ≠ none

def InOrder (as : List Adapter) (items : List Item) : Prop :=
  ∀ before a after, as = before ++ a :: after → ¬ ∃ xs x ys, Outrun before a items xs x ys

section Drain

lemma drain_cons {a : Adapter} {as : List Adapter} {p : AttrParser a.A}
    {ps ps' : Parsers as} {items mid out : List Item} {dest : Option a.A}
    (hrun : AttrParser.run a.dec p items = .ok (dest, mid))
    (hdrain : drain as ps mid = .ok (ps', out)) :
    ∃ p' : AttrParser a.A, p'.dest = dest ∧
      drain (a :: as) (p, ps) items = .ok ((p', ps'), out) := by
  induction items generalizing p ps mid out with
  | nil =>
    rw [AttrParser.run, Except.ok.injEq, Prod.mk.injEq] at hrun
    obtain ⟨hdest, rfl⟩ := hrun
    rw [drain, Except.ok.injEq, Prod.mk.injEq] at hdrain
    obtain ⟨rfl, rfl⟩ := hdrain
    exact ⟨p, hdest, rfl⟩
  | cons item items ih =>
    simp only [AttrParser.run, bind_eq_ok] at hrun
    obtain ⟨⟨p₁, here⟩, hstep, ⟨dest', rest⟩, hrest, hmid⟩ := hrun
    simp only [pure_eq_ok, Except.ok.injEq, Prod.mk.injEq] at hmid
    obtain ⟨rfl, rfl⟩ := hmid
    cases here with
    | none =>
      obtain ⟨p', hdest, hp'⟩ := ih hrest hdrain
      refine ⟨p', hdest, ?_⟩
      simp only [drain, pass, hstep, ok_bind, pure_eq_ok, hp', Option.toList_none, List.nil_append]
    | some item' =>
      simp only [Option.toList_some, List.singleton_append, drain, bind_eq_ok] at hdrain
      obtain ⟨⟨ps₁, out₁⟩, hpass, ⟨ps₂, out₂⟩, hdrain, hout⟩ := hdrain
      simp only [pure_eq_ok, Except.ok.injEq, Prod.mk.injEq] at hout
      obtain ⟨rfl, rfl⟩ := hout
      obtain ⟨p', hdest, hp'⟩ := ih hrest hdrain
      refine ⟨p', hdest, ?_⟩
      simp only [drain, pass, hstep, ok_bind, hpass, pure_eq_ok, hp']

def Parsers.Saw : (as : List Adapter) → Parsers as → List Item → Prop
  | [], _, _ => True
  | a :: as, (p, ps), items => p.dest = a.expected items ∧ Saw as ps (without a.typ items)

lemma untaken_cons (a : Adapter) (as : List Adapter) (items : List Item) :
    untaken (a :: as) items = untaken as (without a.typ items) := by
  rw [untaken, untaken, without, List.filter_filter]
  apply List.filter_congr
  intro item _
  by_cases h : item.typ = a.typ <;> simp [typs, h]

lemma drain_fresh (as : List Adapter) {items : List Item} (h : AfterHeader items) :
    ∃ ps, drain as (.fresh as) items = .ok (ps, untaken as items) ∧ ps.Saw as items := by
  induction as generalizing items with
  | nil =>
    refine ⟨(), ?_, trivial⟩
    have hall : untaken [] items = items := by simp [untaken, typs]
    rw [hall]
    clear h hall
    induction items with
    | nil => rfl
    | cons item items ih =>
      rw [drain, pass, ok_bind]
      simp only
      rw [show (Parsers.fresh [] : Parsers []) = () from rfl] at ih ⊢
      rw [ih, ok_bind]
      rfl
  | cons a as ih =>
    obtain ⟨ps, hps, hsaw⟩ := ih (h.without a.typ)
    have hrun : AttrParser.run a.dec ⟨true, none⟩ items =
      .ok (a.expected items, without a.typ items) := parse_eq a.safe h
    obtain ⟨p, hdest, hp⟩ := drain_cons hrun hps
    exact ⟨(p, ps), by rw [untaken_cons]; exact hp, hdest, hsaw⟩

end Drain

section Outrun

lemma heard_untaken {typ : UInt16} {stops : UInt16 → Bool} (before : List Adapter)
    (h : typ ∉ typs before) (items : List Item) :
    heard typ stops (untaken before items) =
      heard typ (fun t => stops t && decide (t ∉ typs before)) items := by
  induction before generalizing items with
  | nil => simp [untaken, typs]
  | cons b bs ih =>
    simp only [typs, List.map_cons, List.mem_cons, not_or] at h
    rw [untaken_cons, ih h.2, heard_without (Ne.symm h.1)]
    congr 1
    funext t
    by_cases ht : t = b.typ <;> simp [typs, ht]

variable {before : List Adapter} {a : Adapter} {items xs ys : List Item} {x : Item}

lemma Outrun.unexpected (h : Outrun before a items xs x ys) : a.expected items = none := by
  obtain ⟨y, hy, hstop⟩ := h.late
  have hnone : heard a.typ a.dec.mustPrecede items = none := by
    rw [h.split, heard_append_of_mem hy (.inr hstop)]
    exact heard_eq_none h.first
  rw [Adapter.expected, hnone]
  rfl

lemma Outrun.seen (ha : a.typ ∉ typs before) (h : Outrun before a items xs x ys) :
    a.expected (untaken before items) = a.dec.read x := by
  have hsome : heard a.typ a.dec.mustPrecede (untaken before items) = some x := by
    rw [heard_untaken before ha, heard_eq_some_iff]
    refine ⟨h.typ, xs, ys, h.split, fun y hy => ⟨h.first y hy, ?_⟩⟩
    by_cases hstop : a.dec.mustPrecede y.typ = true
    · simp [h.hidden y hy hstop]
    · simp [hstop]
  rw [Adapter.expected, hsome]
  rfl

lemma expected_untaken_iff (ha : a.typ ∉ typs before) :
    a.expected (untaken before items) = a.expected items ↔
      ¬ ∃ xs x ys, Outrun before a items xs x ys := by
  constructor
  · rintro he ⟨xs, x, ys, h⟩
    exact h.decodes ((h.seen ha).symm.trans (he.trans h.unexpected))
  · intro hnot
    cases hseen : heard a.typ a.dec.mustPrecede (untaken before items) with
    | none =>
      cases hheard : heard a.typ a.dec.mustPrecede items with
      | none => rw [Adapter.expected, Adapter.expected, hseen, hheard]
      | some x =>
        -- nothing that stops the search among fewer attributes
        obtain ⟨hx, xs, ys, hsplit, hxs⟩ := heard_eq_some_iff.mp hheard
        have hsome : heard a.typ a.dec.mustPrecede (untaken before items) = some x := by
          rw [heard_untaken before ha, heard_eq_some_iff]
          exact ⟨hx, xs, ys, hsplit, fun y hy => ⟨(hxs y hy).1, by simp [(hxs y hy).2]⟩⟩
        cases hseen.symm.trans hsome
    | some x =>
      rw [heard_untaken before ha, heard_eq_some_iff] at hseen
      obtain ⟨hx, xs, ys, hsplit, hxs⟩ := hseen
      have hhidden : ∀ y ∈ xs, a.dec.mustPrecede y.typ = true → y.typ ∈ typs before := by
        intro y hy hstop
        simpa [hstop] using (hxs y hy).2
      have hseen : a.expected (untaken before items) = a.dec.read x := by
        have hsome : heard a.typ a.dec.mustPrecede (untaken before items) = some x := by
          rw [heard_untaken before ha, heard_eq_some_iff]
          exact ⟨hx, xs, ys, hsplit, hxs⟩
        rw [Adapter.expected, hsome]
        rfl
      by_cases hlate : ∃ y ∈ xs, a.dec.mustPrecede y.typ = true
      · have hread : a.dec.read x = none := by
          by_contra hread
          exact hnot ⟨xs, x, ys, hsplit, hx, fun y hy => (hxs y hy).1, hlate, hhidden, hread⟩
        obtain ⟨y, hy, hstop⟩ := hlate
        rw [hseen, hread, Adapter.expected, hsplit, heard_append_of_mem hy (.inr hstop),
          heard_eq_none fun y hy => (hxs y hy).1]
        rfl
      · have hsome : heard a.typ a.dec.mustPrecede items = some x := by
          rw [heard_eq_some_iff]
          refine ⟨hx, xs, ys, hsplit, fun y hy => ⟨(hxs y hy).1, ?_⟩⟩
          simpa using fun hstop => hlate ⟨y, hy, hstop⟩
        rw [hseen, Adapter.expected, hsome]
        rfl

lemma without_untaken (before : List Adapter) (a : Adapter) (items : List Item) :
    without a.typ (untaken before items) = untaken (before ++ [a]) items := by
  rw [without, untaken, untaken, List.filter_filter]
  apply List.filter_congr
  intro item _
  by_cases h : item.typ = a.typ <;> simp [typs, h]

lemma hold_iff (before as : List Adapter) {ps : Parsers as} {items : List Item}
    (hdistinct : (typs (before ++ as)).Nodup) (hsaw : ps.Saw as (untaken before items)) :
    ps.Hold (Adapter.expected items) as ↔
      ∀ xs a ys, as = xs ++ a :: ys → ¬ ∃ us x vs, Outrun (before ++ xs) a items us x vs := by
  induction as generalizing before with
  | nil => exact iff_of_true trivial fun xs a ys h => by simp at h
  | cons a as ih =>
    obtain ⟨p, ps⟩ := ps
    obtain ⟨hdest, hrest⟩ := hsaw
    rw [without_untaken] at hrest
    have ha : a.typ ∉ typs before := by
      rw [typs, List.map_append, List.map_cons, List.nodup_append] at hdistinct
      exact fun hmem => hdistinct.2.2 _ hmem _ List.mem_cons_self rfl
    have hcons : before ++ a :: as = before ++ [a] ++ as := by simp
    have htail := ih (before ++ [a]) (hcons ▸ hdistinct) hrest
    rw [Parsers.Hold, hdest, expected_untaken_iff ha, htail]
    constructor
    · rintro ⟨hhead, htail⟩ xs b ys hsplit
      cases xs with
      | nil =>
        obtain ⟨rfl, rfl⟩ := List.cons.inj hsplit
        rwa [List.append_nil]
      | cons x xs =>
        obtain ⟨rfl, rfl⟩ := List.cons.inj hsplit
        have := htail xs b ys rfl
        rwa [List.append_assoc, List.singleton_append] at this
    · intro hall
      refine ⟨by simpa using hall [] a as rfl, fun xs b ys hsplit => ?_⟩
      rw [List.append_assoc, List.singleton_append]
      exact hall (a :: xs) b ys (by rw [hsplit, List.cons_append])

lemma inOrder_of_pairwise {as : List Adapter}
    (h : as.Pairwise fun b a => a.dec.mustPrecede b.typ = false) (items : List Item) :
    InOrder as items := by
  rintro before a after rfl ⟨xs, x, ys, hout⟩
  obtain ⟨y, hy, hstop⟩ := hout.late
  obtain ⟨b, hb, hby⟩ := List.mem_map.mp (hout.hidden y hy hstop)
  have hfalse := (List.pairwise_append.mp h).2.2 b hb a List.mem_cons_self
  rw [hby, hstop] at hfalse
  cases hfalse

end Outrun

theorem chain_parses_iff (as : List Adapter) (hdistinct : (typs as).Nodup) {items : List Item}
    (h : AfterHeader items) :
    ∃ ps, drain as (.fresh as) items = .ok (ps, items.filter fun item => item.typ ∉ typs as) ∧
      (ps.Hold (Adapter.expected items) as ↔ InOrder as items) := by
  obtain ⟨ps, hps, hsaw⟩ := drain_fresh as h
  have hall : untaken [] items = items := by simp [untaken, typs]
  exact ⟨ps, hps, hold_iff [] as hdistinct (hall.symm ▸ hsaw)⟩

def lifetimeAdapter : Adapter := ⟨UInt32, lifetime, numeric_safe _ _ _⟩

def messageIntegrityAdapter : Adapter := ⟨Integrity 20, messageIntegrity, integrity_safe _ _⟩

def lateLifetime : Bytes :=
  [0x00, 0x04, 0x00, 0x20, 0x21, 0x12, 0xA4, 0x42, 1, 2, 3, 4, 5, 6, 7, 8, 9, 10, 11, 12,
    0x00, 0x08, 0x00, 0x14, 1, 2, 3, 4, 5, 6, 7, 8, 9, 10, 11, 12, 13, 14, 15, 16, 17, 18, 19, 20,
    0x00, 0x0D, 0x00, 0x04, 0, 0, 0, 5]

theorem chain_parses_iff_lifetimeFirst :
    ∃ ps : Parsers [lifetimeAdapter, messageIntegrityAdapter],
      drain _ (.fresh _) (itemsOf lateLifetime) = .ok (ps, []) ∧
        ps.Hold (Adapter.expected (itemsOf lateLifetime))
          [lifetimeAdapter, messageIntegrityAdapter] := by
  obtain ⟨ps, hps, hiff⟩ := chain_parses_iff [lifetimeAdapter, messageIntegrityAdapter] (by decide)
    (itemsOf_afterHeader (b := lateLifetime) (by decide))
  have hnone : ((itemsOf lateLifetime).filter fun item =>
      item.typ ∉ typs [lifetimeAdapter, messageIntegrityAdapter]) = [] := by
    decide +kernel
  rw [hnone] at hps
  refine ⟨ps, hps, hiff.mpr (inOrder_of_pairwise ?_ _)⟩
  simp only [List.pairwise_cons, List.mem_singleton, forall_eq, List.not_mem_nil, false_implies,
    implies_true, List.Pairwise.nil, and_true]
  decide

/-- Behind the adapter that takes the MESSAGE_INTEGRITY, that of LIFETIME does not know that it came
too late. -/
theorem order_of_adapters_matters :
    ∃ (ps : Parsers [messageIntegrityAdapter, lifetimeAdapter])
      (qs : Parsers [lifetimeAdapter, messageIntegrityAdapter]),
      drain _ (.fresh _) (itemsOf lateLifetime) = .ok (ps, []) ∧
      drain _ (.fresh _) (itemsOf lateLifetime) = .ok (qs, []) ∧
      ps.2.1.dest = some (5 : UInt32) ∧ qs.1.dest = none ∧ ¬ ps.Hold
      (Adapter.expected (itemsOf lateLifetime)) [messageIntegrityAdapter, lifetimeAdapter] := by
  have hafter := itemsOf_afterHeader (b := lateLifetime) (by decide)
  obtain ⟨ps, hps, -, hlate, -⟩ := drain_fresh [messageIntegrityAdapter, lifetimeAdapter] hafter
  obtain ⟨qs, hqs, hfirst, -⟩ := drain_fresh [lifetimeAdapter, messageIntegrityAdapter] hafter
  have hnone : (heard lifetime.typ lifetime.mustPrecede (itemsOf lateLifetime)).bind lifetime.read =
      none := by
    decide +kernel
  have hsome : (heard lifetime.typ lifetime.mustPrecede
      (without messageIntegrity.typ (itemsOf lateLifetime))).bind lifetime.read = some 5 := by
    decide +kernel
  have hempty : untaken [messageIntegrityAdapter, lifetimeAdapter] (itemsOf lateLifetime) = [] := by
    decide +kernel
  have hempty' : untaken [lifetimeAdapter, messageIntegrityAdapter] (itemsOf lateLifetime) =
      [] := by
    decide +kernel
  refine ⟨ps, qs, hempty ▸ hps, hempty' ▸ hqs, hlate.trans hsome, hfirst.trans hnone, ?_⟩
  rintro ⟨-, hheld, -⟩
  cases (hlate.trans hsome).symm.trans (hheld.trans hnone)

end Masquerade.Stun
