import Masquerade.Stun.Layout
import Masquerade.Stun.RoundTrip

/-! What is heard in a message, in terms of the attributes that it was composed of. -/

namespace Masquerade.Stun

open Lib

section

variable [Crypto]

structure Composed (buffer : Bytes) (as : List Attribute) (m : Bytes)
    (items : List Item) : Prop where
  built : Built m items
  typ : typAt m = typAt buffer
  fixed : slice m 4 16 = slice buffer 4 16
  wrote : List.Forall₂ Attribute.Wrote as items

lemma Attribute.append_extends {a : Attribute} (ha : a.FromCallers)
    {m tail b : Bytes} {items : List Item} {item : Item} (hm : Built m items)
    (h : a.append (m ++ tail) = .ok (.ok (b, item))) :
    ∃ m' tail', b = m' ++ tail' ∧ Extends m items m' [item] ∧ a.Wrote item := by
  obtain ⟨n, f, hw, -⟩ := a.faithful ha h
  obtain ⟨hn, ht⟩ := appendTraced_room hw hm.whole h
  rw [← Attribute.size_eq hw] at ht
  obtain ⟨m', item', hext, hwrote, -, happend⟩ :=
    Attribute.append_grows ⟨n, f, hw⟩ hm (by rw [Attribute.size_eq hw]; omega)
  rw [happend tail ht] at h
  simp only [Except.ok.injEq, Prod.mk.injEq] at h
  obtain ⟨rfl, rfl⟩ := h
  exact ⟨_, _, rfl, hext, hwrote⟩

lemma appendAll_extends (as : List Attribute) (hc : ∀ a ∈ as, a.FromCallers)
    {m tail b : Bytes} {items new : List Item} (hm : Built m items)
    (h : appendAll as (m ++ tail) = .ok (.ok (b, new))) :
    ∃ m' tail', b = m' ++ tail' ∧ Extends m items m' new ∧ List.Forall₂ Attribute.Wrote as new := by
  induction as generalizing m tail items new with
  | nil =>
    simp only [appendAll, Except.ok.injEq, Prod.mk.injEq] at h
    obtain ⟨rfl, rfl⟩ := h
    exact ⟨m, tail, rfl, ⟨by simpa using hm, rfl, rfl⟩, .nil⟩
  | cons a as ih =>
    obtain ⟨b₁, item, new', ha, has, rfl⟩ := appendAll_cons h
    obtain ⟨m₁, tail₁, rfl, hext₁, hwrote⟩ :=
      Attribute.append_extends (hc a List.mem_cons_self) hm ha
    obtain ⟨m', tail', rfl, hext', hall⟩ :=
      ih (fun x hx => hc x (List.mem_cons_of_mem _ hx)) hext₁.built has
    exact ⟨m', tail', rfl, hext₁.trans hext', .cons hwrote hall⟩

lemma appendAll_composed {buffer b : Bytes} (hb : 20 ≤ buffer.length)
    (htop : typAt buffer >>> 14 = 0) (hcookie : cookieAt buffer = magicCookie)
    (hlen : lengthAt buffer = 0) {as : List Attribute} (hc : ∀ a ∈ as, a.FromCallers)
    {items : List Item} (h : appendAll as buffer = .ok (.ok (b, items))) :
    ∃ m tail, b = m ++ tail ∧ Composed buffer as m items := by
  rw [← List.take_append_drop 20 buffer] at h
  obtain ⟨m, tail, rfl, hext, hall⟩ := appendAll_extends as hc (Built.header hb htop hcookie hlen) h
  have hbuilt := hext.built
  rw [List.nil_append] at hbuilt
  have htyp := hext.typ
  rw [List.take_take, min_eq_left (by norm_num)] at htyp
  have hfixed := hext.fixed
  rw [slice_take (by norm_num)] at hfixed
  exact ⟨m, tail, rfl, hbuilt, by rw [typAt, typAt, slice_zero, slice_zero, htyp], hfixed, hall⟩

end

section Picks

variable [Crypto] {A : Type}

lemma heard_none_of_wrote {as : List Attribute} {items : List Item} {typ : UInt16}
    {stops : UInt16 → Bool} (hwrote : List.Forall₂ Attribute.Wrote as items)
    (h : ∀ a ∈ as, a.typ ≠ typ) : heard typ stops items = none := by
  apply heard_eq_none
  intro item hitem ht
  have hmem := List.mem_map_of_mem (f := Item.typ) hitem
  rw [wrote_typs hwrote, ht] at hmem
  obtain ⟨a, ha, hat⟩ := List.mem_map.mp hmem
  exact h a ha hat

structure Picks (dec : AttrDec A) (f : Attribute → Option A) : Prop where
  typ : ∀ a, a.typ = dec.typ ↔ (f a).isSome
  reads : ∀ a x, f a = some x → a.FromCallers → ∀ item, a.Wrote item → dec.read item = some x

variable {dec : AttrDec A} {f : Attribute → Option A} {stops : UInt16 → Bool}
  {front back : List Attribute} {items : List Item}

lemma Picks.of_readsBack (htyp : ∀ a, (a.typ == dec.typ) = (f a).isSome)
    (hknown : dec.typ ≠ Typ.unknownAttributes) (hdecode : ∀ a x, f a = some x →
      ∀ p v, a.ReadsBack p v → dec.decode p v = .ok (.ok x)) : Picks dec f where
  typ a := by rw [← htyp, beq_iff_eq]
  reads a x hx hc item hw := by
    obtain hfaithful | ⟨n, words, rfl⟩ := Attribute.faithful_or_unknown hc
    · have hback := hfaithful.readsBack hw
      rw [AttrDec.read_eq (hdecode a x hx _ _ hback)]
      rfl
    · have hunknown := htyp (.unknownAttributes n words)
      rw [hx, Option.isSome_some, beq_iff_eq] at hunknown
      exact absurd hunknown.symm hknown

lemma Picks.none_iff (h : Picks dec f) (a : Attribute) : f a = none ↔ a.typ ≠ dec.typ := by
  rw [Ne, h.typ, Option.not_isSome_iff_eq_none]

lemma Picks.heard (h : Picks dec f) (hc : ∀ a ∈ front, a.FromCallers)
    (hstops : ∀ a ∈ front, stops a.typ = false) (hback : ∀ a ∈ back, a.typ ≠ dec.typ)
    (hwrote : List.Forall₂ Attribute.Wrote (front ++ back) items) :
    (heard dec.typ stops items).bind dec.read = front.findSome? f := by
  induction front generalizing items with
  | nil =>
    rw [heard_none_of_wrote hwrote hback]
    rfl
  | cons a front ih =>
    obtain ⟨item, rest, hi, hrest, rfl⟩ := List.forall₂_cons_left_iff.mp hwrote
    have hrec := ih (fun x hx => hc x (List.mem_cons_of_mem _ hx))
      (fun x hx => hstops x (List.mem_cons_of_mem _ hx)) hrest
    rw [heard_cons, hi.typ, hstops a List.mem_cons_self, if_neg Bool.false_ne_true,
      List.findSome?_cons]
    cases hf : f a with
    | some x =>
      rw [if_pos ((h.typ a).mpr (by rw [hf]; rfl))]
      exact h.reads a x hf (hc a List.mem_cons_self) item hi
    | none =>
      rw [if_neg ((h.none_iff a).mp hf)]
      exact hrec

end Picks

section Values

namespace Attribute

def username? : Attribute → Option Str
  | username s => some s
  | _ => none

def realm? : Attribute → Option Str
  | realm s => some s
  | _ => none

def nonce? : Attribute → Option Str
  | nonce s => some s
  | _ => none

def errorCode? : Attribute → Option (UInt16 × Str)
  | errorCode code reason => some (code, reason)
  | _ => none

def xorMappedAddress? : Attribute → Option SocketAddr
  | xorMappedAddress a => some a
  | _ => none

def xorRelayedAddress? : Attribute → Option SocketAddr
  | xorRelayedAddress a => some a
  | _ => none

def lifetime? : Attribute → Option UInt32
  | lifetime n => some n
  | _ => none

def requestedTransport? : Attribute → Option UInt8
  | requestedTransport b => some b
  | _ => none

def iceControlled? : Attribute → Option UInt64
  | iceControlled n => some n
  | _ => none

def iceControlling? : Attribute → Option UInt64
  | iceControlling n => some n
  | _ => none

def priority? : Attribute → Option UInt32
  | priority n => some n
  | _ => none

end Attribute

variable [Crypto]

omit [Crypto] in
lemma typ_ne {x y : UInt16} (h : (x == y) = false) : x ≠ y := beq_eq_false_iff_ne.mp h

lemma picks_username : Picks Stun.username Attribute.username? := by
  refine .of_readsBack (fun a => ?_) (by decide) (fun a x hx p v hback => ?_)
  · cases a <;> rfl
  · cases a <;> cases hx
    exact hback

lemma picks_realm : Picks Stun.realm Attribute.realm? := by
  refine .of_readsBack (fun a => ?_) (by decide) (fun a x hx p v hback => ?_)
  · cases a <;> rfl
  · cases a <;> cases hx
    exact hback

lemma picks_nonce : Picks Stun.nonce Attribute.nonce? := by
  refine .of_readsBack (fun a => ?_) (by decide) (fun a x hx p v hback => ?_)
  · cases a <;> rfl
  · cases a <;> cases hx
    exact hback

lemma picks_errorCode : Picks Stun.errorCode Attribute.errorCode? := by
  refine .of_readsBack (fun a => ?_) (by decide) (fun a x hx p v hback => ?_)
  · cases a <;> rfl
  · cases a <;> cases hx
    exact hback

lemma picks_xorMappedAddress : Picks Stun.xorMappedAddress Attribute.xorMappedAddress? := by
  refine .of_readsBack (fun a => ?_) (by decide) (fun a x hx p v hback => ?_)
  · cases a <;> rfl
  · cases a <;> cases hx
    exact hback

lemma picks_xorRelayedAddress : Picks Stun.xorRelayedAddress Attribute.xorRelayedAddress? := by
  refine .of_readsBack (fun a => ?_) (by decide) (fun a x hx p v hback => ?_)
  · cases a <;> rfl
  · cases a <;> cases hx
    exact hback

lemma picks_lifetime : Picks Stun.lifetime Attribute.lifetime? := by
  refine .of_readsBack (fun a => ?_) (by decide) (fun a x hx p v hback => ?_)
  · cases a <;> rfl
  · cases a <;> cases hx
    exact hback

lemma picks_requestedTransport : Picks Stun.requestedTransport Attribute.requestedTransport? := by
  refine .of_readsBack (fun a => ?_) (by decide) (fun a x hx p v hback => ?_)
  · cases a <;> rfl
  · cases a <;> cases hx
    exact hback

lemma picks_iceControlled : Picks Stun.iceControlled Attribute.iceControlled? := by
  refine .of_readsBack (fun a => ?_) (by decide) (fun a x hx p v hback => ?_)
  · cases a <;> rfl
  · cases a <;> cases hx
    exact hback

lemma picks_iceControlling : Picks Stun.iceControlling Attribute.iceControlling? := by
  refine .of_readsBack (fun a => ?_) (by decide) (fun a x hx p v hback => ?_)
  · cases a <;> rfl
  · cases a <;> cases hx
    exact hback

lemma picks_priority : Picks Stun.priority Attribute.priority? := by
  refine .of_readsBack (fun a => ?_) (by decide) (fun a x hx p v hback => ?_)
  · cases a <;> rfl
  · cases a <;> cases hx
    exact hback

end Values

end Masquerade.Stun
