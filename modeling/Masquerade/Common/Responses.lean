import Masquerade.Common.Handled
import Masquerade.Common.Stale

/-! The handler never panics, and each of its responses is a message of its own. -/

namespace Masquerade.Common

open Lib Stun Wire

section

variable [Crypto]

lemma Attribute.Wrote.size {a : Attribute} {item : Item} (h : a.Wrote item) (ha : a.Writable) :
    item.size = a.size := by
  obtain ⟨n, f, hw⟩ := ha
  have hv : item.value.length = n := by
    rw [h.value n f hw]
    exact hw.size _ h.afterHeader
  rw [Item.size, Attribute.size_eq hw, hv]

lemma wrote_cost {as : List Attribute} {items : List Item}
    (h : List.Forall₂ Attribute.Wrote as items) (ha : ∀ a ∈ as, a.Writable) :
    (items.map Item.size).sum = cost as := by
  induction h with
  | nil => rfl
  | @cons a item as items hwrote _ ih =>
    have hsize := Attribute.Wrote.size hwrote (ha a List.mem_cons_self)
    have hrest := ih fun x hx => ha x (List.mem_cons_of_mem _ hx)
    rw [cost] at hrest ⊢
    rw [List.map_cons, List.sum_cons, List.map_cons, List.sum_cons, hsize, hrest]

lemma Response.length_le {b m : Bytes} {c : Stun.Class} {as : List Attribute} {items : List Item}
    {k : ℕ} (h : Response b c as m items) (hfits : Fits k as) : m.length ≤ 20 + k := by
  have hstop := h.built.covers.stop_eq
  have hcost := wrote_cost h.wrote hfits.writable
  have hle := hfits.cost
  have hml := h.built.length
  omega

omit [Crypto] in
lemma built_last {m : Bytes} {items : List Item} (h : Built m items) (tail : Bytes) :
    ∃ it, (intoIter (m ++ tail)).last m.length = .ok it ∧ it.next = .ok none ∧
      it.offset + 20 = m.length := by
  have hml := h.length
  have hlt := lengthAt_lt m
  have hiter : intoIter (m ++ tail) = ⟨m.take 2, lengthAt m, m.drop 4 ++ tail, 0⟩ := by
    rw [intoIter_eq (by simp; omega), List.take_append_of_le_length (by omega),
      lengthAt_append tail (by omega), List.drop_append_of_le_length (by omega)]
  have hcovers : Covers (m.take 2) (m.drop 4 ++ tail) 0 items (lengthAt m) := by
    apply h.covers.congr
    have hb : (m.drop 4).length = 16 + lengthAt m := by simp; omega
    rw [← hb, List.take_length, List.take_left]
  refine ⟨⟨m.take 2, lengthAt m, m.drop 4 ++ tail, lengthAt m⟩, ?_, ?_, ?_⟩
  · rw [hiter]
    exact hcovers.last_eq hlt (by omega)
  · rw [Attrs.next_eq _ hlt, if_neg]
    rintro ⟨hl, _⟩
    simp only [endAt] at hl
    omega
  · simp only
    omega

lemma arm_class {canonical : SocketAddr} {relayed : SocketAddrV6} {method : Method} {a : TurnAttrs}
    {c : Stun.Class} {as : List Attribute} (h : Arm canonical relayed method a c as) :
    c = .success ∨ c = .error := by
  cases h <;> simp

lemma response_wellFormed {canonical : SocketAddr} {relayed : SocketAddrV6} {b m tail : Bytes}
    {c : Stun.Class} {as : List Attribute} {items : List Item} (hb : 20 ≤ b.length)
    (harm : Arm canonical relayed (methodAt b) (turnAttrs (itemsOf b)) c as)
    (h : Response b c as m items) :
    ∃ l, len (m ++ tail) = .ok l ∧ l ≤ 100 ∧ decode (m ++ tail) l = .ok (.ok ()) ∧
      rawMethod (m ++ tail) = rawMethod b ∧ cookie (m ++ tail) = cookie b ∧
      txid (m ++ tail) = txid b ∧
      (msgClass (m ++ tail) = .ok .success ∨ msgClass (m ++ tail) = .ok .error) ∧
      ∃ it, (intoIter (m ++ tail)).last l = .ok it ∧ it.next = .ok none ∧ it.offset + 20 = l := by
  have hml := h.built.length
  have hlen : (m ++ tail).length = m.length + tail.length := List.length_append
  have htyp : typAt (m ++ tail) = withClass (typAt b) c := by
    rw [typAt_append tail (by omega), h.typ]
  have hfixed : slice (m ++ tail) 4 16 = slice b 4 16 := by
    rw [slice_append_left (by omega), h.fixed]
  have hcookie : cookieAt (m ++ tail) = cookieAt b := by
    have hfour : ∀ x : Bytes, slice x 4 4 = (slice x 4 16).take 4 := fun x => by
      rw [slice, slice, List.take_take, min_eq_left (by norm_num)]
    rw [cookieAt, cookieAt, hfour, hfour, hfixed]
  have hclass : msgClass (m ++ tail) = .ok c := by
    rw [msgClass_ok (by omega), htyp, classOf_withClass]
  refine ⟨m.length, h.built.len tail, ?_, h.built.decode tail, ?_, ?_, ?_, ?_,
    built_last h.built tail⟩
  · exact h.length_le (harm.fits fun u hu => collectUnknown_zerosTrail hu)
  · simp only [rawMethod, typ_ok (show 2 ≤ (m ++ tail).length by omega),
      typ_ok (show 2 ≤ b.length by omega), ok_bind, htyp, rawMethodOf_withClass]
  · rw [cookie_ok (by omega), cookie_ok (by omega), hcookie]
  · rw [txid_ok (by omega), txid_ok (by omega), txidAt_eq hfixed]
  · rcases arm_class harm with rfl | rfl
    · exact .inl hclass
    · exact .inr hclass

theorem handleTurn_total (canonical : SocketAddr) (relayed : SocketAddrV6) {b : Bytes} {n : ℕ}
    (h100 : 100 ≤ b.length) (hdec : decode b n = .ok (.ok ())) :
    ∃ o, handleTurn canonical relayed b = .ok o ∧
      (o.reply = true → msgClass b = .ok .request ∧ txid b ≠ .ok (List.replicate 12 0) ∧
        ∃ l, len o.buffer = .ok l ∧ l ≤ 100 ∧ decode o.buffer l = .ok (.ok ()) ∧
          rawMethod o.buffer = rawMethod b ∧ cookie o.buffer = cookie b ∧ txid o.buffer = txid b ∧
          (msgClass o.buffer = .ok .success ∨ msgClass o.buffer = .ok .error) ∧
          ∃ it, (intoIter o.buffer).last l = .ok it ∧ it.next = .ok none ∧
            it.offset + 20 = l) := by
  have h : Decodable b n := ⟨le_of_decode hdec, hdec⟩
  obtain ⟨obs, hobs⟩ := handleTurn_observed canonical relayed h
  obtain ⟨o, ho, -⟩ := hobs b rfl h.1 h100
  refine ⟨o, ho, fun hreply => ?_⟩
  obtain ⟨c, as, m, items, tail, hzero, hclass, harm, rfl, hm⟩ := handleTurn_reply h h100 ho hreply
  refine ⟨?_, ?_, response_wellFormed h.header.length harm hm⟩
  · rw [msgClass_ok (by omega)]
    exact congrArg Except.ok hclass
  · rw [txid_ok (by omega)]
    exact fun he => hzero (Except.ok.inj he)

end

theorem handleTurn_total_binding :
    letI : Crypto := .recorded [] [] []
    decode (bindingRequest ++ List.replicate 80 0) 20 = .ok (.ok ()) ∧
      ∃ o, handleTurn (.v4 ⟨0x7F000001, 4000⟩) ⟨1, 32768, 0, 0⟩
        (bindingRequest ++ List.replicate 80 0) = .ok o ∧
        o.reply = true ∧ ∃ l, len o.buffer = .ok l ∧ l ≤ 100 ∧
          decode o.buffer l = .ok (.ok ()) := by
  let _ : Crypto := .recorded [] [] []
  have hdec : decode (bindingRequest ++ List.replicate 80 0) 20 = .ok (.ok ()) := by decide +kernel
  obtain ⟨o, ho, hwell⟩ := handleTurn_total (.v4 ⟨0x7F000001, 4000⟩) ⟨1, 32768, 0, 0⟩
    (b := bindingRequest ++ List.replicate 80 0) (by decide) hdec
  have hreply : (handleTurn (.v4 ⟨0x7F000001, 4000⟩) ⟨1, 32768, 0, 0⟩
      (bindingRequest ++ List.replicate 80 0)).map (·.reply) = .ok true := by
    decide +kernel
  rw [ho] at hreply
  obtain ⟨-, -, l, hl, hle, hdecode, -⟩ := hwell (Except.ok.inj hreply)
  exact ⟨hdec, o, ho, Except.ok.inj hreply, l, hl, hle, hdecode⟩

end Masquerade.Common
