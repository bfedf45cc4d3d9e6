import Masquerade.Common.Auth
import Masquerade.Common.Fresh
import Masquerade.Common.Responses

/-! How much longer an answer may be than what it answers. -/

namespace Masquerade.Common

open Lib Stun Wire

section Items

variable {b : Bytes} {item : Item}

lemma size_le_announced (hb : 4 ≤ b.length) (h : item ∈ itemsOf b) : item.size ≤ lengthAt b := by
  obtain ⟨offset, hat⟩ := itemsOf_mem hb h
  exact (Nat.le_add_left _ _).trans hat.announced

lemma Item.four_le_size (item : Item) : 4 ≤ item.size := by
  rw [Item.size]
  omega

end Items

variable [Crypto]

section Request

variable {b : Bytes}

omit [Crypto] in
lemma integrity_size {i : Integrity 20} (h : (turnAttrs (itemsOf b)).integrity = some i) :
    ∃ item ∈ itemsOf b, item.typ = Typ.messageIntegrity ∧ item.size = 24 := by
  obtain ⟨item, hitem, hread⟩ := Option.bind_eq_some_iff.mp h
  obtain ⟨hmem, htyp⟩ := heard_mem hitem
  refine ⟨item, hmem, htyp, ?_⟩
  rw [Item.size, (integrity_read hread).1, List.Vector.toList_length]
  rfl

variable (hb : 4 ≤ b.length)

include hb

omit [Crypto] in
lemma signed_length {i : Integrity 20} (h : (turnAttrs (itemsOf b)).integrity = some i) :
    24 ≤ lengthAt b := by
  obtain ⟨item, hmem, -, hsize⟩ := integrity_size h
  have := size_le_announced hb hmem
  omega

omit [Crypto] in
lemma signed_transport_length {i : Integrity 20} {transport : UInt8}
    (h : (turnAttrs (itemsOf b)).integrity = some i)
    (ht : (turnAttrs (itemsOf b)).requestedTransport = some transport) : 28 ≤ lengthAt b := by
  obtain ⟨item, hmem, htyp, hsize⟩ := integrity_size h
  obtain ⟨other, hother, -⟩ := Option.bind_eq_some_iff.mp ht
  obtain ⟨hmem', htyp'⟩ := heard_mem hother
  have hboth := size_add_size_le hb hmem hmem' (by rw [htyp, htyp']; decide)
  have := Item.four_le_size other
  omega

omit [Crypto] in
lemma unknown_length {u : List.Vector UInt16 8}
    (h : (turnAttrs (itemsOf b)).unknownAttrs = some u) : 4 ≤ lengthAt b := by
  cases hitems : itemsOf b with
  | nil =>
    have hnone : (turnAttrs []).unknownAttrs = none := by decide
    rw [hitems, hnone] at h
    cases h
  | cons item items =>
    have hmem : item ∈ itemsOf b := by
      rw [hitems]
      exact List.mem_cons_self
    exact (Item.four_le_size item).trans (size_le_announced hb hmem)

end Request

variable {canonical : SocketAddr} {relayed : SocketAddrV6}

lemma Arm.growth {b : Bytes} {method : Method} {c : Stun.Class} {as : List Attribute}
    (hb : 4 ≤ b.length) (h : Arm canonical relayed method (turnAttrs (itemsOf b)) c as) :
    ∃ k, Fits k as ∧ 5 * (20 + k) ≤ 11 * (20 + lengthAt b) := by
  have hmac := small_mac (turnKey (turnAttrs (itemsOf b)))
  have hlifetime := small_lifetime ((turnAttrs (itemsOf b)).lifetime.getD 1000)
  cases h with
  | binding => exact ⟨24, .one (small_mapped canonical), by omega⟩
  | unknownMethod | forbidden => exact ⟨8, .one (small_error (by decide)), by omega⟩
  | unknownAttrs hu =>
    have := unknown_length hb hu
    exact ⟨_, .cons (small_error (by decide)) (.one (small_unknown (collectUnknown_zerosTrail hu))),
      by omega⟩
  | unauthenticated =>
    exact ⟨_, .cons (small_error (by decide)) (.cons small_realm (.one small_nonce)), by omega⟩
  | nonUdp hv | channelBind hv =>
    have := signed_length hb hv.integrity
    exact ⟨_, .cons (small_error (by decide)) (.one hmac), by omega⟩
  | allocate hv _ ht =>
    have := signed_transport_length hb hv.integrity ht
    exact ⟨_, .cons (small_mapped canonical)
      (.cons (small_relayed _) (.cons hlifetime (.one hmac))), by omega⟩
  | refresh hv =>
    have := signed_length hb hv.integrity
    exact ⟨_, .cons hlifetime (.one hmac), by omega⟩
  | createPermission => exact ⟨_, .one hmac, by omega⟩

lemma Response.length {b m : Bytes} {c : Stun.Class} {as : List Attribute} {items : List Item}
    (h : Response b c as m items) (ha : ∀ a ∈ as, a.Writable) : m.length = 20 + cost as := by
  have hstop := h.built.covers.stop_eq
  have hcost := wrote_cost h.wrote ha
  have hml := h.built.length
  omega

def Observed.size (o : Observed) : ℕ :=
  (o.response.elim 0 List.length) + (o.sent.map List.length).sum

lemma turned_growth (canonical : SocketAddr) (relayed : SocketAddrV6) {message : Bytes}
    (hv : verdict message = .ok ()) (hle : message.length ≤ 65536) :
    5 * (turned canonical relayed message).size ≤ 11 * message.length := by
  have hlen := answerable_length hv
  generalize hobserved : turned canonical relayed message = observed
  have hcases := turned_cases canonical relayed hv hle
  rw [hobserved] at hcases
  cases hcases with
  | ignored => simp [Observed.size]
  | responded _ _ harm hm =>
    obtain ⟨k, hfits, hk⟩ := harm.growth (by omega)
    have hml := hm.length_le hfits
    simp only [Observed.size, Option.elim_some, List.map_nil, List.sum_nil]
    omega
  | sent _ _ _ hroom _ =>
    simp only [Observed.size, Option.elim_none, List.map_cons, List.map_nil, List.sum_cons,
      List.sum_nil, datagram_length]
    omega

section Packet

variable {packet : Bytes}

lemma netted_growth {random : List.Vector UInt8 12} (hle : packet.length ≤ 65536)
    {receiver : SocketAddrV6} {m : Bytes} (h : netted random packet = some (receiver, m)) :
    m.length ≤ packet.length + 3 := by
  rcases netted_cases random hle with ⟨-, hnone⟩ |
    ⟨receiver', m', items, hreceiver, hsome, hbuilt, -, hall⟩
  · rw [hnone] at h
    cases h
  rw [hsome, Option.some.injEq, Prod.mk.injEq] at h
  obtain ⟨rfl, rfl⟩ := h
  have hml := hbuilt.length
  have hstop := hbuilt.covers.stop_eq
  cases hclass : classify packet with
  | drop =>
    rw [hclass] at hreceiver
    cases hreceiver
  | data sender receiver bytes =>
    obtain ⟨rfl, h48⟩ := data_bytes hclass
    have hdata :=
      slice_writes Typ.data (show (packet.drop 48).length < 65536 by rw [List.length_drop]; omega)
    rw [hclass] at hall
    have hcost :=
      wrote_cost hall (by simpa [Net.attributes] using ⟨xorPeer_writable _, ⟨_, _, hdata⟩⟩)
    have hsize : (Attribute.data (packet.drop 48)).size = _ := Attribute.size_eq hdata
    have hpad := padding_lt (packet.drop 48).length
    simp only [cost, Net.attributes, List.map_cons, List.map_nil, List.sum_cons, List.sum_nil,
      xorPeer_size, hsize] at hcost
    rw [List.length_drop] at hcost hpad
    omega
  | icmp peer receiver typ code arg =>
    have h96 := icmp_length hclass
    have hicmp := icmp_writes (typ, code, arg)
    rw [hclass] at hall
    have hcost :=
      wrote_cost hall (by simpa [Net.attributes] using ⟨xorPeer_writable _, ⟨_, _, hicmp⟩⟩)
    have hsize : (Attribute.icmp typ code arg).size = 12 :=
      Attribute.size_eq (a := .icmp typ code arg) hicmp
    simp only [cost, Net.attributes, List.map_cons, List.map_nil, List.sum_cons, List.sum_nil,
      xorPeer_size, hsize] at hcost
    omega

end Packet

end Masquerade.Common
