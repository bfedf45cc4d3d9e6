import Masquerade.Common.HandleNet
import Masquerade.Common.HandleTurn

/-! The handlers work in place: a buffer keeps its size. -/

namespace Masquerade.Common

open Lib Stun Wire

variable {b b' : Bytes}

lemma ite_error_eq {α : Type} {p : Prop} [Decidable p] {e : Error}
    {x : Exec (Except Error α)} {a : α} :
    (if p then pure (.error e) else x) = .ok (.ok a) ↔ ¬ p ∧ x = .ok (.ok a) := by
  by_cases hp : p <;> simp [hp]

lemma ite_none_eq {α : Type} {p : Prop} [Decidable p] {x : Exec (Option α)} {a : α} :
    (if p then pure none else x) = .ok (some a) ↔ ¬ p ∧ x = .ok (some a) := by
  by_cases hp : p <;> simp [hp]

lemma appendTraced_length {A : Type} {enc : AttrEnc A} {attr : A} {item : Item}
    (h : appendTraced enc attr b = .ok (.ok (b', item))) : b'.length = b.length := by
  simp only [appendTraced, bind_eq_ok, ite_error_eq] at h
  obtain ⟨attrLen, -, test, -, -, test', -, -, offset, -, -, n₁, -, n₂, -, n₃, -, -, b₁, h₁, b₂, h₂,
    b₃, h₃, b₄, h₄, value, -, b₅, h₅, h⟩ := h
  cases h
  rw [writeAt_length h₅, writeAt_length h₄, writeAt_length h₃, writeAt_length h₂, writeAt_length h₁]

lemma dataIndication_length {random : List.Vector UInt8 12} (h : dataIndication random b = .ok b') :
    b'.length = b.length := by
  simp only [dataIndication, setClass, setMethod, setRawMethod, bind_eq_ok] at h
  obtain ⟨b₁, ⟨t, -, h₁⟩, b₂, ⟨_, -, t', -, h₂⟩, b₃, h₃, b₄, h₄, h₅⟩ := h
  rw [writeAt_length h₅, writeAt_length h₄, writeAt_length h₃, writeAt_length h₂, writeAt_length h₁]

variable [Crypto]

lemma appendEach_length (as : List Attribute) (h : appendEach as b = .ok b') :
    b'.length = b.length := by
  induction as generalizing b with
  | nil =>
    cases h
    rfl
  | cons a as ih =>
    simp only [appendEach, bind_eq_ok] at h
    obtain ⟨r, hr, ⟨b₁, item⟩, hunwrap, h⟩ := h
    cases r with
    | error e => cases hunwrap
    | ok p =>
      cases hunwrap
      rw [ih h, appendTraced_length hr]

lemma respond_length {class_ : Stun.Class} {as : List Attribute}
    (h : respond class_ as b = .ok b') :
    b'.length = b.length := by
  simp only [respond, setClass, bind_eq_ok] at h
  obtain ⟨b₁, h₁, b₂, ⟨t, -, h₂⟩, h₃⟩ := h
  rw [appendEach_length as h₃, writeAt_length h₂, writeAt_length h₁]

omit [Crypto] in
lemma send_length {relayed peer : SocketAddrV6} {data : Slice} {o : Outcome}
    (h : send relayed peer data b = .ok o) :
    o.buffer.length = b.length := by
  simp only [send, bind_eq_ok] at h
  obtain ⟨i, -, h⟩ := h
  split_ifs at h with hroom
  · cases h
    rfl
  simp only [bind_eq_ok] at h
  obtain ⟨moved, -, b₁, h₁, length, -, ⟨ip, rest⟩, hip, ⟨udp, rest'⟩, hudp, bytes, -, udp', -,
    packet, -, h⟩ := h
  cases h
  have hb₁ := writeAt_length h₁
  have hrest : rest = b₁.drop 40 := by
    rw [Ip6Header.fromPrefix, if_pos (by omega)] at hip
    cases hip
    rfl
  have hrest' : rest' = rest.drop 8 := by
    rw [UdpHeader.fromPrefix, if_pos (by rw [hrest, List.length_drop]; omega)] at hudp
    cases hudp
    rfl
  simp only [List.length_append, Ip6Header.asBytes_length, UdpHeader.asBytes_length, hrest', hrest,
    List.length_drop]
  omega

lemma handleTurn_length {canonical : SocketAddr} {relayed : SocketAddrV6} {o : Outcome}
    (h : handleTurn canonical relayed b = .ok o) : o.buffer.length = b.length := by
  simp only [handleTurn, bind_eq_ok] at h
  obtain ⟨x, -, h⟩ := h
  split_ifs at h with hzero
  · cases h
    rfl
  simp only [bind_eq_ok] at h
  obtain ⟨a, -, method, -, class_, -, h⟩ := h
  cases hanswer : answer canonical relayed class_ method a with
  | ignore =>
    rw [hanswer] at h
    cases h
    rfl
  | respond c as =>
    rw [hanswer] at h
    simp only [bind_eq_ok] at h
    obtain ⟨b₁, h₁, h⟩ := h
    cases h
    exact respond_length h₁
  | relay peer data =>
    rw [hanswer] at h
    exact send_length h

variable {random : List.Vector UInt8 12} {ip : Ip6Header} {rest : Bytes} {receiver : SocketAddrV6}

lemma relayUdp_result (h : relayUdp ip rest random b = .ok (some (receiver, b'))) :
    b'.length = b.length ∧ receiver.Plain := by
  simp only [relayUdp, bind_eq_ok, ite_none_eq] at h
  obtain ⟨-, udp, -, -, -, dataLen, -, b₁, h₁, b₂, h₂, b₃, h₃, b₄, h₄, b₅, h₅, h⟩ := h
  cases h
  refine ⟨?_, rfl, rfl⟩
  rw [writeAt_length h₅, writeAt_length h₄, writeAt_length h₃, appendEach_length _ h₂,
    dataIndication_length h₁]

lemma relayIcmp_result (h : relayIcmp ip rest random b = .ok (some (receiver, b'))) :
    b'.length = b.length ∧ receiver.Plain := by
  simp only [relayIcmp, bind_eq_ok, ite_none_eq] at h
  obtain ⟨-, icmp, -, -, inner, -, -, -, udp, -, -, -, b₁, h₁, b₂, h₂, h⟩ := h
  cases h
  refine ⟨?_, rfl, rfl⟩
  rw [appendEach_length _ h₂, dataIndication_length h₁]

lemma handleNet_result {len : ℕ} (h : handleNet len random b = .ok (some (receiver, b'))) :
    b'.length = b.length ∧ receiver.Plain := by
  simp only [handleNet, bind_eq_ok, ite_none_eq] at h
  obtain ⟨⟨ip, rest⟩, -, -, -, h⟩ := h
  split_ifs at h
  · exact relayUdp_result h
  · exact relayIcmp_result h
  · cases h

end Masquerade.Common
