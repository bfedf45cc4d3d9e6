import Masquerade.Common.Handled
import Masquerade.Common.NetLaws
import Masquerade.TurnserverTcp.Steps

/-! Whole messages, as they are read off a stream and written to one. -/

namespace Masquerade.TurnserverTcp

open Lib Stun Common

def IsFrame (f : Bytes) : Prop := len f = .ok f.length ∧ decode f f.length = .ok (.ok ())

instance (f : Bytes) : Decidable (IsFrame f) := inferInstanceAs (Decidable (_ ∧ _))

lemma isFrame_iff {f : Bytes} : IsFrame f ↔ verdict f = .ok () ∧ f.length = 20 + lengthAt f := by
  rw [IsFrame, decode_eq le_rfl, List.take_length, Except.ok.injEq]
  constructor
  · rintro ⟨hlen, hv⟩
    have hsize := ((verdict_ok_iff f).mp hv).1
    rw [len_ok (by omega), Except.ok.injEq] at hlen
    exact ⟨hv, by omega⟩
  · rintro ⟨hv, hlen⟩
    rw [len_ok (by omega), Nat.add_comm, ← hlen]
    exact ⟨rfl, hv⟩

lemma Built.isFrame {f : Bytes} {items : List Item} (h : Built f items) : IsFrame f :=
  isFrame_iff.mpr ⟨(verdict_ok_iff f).mpr ⟨h.length.ge, h.top, h.aligned, h.cookie⟩, h.length⟩

lemma IsFrame.length_pos {f : Bytes} (h : IsFrame f) : 20 ≤ f.length := by
  have := (isFrame_iff.mp h).2
  omega

lemma isFrame_take {xs : Bytes} {n : ℕ} (hv : verdict (xs.take n) = .ok ()) :
    lengthAt (xs.take n) + 20 ≤ n ∧ lengthAt (xs.take n) + 20 ≤ xs.length ∧
      IsFrame (xs.take (lengthAt (xs.take n) + 20)) := by
  obtain ⟨hsize, htop, hfour, hcookie⟩ := (verdict_ok_iff _).mp hv
  have hle : 20 + lengthAt (xs.take n) ≤ n ∧ 20 + lengthAt (xs.take n) ≤ xs.length := by
    have := List.length_take (i := n) (l := xs)
    omega
  generalize hl : lengthAt (xs.take n) = l at *
  have htake : xs.take (l + 20) = (xs.take n).take (l + 20) := by
    rw [List.take_take, min_eq_left (by omega)]
  have hfields : lengthAt (xs.take (l + 20)) = l := by rw [htake, lengthAt_take (by omega), hl]
  refine ⟨by omega, by omega, isFrame_iff.mpr ⟨(verdict_ok_iff _).mpr ⟨?_, ?_, ?_, ?_⟩, ?_⟩⟩
  · rw [hfields, List.length_take]
    omega
  · rw [htake, typAt_take (by omega), htop]
  · rw [hfields]
    exact hfour
  · rw [htake, cookieAt_take (by omega), hcookie]
  · rw [hfields, List.length_take]
    omega

lemma frameOf_append {f : Bytes} {items : List Item} (h : Built f items) (tail : Bytes) :
    frameOf (f ++ tail) = .ok f := by
  rw [frameOf, h.len, ok_bind, readAt_ok (by simp), slice_zero, List.take_left]

lemma received_splice {b packet : Bytes} (hb : b.length = 65536) (hp : packet.length ≤ 65536) :
    Received (splice b 0 packet) packet :=
  ⟨by rw [splice_length (by omega), hb], splice_zero_take rfl⟩

variable [Crypto]

lemma frame_of_net {b packet msg : Bytes} {random : List.Vector UInt8 12} {receiver : SocketAddrV6}
    (hb : b.length = 65536) (hp : packet.length ≤ 65536)
    (hnet : handleNet packet.length random (splice b 0 packet) = .ok (some (receiver, msg))) :
    ∃ frame, frameOf msg = .ok frame ∧ IsFrame frame := by
  have hreceived := received_splice hb hp
  rcases handleNet_message random packet hp with ⟨-, hnone⟩ | ⟨_, f, items, -, hbuilt, -, -, hrun⟩
  · rw [hnone _ hreceived] at hnet
    cases hnet
  · obtain ⟨tail, htail⟩ := hrun _ hreceived
    rw [htail, Except.ok.injEq, Option.some.injEq, Prod.mk.injEq] at hnet
    exact ⟨f, by rw [← hnet.2, frameOf_append hbuilt], Built.isFrame hbuilt⟩

omit [Crypto] in
lemma decodable_splice {b message : Bytes} (hb : b.length = 65536) (hm : message.length ≤ 65536)
    (hframe : IsFrame message) : Decodable (splice b 0 message) message.length := by
  refine ⟨by rw [splice_length (by omega)]; omega, ?_⟩
  rw [decode_splice rfl (by omega), (isFrame_iff.mp hframe).1]

lemma frame_of_turn {b message : Bytes} {canonical : SocketAddr} {relayed : SocketAddrV6}
    {o : Outcome} (hb : b.length = 65536) (hm : message.length ≤ 65536) (hmessage : IsFrame message)
    (hturn : handleTurn canonical relayed (splice b 0 message) = .ok o) (hreply : o.reply = true) :
    ∃ frame, frameOf o.buffer = .ok frame ∧ IsFrame frame := by
  have h100 : 100 ≤ (splice b 0 message).length := by
    rw [splice_length (by omega)]
    omega
  obtain ⟨c, as, f, items, tail, -, -, -, rfl, hf⟩ :=
    handleTurn_reply (decodable_splice hb hm hmessage) h100 hturn hreply
  exact ⟨f, frameOf_append hf.built tail, Built.isFrame hf.built⟩

end Masquerade.TurnserverTcp
