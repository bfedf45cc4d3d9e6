import Masquerade.Stun.Unknown
import Masquerade.Common.Relay

/-! A message with an unknown attribute is refused, unless its type is the one that marks a free
slot. -/

namespace Masquerade.Common

open Lib Stun Wire

section

variable [Crypto] {canonical : SocketAddr} {relayed : SocketAddrV6}

lemma Arm.of_unknown {method : Method} {a : TurnAttrs} {c : Stun.Class}
    {as : List Attribute} (h : Arm canonical relayed method a c as) (hm : method ≠ .binding)
    (hu : a.unknownAttrs ≠ none) : c = .error := by
  cases h with
  | binding hb => exact absurd hb hm
  | unknownMethod | unknownAttrs | unauthenticated | forbidden => rfl
  | nonUdp hv | allocate hv | refresh hv | createPermission hv | channelBind hv =>
    exact absurd hv.known hu

lemma handleTurn_of_unknown {b : Bytes} {n : ℕ} (h : Decodable b n) (h100 : 100 ≤ b.length)
    (hm : methodAt b ≠ .binding) (hu : (turnAttrs (itemsOf b)).unknownAttrs ≠ none) :
    ∃ o, handleTurn canonical relayed b = .ok o ∧ o.sent = [] ∧
      (o.reply = true → msgClass o.buffer = .ok .error) := by
  by_cases hzero : txidAt b = List.replicate 12 0
  · refine ⟨⟨b, [], false⟩, ?_, rfl, nofun⟩
    rw [handleTurn_eq _ _ h.header.length, if_pos hzero]
  cases ha : answerTo canonical relayed b with
  | ignore =>
    refine ⟨⟨b, [], false⟩, ?_, rfl, nofun⟩
    rw [handleTurn_eq _ _ h.header.length, if_neg hzero, ha]
  | relay peer data =>
    obtain ⟨-, -, hnone, -⟩ := answer_relay_iff.mp ha
    exact absurd hnone hu
  | respond c as =>
    obtain rfl := (answer_respond ha).2.of_unknown hm hu
    obtain ⟨m, items, hm, hrun⟩ := handleTurn_respond h hzero ha
    obtain ⟨tail, htail⟩ := hrun b h100 rfl rfl ha
    have hml := hm.built.length
    refine ⟨_, htail, rfl, fun _ => ?_⟩
    rw [msgClass_ok (by simp only [List.length_append]; omega)]
    exact congrArg Except.ok (hm.class_append tail)

theorem unknown_reported_iff (canonical : SocketAddr) (relayed : SocketAddrV6) :
    (∀ (n : ℕ) (items : List Item), 0 < n → (Reports n items ↔ 0 ∉ (unknownTypes items).take n)) ∧
    ∀ (b : Bytes) (n : ℕ), decode b n = .ok (.ok ()) → 100 ≤ b.length → method b ≠ .ok .binding →
      unknownTypes (unknownItems (itemsOf b)) ≠ [] → unknownTypes (unknownItems (itemsOf b)) ≠ [0] →
      ∃ o, handleTurn canonical relayed b = .ok o ∧ o.sent = [] ∧
        (o.reply = true → msgClass o.buffer = .ok .error) := by
  refine ⟨fun n items hn => reports_iff hn, fun b n hdec h100 hmethod hsome hzero => ?_⟩
  apply handleTurn_of_unknown ⟨le_of_decode hdec, hdec⟩ h100
  · intro hb
    exact hmethod (by rw [method_ok (by omega), ← methodAt, hb])
  · intro hnone
    rcases (collectUnknown_eq_none_iff (by norm_num)).mp hnone with h | h
    · exact hsome h
    · exact hzero h

end

def extendedIndication (typ : UInt16) : Bytes :=
  [0x00, 0x16, 0x00, 0x28] ++ sendIndication.drop 4 ++ u16Bytes typ ++ [0, 0]

theorem unknown_reported_iff_dontFragment :
    letI : Crypto := .recorded [] [] []
    Reports 8 (unknownItems (itemsOf (extendedIndication 0x001A ++ List.replicate 40 0))) ∧
      ∃ o, handleTurn (.v4 ⟨0x7F000001, 4001⟩) ⟨0xFD000000000000000000000000000001, 32768, 0, 0⟩
        (extendedIndication 0x001A ++ List.replicate 40 0) = .ok o ∧ o.sent = [] := by
  let _ : Crypto := .recorded [] [] []
  obtain ⟨hreports, hrefused⟩ :=
    unknown_reported_iff (.v4 ⟨0x7F000001, 4001⟩) ⟨0xFD000000000000000000000000000001, 32768, 0, 0⟩
  have htypes : unknownTypes
      (unknownItems (itemsOf (extendedIndication 0x001A ++ List.replicate 40 0))) = [0x001A] := by
    decide +kernel
  refine ⟨(hreports 8 _ (by norm_num)).mpr (by rw [htypes]; decide), ?_⟩
  obtain ⟨o, ho, hsent, -⟩ :=
    hrefused (extendedIndication 0x001A ++ List.replicate 40 0) 60 (by decide +kernel) (by decide)
    (by decide +kernel) (by rw [htypes]; decide) (by rw [htypes]; decide)
  exact ⟨o, ho, hsent⟩

theorem zero_type_relayed :
    letI : Crypto := .recorded [] [] []
    decode (extendedIndication 0x0000 ++ List.replicate 40 0) 60 = .ok (.ok ()) ∧
      unknownTypes (unknownItems (itemsOf (extendedIndication 0x0000 ++ List.replicate 40 0))) =
      [0] ∧ collectUnknown 8
      (unknownItems (itemsOf (extendedIndication 0x0000 ++ List.replicate 40 0))) = none ∧
      (handleTurn (.v4 ⟨0x7F000001, 4001⟩) ⟨0xFD000000000000000000000000000001, 32768, 0, 0⟩
        (extendedIndication 0x0000 ++ List.replicate 40 0)).map (·.sent.length) = .ok 1 := by
  let _ : Crypto := .recorded [] [] []
  exact ⟨by decide +kernel, by decide +kernel, by decide +kernel, by decide +kernel⟩

end Masquerade.Common
