import Masquerade.Common.Handled
import Masquerade.Common.NetLaws

/-! Bytes left in the buffer by an earlier packet reach no output. -/

namespace Masquerade.Common

open Lib Stun Wire

def shown (r : Option (SocketAddrV6 × Bytes)) : Option (SocketAddrV6 × Bytes) :=
  r.map fun (receiver, msg) => (receiver, msg.take (lengthAt msg + 20))

lemma shown_message {m : Bytes} {items : List Item} (h : Built m items) (receiver : SocketAddrV6)
    (tail : Bytes) :
    shown (some (receiver, m ++ tail)) = some (receiver, m) := by
  have hl := h.length
  simp only [shown, Option.map_some]
  rw [lengthAt_append tail (by omega), Nat.add_comm, ← hl, List.take_left]

section

variable [Crypto] (canonical : SocketAddr) (relayed : SocketAddrV6) (random : List.Vector UInt8 12)

lemma handleNet_shown {received : Bytes} (hle : received.length ≤ 65536) :
    ∃ out, ∀ b, Received b received → ∃ r, handleNet received.length random b = .ok r ∧
      shown r = out := by
  rcases handleNet_message random _ hle with ⟨-, hnone⟩ |
    ⟨receiver, m, items, -, hbuilt, -, -, hrun⟩
  · exact ⟨none, fun b hb => ⟨none, hnone b hb, rfl⟩⟩
  · refine ⟨some (receiver, m), fun b hb => ?_⟩
    obtain ⟨tail, htail⟩ := hrun b hb
    exact ⟨_, htail, shown_message hbuilt receiver tail⟩

theorem handlers_ignore_stale_bytes {b₁ b₂ : Bytes} {len : ℕ} (h₁ : b₁.length = 65536)
    (h₂ : b₂.length = 65536) (hlen : len ≤ 65536) (h : b₁.take len = b₂.take len) :
    (decode b₁ len = .ok (.ok ()) → ∃ o₁ o₂, handleTurn canonical relayed b₁ = .ok o₁ ∧
      handleTurn canonical relayed b₂ = .ok o₂ ∧ o₁.observed = o₂.observed) ∧
    ∃ r₁ r₂, handleNet len random b₁ = .ok r₁ ∧ handleNet len random b₂ = .ok r₂ ∧
      shown r₁ = shown r₂ := by
  constructor
  · intro hdec
    obtain ⟨obs, hobs⟩ := handleTurn_observed canonical relayed ⟨h₁ ▸ hlen, hdec⟩
    obtain ⟨o₁, ho₁, hs₁⟩ := hobs b₁ rfl (by omega) (by omega)
    obtain ⟨o₂, ho₂, hs₂⟩ := hobs b₂ h (by omega) (by omega)
    exact ⟨o₁, o₂, ho₁, ho₂, hs₁.trans hs₂.symm⟩
  · have hl : (b₁.take len).length = len := by simp [h₁, hlen]
    obtain ⟨out, hout⟩ := handleNet_shown random (hl.trans_le hlen)
    obtain ⟨r₁, hr₁, hs₁⟩ := hout b₁ ⟨h₁, by rw [hl]⟩
    obtain ⟨r₂, hr₂, hs₂⟩ := hout b₂ ⟨h₂, by rw [hl, h]⟩
    rw [hl] at hr₁ hr₂
    exact ⟨r₁, r₂, hr₁, hr₂, hs₁.trans hs₂.symm⟩

end

def bindingRequest : Bytes :=
  [0x00, 0x01, 0x00, 0x00, 0x21, 0x12, 0xA4, 0x42, 0x01, 0x02, 0x03, 0x04, 0x05, 0x06, 0x07, 0x08,
    0x09, 0x0A, 0x0B, 0x0C]

theorem handlers_ignore_stale_bytes_binding :
    letI : Crypto := .recorded [] [] []
    ∃ o₁ o₂, handleTurn (.v4 ⟨0x7F000001, 4000⟩) ⟨1, 32768, 0, 0⟩
      (bindingRequest ++ List.replicate 65516 0) = .ok o₁ ∧
      handleTurn (.v4 ⟨0x7F000001, 4000⟩) ⟨1, 32768, 0, 0⟩
        (bindingRequest ++ List.replicate 65516 0xFF) = .ok o₂ ∧
      o₁.observed = o₂.observed := by
  let _ : Crypto := .recorded [] [] []
  have hl : ∀ x, (bindingRequest ++ List.replicate 65516 x).length = 65536 := by
    intro x
    rw [List.length_append, List.length_replicate]
    rfl
  have ht : ∀ x, (bindingRequest ++ List.replicate 65516 x).take 20 = bindingRequest :=
    fun x => List.take_left' rfl
  refine (handlers_ignore_stale_bytes _ _ (List.Vector.replicate 12 0) (hl _) (hl _)
    (show 20 ≤ 65536 by norm_num) ((ht _).trans (ht _).symm)).1 ?_
  rw [decode_eq (by rw [hl]; norm_num), ht, (verdict_ok_iff bindingRequest).mpr (by decide)]

end Masquerade.Common
