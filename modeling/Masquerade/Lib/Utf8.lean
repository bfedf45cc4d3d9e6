import Masquerade.Lib.BigEndian

/-! Byte strings that are valid UTF-8, as `core::str::from_utf8` accepts them. -/

namespace Masquerade.Lib

def isContinuation (b : UInt8) : Bool := 0x80 ≤ b && b ≤ 0xBF

-- No overlong forms, no surrogates, nothing above U+10FFFF.
def secondOfThree (b₀ b₁ : UInt8) : Bool :=
  (b₀ == 0xE0 && 0xA0 ≤ b₁ && b₁ ≤ 0xBF) || (0xE1 ≤ b₀ && b₀ ≤ 0xEC && isContinuation b₁) ||
    (b₀ == 0xED && 0x80 ≤ b₁ && b₁ ≤ 0x9F) || (0xEE ≤ b₀ && b₀ ≤ 0xEF && isContinuation b₁)

def secondOfFour (b₀ b₁ : UInt8) : Bool :=
  (b₀ == 0xF0 && 0x90 ≤ b₁ && b₁ ≤ 0xBF) || (0xF1 ≤ b₀ && b₀ ≤ 0xF3 && isContinuation b₁) ||
    (b₀ == 0xF4 && 0x80 ≤ b₁ && b₁ ≤ 0x8F)

def validUtf8 : Bytes → Bool
  | [] => true
  | b₀ :: rest =>
    if b₀ < 0x80 then validUtf8 rest
    else
      match rest with
      | [] => false
      | b₁ :: rest =>
        if 0xC2 ≤ b₀ && b₀ ≤ 0xDF then isContinuation b₁ && validUtf8 rest
        else
          match rest with
          | [] => false
          | b₂ :: rest =>
            if 0xE0 ≤ b₀ && b₀ ≤ 0xEF then secondOfThree b₀ b₁ && isContinuation b₂ &&
              validUtf8 rest
            else
              match rest with
              | [] => false
              | b₃ :: rest =>
                secondOfFour b₀ b₁ && isContinuation b₂ && isContinuation b₃ && validUtf8 rest

structure Str where
  asBytes : Bytes
  valid : validUtf8 asBytes = true
  deriving DecidableEq

def fromUtf8 (value : Bytes) : Option Str :=
  if h : validUtf8 value = true then some ⟨value, h⟩ else none

@[simp] lemma fromUtf8_asBytes (s : Str) : fromUtf8 s.asBytes = some s := dif_pos s.valid

lemma fromUtf8_eq_some {value : Bytes} {s : Str} : fromUtf8 value = some s ↔ s.asBytes = value := by
  constructor
  · intro h
    unfold fromUtf8 at h
    split at h
    · exact (congrArg Str.asBytes (Option.some.inj h)).symm
    · cases h
  · rintro rfl
    exact fromUtf8_asBytes s

example : validUtf8 [0x68, 0xC3, 0xA9, 0xE2, 0x82, 0xAC, 0xF0, 0x9F, 0x98, 0x80] = true := by decide

example : validUtf8 [0xED, 0xA0, 0x80] = false := by decide

end Masquerade.Lib
