import Masquerade.Stun.Header

/-! What `decode` says of a part of a message it also says, or will say, of the whole. -/

namespace Masquerade.Stun

open Lib

section Verdict

variable (r s : Bytes)

lemma verdict_append_cases :
    (verdict (r ++ s) = verdict r ∧ ∀ n, verdict r ≠ .error (.tooShort n)) ∨ ∃ n, verdict r =
    .error (.tooShort n) ∧ r.length < n ∧ ((r ++ s).length < n → verdict (r ++ s) = verdict r) := by
  have hlen : r.length ≤ (r ++ s).length := by simp
  -- the checks in the order of the decoder
  by_cases h2 : r.length < 2
  · have hr : verdict r = .error (.tooShort 2) := if_pos h2
    exact .inr ⟨2, hr, h2, fun h => by rw [hr, verdict, if_pos h]⟩
  have htyp := typAt_append s (m := r) (by omega)
  by_cases ht : typAt r >>> 14 ≠ 0
  · have hr : verdict r = .error .notStun := by rw [verdict, if_neg h2, if_pos ht]
    refine .inl ⟨?_, by simp [hr]⟩
    rw [hr, verdict, if_neg (by omega), htyp, if_pos ht]
  by_cases h4 : r.length < 4
  · have hr : verdict r = .error (.tooShort 4) := by rw [verdict, if_neg h2, if_neg ht, if_pos h4]
    refine .inr ⟨4, hr, h4, fun h => ?_⟩
    rw [hr, verdict, if_neg (by omega), htyp, if_neg ht, if_pos h]
  have hlength := lengthAt_append s (m := r) (by omega)
  by_cases hd : ¬ 4 ∣ lengthAt r
  · have hr : verdict r = .error .notStun := by
      rw [verdict, if_neg h2, if_neg ht, if_neg h4, if_pos hd]
    refine .inl ⟨?_, by simp [hr]⟩
    rw [hr, verdict, if_neg (by omega), htyp, if_neg ht, if_neg (by omega), hlength, if_pos hd]
  by_cases h8 : r.length < 8
  · have hr : verdict r = .error (.tooShort 8) := by
      rw [verdict, if_neg h2, if_neg ht, if_neg h4, if_neg hd, if_pos h8]
    refine .inr ⟨8, hr, h8, fun h => ?_⟩
    rw [hr, verdict, if_neg (by omega), htyp, if_neg ht, if_neg (by omega), hlength,
      if_neg hd, if_pos h]
  have hcookie := cookieAt_append s (m := r) (by omega)
  by_cases hc : cookieAt r ≠ magicCookie
  · have hr : verdict r = .error .notStun := by
      rw [verdict, if_neg h2, if_neg ht, if_neg h4, if_neg hd, if_neg h8, if_pos hc]
    refine .inl ⟨?_, by simp [hr]⟩
    rw [hr, verdict, if_neg (by omega), htyp, if_neg ht, if_neg (by omega), hlength, if_neg hd,
      if_neg (by omega), hcookie, if_pos hc]
  have hwhole : ∀ b : Bytes, 8 ≤ b.length → typAt b = typAt r →
      lengthAt b = lengthAt r → cookieAt b = cookieAt r → verdict b =
      if b.length < 20 + lengthAt r then .error (.tooShort (20 + lengthAt r)) else .ok () := by
    intro b hb htb hlb hcb
    rw [verdict, if_neg (by omega), htb, if_neg ht, if_neg (by omega), hlb, if_neg hd,
      if_neg (by omega), hcb, if_neg hc]
  have hr := hwhole r (by omega) rfl rfl rfl
  have hrs := hwhole (r ++ s) (by omega) htyp hlength hcookie
  by_cases hshort : r.length < 20 + lengthAt r
  · rw [if_pos hshort] at hr
    exact .inr ⟨_, hr, hshort, fun h => by rw [hr, hrs, if_pos h]⟩
  · rw [if_neg hshort] at hr
    refine .inl ⟨?_, by simp [hr]⟩
    rw [hr, hrs, if_neg (by omega)]

end Verdict

section Extensions

variable {b b' : Bytes} {n n' : ℕ}

lemma take_extension (h : b'.take n = b.take n) (hn : n ≤ n') :
    ∃ s, b'.take n' = b.take n ++ s := by
  refine ⟨slice b' n (n' - n), ?_⟩
  rw [← h, slice, ← List.take_add, Nat.add_sub_cancel' hn]

lemma decode_final {r : Except Error Unit} (h : decode b n = .ok r)
    (hr : ∀ k, r ≠ .error (.tooShort k)) (hsame : b'.take n = b.take n) (hn : n ≤ n')
    (hb : n' ≤ b'.length) : decode b' n' = .ok r := by
  have hlen := le_of_decode h
  rw [decode_eq hlen, Except.ok.injEq] at h
  obtain ⟨s, hs⟩ := take_extension hsame hn
  rw [decode_eq hb, hs]
  obtain ⟨hv, -⟩ | ⟨k, hk, -⟩ := verdict_append_cases (b.take n) s
  · rw [hv, h]
  · exact absurd (h.symm.trans hk) (hr k)

section TooShort

variable {k : ℕ} (h : decode b n = .ok (.error (.tooShort k)))
include h

lemma verdict_of_tooShort : verdict (b.take n) = .error (.tooShort k) := by
  rwa [decode_eq (le_of_decode h), Except.ok.injEq] at h

lemma lt_of_tooShort : n < k := by
  obtain ⟨-, hne⟩ | ⟨j, hj, hlt, -⟩ := verdict_append_cases (b.take n) []
  · exact absurd (verdict_of_tooShort h) (hne k)
  · cases (verdict_of_tooShort h).symm.trans hj
    rwa [List.length_take_of_le (le_of_decode h)] at hlt

lemma decode_of_tooShort (hsame : b'.take n = b.take n) (hn : n ≤ n') (hk : n' < k)
    (hb : n' ≤ b'.length) :
    decode b' n' = .ok (.error (.tooShort k)) := by
  obtain ⟨s, hs⟩ := take_extension hsame hn
  have hl' : (b.take n ++ s).length = n' := by rw [← hs, List.length_take_of_le hb]
  rw [decode_eq hb, hs]
  obtain ⟨-, hne⟩ | ⟨j, hj, -, hstands⟩ := verdict_append_cases (b.take n) s
  · exact absurd (verdict_of_tooShort h) (hne k)
  · cases (verdict_of_tooShort h).symm.trans hj
    rw [hstands (by omega), hj]

end TooShort

lemma decode_ok_iff (h : n ≤ b.length) : decode b n = .ok (.ok ()) ↔
    typAt b >>> 14 = 0 ∧ 4 ∣ lengthAt b ∧ cookieAt b = magicCookie ∧ 20 + lengthAt b ≤ n := by
  rw [decode_eq h, Except.ok.injEq, verdict_ok_iff, List.length_take_of_le h]
  by_cases hn : 8 ≤ n
  · rw [typAt_take (by omega), lengthAt_take (by omega), cookieAt_take hn]
    exact ⟨fun ⟨hl, ht, hd, hc⟩ => ⟨ht, hd, hc, hl⟩, fun ⟨ht, hd, hc, hl⟩ => ⟨hl, ht, hd, hc⟩⟩
  · exact ⟨fun ⟨hl, _⟩ => by omega, fun ⟨_, _, _, hl⟩ => by omega⟩

end Extensions

theorem decode_incremental (b : Bytes) (n : ℕ) (h : n ≤ b.length) :
    (∃ r, decode b n = .ok r) ∧
    (∀ b' : Bytes, n ≤ b'.length → b'.take n = b.take n → decode b' n = decode b n) ∧
    (decode b n = .ok (.ok ()) ∨ decode b n = .ok (.error .notStun) →
      ∀ (b' : Bytes) (n' : ℕ), b'.take n = b.take n → n ≤ n' → n' ≤ b'.length →
        decode b' n' = decode b n) ∧
    (∀ k, decode b n = .ok (.error (.tooShort k)) → n < k ∧
      ∀ (b' : Bytes) (n' : ℕ), b'.take n = b.take n → n ≤ n' → n' < k → n' ≤ b'.length →
        decode b' n' = .ok (.error (.tooShort k)) ∧ decode b' n' ≠ .ok (.ok ())) ∧
    (decode b n = .ok (.ok ()) ↔
      typAt b >>> 14 = 0 ∧ 4 ∣ lengthAt b ∧ cookieAt b = magicCookie ∧ 20 + lengthAt b ≤ n) := by
  refine ⟨⟨_, decode_eq h⟩, ?_, ?_, ?_, decode_ok_iff h⟩
  · intro b' hb' hsame
    rw [decode_eq hb', decode_eq h, hsame]
  · rintro (hr | hr) b' n' hsame hn hb'
    · rw [hr]
      exact decode_final hr (by simp) hsame hn hb'
    · rw [hr]
      exact decode_final hr (by simp) hsame hn hb'
  · intro k hr
    refine ⟨lt_of_tooShort hr, fun b' n' hsame hn hk hb' => ?_⟩
    have hstands := decode_of_tooShort hr hsame hn hk hb'
    exact ⟨hstands, by simp [hstands]⟩

theorem decode_incremental_header :
    decode [0, 1, 0, 4, 0x21, 0x12, 0xA4, 0x42] 4 = .ok (.error (.tooShort 8)) ∧
      (∀ (b' : Bytes), b'.take 4 = [0, 1, 0, 4] → 7 ≤ b'.length → decode b' 7 ≠ .ok (.ok ())) := by
  obtain ⟨-, -, -, hshort, -⟩ :=
    decode_incremental [0, 1, 0, 4, 0x21, 0x12, 0xA4, 0x42] 4 (by decide)
  have hr : decode [0, 1, 0, 4, 0x21, 0x12, 0xA4, 0x42] 4 = .ok (.error (.tooShort 8)) := by decide
  exact ⟨hr, fun b' hsame hb' => ((hshort 8 hr).2 b' 7 hsame (by decide) (by decide) hb').2⟩

end Masquerade.Stun
