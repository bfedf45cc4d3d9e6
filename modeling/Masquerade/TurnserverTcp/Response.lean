import Masquerade.TurnserverTcp.Output

/-! The loop that writes a response, for every sequence of outcomes of `write`. -/

namespace Masquerade.TurnserverTcp

open Lib Stun Common

section Outcomes

def taken (w : ℕ → IoResult ℕ) : ℕ → ℕ
  | 0 => 0
  | i + 1 => taken w i + ((w i).toOption.getD 0)

def AtWrite (length : ℕ) (w : ℕ → IoResult ℕ) (i : ℕ) : Prop := ∀ j < i, ∃ n, w j = .ok n ∧
    taken w (j + 1) < length

def Offered (length : ℕ) (w : ℕ → IoResult ℕ) : Prop :=
  ∀ i n, AtWrite length w i → w i = .ok n → 1 ≤ n ∧ taken w i + n ≤ length

variable {length : ℕ} {w : ℕ → IoResult ℕ} {i n : ℕ}

lemma taken_ok (h : w i = .ok n) : taken w (i + 1) = taken w i + n := by
  rw [taken, h]
  rfl

lemma atWrite_zero : AtWrite length w 0 := fun _ hj => absurd hj (Nat.not_lt_zero _)

lemma AtWrite.succ (h : AtWrite length w i) (hok : w i = .ok n) (hleft : taken w (i + 1) < length) :
    AtWrite length w (i + 1) := by
  intro j hj
  rcases Nat.lt_succ_iff_lt_or_eq.mp hj with hlt | rfl
  · exact h j hlt
  · exact ⟨n, hok, hleft⟩

lemma AtWrite.pred (h : AtWrite length w (i + 1)) : AtWrite length w i := fun j hj => h j (by omega)

lemma AtWrite.le_taken (hw : Offered length w) (h : AtWrite length w i) : i ≤ taken w i := by
  induction i with
  | zero => exact Nat.zero_le _
  | succ i ih =>
    obtain ⟨n, hn, -⟩ := h i (Nat.lt_succ_self i)
    have hpos := (hw i n h.pred hn).1
    have hle := ih h.pred
    rw [taken_ok hn]
    omega

lemma AtWrite.taken_le (h : AtWrite length w i) : taken w i ≤ length := by
  cases i with
  | zero => exact Nat.zero_le _
  | succ i =>
    obtain ⟨n, -, hlt⟩ := h i (Nat.lt_succ_self i)
    exact hlt.le

lemma exists_last (hw : Offered length w) :
    ∃ i ≤ length, AtWrite length w i ∧ ¬ AtWrite length w (i + 1) := by
  by_contra h
  have hall : ∀ i ≤ length + 1, AtWrite length w i := by
    intro i hi
    induction i with
    | zero => exact atWrite_zero
    | succ i ih =>
      have hcur := ih (by omega)
      by_contra hnext
      exact h ⟨i, by omega, hcur, hnext⟩
  have hlast := hall (length + 1) le_rfl
  have hle := hlast.le_taken hw
  have hlt := hlast.taken_le
  omega

end Outcomes

section

variable [Crypto]

def afterWrites (m : Mapping) (s : State) (w : ℕ → IoResult ℕ) : ℕ → Option State
  | 0 => some s
  | i + 1 => (afterWrites m s w i).bind fun t =>
    if t.pc.responding.isSome then step m t (.write (w i)) else some t

structure Leaves (m : Mapping) (s : State) (length : ℕ) (w : ℕ → IoResult ℕ) : Prop where
  bounded : ∃ i ≤ length + 1, ∃ t, afterWrites m s w i = some t ∧ t.pc.responding = none
  quiet : ∀ i t t', afterWrites m s w i = some t → t.pc.responding.isSome →
    w i = .error .wouldBlock → afterWrites m s w (i + 1) = some t' → t'.pc.responding = none

variable {m : Mapping} {s t : State} {w : ℕ → IoResult ℕ} {k i n offset : ℕ} {frame : Bytes}

lemma afterWrites_succ (h : afterWrites m s w i = some t) (hpc : t.pc = .respond k frame offset) :
    afterWrites m s w (i + 1) = respond t k frame offset (w i) := by
  rw [afterWrites, h, Option.bind_some, if_pos (by rw [hpc]; rfl), step_respond hpc]

omit [Crypto] in
lemma respond_some (hpos : offset + n < frame.length) :
    ∃ s', respond s k frame offset (.ok n) = some s' ∧ s'.pc = .respond k frame (offset + n) := by
  have hrest : (frame.drop offset).length = frame.length - offset := List.length_drop
  rw [respond, if_neg (by omega)]
  simp only
  rw [if_neg (by omega), if_neg (by omega)]
  exact ⟨_, rfl, rfl⟩

omit [Crypto] in
lemma respond_all (hall : offset + n = frame.length) :
    ∃ s', respond s k frame offset (.ok n) = some s' ∧ s'.pc = .peek k := by
  have hrest : (frame.drop offset).length = frame.length - offset := List.length_drop
  rw [respond, if_neg (by omega)]
  simp only
  rw [if_neg (by omega), if_pos (by omega)]
  exact ⟨_, rfl, rfl⟩

omit [Crypto] in
lemma respond_blocked (hle : offset ≤ frame.length) :
    ∃ s', respond s k frame offset (.error .wouldBlock) = some s' ∧ s'.pc = s.pc :=
  ⟨_, if_neg (Nat.not_lt.mpr hle), rfl⟩

omit [Crypto] in
lemma respond_failed (hle : offset ≤ frame.length) :
    ∃ s', respond s k frame offset (.error .other) = some s' ∧ s'.pc = .deregister k :=
  ⟨_, if_neg (Nat.not_lt.mpr hle), rfl⟩

lemma afterWrites_atWrite (hpc : s.pc = .respond k frame 0) (h : AtWrite frame.length w i) :
    ∃ t, afterWrites m s w i = some t ∧ t.pc = .respond k frame (taken w i) := by
  induction i with
  | zero => exact ⟨s, rfl, hpc⟩
  | succ i ih =>
    obtain ⟨t, ht, htpc⟩ := ih h.pred
    obtain ⟨n, hn, hleft⟩ := h i (Nat.lt_succ_self i)
    rw [taken_ok hn] at hleft ⊢
    obtain ⟨t', ht', hpc'⟩ := respond_some (s := t) (k := k) hleft
    refine ⟨t', ?_, hpc'⟩
    rw [afterWrites_succ ht htpc, hn, ht']

lemma atWrite_of_responding (hpc : s.pc = .respond k frame 0) (hw : Offered frame.length w)
    (hopen : ∀ i, AtWrite frame.length w i → w i ≠ .error .wouldBlock)
    (h : afterWrites m s w i = some t) (hin : t.pc.responding.isSome) :
    AtWrite frame.length w i := by
  induction i generalizing t with
  | zero => exact atWrite_zero
  | succ i ih =>
    obtain ⟨u, hu, hnext⟩ := Option.bind_eq_some_iff.mp h
    by_cases hout : u.pc.responding.isSome
    · have hcur := ih hu hout
      obtain ⟨u', hu', hupc⟩ := afterWrites_atWrite (m := m) hpc hcur
      obtain rfl : u' = u := Option.some.inj (hu'.symm.trans hu)
      rw [if_pos hout, step_respond hupc] at hnext
      match hwi : w i with
      | .ok n =>
        have hle := (hw i n hcur hwi).2
        rcases Nat.lt_or_eq_of_le hle with hlt | hall
        · exact hcur.succ hwi (by rw [taken_ok hwi]; exact hlt)
        · obtain ⟨t', ht', hpc'⟩ := respond_all (s := u') (k := k) hall
          rw [hwi, ht'] at hnext
          rw [← Option.some.inj hnext, hpc'] at hin
          cases hin
      | .error .wouldBlock => exact absurd hwi (hopen i hcur)
      | .error .other =>
        obtain ⟨t', ht', hpc'⟩ := respond_failed (s := u') (k := k) hcur.taken_le
        rw [hwi, ht'] at hnext
        rw [← Option.some.inj hnext, hpc'] at hin
        cases hin
    · rw [if_neg hout] at hnext
      rw [← Option.some.inj hnext] at hin
      exact absurd hin hout

theorem response_loop_leaves_iff (m : Mapping) (hpc : s.pc = .respond k frame 0)
    (hw : Offered frame.length w) :
    Leaves m s frame.length w ↔ ∀ i, AtWrite frame.length w i → w i ≠ .error .wouldBlock := by
  constructor
  · intro h i hi hblock
    obtain ⟨t, ht, htpc⟩ := afterWrites_atWrite (m := m) hpc hi
    obtain ⟨t', ht', hpc'⟩ := respond_blocked (s := t) (k := k) hi.taken_le
    have hnone :=
      h.quiet i t t' ht (by rw [htpc]; rfl) hblock (by rw [afterWrites_succ ht htpc, hblock, ht'])
    rw [hpc', htpc] at hnone
    cases hnone
  · intro hopen
    refine ⟨?_, fun i t t' ht hin hblock _ =>
      absurd hblock (hopen i (atWrite_of_responding hpc hw hopen ht hin))⟩
    obtain ⟨i, hle, hi, hlast⟩ := exists_last hw
    obtain ⟨t, ht, htpc⟩ := afterWrites_atWrite (m := m) hpc hi
    refine ⟨i + 1, by omega, ?_⟩
    rw [afterWrites_succ ht htpc]
    match hwi : w i with
    | .ok n =>
      have hall : taken w i + n = frame.length := by
        have hroom := (hw i n hi hwi).2
        by_contra hne
        exact hlast (hi.succ hwi (by rw [taken_ok hwi]; omega))
      obtain ⟨t', ht', hpc'⟩ := respond_all (s := t) (k := k) hall
      exact ⟨t', ht', by rw [hpc']; rfl⟩
    | .error .wouldBlock => exact absurd hwi (hopen i hi)
    | .error .other =>
      obtain ⟨t', ht', hpc'⟩ := respond_failed (s := t) (k := k) hi.taken_le
      exact ⟨t', ht', by rw [hpc']; rfl⟩

lemma afterWrites_blocked (hpc : s.pc = .respond k frame 0)
    (hw : ∀ i, w i = .error .wouldBlock) (i : ℕ) :
    ∃ t, afterWrites m s w i = some t ∧ t.pc = .respond k frame 0 := by
  induction i with
  | zero => exact ⟨s, rfl, hpc⟩
  | succ i ih =>
    obtain ⟨t, ht, htpc⟩ := ih
    obtain ⟨t', ht', hpc'⟩ := respond_blocked (s := t) (k := k) (Nat.zero_le frame.length)
    exact ⟨t', by rw [afterWrites_succ ht htpc, hw i, ht'], hpc'.trans htpc⟩

end

lemma offered_bytewise {length : ℕ} (h : 1 ≤ length) : Offered length fun _ => .ok 1 := by
  intro i n hi hn
  obtain rfl : 1 = n := Except.ok.inj hn
  refine ⟨le_rfl, ?_⟩
  cases i with
  | zero => simpa [taken] using h
  | succ i =>
    obtain ⟨-, -, hlt⟩ := hi i (Nat.lt_succ_self i)
    omega

theorem response_loop_leaves_bytewise :
    letI : Crypto := .recorded [] [] []
    ∃ s k frame, Reachable defaultMapping s ∧ s.pc = .respond k frame 0 ∧
      Leaves defaultMapping s frame.length fun _ => .ok 1 := by
  let _ : Crypto := .recorded [] [] []
  obtain ⟨s, c, frame, hs, hpc, -, -, -, -, hframe⟩ :
    ∃ s c frame, Reachable defaultMapping s ∧ _ :=
      run_response (fun _ _ _ _ => trivial) firstRelayed_eq
  have hlen := hframe.length_pos
  exact ⟨s, 0, frame, hs, hpc, (response_loop_leaves_iff defaultMapping hpc
    (offered_bytewise (by omega))).mpr fun _ _ h => by cases h⟩

theorem blocked_response_spins :
    letI : Crypto := .recorded [] [] []
    ∃ s k frame, Reachable defaultMapping s ∧ s.pc = .respond k frame 0 ∧
      (∀ i, ∃ t, afterWrites defaultMapping s (fun _ => .error .wouldBlock) i = some t ∧
        t.pc = .respond k frame 0) ∧
      ¬ Leaves defaultMapping s frame.length fun _ => .error .wouldBlock := by
  let _ : Crypto := .recorded [] [] []
  obtain ⟨s, c, frame, hs, hpc, -⟩ :
    ∃ s c frame, Reachable defaultMapping s ∧ _ :=
      run_response (fun _ _ _ _ => trivial) firstRelayed_eq
  have hspins :=
    afterWrites_blocked (m := defaultMapping) (w := fun _ => .error .wouldBlock) hpc fun _ => rfl
  refine ⟨s, 0, frame, hs, hpc, hspins, fun h => ?_⟩
  obtain ⟨i, -, t, ht, hleft⟩ := h.bounded
  obtain ⟨t', ht', hpc'⟩ := hspins i
  obtain rfl : t' = t := Option.some.inj (ht'.symm.trans ht)
  rw [hpc'] at hleft
  cases hleft

end Masquerade.TurnserverTcp
