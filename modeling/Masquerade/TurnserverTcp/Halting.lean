import Masquerade.Lib.Trace
import Masquerade.Common.Fresh
import Masquerade.TurnserverTcp.Isolation

/-! What the server ends by, in a whole run. -/

namespace Masquerade.TurnserverTcp

open Lib Stun Common

def Ends (m : Mapping) (s : State) : Input → Prop
  | .poll none => True
  | .accept (some setUp) => setUp.nodelay = false ∨
    ((m.fromIndex (BitVec.ofNat 64 s.streams.vacantKey)).isSome ∧
      (setUp.registered = false ∨ maxSlots ≤ s.streams.vacantKey))
  | .read (.error _) => True
  | .deregister ok => ok = false
  | _ => False

section

variable {m : Mapping} {s s' : State}

lemma accept_halted_iff (hpc : s.pc = .accept) (outcome : Option SetUp) :
    (accept m s outcome).pc.Halted ↔ Ends m s (.accept outcome) := by
  cases outcome with
  | none => simp [accept, Ends, Pc.Halted]
  | some setUp =>
    rw [accept, Ends]
    by_cases hnodelay : setUp.nodelay = true
    swap
    · simp [hnodelay, Pc.Halted]
    cases hrelayed : m.fromIndex (BitVec.ofNat 64 s.streams.vacantKey) with
    | none => simp [hrelayed, hnodelay, hpc, Pc.Halted]
    | some relayed =>
      simp only [hrelayed]
      by_cases hregistered : setUp.registered = true
      · by_cases hslots : maxSlots ≤ s.streams.vacantKey <;>
          simp [hnodelay, hregistered, hslots, hpc, Pc.Halted]
      · simp [hnodelay, hregistered, Pc.Halted]

lemma route_running {receiver : SocketAddrV6} (hrunning : ¬ s.pc.Halted) {frame : Bytes}
    (h : frameOf s.buffer = .ok frame) : ¬ (route m s receiver).pc.Halted := by
  simp only [route, h]
  cases m.toIndex receiver with
  | none => exact hrunning
  | some index =>
    simp only
    cases s.streams.get index.toNat with
    | none => exact hrunning
    | some c =>
      simp only
      split_ifs
      · exact hrunning
      · simp [Pc.Halted]

lemma dispatch_running {e : Event} {es : List Event} :
    ¬ (dispatch { s with events := es } e).pc.Halted := by
  cases ht : e.token with
  | tcp | tun => simp [dispatch, ht, Pc.Halted]
  | conn k => exact (dispatch_isolated ht es).2

lemma tunWrite_running {k : ℕ} {frame : Bytes} {outcome : IoResult ℕ}
    (h : tunWrite s k frame outcome = some s') :
    ¬ s'.pc.Halted := by
  unfold tunWrite at h
  simp only at h
  repeat' split at h
  all_goals cases h
  all_goals simp [Pc.Halted]

variable [Crypto]

lemma recv_running (hs : Inv m s) (hpc : s.pc = .tun)
    {outcome : Option (Bytes × List.Vector UInt8 12)} (h : recv m s outcome = some s') :
    ¬ s'.pc.Halted := by
  unfold recv at h
  rcases outcome with _ | ⟨packet, random⟩
  · cases h
    simp [Pc.Halted]
  simp only at h
  split_ifs at h with hlen
  have hreceived :=
    Received.splice hs.buffer (show packet.length ≤ 65536 by rw [← hs.buffer]; omega)
  obtain ⟨r, hr, -⟩ := handleNet_netted random hreceived
  rw [hr, Option.some.injEq] at h
  cases r with
  | none =>
    subst h
    simp [hpc, Pc.Halted]
  | some target =>
    obtain ⟨receiver, msg⟩ := target
    obtain ⟨f, items, tail, rfl, hbuilt, -⟩ := netted_message random hreceived hr
    subst h
    exact route_running (by simp [hpc, Pc.Halted]) (frameOf_append hbuilt tail)

lemma step_ends_iff {i : Input} (hs : Inv m s) (h : step m s i = some s') :
    s'.pc.Halted ↔ s.pc.Halted ∨ Ends m s i := by
  have hcases := h
  unfold step at h
  cases i with
  | poll outcome =>
    cases outcome with
    | none =>
      simp only at h
      split_ifs at h
      cases h
      exact iff_of_true (.inl rfl) (.inr trivial)
    | some events =>
      simp only at h
      split_ifs at h with hpc
      cases h
      simp [hpc.1, Ends, Pc.Halted]
  | tick =>
    simp only at h
    split at h
    next hpc _ =>
      cases h
      simp [hpc, Ends, Pc.Halted]
    next hpc _ =>
      cases h
      exact iff_of_false dispatch_running (by simp [hpc, Ends, Pc.Halted])
    next => cases h
  | accept outcome =>
    simp only at h
    split_ifs at h with hpc
    cases h
    rw [accept_halted_iff hpc]
    simp [hpc, Pc.Halted]
  | recv outcome =>
    simp only at h
    split_ifs at h with hpc
    exact iff_of_false (recv_running hs hpc h) (by simp [hpc, Ends, Pc.Halted])
  | write outcome =>
    simp only at h
    split at h
    next hpc => exact iff_of_false (tunWrite_running h) (by simp [hpc, Ends, Pc.Halted])
    next hpc =>
      exact iff_of_false (flush_running (hs.within.flushing _ _ _ _ hpc) h)
        (by simp [hpc, Ends, Pc.Halted])
    next hpc =>
      exact iff_of_false (respond_running hpc (hs.within.responding _ _ _ hpc) h)
        (by simp [hpc, Ends, Pc.Halted])
    next => cases h
  | peek outcome =>
    simp only at h
    split at h
    next hpc =>
      obtain ⟨c, -, h⟩ := Option.bind_eq_some_iff.mp h
      exact iff_of_false (peek_running h) (by simp [hpc, Ends, Pc.Halted])
    next => cases h
  | read outcome =>
    simp only at h
    split at h
    next hpc =>
      obtain ⟨c, hc, h⟩ := Option.bind_eq_some_iff.mp h
      rw [read_halted_iff hs hpc hc h]
      cases outcome <;> simp [hpc, Ends, Input.ReadFailed, Pc.Halted]
    next => cases h
  | deregister ok =>
    simp only at h
    split at h
    next hpc =>
      cases h
      cases ok <;> simp [hpc, Ends, Pc.Halted]
    next hpc =>
      split_ifs at h with hok
      · cases h
        simp [hpc, hok, Ends, Pc.Halted]
      · cases h
        simp [hpc, hok, Ends, Pc.Halted]
    next => cases h
  | arrive index bytes =>
    cases h
    simp [Ends]

def Full (s : State) : Prop := maxSlots ≤ s.streams.slots.length

omit [Crypto] in
lemma accept_full (hpc : s.pc = .accept) {outcome : Option SetUp}
    (h : (accept m s outcome).pc = .panicked) :
    Full (accept m s outcome) := by
  cases outcome with
  | none => cases h
  | some setUp =>
    rw [accept] at h ⊢
    by_cases hnodelay : setUp.nodelay = true
    swap
    · simp [hnodelay] at h
    cases hrelayed : m.fromIndex (BitVec.ofNat 64 s.streams.vacantKey) with
    | none => simp [hrelayed, hnodelay, hpc] at h
    | some relayed =>
      by_cases hregistered : setUp.registered = true
      swap
      · simp [hrelayed, hnodelay, hregistered] at h
      by_cases hslots : maxSlots ≤ s.streams.vacantKey
      · simpa [hrelayed, hnodelay, hregistered, hslots, Full] using hslots.trans
          s.streams.vacantKey_le
      · simp [hrelayed, hnodelay, hregistered, hslots, hpc] at h

lemma step_full {i : Input} (hs : Inv m s) (hfull : s.pc = .panicked → Full s)
    (h : step m s i = some s') (hpanic : s'.pc = .panicked) : Full s' := by
  rcases (step_ends_iff hs h).mp (.inr hpanic) with hhalted | hends
  · -- Only bytes still arrive.
    cases i with
    | arrive index bytes =>
      cases h
      have hlength : (s.streams.modify index (.arrive bytes)).slots.length =
          s.streams.slots.length :=
        List.length_modify ..
      rw [Full, State.onConn_streams, hlength]
      exact hfull hpanic
    | poll outcome => rcases hhalted with hpc | hpc <;> cases outcome <;> simp [step, hpc] at h
    | _ => rcases hhalted with hpc | hpc <;> simp [step, hpc] at h
  · cases i with
    | poll outcome =>
      cases outcome with
      | some events => exact hends.elim
      | none =>
        obtain ⟨-, h⟩ := Option.ite_none_right_eq_some.mp h
        cases h
        cases hpanic
    | accept outcome =>
      obtain ⟨hpc, h⟩ := Option.ite_none_right_eq_some.mp h
      cases h
      exact accept_full hpc hpanic
    | read outcome =>
      unfold step at h
      simp only at h
      split at h
      next index length hpc =>
        obtain ⟨c, hc, h⟩ := Option.bind_eq_some_iff.mp h
        obtain ⟨_, -, -, hsize, -⟩ := hs.reading index length hpc
        have hbuffer := hs.buffer
        cases outcome with
        | ok n => exact hends.elim
        | error e =>
          rw [read, if_neg (by omega)] at h
          cases h
          cases hpanic
      next => cases h
    | deregister ok =>
      obtain rfl : ok = false := hends
      unfold step at h
      simp only at h
      split at h
      all_goals cases h
      all_goals cases hpanic
    | _ => exact hends.elim

theorem halts_iff {is : List Input} {t : State} (h : run (step m) initial is = some t) :
    (t.pc.Halted ↔ Occurs (step m) (Ends m) initial is) ∧ (t.pc = .panicked → Full t) := by
  constructor
  · have hrunning : ¬ initial.pc.Halted := by rintro (hpc | hpc) <;> cases hpc
    rw [run_reaches_iff (fun _ _ _ hs hstep => hs.step hstep)
      (fun _ _ _ => step_ends_iff) inv_initial h]
    exact or_iff_right hrunning
  · have hfull : Inv m t ∧ (t.pc = .panicked → Full t) := by
      apply run_invariant (P := fun s => Inv m s ∧ (s.pc = .panicked → Full s)) _ _ h
      · exact fun _ _ _ hs hstep => ⟨hs.1.step hstep, step_full hs.1 hs.2 hstep⟩
      · exact ⟨inv_initial, fun hpc => by cases hpc⟩
    exact hfull.2

end

theorem halts_iff_failedRead :
    letI : Crypto := .recorded [] [] []
    ∃ is t, run (step defaultMapping) initial (is ++ [.read (.error .other)]) = some t ∧
      Occurs (step defaultMapping) (Ends defaultMapping) initial (is ++ [.read (.error .other)]) ∧
        t.pc ≠ .panicked := by
  let _ : Crypto := .recorded [] [] []
  obtain ⟨s, hs, hpc, hget⟩ : ∃ s, Reachable defaultMapping s ∧ _ :=
    run_read (fun _ _ _ _ => trivial) firstRelayed_eq
  obtain ⟨is, his, -⟩ := run_of_reaches hs
  have hbuffer := hs.inv.buffer
  have hread : step defaultMapping s (.read (.error .other)) = some (s.goto .exited) :=
    (step_read hpc hget _).trans (if_neg (by omega))
  have hrun : run (step defaultMapping) initial (is ++ [.read (.error .other)]) =
      some (s.goto .exited) :=
    run_append.mpr ⟨s, his, run_single.trans hread⟩
  exact ⟨is, _, hrun, (halts_iff hrun).1.mp (.inl rfl), by simp⟩

end Masquerade.TurnserverTcp
