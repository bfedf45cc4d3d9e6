import Masquerade.TurnserverTcp.Output

/-! What goes wrong on one connection does not reach the others. -/

namespace Masquerade.TurnserverTcp

open Lib Stun Common

/-- A call made while the event of slot `k` is handled. Deregistering succeeds. -/
def Handling (k : ℕ) (s : State) (i : Input) : Prop := s.pc.handles = some k ∧ i ≠ .deregister false

def Input.ReadFailed : Input → Prop
  | .read (.error _) => True
  | _ => False

structure Isolated (k : ℕ) (before after : Slab Conn) : Prop where
  others : ∀ j, j ≠ k → ∃ bytes, after.get j = (before.get j).map (.arrive bytes)
  own : after.get k = none ∨ ∃ c c', before.get k = some c ∧ after.get k = some c' ∧
    c'.relayed = c.relayed ∧ c'.stream.id = c.stream.id

section Isolated

variable {k : ℕ} {a b c : Slab Conn}

lemma arrive_nil : Conn.arrive [] = id := by
  funext c
  simp [Conn.arrive]

lemma arrive_arrive (xs ys : Bytes) : Conn.arrive ys ∘ Conn.arrive xs = Conn.arrive (xs ++ ys) := by
  funext c
  simp [Conn.arrive]

lemma Isolated.refl : Isolated k a a where
  others j _ := ⟨[], by rw [arrive_nil, Option.map_id, id]⟩
  own := by
    cases h : a.get k with
    | none => exact .inl rfl
    | some c => exact .inr ⟨c, c, rfl, rfl, rfl, rfl⟩

lemma Isolated.trans (h₁ : Isolated k a b) (h₂ : Isolated k b c) : Isolated k a c where
  others j hj := by
    obtain ⟨xs, hxs⟩ := h₁.others j hj
    obtain ⟨ys, hys⟩ := h₂.others j hj
    exact ⟨xs ++ ys, by rw [hys, hxs, Option.map_map, arrive_arrive]⟩
  own := by
    rcases h₂.own with hnone | ⟨c₁, c₂, hc₁, hc₂, hrelayed₂, hid₂⟩
    · exact .inl hnone
    rcases h₁.own with hnone | ⟨c₀, c₁', hc₀, hc₁', hrelayed₁, hid₁⟩
    · rw [hnone] at hc₁
      cases hc₁
    · obtain rfl : c₁ = c₁' := Option.some.inj (hc₁.symm.trans hc₁')
      exact .inr ⟨c₀, c₂, hc₀, hc₂, hrelayed₂.trans hrelayed₁, hid₂.trans hid₁⟩

lemma Isolated.modify {f : Conn → Conn}
    (hf : ∀ c, (f c).relayed = c.relayed ∧ (f c).stream.id = c.stream.id) :
    Isolated k a (a.modify k f) where
  others j hj := ⟨[], by rw [Slab.get_modify, if_neg hj, arrive_nil, Option.map_id, id]⟩
  own := by
    cases h : a.get k with
    | none => exact .inl (by rw [Slab.get_modify, if_pos rfl, h, Option.map_none])
    | some c => exact .inr ⟨c, f c, rfl, Slab.get_modify_of_get f h, (hf c).1, (hf c).2⟩

lemma Isolated.remove : Isolated k a (a.remove k) where
  others j hj := ⟨[], by rw [Slab.get_remove, if_neg hj, arrive_nil, Option.map_id, id]⟩
  own := .inl (by rw [Slab.get_remove, if_pos rfl])

lemma Isolated.arrive (j : ℕ) (bytes : Bytes) : Isolated k a (a.modify j (.arrive bytes)) := by
  by_cases hj : j = k
  · subst hj
    exact .modify fun _ => ⟨rfl, rfl⟩
  refine ⟨fun i hi => ?_, ?_⟩
  · by_cases hij : i = j
    · subst hij
      exact ⟨bytes, by rw [Slab.get_modify, if_pos rfl]⟩
    · exact ⟨[], by rw [Slab.get_modify, if_neg hij, arrive_nil, Option.map_id, id]⟩
  · rw [Slab.get_modify, if_neg (Ne.symm hj)]
    exact Isolated.refl.own

end Isolated

section

variable [Crypto] {m : Mapping} {s s' t : State} {i : Input} {k : ℕ}

lemma Step.isolated (h : Step m s i s') (hk : s.pc.handles = some k) :
    Isolated k s.streams s'.streams := by
  cases h with
  | idle he | condemned _ _ he | peeked _ _ _ _ _ _ _ _ _ he =>
    rw [he]
    exact .refl
  | arrived j bytes _ he =>
    rw [he]
    exact .arrive j bytes
  | flushed j _ _ _ _ hpc _ he | flushBlocked j _ _ _ hpc he | readShort j _ _ hpc he
  | consumed j _ _ hpc _ _ he
  | answered j _ _ _ _ hpc _ _ _ _ _ _ _ he | responded j _ _ _ hpc _ _ he
  | respondBlocked j _ _ hpc he =>
    obtain rfl : j = k := by simpa [hpc, Pc.handles] using hk
    rw [he]
    exact .modify fun _ => ⟨rfl, rfl⟩
  | deregistered j hpc he =>
    obtain rfl : j = k := by simpa [hpc, Pc.handles] using hk
    rw [he]
    exact .remove
  | enter _ _ _ _ hpc | resume _ _ _ _ _ _ _ hpc | accepted _ hpc | routed _ _ _ _ _ _ hpc
  | tunWrote _ _ _ hpc
  | tunFailed _ _ hpc =>
    rw [hpc] at hk
    cases hk

section Running

omit [Crypto] in
lemma handles_not_halted {pc : Pc} (h : pc.handles = some k) : ¬ pc.Halted := by
  rintro (rfl | rfl) <;> cases h

omit [Crypto] in
lemma afterFlush_running (k : ℕ) (readable : Bool) : ¬ (afterFlush k readable).Halted := by
  cases readable <;> simp [afterFlush, Pc.Halted]

omit [Crypto] in
lemma flush_running {readable : Bool} {offset : ℕ} {buffer : Bytes} {outcome : IoResult ℕ}
    (hoffset : offset ≤ buffer.length) (h : flush s k readable offset buffer outcome = some s') :
    ¬ s'.pc.Halted := by
  rw [flush, if_neg (Nat.not_lt.mpr hoffset)] at h
  cases outcome with
  | ok n =>
    simp only at h
    split_ifs at h
    · cases h
      exact afterFlush_running k readable
    · cases h
      simp [Pc.Halted]
  | error e =>
    cases e with
    | wouldBlock =>
      cases h
      exact afterFlush_running k readable
    | other =>
      cases h
      simp [Pc.Halted]

omit [Crypto] in
lemma respond_running {frame : Bytes} {offset : ℕ} {outcome : IoResult ℕ}
    (hpc : s.pc = .respond k frame offset) (hoffset : offset ≤ frame.length)
    (h : respond s k frame offset outcome = some s') : ¬ s'.pc.Halted := by
  rw [respond, if_neg (Nat.not_lt.mpr hoffset)] at h
  cases outcome with
  | ok n =>
    simp only at h
    split_ifs at h
    · cases h
      simp [Pc.Halted]
    · cases h
      simp [Pc.Halted]
  | error e =>
    cases e with
    | wouldBlock =>
      cases h
      simp [Pc.Halted, hpc]
    | other =>
      cases h
      simp [Pc.Halted]

omit [Crypto] in
lemma peek_running {c : Conn} {outcome : IoResult ℕ} (h : peek s k c outcome = some s') :
    ¬ s'.pc.Halted := by
  match outcome with
  | .error .wouldBlock | .error .other =>
    cases h
    simp [Pc.Halted]
  | .ok n =>
    have hle : n ≤ c.stream.unread.length ∧ n ≤ s.buffer.length := by
      by_contra hlong
      rw [peek, if_pos (by omega)] at h
      cases h
    rw [peek_ok hle.1 hle.2, Option.some.injEq] at h
    subst h
    cases hv : verdict (c.stream.unread.take n) with
    | ok u =>
      rw [State.goto_pc, afterPeek_ok (by simp; omega) hv]
      simp [Pc.Halted]
    | error e =>
      cases e with
      | notStun => simp [afterPeek, Pc.Halted]
      | tooShort expected =>
        simp only [State.goto_pc, afterPeek]
        split_ifs <;> simp [Pc.Halted]

lemma handle_running {c : Conn} {message b : Bytes} (hb : b.length = 65536)
    (hm : message.length ≤ 65536) (hframe : IsFrame message) (hs : s.buffer = splice b 0 message) :
    ¬ (handle s k c).pc.Halted := by
  have hdec := decodable_splice hb hm hframe
  have hlen : (splice b 0 message).length = 65536 := by rw [splice_length (by omega), hb]
  obtain ⟨obs, hobs⟩ := handleTurn_observed (.v6 c.relayed) c.relayed hdec
  obtain ⟨o, ho, -⟩ := hobs _ rfl hdec.1 (by omega)
  unfold handle
  rw [hs, ho]
  split_ifs with hkept
  · simp [Pc.Halted]
  · simp only
    split_ifs with hreply
    · obtain ⟨frame, hout, -⟩ := frame_of_turn hb hm hframe ho hreply
      simp [hout, Pc.Halted]
    · simp [Pc.Halted]

lemma read_halted_iff (hs : Inv m s) {length : ℕ} (hpc : s.pc = .read k length)
    {c : Conn} (hc : s.streams.get k = some c) {outcome : IoResult ℕ}
    (h : read s k length c outcome = some s') :
    s'.pc.Halted ↔ (Input.read outcome).ReadFailed := by
  obtain ⟨c', hc', hlen, hsize, hframe⟩ := hs.reading k length hpc
  obtain rfl : c = c' := Option.some.inj (hc.symm.trans hc')
  have hbuffer := hs.buffer
  unfold read at h
  rw [if_neg (by omega)] at h
  match outcome with
  | .error e =>
    cases h
    exact iff_of_true (.inl rfl) trivial
  | .ok n =>
    refine iff_of_false ?_ id
    simp only at h
    split_ifs at h with hlong hn
    · cases h
      simp [Pc.Halted]
    · obtain rfl : n = length := not_not.mp hn
      rw [← Option.some.inj h]
      exact handle_running hbuffer (by simp; omega) hframe rfl

lemma step_halted_iff (hs : Inv m s) (hi : Handling k s i) (h : step m s i = some s') :
    s'.pc.Halted ↔ i.ReadFailed := by
  obtain ⟨hk, hderegister⟩ := hi
  have hrunning := handles_not_halted hk
  unfold step at h
  match i with
  | .arrive index bytes =>
    cases h
    exact iff_of_false hrunning id
  | .poll none | .poll (some events) | .accept outcome | .recv outcome =>
    simp only at h
    split_ifs at h with hpc
    simp [hpc, Pc.handles] at hk
  | .tick =>
    simp only at h
    split at h
    next hpc _ => simp [hpc, Pc.handles] at hk
    next hpc _ => simp [hpc, Pc.handles] at hk
    next => cases h
  | .write outcome =>
    refine iff_of_false ?_ id
    simp only at h
    split at h
    next hpc => simp [hpc, Pc.handles] at hk
    next hpc => exact flush_running (hs.within.flushing _ _ _ _ hpc) h
    next hpc => exact respond_running hpc (hs.within.responding _ _ _ hpc) h
    next => cases h
  | .peek outcome =>
    refine iff_of_false ?_ id
    simp only at h
    split at h
    next index hpc =>
      obtain ⟨c, -, h⟩ := Option.bind_eq_some_iff.mp h
      exact peek_running h
    next => cases h
  | .read outcome =>
    simp only at h
    split at h
    next index length hpc =>
      obtain ⟨c, hc, h⟩ := Option.bind_eq_some_iff.mp h
      exact read_halted_iff hs hpc hc h
    next => cases h
  | .deregister ok =>
    refine iff_of_false ?_ id
    simp only at h
    split at h
    next hpc => simp [hpc, Pc.handles] at hk
    next index hpc =>
      split_ifs at h with hok
      · cases h
        simp [Pc.Halted]
      · exact absurd (by simp [hok]) hderegister
    next => cases h

end Running

omit [Crypto] in
lemma dispatch_isolated {e : Event} (ht : e.token = .conn k) (es : List Event) :
    Isolated k s.streams (dispatch { s with events := es } e).streams ∧
      ¬ (dispatch { s with events := es } e).pc.Halted := by
  unfold dispatch takePartial
  simp only [ht]
  split
  · exact ⟨.refl, by simp [Pc.Halted]⟩
  · split_ifs
    · exact ⟨.refl, by simp [Pc.Halted]⟩
    · split
      · exact ⟨.refl, afterFlush_running k _⟩
      · exact ⟨.modify fun _ => ⟨rfl, rfl⟩, by simp [Pc.Halted]⟩
    · exact ⟨.refl, afterFlush_running k _⟩

theorem failure_isolated_iff {e : Event} {es : List Event} {s₁ : State}
    (h : Reachable m s) (hpc : s.pc = .next) (he : s.events = e :: es)
    (ht : e.token = .conn k) (htick : step m s .tick = some s₁)
    (hrun : Reaches (step m) (fun s i => Handling k s i ∧ ¬ i.ReadFailed) s₁ t) :
    Isolated k s.streams t.streams ∧ ¬ t.pc.Halted ∧ ∀ i t', Handling k t i → step m t i = some t' →
      Isolated k s.streams t'.streams ∧ (¬ t'.pc.Halted ↔ ¬ i.ReadFailed) := by
  rw [step_tick_cons hpc he, Option.some.injEq] at htick
  have hdispatch := dispatch_isolated (s := s) ht es
  rw [htick] at hdispatch
  have hinv₁ : Inv m s₁ := h.inv.step (i := .tick) (by rw [step_tick_cons hpc he, htick])
  obtain ⟨hinv, hisolated, hrunning⟩ := hrun.invariant
    (P := fun t => Inv m t ∧ Isolated k s.streams t.streams ∧ ¬ t.pc.Halted) ⟨hinv₁, hdispatch⟩
    fun t i t' ⟨hinv, hisolated, _⟩ hi hstep =>
      ⟨hinv.step hstep, hisolated.trans ((step_cases hstep).isolated hi.1.1),
        mt (step_halted_iff hinv hi.1 hstep).mp hi.2⟩
  exact ⟨hisolated, hrunning, fun i t' hi hstep =>
    ⟨hisolated.trans ((step_cases hstep).isolated hi.1), not_congr (step_halted_iff hinv hi hstep)⟩⟩

end

theorem failure_isolated_iff_peek :
    letI : Crypto := .recorded [] [] []
    ∃ s s₁ s₂ s₃, Reachable defaultMapping s ∧ step defaultMapping s .tick = some s₁ ∧
      step defaultMapping s₁ (.peek (.error .other)) = some s₂ ∧
      step defaultMapping s₂ (.deregister true) = some s₃ ∧ (s.streams.get 0).isSome ∧
      s₃.streams.get 0 = none ∧ Isolated 0 s.streams s₃.streams ∧ ¬ s₃.pc.Halted := by
  let _ : Crypto := .recorded [] [] []
  obtain ⟨s, hs, hpc, he, hget⟩ : ∃ s, Reachable defaultMapping s ∧ s.pc = .next ∧
      s.events = [⟨.conn 0, true, false, false, false⟩] ∧
        s.streams.get 0 = some (.fresh firstRelayed 0) := by
    obtain ⟨s, hs, hpc, -, hstreams⟩ : ∃ s, Reachable defaultMapping s ∧ _ :=
      run_firstClient (fun _ _ _ _ => trivial) firstRelayed_eq
    have hget : s.streams.get 0 = some (.fresh firstRelayed 0) := by
      rw [hstreams]
      rfl
    exact ⟨_, hs.next (.poll (some [⟨.conn 0, true, false, false, false⟩])) trivial
      (step_poll hpc (by simp [State.Registered, hget])), rfl, rfl, hget⟩
  have htick : step defaultMapping s .tick = some ({ s with events := [] }.goto (.peek 0)) :=
    (step_tick_cons hpc he).trans (congrArg some (dispatch_readable rfl hget rfl rfl rfl))
  have hpeek : step defaultMapping ({ s with events := [] }.goto (.peek 0))
      (.peek (.error .other)) = some ({ s with events := [] }.goto (.deregister 0)) :=
    (step_peek (s := { s with events := [] }.goto (.peek 0)) rfl hget _).trans rfl
  have hderegister : step defaultMapping
      ({ s with events := [] }.goto (.deregister 0)) (.deregister true) =
      some ({ s with events := [], streams := s.streams.remove 0 }.goto .next) :=
    step_deregister rfl
  have hrun : Reaches (step defaultMapping) (fun s i => Handling 0 s i ∧ ¬ i.ReadFailed)
      ({ s with events := [] }.goto (.peek 0)) ({ s with events := [] }.goto (.deregister 0)) :=
    Reaches.refl.next (.peek (.error .other)) ⟨⟨rfl, by simp⟩, id⟩ hpeek
  obtain ⟨-, -, hgoes⟩ := failure_isolated_iff hs hpc he rfl htick hrun
  obtain ⟨hisolated, hrunning⟩ := hgoes (.deregister true) _ ⟨rfl, by simp⟩ hderegister
  refine ⟨s, _, _, _, hs, htick, hpeek, hderegister, by rw [hget]; rfl, ?_, hisolated,
    hrunning.mpr id⟩
  exact (s.streams.get_remove 0 0).trans (if_pos rfl)

/-- The connection is reset between the peek and the read: the server exits. -/
theorem failed_read_exits :
    letI : Crypto := .recorded [] [] []
    ∃ s s', Reachable defaultMapping s ∧ Handling 0 s (.read (.error .other)) ∧
      step defaultMapping s (.read (.error .other)) = some s' ∧ s'.pc = .exited := by
  let _ : Crypto := .recorded [] [] []
  obtain ⟨s, hs, hpc, hget⟩ : ∃ s, Reachable defaultMapping s ∧ _ :=
    run_read (fun _ _ _ _ => trivial) firstRelayed_eq
  have hbuffer := hs.inv.buffer
  have hread : step defaultMapping s (.read (.error .other)) = some (s.goto .exited) := by
    rw [step_read hpc hget]
    exact if_neg (by omega)
  exact ⟨s, _, hs, ⟨by rw [hpc]; rfl, by simp⟩, hread, rfl⟩

end Masquerade.TurnserverTcp
