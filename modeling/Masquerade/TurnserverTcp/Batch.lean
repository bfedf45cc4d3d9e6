import Masquerade.TurnserverTcp.Delivery

/-! Events and the connections they were raised for, while slots are emptied and filled within a
batch. -/

namespace Masquerade.TurnserverTcp

open Lib Stun Common

def filled (m : Mapping) (s : State) : Input → Option ℕ
  | .accept (some ⟨true, true⟩) =>
    if (m.fromIndex (BitVec.ofNat 64 s.streams.vacantKey)).isSome ∧
      s.streams.vacantKey < maxSlots then
      some s.streams.vacantKey
    else none
  | _ => none

def cutShort (s : State) : Input → Option ℕ
  | .write (.ok n) =>
    match s.pc with
    | .tunWrite k frame => if n < frame.length then some k else none
    | _ => none
  | _ => none

def Event.Acts (e : Event) : Prop := e.readClosed = true ∨ e.error = true ∨ e.readable = true

instance (e : Event) : Decidable e.Acts := inferInstanceAs (Decidable (_ ∨ _))

/-- An accept does not fill a slot with an event of the batch still queued for it, but for one that
says no more than writable, and for such a slot no partial frame is kept afterwards. -/
structure Timely (m : Mapping) (s : State) (i : Input) : Prop where
  accept : ∀ k ∈ filled m s i, ∀ e ∈ s.events, e.token = .conn k → ¬ e.Acts
  write : ∀ k ∈ cutShort s i, s.idAt k ≠ s.raised k → ∀ e ∈ s.events, e.token = .conn k →
    e.writable = false

instance (m : Mapping) (s : State) (i : Input) : Decidable (Timely m s i) :=
  decidable_of_iff ((∀ k ∈ filled m s i, ∀ e ∈ s.events, e.token = .conn k → ¬ e.Acts) ∧
      ∀ k ∈ cutShort s i, s.idAt k ≠ s.raised k → ∀ e ∈ s.events, e.token = .conn k →
      e.writable = false)
    ⟨fun h => ⟨h.1, h.2⟩, fun h => ⟨h.accept, h.write⟩⟩

structure Minds (s : State) : Prop where
  owner : ∀ k, s.pc.handles = some k → s.idAt k = s.raised k
  queued : ∀ e ∈ s.events, ∀ k c, e.token = .conn k → s.streams.get k = some c →
    s.raised k ≠ some c.stream.id → ¬ Touches e c
  raised : ∀ k id, s.raised k = some id → id < s.accepts
  ids : ∀ k c, s.streams.get k = some c → c.stream.id < s.accepts

lemma touches_of_acts {e : Event} {c : Conn} (h : e.Acts) : Touches e c := by
  rcases h with h | h | h
  · exact .inl (by rw [h, Bool.true_or])
  · exact .inl (by rw [h, Bool.or_true])
  · exact .inr (.inl h)

lemma touches_iff {e : Event} {c : Conn} :
    Touches e c ↔ e.Acts ∨ (e.writable = true ∧ c.partialFrame.isSome = true) := by
  rw [Touches, Event.Acts, Bool.or_eq_true, or_assoc, or_assoc, or_assoc]

lemma minds_initial : Minds initial where
  owner k h := by cases h
  queued e h := by cases h
  raised k id h := by cases h
  ids k c h := by cases h

section Origin

variable {streams streams' : Slab Conn} {k : ℕ} {c' : Conn}

def Stems (c c' : Conn) (kept : Prop) : Prop :=
  c'.stream.id = c.stream.id ∧ (c'.partialFrame.isSome = true → c.partialFrame.isSome = true ∨ kept)

lemma stems_refl (c : Conn) (kept : Prop) : Stems c c kept := ⟨rfl, .inl⟩

lemma stems_modify {kept : Prop} {j : ℕ} {f : Conn → Conn} (hs : streams' = streams.modify j f)
    (hc' : streams'.get k = some c') (hf : ∀ c, Stems c (f c) (j = k → kept)) :
    ∃ c, streams.get k = some c ∧ Stems c c' kept := by
  rw [hs] at hc'
  rcases Slab.get_modify_eq_some hc' with ⟨-, hc⟩ | ⟨c, rfl, hc, rfl⟩
  · exact ⟨c', hc, stems_refl c' kept⟩
  · exact ⟨c, hc, (hf c).1, fun h => ((hf c).2 h).imp_right fun hkept => hkept rfl⟩

variable [Crypto] {m : Mapping} {s s' : State} {i : Input}

lemma Step.stems (h : Step m s i s') (hc' : s'.streams.get k = some c') :
    (∃ c, s.streams.get k = some c ∧ Stems c c' (s.pc.handles = some k ∨ cutShort s i = some k)) ∨
      (filled m s i = some k ∧ c'.partialFrame = none ∧ c'.stream.id = s.accepts ∧
        s'.accepts = s.accepts + 1) := by
  cases h with
  | idle he | enter _ _ _ _ _ _ _ _ _ _ he | routed _ _ _ _ _ _ _ _ _ _ _ _ _ _ he
  | condemned _ _ he
  | peeked _ _ _ _ _ _ _ _ _ he =>
    rw [he] at hc'
    exact .inl ⟨c', hc', stems_refl c' _⟩
  | accepted relayed hpc hrelayed hslots he hpc' hi haccepts =>
    rw [he] at hc'
    rcases Slab.get_insert_eq_some hc' with ⟨-, hc⟩ | ⟨rfl, rfl⟩
    · exact .inl ⟨c', hc, stems_refl c' _⟩
    · refine .inr ⟨?_, rfl, rfl, haccepts⟩
      rw [hi, filled, hrelayed, if_pos ⟨rfl, hslots⟩]
  | tunFailed j _ _ he | deregistered j _ he =>
    rw [he] at hc'
    exact .inl ⟨c', (Slab.get_remove_eq_some hc').2, stems_refl c' _⟩
  | resume j _ _ _ _ _ _ _ _ _ _ _ _ _ he =>
    exact .inl (stems_modify he hc' fun c => ⟨rfl, fun hkept => by cases hkept⟩)
  | tunWrote j frame n hpc _ he _ hi =>
    refine .inl (stems_modify he hc' fun c => ⟨rfl, fun hkept => ?_⟩)
    by_cases hn : n < frame.length
    · refine .inr fun hj => .inr ?_
      rw [hi, cutShort, hpc, ← hj]
      exact if_pos hn
    · rw [if_neg hn] at hkept
      exact .inl hkept
  | flushBlocked j _ _ _ hpc he | respondBlocked j _ _ hpc he =>
    exact .inl (stems_modify he hc' fun c =>
      ⟨rfl, fun _ => .inr fun hj => .inl (by rw [hpc, ← hj]; rfl)⟩)
  | flushed j _ _ _ _ _ _ he | readShort j _ _ _ he | consumed j _ _ _ _ _ he
  | answered j _ _ _ _ _ _ _ _ _ _ _ _ he
  | responded j _ _ _ _ _ _ he | arrived j _ _ he =>
    exact .inl (stems_modify he hc' fun c => ⟨rfl, .inl⟩)

end Origin

section

variable [Crypto] {m : Mapping} {s s' : State} {i : Input}

lemma Step.ids (h : Step m s i s') (hs : Minds s) (haccepts : s.accepts ≤ s'.accepts) (k : ℕ)
    (c' : Conn) (hc' : s'.streams.get k = some c') : c'.stream.id < s'.accepts := by
  rcases h.stems hc' with ⟨c, hc, hid, -⟩ | ⟨-, -, hid, hmore⟩
  · rw [hid]
    exact (hs.ids k c hc).trans_le haccepts
  · omega

lemma Minds.leaves (hs : Minds s) (hi : Timely m s i) (h : Step m s i s')
    {e : Event} (he : e ∈ s.events) {k : ℕ} {c' : Conn} (ht : e.token = .conn k)
    (hc' : s'.streams.get k = some c') (hraised : s.raised k ≠ some c'.stream.id) :
    ¬ Touches e c' := by
  rcases h.stems hc' with ⟨c, hc, hid, hkept⟩ | ⟨hfilled, hnone, -, -⟩
  · rw [hid] at hraised
    have hold := hs.queued e he k c ht hc hraised
    have hstale : s.idAt k ≠ s.raised k := by
      rw [State.idAt, hc]
      exact Ne.symm hraised
    rw [touches_iff] at hold ⊢
    rintro (hacts | ⟨hwritable, hsome⟩)
    · exact hold (.inl hacts)
    · rcases hkept hsome with hsome | hhandles | hcut
      · exact hold (.inr ⟨hwritable, hsome⟩)
      · exact hstale (hs.owner k hhandles)
      · rw [hi.write k hcut hstale e he ht] at hwritable
        cases hwritable
  · rw [touches_iff, hnone]
    rintro (hacts | ⟨-, hsome⟩)
    · exact hi.accept k hfilled e he ht hacts
    · cases hsome

lemma Minds.own (hs : Minds s) (h : Step m s i s') {k : ℕ} (hk : s'.pc.handles = some k) :
    s'.idAt k = s.raised k := by
  rw [h.idAt hk]
  rcases h.handles hk with hk | ⟨c, e, es, -, -, he, ht, hc, htouch⟩
  · exact hs.owner k hk
  · by_contra hstale
    refine hs.queued e (by simp [he]) k c ht hc (fun hraised => hstale ?_) htouch
    rw [State.idAt, hc, hraised]
    rfl

lemma Minds.step (hs : Minds s) (hi : Timely m s i) (h : step m s i = some s') : Minds s' := by
  have hstep := step_cases h
  have hkept : ∀ {es}, (∀ e ∈ es, e ∈ s.events) → Keeps { s with events := es } s' → Minds s' := by
    intro es hsub hkeeps
    have hraised : s'.raised = s.raised := hkeeps.raised
    refine ⟨fun k hk => ?_, fun e he k c' ht hc' hne => ?_, fun k id hid => ?_,
      hstep.ids hs hkeeps.accepts⟩
    · rw [hs.own hstep hk, hraised]
    · rw [hkeeps.events] at he
      rw [hraised] at hne
      exact hs.leaves hi hstep (hsub e he) ht hc' hne
    · rw [hraised] at hid
      exact (hs.raised k id hid).trans_le hkeeps.accepts
  rcases step_keeps h with hkeeps | ⟨e, es, -, hes, hkeeps⟩ | ⟨hraised, -, hpc, hstreams, haccepts⟩
  · exact hkept (fun e he => he) hkeeps
  · refine hkept (fun e' he' => ?_) hkeeps
    rw [hes]
    exact List.mem_cons_of_mem e he'
  · refine ⟨fun k hk => ?_, fun e he k c ht hc hne => ?_, fun k id hid => ?_,
      hstep.ids hs haccepts.ge⟩
    · rw [hpc] at hk
      cases hk
    · rw [hraised, State.idAt, ← hstreams, hc] at hne
      exact absurd rfl hne
    · rw [hraised] at hid
      obtain ⟨c, hc, rfl⟩ := Option.map_eq_some_iff.mp hid
      rw [haccepts]
      exact hs.ids k c hc

end

section Astray

variable [Crypto] {m : Mapping} {s s' : State} {i : Input} {e : Event} {es : List Event}
  {j k : ℕ} {c : Conn}

omit [Crypto] in
lemma timely_of_none (hfilled : filled m s i = none) (hcut : cutShort s i = none) :
    Timely m s i := by
  refine ⟨fun k hk => ?_, fun k hk => ?_⟩
  · rw [hfilled] at hk
    cases hk
  · rw [hcut] at hk
    cases hk

omit [Crypto] in
lemma dispatch_handles (ht : e.token = .conn k) (hc : s.streams.get k = some c)
    (htouch : Touches e c) :
    (dispatch s e).pc.handles = some k := by
  simp only [dispatch, ht, hc]
  by_cases hclosed : (e.readClosed || e.error) = true
  · rw [if_pos hclosed]
    rfl
  rw [if_neg hclosed]
  rcases htouch with h | hread | ⟨hw, hkept⟩
  · exact absurd h hclosed
  · have hgo : (afterFlush k (e.readable || e.error)).handles = some k := by
      rw [hread, Bool.true_or]
      rfl
    split_ifs
    · unfold takePartial
      cases c.partialFrame with
      | none => exact hgo
      | some rest => rfl
    · exact hgo
  · obtain ⟨rest, hrest⟩ := Option.isSome_iff_exists.mp hkept
    rw [if_pos hw]
    simp only [takePartial, hrest]
    rfl

omit [Crypto] in
lemma dispatch_idAt (s : State) (e : Event) (j : ℕ) : (dispatch s e).idAt j = s.idAt j := by
  unfold dispatch takePartial
  repeat' split
  all_goals first | rfl | exact idAt_modify (f := .keep none) rfl (fun _ => rfl) j

structure Passed (m : Mapping) (k : ℕ) (c : Conn) (es : List Event) (s t : State) : Prop where
  reaches : Reaches (step m) (Timely m) s t
  pc : t.pc = .next
  events : t.events = es
  get : t.streams.get k = some c
  raised : t.raised = s.raised

lemma Passed.of_peeking {t : State} {d : Conn} {readable : Bool}
    (h : Reaches (step m) (Timely m) s t) (hpc : t.pc = afterFlush j readable)
    (hd : t.streams.get j = some d) (hes : t.events = es) (hget : t.streams.get k = some c)
    (hraised : t.raised = s.raised) : ∃ u, Passed m k c es s u := by
  cases readable with
  | false => exact ⟨t, h, hpc, hes, hget, hraised⟩
  | true =>
    have hpeek : step m t (.peek (.error .wouldBlock)) = some (t.goto .next) := step_peek hpc hd _
    exact ⟨_, h.next _ (timely_of_none rfl rfl) hpeek, rfl, hes, hget, hraised⟩

lemma pass_event (hs : Inv m s) (hpc : s.pc = .next) (he : s.events = e :: es)
    (hc : s.streams.get k = some c) (hleft : e.token = .conn k → ¬ Touches e c) :
    ∃ t, Passed m k c es s t := by
  have hfirst : Reaches (step m) (Timely m) s (dispatch { s with events := es } e) :=
    Reaches.refl.next .tick (timely_of_none rfl rfl) (step_tick_cons hpc he)
  unfold dispatch at hfirst
  cases ht : e.token with
  | tcp =>
    simp only [ht] at hfirst
    exact ⟨_, hfirst.next (.accept none) (timely_of_none rfl rfl) (step_accept rfl none),
      rfl, rfl, hc, rfl⟩
  | tun =>
    simp only [ht] at hfirst
    exact ⟨_, hfirst.next (.recv none) (timely_of_none rfl rfl) (step_recv rfl none),
      rfl, rfl, hc, rfl⟩
  | conn j =>
    simp only [ht] at hfirst
    cases hd : s.streams.get j with
    | none =>
      simp only [hd] at hfirst
      exact ⟨_, hfirst, rfl, rfl, hc, rfl⟩
    | some d =>
      have hother : Touches e d → k ≠ j := by
        rintro htouch rfl
        obtain rfl := Option.some.inj (hc.symm.trans hd)
        exact hleft ht htouch
      simp only [hd] at hfirst
      by_cases hclosed : (e.readClosed || e.error) = true
      · rw [if_pos hclosed] at hfirst
        refine ⟨_, hfirst.next (.deregister true) (timely_of_none rfl rfl) (step_deregister rfl),
          rfl, rfl, ?_, rfl⟩
        exact (Slab.get_remove ..).trans ((if_neg (hother (.inl hclosed))).trans hc)
      · rw [if_neg hclosed] at hfirst
        by_cases hw : e.writable = true
        · rw [if_pos hw, takePartial] at hfirst
          cases hkept : d.partialFrame with
          | none =>
            simp only [hkept] at hfirst
            exact Passed.of_peeking hfirst rfl hd rfl hc rfl
          | some rest =>
            obtain ⟨offset, buffer⟩ := rest
            simp only [hkept] at hfirst
            have hne := hother (.inr (.inr ⟨hw, by rw [hkept]; rfl⟩))
            have hoffset := hs.within.kept j d hd offset buffer hkept
            have hblocked := hfirst.next (.write (.error .wouldBlock)) (timely_of_none rfl rfl)
              (step_flush_blocked rfl hoffset)
            refine Passed.of_peeking (d := (d.keep none).keep (some (offset, buffer))) hblocked
              rfl ?_ rfl ?_ rfl
            · exact Slab.get_modify_of_get _ (Slab.get_modify_of_get _ hd)
            · exact (Slab.get_modify ..).trans
                ((if_neg hne).trans ((Slab.get_modify ..).trans ((if_neg hne).trans hc)))
        · rw [if_neg hw] at hfirst
          exact Passed.of_peeking hfirst rfl hd rfl hc rfl

lemma goes_astray (hs : Inv m s) (hpc : s.pc = .next) (hc : s.streams.get k = some c)
    (hstale : s.raised k ≠ some c.stream.id) (he : e ∈ s.events) (ht : e.token = .conn k)
    (htouch : Touches e c) :
    ∃ t, Reaches (step m) (Timely m) s t ∧ t.pc.handles = some k ∧ t.idAt k ≠ t.raised k := by
  generalize hevents : s.events = events at he
  induction events generalizing s with
  | nil => cases he
  | cons e₀ es ih =>
    by_cases hfirst : e₀.token = .conn k ∧ Touches e₀ c
    · refine ⟨_, Reaches.refl.next .tick (timely_of_none rfl rfl) (step_tick_cons hpc hevents),
        dispatch_handles hfirst.1 hc hfirst.2, ?_⟩
      rw [dispatch_idAt, (dispatch_keeps e₀).raised, State.idAt, hc]
      exact Ne.symm hstale
    · obtain ⟨t, hpassed⟩ := pass_event hs hpc hevents hc fun ht₀ htouch₀ => hfirst ⟨ht₀, htouch₀⟩
      have hin : e ∈ es := by
        rcases List.mem_cons.mp he with rfl | he
        · exact absurd ⟨ht, htouch⟩ hfirst
        · exact he
      have hinv : Inv m t := hpassed.reaches.invariant hs fun _ _ _ hs _ h => hs.step h
      obtain ⟨u, hu, hastray⟩ :=
        ih hinv hpassed.pc hpassed.get (hpassed.raised ▸ hstale) hpassed.events hin
      exact ⟨u, hpassed.reaches.append hu, hastray⟩

omit [Crypto] in
lemma filled_eq_some (hk : filled m s i = some k) :
    i = .accept (some ⟨true, true⟩) ∧ k = s.streams.vacantKey ∧ s.streams.vacantKey < maxSlots ∧
      ∃ relayed, m.fromIndex (BitVec.ofNat 64 s.streams.vacantKey) = some relayed := by
  unfold filled at hk
  split at hk
  next =>
    split_ifs at hk with hroom
    exact ⟨rfl, (Option.some.inj hk).symm, hroom.2, Option.isSome_iff_exists.mp hroom.1⟩
  next => cases hk

lemma step_fills (h : step m s i = some s') (hk : filled m s i = some k) :
    s'.pc = .accept ∧ s'.events = s.events ∧ s'.raised = s.raised ∧
      ∃ relayed, s'.streams.get k = some (.fresh relayed s.accepts) := by
  obtain ⟨rfl, rfl, hslots, relayed, hrelayed⟩ := filled_eq_some hk
  have hpc : s.pc = .accept := by
    by_contra hpc
    rw [step, if_neg hpc] at h
    cases h
  rw [step_accept hpc, accept] at h
  simp only [hrelayed, not_true_eq_false, if_false, if_neg (Nat.not_le.mpr hslots),
    Option.some.injEq] at h
  subst h
  exact ⟨hpc, rfl, rfl, relayed, (Slab.get_insert ..).trans (if_pos rfl)⟩

omit [Crypto] in
lemma cutShort_eq_some (hk : cutShort s i = some k) :
    ∃ n frame, i = .write (.ok n) ∧ s.pc = .tunWrite k frame ∧ n < frame.length := by
  unfold cutShort at hk
  split at hk
  next n =>
    split at hk
    next j frame hpc =>
      split_ifs at hk with hn
      obtain rfl := Option.some.inj hk
      exact ⟨n, frame, rfl, hpc, hn⟩
    next => cases hk
  next => cases hk

lemma step_cuts (hs : Inv m s) (h : step m s i = some s') (hk : cutShort s i = some k) :
    s'.pc = .tun ∧ s'.events = s.events ∧ s'.raised = s.raised ∧ s'.idAt k = s.idAt k ∧
      ∃ c, s'.streams.get k = some c ∧ c.partialFrame.isSome = true := by
  obtain ⟨n, frame, rfl, hpc, hn⟩ := cutShort_eq_some hk
  obtain ⟨-, c, hc, -⟩ := hs.sending k frame hpc
  rw [step_tunWrite hpc, tunWrite, if_neg (by omega)] at h
  simp only [if_pos hn, Option.some.injEq] at h
  subst h
  have hget := Slab.get_modify_of_get (.keep (some (0, frame.drop n)))
    (Slab.get_modify_of_get (fun c => (c.start frame).accept (frame.take n)) hc)
  refine ⟨rfl, rfl, rfl, ?_, _, hget, rfl⟩
  rw [State.idAt, State.idAt, hc]
  exact (congrArg (Option.map _) hget).trans rfl

lemma astray_of_not_timely (hs : Inv m s) (hminds : Minds s) (h : step m s i = some s')
    (hi : ¬ Timely m s i) :
    ∃ t, Reaches (step m) (Timely m) s' t ∧ ∃ k, t.pc.handles = some k ∧ t.idAt k ≠ t.raised k := by
  have hs' : Inv m s' := hs.step h
  by_contra hnone
  refine hi ⟨fun k hk e he ht hacts => hnone ?_, fun k hk hstale e he ht => ?_⟩
  · obtain ⟨hpc, hevents, hraised, relayed, hc⟩ := step_fills h hk
    have hlast : step m s' (.accept none) = some (s'.goto .next) := step_accept hpc none
    have hnew : (s'.goto .next).raised k ≠ some (Conn.fresh relayed s.accepts).stream.id := by
      intro hold
      rw [State.goto_raised, hraised] at hold
      exact (hminds.raised k _ hold).false
    obtain ⟨t, ht, hk, hne⟩ :=
      goes_astray (hs'.step hlast) rfl hc hnew (hevents ▸ he) ht (touches_of_acts hacts)
    exact ⟨t, (Reaches.refl.next _ (timely_of_none rfl rfl) hlast).append ht, k, hk, hne⟩
  · by_contra hwritable
    rw [Bool.not_eq_false] at hwritable
    obtain ⟨hpc, hevents, hraised, hid, c, hc, hkept⟩ := step_cuts hs h hk
    have hlast : step m s' (.recv none) = some (s'.goto .next) := step_recv hpc none
    have hnew : (s'.goto .next).raised k ≠ some c.stream.id := by
      rw [State.goto_raised, hraised]
      rw [← hid, State.idAt, hc] at hstale
      exact Ne.symm hstale
    obtain ⟨t, ht, hk, hne⟩ :=
      goes_astray (hs'.step hlast) rfl hc hnew (hevents ▸ he) ht (.inr (.inr ⟨hwritable, hkept⟩))
    exact hnone ⟨t, (Reaches.refl.next _ (timely_of_none rfl rfl) hlast).append ht, k, hk, hne⟩

theorem events_mind_their_connection (h : Run m (Timely m) s) :
    (∀ k, s.pc.handles = some k → s.idAt k = s.raised k) ∧
      ∀ i s', step m s i = some s' → (Timely m s i ↔
        ∀ t, Reaches (step m) (Timely m) s' t → ∀ k, t.pc.handles = some k →
          t.idAt k = t.raised k) := by
  have hminds : Minds s := h.invariant minds_initial fun _ _ _ hs hi h => hs.step hi h
  refine ⟨hminds.owner, fun i s' hstep => ⟨fun hi t ht => ?_, fun hall => ?_⟩⟩
  · have hminds' : Minds t := ht.invariant (hminds.step hi hstep) fun _ _ _ hs hi h => hs.step hi h
    exact hminds'.owner
  · by_contra hi
    obtain ⟨t, ht, k, hk, hne⟩ := astray_of_not_timely h.inv hminds hstep hi
    exact hne (hall t ht k hk)

end Astray

def hangUp : List Input :=
  [.tick, .poll (some [⟨.tcp, true, false, false, false⟩]),
    .tick, .accept (some ⟨true, true⟩), .accept none, .tick,
    .poll (some [⟨.conn 0, true, true, true, false⟩, ⟨.tcp, true, false, false, false⟩]),
    .tick, .deregister true, .tick, .accept (some ⟨true, true⟩), .accept none, .tick,
    .poll (some [⟨.conn 0, true, true, false, false⟩]), .tick]

theorem events_mind_their_connection_hangUp :
    letI : Crypto := .recorded [] [] []
    ∃ s, Run defaultMapping (Timely defaultMapping) s ∧ s.pc = .peek 0 ∧ s.idAt 0 = some 1 ∧
      s.raised 0 = some 1 := by
  let _ : Crypto := .recorded [] [] []
  have hrun : (runWithin (step defaultMapping) (Timely defaultMapping) initial hangUp).map
      (fun s => (s.pc, s.idAt 0)) = some (.peek 0, some 1) := by
    decide +kernel
  obtain ⟨s, hs, hat⟩ := Option.map_eq_some_iff.mp hrun
  obtain ⟨hpc, hid⟩ := Prod.mk.inj hat
  have hreach := Reaches.of_runWithin hangUp hs
  exact ⟨s, hreach, hpc, hid,
    ((events_mind_their_connection hreach).1 0 (by rw [hpc]; rfl)).symm.trans hid⟩

/-- A frame for the first client cannot be written, its slot goes to a new client, and the old one's
hang-up comes up. -/
theorem stale_event_closes_new_connection :
    letI : Crypto := .recorded [] [] []
    ∃ s s', Reachable defaultMapping s ∧ s.raised 0 = some 0 ∧ s.idAt 0 = some 1 ∧
      s.pc = .deregister 0 ∧
      step defaultMapping s (.deregister true) = some s' ∧ s'.idAt 0 = none := by
  let _ : Crypto := .recorded [] [] []
  have hok : ∀ (s : State) (i : Input), s.pc.handles = none → i.packet = none → True :=
    fun _ _ _ _ => trivial
  obtain ⟨s, hs, hpc, hevents, haccepts, hraised, hstreams⟩ := reachable_tun firstRelayed_eq
    [⟨.tcp, true, false, false, false⟩, ⟨.conn 0, true, true, true, false⟩] (by simp)
  have hget : s.streams.get 0 = some (.fresh firstRelayed 0) := by
    rw [hstreams]
    rfl
  -- The frame for the first client is not accepted: its slot is emptied.
  have hlen := datagram_nil_length outsider firstRelayed
  obtain ⟨msg, hnet⟩ :=
    handleNet_datagram hs.inv.buffer (List.Vector.replicate 12 0) outsider firstRelayed
  have hindex : defaultMapping.toIndex firstRelayed = some 0#64 := by decide +kernel
  obtain ⟨frame, hrouted⟩ := step_recv_routed hs.inv hpc (by omega) hnet hindex hget rfl
  have h₁ := hs.next _ trivial hrouted
  have h₂ := h₁.next (.write (.error .other)) trivial (step_tunWrite rfl _)
  have h₃ := h₂.next (.deregister true) trivial (step_tunDeregister rfl)
  have h₄ : Reachable defaultMapping { s with
      pc := .next, buffer := msg, streams := s.streams.remove 0 } :=
    h₃.next (.recv none) trivial (step_recv rfl none)
  -- The next client gets the freed slot.
  have h₅ : Reachable defaultMapping { s with
      pc := .accept
      events := [⟨.conn 0, true, true, true, false⟩]
      buffer := msg
      streams := s.streams.remove 0 } := Run.tick hok h₄ rfl hevents
  have hkey : (s.streams.remove 0).vacantKey = 0 := by
    rw [hstreams]
    rfl
  have hslots : 0 < maxSlots := by norm_num [maxSlots]
  have h₆ := Run.accept hok h₅ rfl (by rw [hkey]; exact firstRelayed_eq)
    (by rw [hkey]; exact hslots)
  have h₇ : Reachable defaultMapping { s with
      pc := .next
      events := [⟨.conn 0, true, true, true, false⟩]
      buffer := msg
      streams := (s.streams.remove 0).insert (.fresh firstRelayed s.accepts)
      accepts := s.accepts + 1 } := h₆.next (.accept none) trivial (step_accept rfl none)
  have hnew : ((s.streams.remove 0).insert (.fresh firstRelayed s.accepts)).get 0 =
      some (.fresh firstRelayed 1) := by
    rw [Slab.get_insert, hkey, if_pos rfl, haccepts]
  -- What was raised for the first client closes the second.
  have h₈ := Run.tick hok h₇ rfl rfl
  rw [dispatch_closed rfl hnew rfl] at h₈
  refine ⟨_, _, h₈, hraised, ?_, rfl, step_deregister rfl, ?_⟩
  · simp only [State.idAt, State.goto_streams, hnew]
    rfl
  · simp only [State.idAt, State.goto_streams, Slab.get_remove, if_true]
    rfl

end Masquerade.TurnserverTcp
