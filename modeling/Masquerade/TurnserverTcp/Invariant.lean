import Masquerade.TurnserverTcp.Frame

/-! What holds at every point of every run of the event loop. -/

namespace Masquerade.TurnserverTcp

open Lib Stun Common

section Keeps

structure Keeps (s s' : State) : Prop where
  raised : s'.raised = s.raised
  buffer : s'.buffer.length = s.buffer.length
  events : s'.events = s.events
  accepts : s.accepts ≤ s'.accepts

variable [Crypto] {m : Mapping} {s s' : State}

omit [Crypto] in
lemma Keeps.trans {t : State} (h : Keeps s t) (h' : Keeps t s') : Keeps s s' :=
  ⟨h'.raised.trans h.raised, h'.buffer.trans h.buffer, h'.events.trans h.events,
    h.accepts.trans h'.accepts⟩

omit [Crypto] in
lemma dispatch_keeps (e : Event) : Keeps s (dispatch s e) := by
  unfold dispatch takePartial
  repeat' split
  all_goals exact ⟨rfl, rfl, rfl, le_rfl⟩

omit [Crypto] in
lemma accept_keeps (outcome : Option SetUp) : Keeps s (accept m s outcome) := by
  unfold accept
  simp only
  repeat' split
  all_goals exact ⟨rfl, rfl, rfl, by simp [State.goto]⟩

omit [Crypto] in
lemma route_keeps (receiver : SocketAddrV6) : Keeps s (route m s receiver) := by
  unfold route
  repeat' split
  all_goals exact ⟨rfl, rfl, rfl, le_rfl⟩

lemma recv_keeps {outcome : Option (Bytes × List.Vector UInt8 12)}
    (h : recv m s outcome = some s') : Keeps s s' := by
  unfold recv at h
  match outcome with
  | none =>
    cases h
    exact ⟨rfl, rfl, rfl, le_rfl⟩
  | some (packet, random) =>
    simp only at h
    split_ifs at h with hlen
    have hsplice : (splice s.buffer 0 packet).length = s.buffer.length := splice_length (by omega)
    split at h
    next => cases h; exact ⟨rfl, rfl, rfl, le_rfl⟩
    next => cases h; exact ⟨rfl, hsplice, rfl, le_rfl⟩
    next receiver msg hnet =>
      cases h
      have hroute := route_keeps (m := m) (s := { s with buffer := msg }) receiver
      exact Keeps.trans (t := { s with buffer := msg })
        ⟨rfl, (handleNet_result hnet).1.trans hsplice, rfl, le_rfl⟩ hroute

omit [Crypto] in
lemma tunWrite_keeps {k : ℕ} {frame : Bytes} {outcome : IoResult ℕ}
    (h : tunWrite s k frame outcome = some s') :
    Keeps s s' := by
  unfold tunWrite at h
  simp only at h
  repeat' split at h
  all_goals cases h
  all_goals exact ⟨rfl, rfl, rfl, le_rfl⟩

omit [Crypto] in
lemma flush_keeps {k : ℕ} {readable : Bool} {offset : ℕ} {buffer : Bytes} {outcome : IoResult ℕ}
    (h : flush s k readable offset buffer outcome = some s') : Keeps s s' := by
  unfold flush at h
  simp only at h
  repeat' split at h
  all_goals cases h
  all_goals exact ⟨rfl, rfl, rfl, le_rfl⟩

omit [Crypto] in
lemma respond_keeps {k : ℕ} {frame : Bytes} {offset : ℕ} {outcome : IoResult ℕ}
    (h : respond s k frame offset outcome = some s') : Keeps s s' := by
  unfold respond at h
  simp only at h
  repeat' split at h
  all_goals cases h
  all_goals exact ⟨rfl, rfl, rfl, le_rfl⟩

omit [Crypto] in
lemma peek_keeps {k : ℕ} {c : Conn} {outcome : IoResult ℕ} (h : peek s k c outcome = some s') :
    Keeps s s' := by
  unfold peek at h
  match outcome with
  | .error .wouldBlock | .error .other =>
    cases h
    exact ⟨rfl, rfl, rfl, le_rfl⟩
  | .ok n =>
    simp only at h
    split_ifs at h with hlong
    split at h
    next => cases h; exact ⟨rfl, rfl, rfl, le_rfl⟩
    next =>
      cases h
      exact ⟨rfl, splice_length (by simp; omega), rfl, le_rfl⟩

lemma handle_keeps {k : ℕ} {c : Conn} : Keeps s (handle s k c) := by
  unfold handle
  split_ifs with hkept
  · exact ⟨rfl, rfl, rfl, le_rfl⟩
  split
  next => exact ⟨rfl, rfl, rfl, le_rfl⟩
  next o hturn =>
    have hlen := handleTurn_length hturn
    split_ifs
    · split
      next => exact ⟨rfl, hlen, rfl, le_rfl⟩
      next => exact ⟨rfl, hlen, rfl, le_rfl⟩
    · exact ⟨rfl, hlen, rfl, le_rfl⟩

lemma read_keeps {k length : ℕ} {c : Conn} {outcome : IoResult ℕ}
    (h : read s k length c outcome = some s') :
    Keeps s s' := by
  unfold read at h
  split_ifs at h with hb
  · cases h
    exact ⟨rfl, rfl, rfl, le_rfl⟩
  match outcome with
  | .error e =>
    cases h
    exact ⟨rfl, rfl, rfl, le_rfl⟩
  | .ok n =>
    simp only at h
    split_ifs at h with hlong hn
    all_goals
      cases h
      have hsplice : (splice s.buffer 0 (c.stream.unread.take n)).length = s.buffer.length :=
        splice_length (by simp; omega)
    · exact ⟨rfl, hsplice, rfl, le_rfl⟩
    · exact Keeps.trans (t := { s with buffer := splice s.buffer 0 (c.stream.unread.take n) }.onConn
        k _) ⟨rfl, hsplice, rfl, le_rfl⟩ handle_keeps

lemma step_keeps {i : Input} (h : step m s i = some s') :
    Keeps s s' ∨ (∃ e es, s.pc = .next ∧ s.events = e :: es ∧ Keeps { s with events := es } s') ∨
      (s'.raised = s.idAt ∧ s'.buffer = s.buffer ∧ s'.pc = .next ∧ s'.streams = s.streams ∧
      s'.accepts = s.accepts) := by
  unfold step at h
  match i with
  | .poll none =>
    simp only at h
    split_ifs at h
    cases h
    exact .inl ⟨rfl, rfl, rfl, le_rfl⟩
  | .accept outcome =>
    simp only at h
    split_ifs at h
    cases h
    exact .inl (accept_keeps _)
  | .poll (some events) =>
    simp only at h
    split_ifs at h
    cases h
    exact .inr (.inr ⟨rfl, rfl, rfl, rfl, rfl⟩)
  | .tick =>
    simp only at h
    split at h
    next => cases h; exact .inl ⟨rfl, rfl, rfl, le_rfl⟩
    next e es hpc hevents => cases h; exact .inr (.inl ⟨e, es, hpc, hevents, dispatch_keeps e⟩)
    next => cases h
  | .recv outcome =>
    simp only at h
    split_ifs at h
    exact .inl (recv_keeps h)
  | .write outcome =>
    simp only at h
    split at h
    · exact .inl (tunWrite_keeps h)
    · exact .inl (flush_keeps h)
    · exact .inl (respond_keeps h)
    · cases h
  | .peek outcome =>
    simp only at h
    split at h
    · obtain ⟨c, -, h⟩ := Option.bind_eq_some_iff.mp h
      exact .inl (peek_keeps h)
    · cases h
  | .read outcome =>
    simp only at h
    split at h
    · obtain ⟨c, -, h⟩ := Option.bind_eq_some_iff.mp h
      exact .inl (read_keeps h)
    · cases h
  | .deregister ok =>
    simp only at h
    repeat' split at h
    all_goals cases h
    all_goals exact .inl ⟨rfl, rfl, rfl, le_rfl⟩
  | .arrive index bytes =>
    cases h
    exact .inl ⟨rfl, rfl, rfl, le_rfl⟩

end Keeps

section Slots

def Routed (m : Mapping) (streams : Slab Conn) : Prop :=
  ∀ k c, streams.get k = some c → k < maxSlots ∧ m.fromIndex (BitVec.ofNat 64 k) = some c.relayed

variable {m : Mapping} {streams : Slab Conn}

lemma routed_empty : Routed m .empty := by
  intro k c hc
  simp at hc

lemma Routed.modify (h : Routed m streams) (k : ℕ) {f : Conn → Conn}
    (hf : ∀ c, (f c).relayed = c.relayed) :
    Routed m (streams.modify k f) := by
  intro j c hc
  rcases Slab.get_modify_eq_some hc with ⟨-, hc⟩ | ⟨c₀, rfl, hc₀, rfl⟩
  · exact h j c hc
  · rw [hf]
    exact h j c₀ hc₀

lemma Routed.remove (h : Routed m streams) (k : ℕ) : Routed m (streams.remove k) := by
  intro j c hc
  exact h j c (Slab.get_remove_eq_some hc).2

lemma Routed.insert (h : Routed m streams) {c : Conn} (hslots : streams.vacantKey < maxSlots)
    (hc : m.fromIndex (BitVec.ofNat 64 streams.vacantKey) = some c.relayed) :
    Routed m (streams.insert c) := by
  intro j c' hc'
  rcases Slab.get_insert_eq_some hc' with ⟨-, hc'⟩ | ⟨rfl, rfl⟩
  · exact h j c' hc'
  · exact ⟨hslots, hc⟩

variable [Crypto] {s s' : State} {i : Input}

lemma Step.routed_slots (h : Step m s i s') (hs : Routed m s.streams) : Routed m s'.streams := by
  cases h with
  | idle he | enter _ _ _ _ _ _ _ _ _ _ he | routed _ _ _ _ _ _ _ _ _ _ _ _ _ _ he
  | condemned _ _ he
  | peeked _ _ _ _ _ _ _ _ _ he =>
    rw [he]
    exact hs
  | accepted relayed _ hrelayed hslots he =>
    rw [he]
    exact hs.insert hslots hrelayed
  | tunFailed k _ _ he | deregistered k _ he =>
    rw [he]
    exact hs.remove k
  | resume k _ _ _ _ _ _ _ _ _ _ _ _ _ he | tunWrote k _ _ _ _ he | flushed k _ _ _ _ _ _ he
  | flushBlocked k _ _ _ _ he | readShort k _ _ _ he | consumed k _ _ _ _ _ he
  | answered k _ _ _ _ _ _ _ _ _ _ _ _ he | responded k _ _ _ _ _ _ he
  | respondBlocked k _ _ _ he | arrived k _ _ he =>
    rw [he]
    exact hs.modify k fun _ => rfl

end Slots

section Control

lemma Pc.Outside.handles {pc : Pc} (h : pc.Outside) : pc.handles = none := by
  cases pc <;> first | rfl | cases h

lemma handles_afterFlush {k j : ℕ} {readable : Bool}
    (h : (afterFlush k readable).handles = some j) : j = k := by
  cases readable <;> cases h
  rfl

lemma idAt_modify {s s' : State} {k : ℕ} {f : Conn → Conn} (he : s'.streams = s.streams.modify k f)
    (hf : ∀ c, (f c).stream.id = c.stream.id) (j : ℕ) : s'.idAt j = s.idAt j := by
  rw [State.idAt, State.idAt, he, Slab.get_modify]
  split_ifs with hj
  · rw [hj, Option.map_map]
    exact congrArg (Option.map · _) (funext hf)
  · rfl

lemma idAt_congr {s s' : State} (he : s'.streams = s.streams) (j : ℕ) : s'.idAt j = s.idAt j := by
  rw [State.idAt, State.idAt, he]

variable [Crypto] {m : Mapping} {s s' : State} {i : Input}

lemma Step.handles (h : Step m s i s') {k : ℕ} (hk : s'.pc.handles = some k) :
    s.pc.handles = some k ∨ ∃ c e es, i = .tick ∧ s.pc = .next ∧ s.events = e :: es ∧
      e.token = .conn k ∧ s.streams.get k = some c ∧
      Touches e c := by
  cases h with
  | idle _ hpc =>
    rw [hpc.handles] at hk
    cases hk
  | enter j c e es hpc hi he ht hc htouch _ hpc' =>
    obtain rfl : j = k := by rcases hpc' with hpc' | hpc' <;> simpa [hpc', Pc.handles] using hk
    exact .inr ⟨c, e, es, hi, hpc, he, ht, hc, htouch⟩
  | resume j c e es _ _ _ hpc hi he ht hc htouch _ _ hpc' =>
    obtain rfl : j = k := by simpa [hpc', Pc.handles] using hk
    exact .inr ⟨c, e, es, hi, hpc, he, ht, hc, htouch⟩
  | accepted _ _ _ _ _ hpc' | tunFailed _ _ _ _ hpc' | deregistered _ _ _ hpc'
  | tunWrote _ _ _ _ _ _ hpc'
  | routed _ _ _ _ _ _ _ _ _ _ _ _ _ _ _ hpc' =>
    rw [hpc'] at hk
    cases hk
  | flushed j _ _ _ _ hpc _ _ hpc' =>
    rw [hpc'] at hk
    rw [hpc]
    split_ifs at hk
    · rw [handles_afterFlush hk]
      exact .inl rfl
    · exact .inl hk
  | flushBlocked j _ _ _ hpc _ hpc' =>
    rw [hpc'] at hk
    rw [hpc, handles_afterFlush hk]
    exact .inl rfl
  | condemned j hj _ hpc' =>
    rw [hpc'] at hk
    exact .inl (hj.trans hk)
  | peeked j _ _ hpc _ _ _ _ _ _ hpc' | readShort j _ _ hpc _ hpc'
  | answered j _ _ _ _ hpc _ _ _ _ _ _ _ _ hpc' =>
    rw [hpc'] at hk
    rw [hpc]
    exact .inl hk
  | consumed j _ _ hpc _ _ _ hpc' =>
    rw [hpc]
    rcases hpc' with hpc' | hpc'
    · rw [hpc'] at hk
      exact .inl hk
    · rw [hpc'] at hk
      cases hk
  | responded j _ _ _ hpc _ _ _ hpc' =>
    rw [hpc'] at hk
    rw [hpc]
    split_ifs at hk
    · exact .inl hk
    · exact .inl hk
  | respondBlocked _ _ _ _ _ hpc' | arrived _ _ _ _ hpc' =>
    rw [hpc'] at hk
    exact .inl hk

lemma Step.idAt (h : Step m s i s') {k : ℕ} (hk : s'.pc.handles = some k) (j : ℕ) :
    s'.idAt j = s.idAt j := by
  cases h with
  | idle he | enter _ _ _ _ _ _ _ _ _ _ he | routed _ _ _ _ _ _ _ _ _ _ _ _ _ _ he
  | condemned _ _ he
  | peeked _ _ _ _ _ _ _ _ _ he => exact idAt_congr he j
  | accepted _ _ _ _ _ hpc' | tunFailed _ _ _ _ hpc' | deregistered _ _ _ hpc' =>
    rw [hpc'] at hk
    cases hk
  | resume _ _ _ _ _ _ _ _ _ _ _ _ _ _ he | tunWrote _ _ _ _ _ he | flushed _ _ _ _ _ _ _ he
  | flushBlocked _ _ _ _ _ he | readShort _ _ _ _ he | consumed _ _ _ _ _ _ he
  | answered _ _ _ _ _ _ _ _ _ _ _ _ _ he | responded _ _ _ _ _ _ _ he | respondBlocked _ _ _ _ he
  | arrived _ _ _ he => exact idAt_modify he (fun _ => rfl) j

end Control

section Within

def Conn.Within (c : Conn) : Prop := ∀ offset buffer, c.partialFrame = some (offset, buffer) →
    offset ≤ buffer.length

structure Within (s : State) : Prop where
  kept : ∀ k c, s.streams.get k = some c → c.Within
  flushing : ∀ k readable offset buffer, s.pc = .flush k readable offset buffer →
    offset ≤ buffer.length
  responding : ∀ k frame offset, s.pc = .respond k frame offset → offset ≤ frame.length

variable {m : Mapping} {s s' : State} {i : Input}

lemma within_of_none {c : Conn} (h : c.partialFrame = none) : c.Within := by
  intro offset buffer he
  rw [h] at he
  cases he

lemma within_initial : Within initial where
  kept k c hc := by
    have hnone : initial.streams.get k = none := Slab.get_empty k
    rw [hnone] at hc
    cases hc
  flushing k readable offset buffer h := by cases h
  responding k frame offset h := by cases h

lemma Conn.Within.keep {rest : Option (ℕ × Bytes)} (h : ∀ p ∈ rest, p.1 ≤ p.2.length) (c : Conn) :
    (c.keep rest).Within :=
  fun offset buffer he => h (offset, buffer) he

lemma kept_modify {k : ℕ} {f : Conn → Conn} (hs : ∀ k c, s.streams.get k = some c → c.Within)
    (he : s'.streams = s.streams.modify k f) (hf : ∀ c : Conn, c.Within → (f c).Within) :
    ∀ k c, s'.streams.get k = some c → c.Within := by
  intro j c hc
  rw [he] at hc
  rcases Slab.get_modify_eq_some hc with ⟨-, hc⟩ | ⟨c₀, rfl, hc₀, rfl⟩
  · exact hs j c hc
  · exact hf c₀ (hs j c₀ hc₀)

variable [Crypto]

lemma Step.kept (h : Step m s i s') (hs : Within s) : ∀ k c, s'.streams.get k = some c →
    c.Within := by
  cases h with
  | idle he | enter _ _ _ _ _ _ _ _ _ _ he | routed _ _ _ _ _ _ _ _ _ _ _ _ _ _ he
  | condemned _ _ he
  | peeked _ _ _ _ _ _ _ _ _ he =>
    rw [he]
    exact hs.kept
  | accepted relayed _ _ _ he =>
    intro k c hc
    rw [he] at hc
    rcases Slab.get_insert_eq_some hc with ⟨-, hc⟩ | ⟨rfl, rfl⟩
    · exact hs.kept k c hc
    · exact within_of_none rfl
  | tunFailed j _ _ he | deregistered j _ he =>
    intro k c hc
    rw [he] at hc
    exact hs.kept k c (Slab.get_remove_eq_some hc).2
  | flushed _ _ _ _ _ _ _ he | readShort _ _ _ _ he | consumed _ _ _ _ _ _ he
  | answered _ _ _ _ _ _ _ _ _ _ _ _ _ he
  | responded _ _ _ _ _ _ _ he | arrived _ _ _ he => exact kept_modify hs.kept he fun _ hc => hc
  | resume _ _ _ _ _ _ _ _ _ _ _ _ _ _ he =>
    exact kept_modify hs.kept he fun c _ => within_of_none rfl
  | respondBlocked _ _ _ _ he =>
    exact kept_modify hs.kept he fun c _ => .keep (by simp) c
  | flushBlocked k readable offset buffer hpc he =>
    have hle := hs.flushing k readable offset buffer hpc
    exact kept_modify hs.kept he fun c _ => .keep (by simpa using hle) c
  | tunWrote k frame n hpc hn he =>
    refine kept_modify hs.kept he fun c hc => .keep (fun p hp => ?_) _
    split_ifs at hp with hshort
    · obtain rfl := Option.some.inj hp
      exact Nat.zero_le _
    · exact hc p.1 p.2 hp

end Within

section Inv

structure Inv (m : Mapping) (s : State) : Prop where
  buffer : s.buffer.length = 65536
  slots : Routed m s.streams
  live : ∀ k, s.pc.handles = some k → (s.idAt k).isSome
  sending : ∀ k frame, s.pc = .tunWrite k frame →
    IsFrame frame ∧ ∃ c, s.streams.get k = some c ∧ c.partialFrame = none
  reading : ∀ k length, s.pc = .read k length → ∃ c, s.streams.get k = some c ∧
    length ≤ c.stream.unread.length ∧ length ≤ 65536 ∧ IsFrame (c.stream.unread.take length)
  within : Within s

variable {m : Mapping} {s s' : State} {i : Input}

lemma inv_initial : Inv m initial where
  buffer := List.length_replicate
  slots := routed_empty
  live k h := by cases h
  sending k frame h := by cases h
  reading k length h := by cases h
  within := within_initial

variable [Crypto]

lemma Step.live (h : Step m s i s') (hs : ∀ k, s.pc.handles = some k → (s.idAt k).isSome) {k : ℕ}
    (hk : s'.pc.handles = some k) : (s'.idAt k).isSome := by
  rw [h.idAt hk]
  rcases h.handles hk with hk | ⟨c, _, _, _, _, _, _, hc, _⟩
  · exact hs k hk
  · simp [State.idAt, hc]

def State.Carries (s : State) : Pc → Prop
  | .flush _ _ offset buffer => offset ≤ buffer.length
  | .respond _ frame offset => offset ≤ frame.length
  | .tunWrite k frame => IsFrame frame ∧ ∃ c, s.streams.get k = some c ∧ c.partialFrame = none
  | _ => True

omit [Crypto] in
lemma Inv.carries (hs : Inv m s) : s.Carries s.pc := by
  cases hpc : s.pc with
  | flush k readable offset buffer => exact hs.within.flushing k readable offset buffer hpc
  | respond k frame offset => exact hs.within.responding k frame offset hpc
  | tunWrite k frame => exact hs.sending k frame hpc
  | _ => trivial

omit [Crypto] in
lemma State.Carries.arrive {pc : Pc} (h : s.Carries pc) {j : ℕ} {bytes : Bytes}
    (he : s'.streams = s.streams.modify j (.arrive bytes)) : s'.Carries pc := by
  cases pc with
  | tunWrite k frame =>
    obtain ⟨hframe, c, hc, hkept⟩ := h
    refine ⟨hframe, ?_⟩
    rw [he, Slab.get_modify]
    split_ifs with hj
    · subst hj
      exact ⟨c.arrive bytes, by rw [hc, Option.map_some], hkept⟩
    · exact ⟨c, hc, hkept⟩
  | _ => exact h

omit [Crypto] in
lemma carries_of_outside {pc : Pc} (h : pc.Outside) : s.Carries pc := by
  cases pc <;> trivial

omit [Crypto] in
lemma carries_afterFlush (k : ℕ) (readable : Bool) : s.Carries (afterFlush k readable) := by
  cases readable <;> trivial

lemma Step.carries (h : Step m s i s') (hs : Inv m s) : s'.Carries s'.pc := by
  cases h with
  | resume k c _ _ _ offset buffer _ _ _ _ hc _ hkept _ hpc' =>
    rw [hpc']
    exact hs.within.kept k c hc offset buffer hkept
  | routed _ _ _ _ c frame _ _ hlen hnet _ hc hkept hframe he hpc' =>
    obtain ⟨f, hf, hisFrame⟩ := frame_of_net hs.buffer (hs.buffer ▸ hlen) hnet
    obtain rfl := Except.ok.inj (hf.symm.trans hframe)
    rw [hpc']
    exact ⟨hisFrame, c, he ▸ hc, hkept⟩
  | flushed k readable offset buffer n hpc hn _ hpc' =>
    have hle := hs.within.flushing k readable offset buffer hpc
    rw [List.length_drop] at hn
    rw [hpc']
    split_ifs
    · exact carries_afterFlush k readable
    · show offset + n ≤ buffer.length
      omega
  | answered _ _ _ _ frame _ _ _ _ _ _ _ _ _ hpc' =>
    rw [hpc']
    exact Nat.zero_le frame.length
  | responded k frame offset n hpc _ hn _ hpc' =>
    have hle := hs.within.responding k frame offset hpc
    rw [List.length_drop] at hn
    rw [hpc']
    split_ifs
    · trivial
    · show offset + n ≤ frame.length
      omega
  | respondBlocked k frame offset hpc _ hpc' =>
    rw [hpc', hpc]
    exact hs.within.responding k frame offset hpc
  | arrived _ _ _ he hpc' =>
    rw [hpc']
    exact hs.carries.arrive he
  | idle _ hpc' => exact carries_of_outside hpc'
  | flushBlocked k readable _ _ _ _ hpc' =>
    rw [hpc']
    exact carries_afterFlush k readable
  | enter _ _ _ _ _ _ _ _ _ _ _ hpc' | consumed _ _ _ _ _ _ _ hpc' =>
    rcases hpc' with hpc' | hpc' <;> rw [hpc'] <;> trivial
  | accepted _ _ _ _ _ hpc' | tunWrote _ _ _ _ _ _ hpc' | tunFailed _ _ _ _ hpc'
  | condemned _ _ _ hpc'
  | peeked _ _ _ _ _ _ _ _ _ _ hpc' | readShort _ _ _ _ _ hpc' | deregistered _ _ _ hpc' =>
    rw [hpc']
    trivial

lemma Step.within (h : Step m s i s') (hs : Inv m s) : Within s' where
  kept := h.kept hs.within
  flushing k readable offset buffer hk := by simpa only [hk, State.Carries] using h.carries hs
  responding k frame offset hk := by simpa only [hk, State.Carries] using h.carries hs

lemma Step.reads (h : Step m s i s') {k length : ℕ} (hk : s'.pc = .read k length) :
    (∃ c n, s.streams.get k = some c ∧ n ≤ s.buffer.length ∧
      verdict (c.stream.unread.take n) = .ok () ∧
      length = lengthAt (c.stream.unread.take n) + 20 ∧ s'.streams = s.streams) ∨
    (∃ j bytes, s.pc = .read k length ∧ s'.streams = s.streams.modify j (.arrive bytes)) := by
  cases h with
  | peeked j c n hpc hi hc hn hb hverdict he hpc' =>
    rw [hpc', Pc.read.injEq] at hk
    obtain ⟨rfl, rfl⟩ := hk
    exact .inl ⟨c, n, hc, hb, hverdict, rfl, he⟩
  | arrived j bytes hi he hpc' => exact .inr ⟨j, bytes, hpc'.symm.trans hk, he⟩
  | idle _ hpc' =>
    rw [hk] at hpc'
    cases hpc'
  | flushed _ _ _ _ _ _ _ _ hpc' | flushBlocked _ _ _ _ _ _ hpc' =>
    rw [hpc'] at hk
    simp only [afterFlush] at hk
    split_ifs at hk
  | responded _ _ _ _ _ _ _ _ hpc' =>
    rw [hpc'] at hk
    split_ifs at hk
  | enter _ _ _ _ _ _ _ _ _ _ _ hpc' | consumed _ _ _ _ _ _ _ hpc' =>
    rcases hpc' with hpc' | hpc' <;> simp [hpc'] at hk
  | respondBlocked _ _ _ hpc _ hpc' =>
    rw [hpc', hpc] at hk
    cases hk
  | resume _ _ _ _ _ _ _ _ _ _ _ _ _ _ _ hpc' | accepted _ _ _ _ _ hpc' | tunWrote _ _ _ _ _ _ hpc'
  | tunFailed _ _ _ _ hpc' | condemned _ _ _ hpc' | routed _ _ _ _ _ _ _ _ _ _ _ _ _ _ _ hpc'
  | readShort _ _ _ _ _ hpc' | answered _ _ _ _ _ _ _ _ _ _ _ _ _ _ hpc'
  | deregistered _ _ _ hpc' =>
    rw [hpc'] at hk
    cases hk

lemma Step.reading (h : Step m s i s') (hs : Inv m s) {k length : ℕ} (hk : s'.pc = .read k length) :
    ∃ c, s'.streams.get k = some c ∧ length ≤ c.stream.unread.length ∧ length ≤ 65536 ∧
      IsFrame (c.stream.unread.take length) := by
  rcases h.reads hk with ⟨c, n, hc, hb, hverdict, rfl, he⟩ | ⟨j, bytes, hpc, he⟩
  · obtain ⟨hle, hlen, hframe⟩ := isFrame_take hverdict
    have hbuffer := hs.buffer
    exact ⟨c, he ▸ hc, hlen, by omega, hframe⟩
  · obtain ⟨c, hc, hlen, hsize, hframe⟩ := hs.reading k length hpc
    rw [he, Slab.get_modify]
    split_ifs with hj
    · subst hj
      refine ⟨c.arrive bytes, by rw [hc, Option.map_some], ?_, hsize, ?_⟩
      · exact hlen.trans (by simp [Conn.arrive])
      · rwa [Conn.arrive, List.take_append_of_le_length hlen]
    · exact ⟨c, hc, hlen, hsize, hframe⟩

lemma Inv.step (hs : Inv m s) (h : step m s i = some s') : Inv m s' := by
  have hstep := step_cases h
  refine ⟨?_, hstep.routed_slots hs.slots, fun k => hstep.live hs.live, fun k frame hk => ?_,
    fun k length => hstep.reading hs, hstep.within hs⟩
  · rcases step_keeps h with hkeeps | ⟨e, es, -, -, hkeeps⟩ | ⟨-, hb, -, -⟩
    · rw [hkeeps.buffer, hs.buffer]
    · exact hkeeps.buffer.trans hs.buffer
    · rw [hb, hs.buffer]
  · simpa only [hk, State.Carries] using hstep.carries hs

abbrev Run (m : Mapping) (allowed : State → Input → Prop) : State → Prop :=
  Reaches (step m) allowed initial

abbrev Reachable (m : Mapping) : State → Prop := Run m fun _ _ => True

lemma Run.inv {allowed : State → Input → Prop} (h : Run m allowed s) : Inv m s :=
  h.invariant inv_initial fun _ _ _ hs _ h => hs.step h

end Inv

section Runs

def Conn.fresh (relayed : SocketAddrV6) (id : ℕ) : Conn := ⟨relayed, none, ⟨id, [], [], []⟩, [], []⟩

def Input.packet : Input → Option (Bytes × List.Vector UInt8 12)
  | .recv (some packet) => some packet
  | _ => none

def Pc.responding : Pc → Option ℕ
  | .respond index _ _ => some index
  | _ => none

lemma responding_of_handles {pc : Pc} (h : pc.handles = none) : pc.responding = none := by
  cases pc <;> first | rfl | cases h

variable [Crypto] {m : Mapping} {s : State} {allowed : State → Input → Prop}
  (hok : ∀ s i, s.pc.handles = none → i.packet = none → allowed s i)

include hok

lemma Run.accept (h : Run m allowed s) (hpc : s.pc = .accept) {relayed : SocketAddrV6}
    (hrelayed : m.fromIndex (BitVec.ofNat 64 s.streams.vacantKey) = some relayed)
    (hslots : s.streams.vacantKey < maxSlots) :
    Run m allowed { s with
      streams := s.streams.insert (.fresh relayed s.accepts), accepts := s.accepts + 1 } := by
  have haccept : TurnserverTcp.accept m s (some ⟨true, true⟩) = { s with
      streams := s.streams.insert (.fresh relayed s.accepts), accepts := s.accepts + 1 } := by
    simp only [TurnserverTcp.accept, hrelayed, not_true_eq_false, if_false,
      if_neg (Nat.not_le.mpr hslots)]
    rfl
  exact h.next (.accept (some ⟨true, true⟩)) (hok _ _ (by rw [hpc]; rfl) rfl)
    (by rw [step_accept hpc, haccept])

lemma Run.tick (h : Run m allowed s) (hpc : s.pc = .next) {e : Event} {es : List Event}
    (he : s.events = e :: es) :
    Run m allowed (dispatch { s with events := es } e) :=
  h.next .tick (hok _ _ (by rw [hpc]; rfl) rfl) (step_tick_cons hpc he)

lemma Run.event (h : Run m allowed s) (hpc : s.pc = .poll) (e : Event) (es : List Event)
    (hes : ∀ e' ∈ e :: es, s.Registered e') :
    Run m allowed (dispatch { s with pc := .next, events := es, raised := s.idAt } e) :=
  Run.tick hok (h.next (.poll (some (e :: es))) (hok _ _ (by rw [hpc]; rfl) rfl)
    (step_poll hpc hes)) rfl rfl

lemma run_firstClient {relayed : SocketAddrV6} (hrelayed : m.fromIndex 0#64 = some relayed) :
    ∃ s, Run m allowed s ∧ s.pc = .poll ∧ s.accepts = 1 ∧
      s.streams = Slab.empty.insert (.fresh relayed 0) := by
  have hslots : 0 < maxSlots := by norm_num [maxSlots]
  have h₁ : Run m allowed (initial.goto .poll) :=
    Reaches.refl.next .tick (hok _ _ rfl rfl) (step_tick_nil rfl rfl)
  have h₂ := Run.event hok h₁ rfl ⟨.tcp, true, false, false, false⟩ [] (by simp [State.Registered])
  have h₃ := Run.accept hok h₂ rfl hrelayed hslots
  have h₄ := h₃.next (.accept none) (hok _ _ rfl rfl) (step_accept rfl _)
  exact ⟨_, h₄.next .tick (hok _ _ rfl rfl) (step_tick_nil rfl rfl), rfl, rfl, rfl⟩

end Runs

end Masquerade.TurnserverTcp
