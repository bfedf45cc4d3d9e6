import Masquerade.Common.Stale
import Masquerade.TurnserverTcp.Delivery

/-! What a client sees: the frames begun on its stream, one after the other. -/

namespace Masquerade.TurnserverTcp

open Lib Stun Common

def Pc.rest (k : ℕ) : Pc → Bytes
  | .flush j _ offset buffer => if j = k then buffer.drop offset else []
  | .respond j frame offset => if j = k then frame.drop offset else []
  | _ => []

def Conn.unsent (c : Conn) : Bytes :=
  match c.partialFrame with
  | some (offset, buffer) => buffer.drop offset
  | none => []

def Pc.remainder (pc : Pc) (k : ℕ) (c : Conn) : Bytes :=
  if c.partialFrame.isSome then c.unsent else pc.rest k

def State.Live (s : State) (k : ℕ) (c : Conn) : Prop :=
  s.streams.get k = some c ∧ s.pc ≠ .deregister k ∧ ¬ s.pc.Halted

def Pc.Away (k : ℕ) : Pc → Prop
  | .flush j _ _ _ | .respond j _ _ | .deregister j => j ≠ k
  | .exited | .panicked => False
  | _ => True

structure Good (pc : Pc) (k : ℕ) (c : Conn) : Prop where
  balanced : pc ≠ .deregister k → ¬ pc.Halted →
    c.stream.accepted ++ pc.remainder k c = c.started.flatten
  whole : ∀ f ∈ c.started, IsFrame f
  taken : ∀ readable offset buffer, pc = .flush k readable offset buffer → c.partialFrame = none
  saved : ∀ frame offset, pc = .respond k frame offset →
    c.partialFrame = none ∨ c.partialFrame = some (0, frame.drop offset)

section Good

variable {pc pc' : Pc} {k : ℕ} {c : Conn}

lemma Pc.Away.remainder (h : pc.Away k) : pc.remainder k c = c.unsent := by
  unfold Pc.remainder
  cases hkept : c.partialFrame with
  | some rest => simp
  | none =>
    have hrest : pc.rest k = [] := by
      cases pc with
      | flush | respond => exact if_neg h
      | _ => rfl
    simp [Conn.unsent, hkept, hrest]

lemma Pc.Settled.away (h : pc.Settled) : pc.Away k := by
  cases pc <;> trivial

lemma away_of_handles {j : ℕ} (h : pc.handles = some j) (hj : j ≠ k) : pc.Away k := by
  cases pc with
  | flush | respond | deregister =>
    cases h
    exact hj
  | peek | read => trivial
  | _ => cases h

lemma Pc.Outside.away (h : pc.Outside) : pc.Away k ∨ pc.Halted := by
  cases pc <;> first | exact .inl trivial | exact .inr (.inl rfl) | exact .inr (.inr rfl) | cases h

lemma Pc.Away.not_halted (h : pc.Away k) : ¬ pc.Halted := by
  rintro (rfl | rfl) <;> cases h

lemma Pc.Away.ne_deregister (h : pc.Away k) : pc ≠ .deregister k := by
  rintro rfl
  exact h rfl

lemma Good.elsewhere (h : Good pc k c) (hpc : pc.Away k) (hpc' : pc'.Away k ∨ pc'.Halted) :
    Good pc' k c where
  balanced _ hrun := by
    have haway := hpc'.resolve_right hrun
    rw [haway.remainder, ← hpc.remainder]
    exact h.balanced hpc.ne_deregister hpc.not_halted
  whole := h.whole
  taken readable offset buffer he := by
    subst he
    rcases hpc' with haway | hhalt | hhalt
    · exact absurd rfl haway
    · cases hhalt
    · cases hhalt
  saved frame offset he := by
    subst he
    rcases hpc' with haway | hhalt | hhalt
    · exact absurd rfl haway
    · cases hhalt
    · cases hhalt

lemma Good.condemned (h : Good pc k c) : Good (.deregister k) k c where
  balanced hne := absurd rfl hne
  whole := h.whole
  taken _ _ _ he := by cases he
  saved _ _ he := by cases he

lemma Good.halted (h : Good pc k c) (hpc' : pc'.Halted) : Good pc' k c where
  balanced _ hrun := absurd hpc' hrun
  whole := h.whole
  taken _ _ _ he := by rcases hpc' with rfl | rfl <;> cases he
  saved _ _ he := by rcases hpc' with rfl | rfl <;> cases he

lemma good_fresh (relayed : SocketAddrV6) (id : ℕ) : Good .accept k (.fresh relayed id) where
  balanced _ _ := rfl
  whole f hf := by cases hf
  taken _ _ _ he := by cases he
  saved _ _ he := by cases he

lemma away_afterFlush (j : ℕ) (readable : Bool) : (afterFlush j readable).Away k := by
  cases readable <;> trivial

lemma Good.congr {c' : Conn} (h : Good pc k c) (haccepted : c'.stream.accepted = c.stream.accepted)
    (hkept : c'.partialFrame = c.partialFrame) (hstarted : c'.started = c.started) :
    Good pc k c' where
  balanced hne hrun := by
    have hrest : pc.remainder k c' = pc.remainder k c := by
      rw [Pc.remainder, Pc.remainder, Conn.unsent, Conn.unsent, hkept]
    rw [haccepted, hrest, hstarted]
    exact h.balanced hne hrun
  whole := hstarted ▸ h.whole
  taken := hkept ▸ h.taken
  saved := hkept ▸ h.saved

lemma good_of_away (haway : pc.Away k) (hb : c.stream.accepted ++ c.unsent = c.started.flatten)
    (hwhole : ∀ f ∈ c.started, IsFrame f) : Good pc k c where
  balanced _ _ := by rw [haway.remainder, hb]
  whole := hwhole
  taken _ _ _ he := by
    rw [he] at haway
    exact absurd rfl haway
  saved _ _ he := by
    rw [he] at haway
    exact absurd rfl haway

lemma Good.unsent (h : Good pc k c) (haway : pc.Away k) :
    c.stream.accepted ++ c.unsent = c.started.flatten := by
  rw [← haway.remainder]
  exact h.balanced haway.ne_deregister haway.not_halted

section Writes

variable {readable : Bool} {offset n : ℕ} {buffer frame : Bytes}

lemma unsent_none (hkept : c.partialFrame = none) : c.unsent = [] := by
  rw [Conn.unsent, hkept]

lemma unsent_some (hkept : c.partialFrame = some (offset, buffer)) :
    c.unsent = buffer.drop offset := by
  rw [Conn.unsent, hkept]

lemma unsent_accept (bytes : Bytes) : (c.accept bytes).unsent = c.unsent := rfl

lemma remainder_accept (bytes : Bytes) : pc.remainder k (c.accept bytes) = pc.remainder k c := rfl

lemma remainder_start (f : Bytes) : pc.remainder k (c.start f) = pc.remainder k c := rfl

lemma remainder_flush (hkept : c.partialFrame = none) :
    (Pc.flush k readable offset buffer).remainder k c = buffer.drop offset := by
  simp [Pc.remainder, hkept, Pc.rest]

lemma remainder_respond
    (hkept : c.partialFrame = none ∨ c.partialFrame = some (0, frame.drop offset)) :
    (Pc.respond k frame offset).remainder k c = frame.drop offset := by
  rcases hkept with hkept | hkept <;> simp [Pc.remainder, Conn.unsent, hkept, Pc.rest]

lemma Good.resume (h : Good .next k c) (hkept : c.partialFrame = some (offset, buffer)) :
    Good (.flush k readable offset buffer) k (c.keep none) where
  balanced _ _ := by
    have hb := h.unsent trivial
    rw [unsent_some hkept] at hb
    rw [remainder_flush rfl]
    exact hb
  whole := h.whole
  taken _ _ _ _ := rfl
  saved _ _ he := by cases he

lemma Good.flush_balanced (h : Good (.flush k readable offset buffer) k c) :
    c.partialFrame = none ∧ c.stream.accepted ++ buffer.drop offset = c.started.flatten := by
  have hkept : c.partialFrame = none := h.taken _ _ _ rfl
  have hb := h.balanced (by simp) (by simp [Pc.Halted])
  rw [remainder_flush hkept] at hb
  exact ⟨hkept, hb⟩

lemma Good.flushed (h : Good (.flush k readable offset buffer) k c) :
    Good (if (buffer.drop offset).length ≤ n then afterFlush k readable else .flush k readable
      (offset + n) buffer) k
      (c.accept ((buffer.drop offset).take n)) := by
  obtain ⟨hkept, hb⟩ := h.flush_balanced
  split_ifs with hall
  · refine good_of_away (away_afterFlush k readable) ?_ h.whole
    rw [unsent_accept, unsent_none hkept, Conn.accept_accepted, List.take_of_length_le hall,
      List.append_nil, hb, Conn.accept_started]
  · refine ⟨fun _ _ => ?_, h.whole, fun _ _ _ _ => hkept, fun _ _ he => by cases he⟩
    rw [remainder_accept, remainder_flush hkept, ← List.drop_drop, Conn.accept_accepted,
      List.append_assoc, List.take_append_drop, hb, Conn.accept_started]

lemma Good.flushBlocked (h : Good (.flush k readable offset buffer) k c) :
    Good (afterFlush k readable) k (c.keep (some (offset, buffer))) := by
  obtain ⟨-, hb⟩ := h.flush_balanced
  refine good_of_away (away_afterFlush k readable) ?_ h.whole
  rw [unsent_some rfl, Conn.keep_accepted, hb, Conn.keep_started]

lemma whole_start (hwhole : ∀ f ∈ c.started, IsFrame f) (hframe : IsFrame frame) :
    ∀ f ∈ (c.start frame).started, IsFrame f := by
  intro f hf
  rcases List.mem_append.mp hf with hf | hf
  · exact hwhole f hf
  · rw [List.mem_singleton.mp hf]
    exact hframe

lemma Good.tunWrote (h : Good (.tunWrite k frame) k c) (hkept : c.partialFrame = none)
    (hframe : IsFrame frame) :
    Good .tun k (((c.start frame).accept (frame.take n)).keep
      (if n < frame.length then some (0, frame.drop n) else c.partialFrame)) := by
  have hb := h.unsent trivial
  rw [unsent_none hkept, List.append_nil] at hb
  refine good_of_away trivial ?_ (whole_start h.whole hframe)
  simp only [Conn.keep_accepted, Conn.accept_accepted, Conn.start_accepted, Conn.keep_started,
    Conn.accept_started, Conn.start_started, List.flatten_append, List.flatten_singleton, ← hb,
    List.append_assoc]
  split_ifs with hshort
  · rw [unsent_some rfl, List.drop_zero, List.take_append_drop]
  · rw [hkept, unsent_none rfl, List.append_nil, List.take_of_length_le (Nat.le_of_not_lt hshort)]

lemma Good.answered {length : ℕ} (h : Good (.read k length) k c) (hkept : c.partialFrame = none)
    (hframe : IsFrame frame) : Good (.respond k frame 0) k (c.start frame) where
  balanced _ _ := by
    have hb := h.unsent trivial
    rw [unsent_none hkept, List.append_nil] at hb
    rw [remainder_start, remainder_respond (.inl hkept), List.drop_zero, Conn.start_accepted, hb,
      Conn.start_started, List.flatten_append, List.flatten_singleton]
  whole := whole_start h.whole hframe
  taken _ _ _ he := by cases he
  saved _ _ _ := .inl hkept

lemma Good.respond_balanced (h : Good (.respond k frame offset) k c) :
    c.stream.accepted ++ frame.drop offset = c.started.flatten := by
  have hb := h.balanced (by simp) (by simp [Pc.Halted])
  rwa [remainder_respond (h.saved _ _ rfl)] at hb

lemma Good.responded (h : Good (.respond k frame offset) k c)
    (hfirst : c.partialFrame.isSome → n = 0) :
    Good (if (frame.drop offset).length ≤ n then .peek k else .respond k frame (offset + n)) k
      (c.accept ((frame.drop offset).take n)) := by
  have hb := h.respond_balanced
  cases hkept : c.partialFrame with
  | none =>
    split_ifs with hall
    · refine good_of_away trivial ?_ h.whole
      rw [unsent_accept, unsent_none hkept, Conn.accept_accepted, List.take_of_length_le hall,
        List.append_nil, hb, Conn.accept_started]
    · refine ⟨fun _ _ => ?_, h.whole, fun _ _ _ he => (by cases he), fun _ _ _ => .inl hkept⟩
      rw [remainder_accept, remainder_respond (.inl hkept), ← List.drop_drop, Conn.accept_accepted,
        List.append_assoc, List.take_append_drop, hb, Conn.accept_started]
  | some rest =>
    -- Nothing is written, and the loop goes round once more.
    obtain rfl : n = 0 := hfirst (by simp [hkept])
    have hsaved : c.partialFrame = some (0, frame.drop offset) :=
      (h.saved _ _ rfl).resolve_left (by simp [hkept])
    have hsame : Good (.respond k frame offset) k (c.accept ((frame.drop offset).take 0)) :=
      h.congr (by simp) rfl rfl
    split_ifs with hall
    · refine good_of_away trivial ?_ h.whole
      rw [unsent_accept, unsent_some hsaved, List.drop_zero]
      exact hsame.respond_balanced
    · exact hsame

lemma Good.respondBlocked (h : Good (.respond k frame offset) k c) :
    Good (.respond k frame offset) k (c.keep (some (0, frame.drop offset))) where
  balanced _ _ := by
    rw [remainder_respond (.inr rfl)]
    exact h.respond_balanced
  whole := h.whole
  taken _ _ _ he := by cases he
  saved _ _ he := by
    cases he
    exact .inr rfl

end Writes

end Good

def Input.written : Input → Option ℕ
  | .write (.ok n) => some n
  | _ => none

/-- In the loop that writes a response, no bytes are taken any more once `WouldBlock` was
reported. -/
def NoRetry (s : State) (i : Input) : Prop :=
  ∀ k ∈ s.pc.responding, ∀ c ∈ s.streams.get k, c.partialFrame.isSome → ∀ n ∈ i.written, n = 0

instance (s : State) (i : Input) : Decidable (NoRetry s i) :=
  inferInstanceAs (Decidable (∀ k ∈ s.pc.responding, ∀ c ∈ s.streams.get k, _ →
    ∀ n ∈ i.written, n = 0))

def Output (s : State) : Prop := ∀ k c, s.streams.get k = some c → Good s.pc k c

section Output

variable {s s' : State} {k : ℕ}

lemma Output.same (hs : Output s) (he : s'.streams = s.streams) (hpc : ∀ j, s.pc.Away j)
    (hpc' : ∀ j, s'.pc.Away j ∨ s'.pc.Halted) : Output s' := by
  intro j c hc
  exact (hs j c (he ▸ hc)).elsewhere (hpc j) (hpc' j)

lemma Output.modify (hs : Output s) {f : Conn → Conn} (he : s'.streams = s.streams.modify k f)
    (hpc : ∀ j ≠ k, s.pc.Away j) (hpc' : ∀ j ≠ k, s'.pc.Away j ∨ s'.pc.Halted)
    (hk : ∀ c, s.streams.get k = some c → Good s.pc k c → Good s'.pc k (f c)) : Output s' := by
  intro j c hc
  rw [he] at hc
  rcases Slab.get_modify_eq_some hc with ⟨hj, hc⟩ | ⟨c₀, rfl, hc₀, rfl⟩
  · exact (hs j c hc).elsewhere (hpc j hj) (hpc' j hj)
  · exact hk c₀ hc₀ (hs j c₀ hc₀)

lemma Output.handled (hs : Output s) {f : Conn → Conn} (he : s'.streams = s.streams.modify k f)
    (hpc : s.pc.handles = some k) (hpc' : s'.pc.handles = some k)
    (hk : ∀ c, s.streams.get k = some c → Good s.pc k c → Good s'.pc k (f c)) : Output s' := by
  apply hs.modify he _ _ hk
  · intro j hj
    exact away_of_handles hpc hj.symm
  · intro j hj
    exact .inl (away_of_handles hpc' hj.symm)

lemma Output.remove (hs : Output s) (he : s'.streams = s.streams.remove k)
    (hpc : ∀ j ≠ k, s.pc.Away j) (hpc' : ∀ j ≠ k, s'.pc.Away j ∨ s'.pc.Halted) : Output s' := by
  intro j c hc
  rw [he] at hc
  obtain ⟨hj, hc⟩ := Slab.get_remove_eq_some hc
  exact (hs j c hc).elsewhere (hpc j hj) (hpc' j hj)

lemma Output.condemn (hs : Output s) (he : s'.streams = s.streams) (hpc : ∀ j ≠ k, s.pc.Away j)
    (hpc' : s'.pc = .deregister k) : Output s' := by
  intro j c hc
  have hgood := hs j c (he ▸ hc)
  rw [hpc']
  by_cases hj : j = k
  · exact hj ▸ hgood.condemned
  · exact hgood.elsewhere (hpc j hj) (.inl (Ne.symm hj))

variable [Crypto] {m : Mapping} {i : Input}

lemma Output.step (hs : Output s) (hinv : Inv m s) (hi : NoRetry s i) (h : Step m s i s') :
    Output s' := by
  have hothers : ∀ {pc : Pc} {k : ℕ}, pc.handles = some k → ∀ j ≠ k, pc.Away j :=
    fun hk j hj => away_of_handles hk hj.symm
  cases h with
  | idle he hpc' hfrom =>
    rcases hfrom with hfrom | hhalt
    · exact hs.same he (fun j => hfrom.away) fun j => hpc'.away
    · exact fun j c hc => (hs j c (he ▸ hc)).halted hhalt
  | enter k c e es hpc _ _ _ hc _ he hpc' =>
    have haway : ∀ j, s.pc.Away j := fun j => by rw [hpc]; trivial
    rcases hpc' with hpc' | hpc'
    · exact hs.condemn he (fun j _ => haway j) hpc'
    · exact hs.same he haway fun j => .inl (by rw [hpc']; trivial)
  | resume k c _ _ _ offset buffer hpc _ _ _ hc _ hkept he hpc' =>
    refine hs.modify he (fun j _ => by rw [hpc]; trivial)
      (fun j hj => .inl (hothers (by rw [hpc']; rfl) j hj)) ?_
    intro c' hc' hgood
    obtain rfl := Option.some.inj (hc.symm.trans hc')
    rw [hpc] at hgood
    rw [hpc']
    exact hgood.resume hkept
  | accepted relayed hpc _ _ he hpc' =>
    intro j c hc
    rw [he] at hc
    rw [hpc']
    rcases Slab.get_insert_eq_some hc with ⟨-, hc⟩ | ⟨rfl, rfl⟩
    · exact hpc ▸ hs j c hc
    · exact good_fresh relayed s.accepts
  | routed _ _ _ _ _ _ hpc _ _ _ _ _ _ _ he hpc' =>
    exact hs.same he (fun j => by rw [hpc]; trivial) fun j => .inl (by rw [hpc']; trivial)
  | tunWrote k frame n hpc _ he hpc' =>
    refine hs.modify he (fun j _ => by rw [hpc]; trivial)
      (fun j _ => .inl (by rw [hpc']; trivial)) ?_
    intro c hc hgood
    obtain ⟨hframe, c', hc', hkept⟩ := hinv.sending k frame hpc
    obtain rfl := Option.some.inj (hc.symm.trans hc')
    rw [hpc] at hgood
    rw [hpc']
    exact hgood.tunWrote hkept hframe
  | tunFailed k frame hpc he hpc' =>
    exact hs.remove he (fun j _ => by rw [hpc]; trivial) fun j _ => .inl (by rw [hpc']; trivial)
  | flushed k readable offset buffer n hpc _ he hpc' =>
    apply hs.modify he (hothers (by rw [hpc]; rfl))
    · intro j hj
      rw [hpc']
      split_ifs
      · exact .inl (away_afterFlush k readable)
      · exact .inl (Ne.symm hj)
    · intro c hc hgood
      rw [hpc] at hgood
      rw [hpc']
      exact hgood.flushed
  | flushBlocked k readable offset buffer hpc he hpc' =>
    refine hs.modify he (hothers (by rw [hpc]; rfl))
      (fun j _ => .inl (by rw [hpc']; exact away_afterFlush k readable)) ?_
    intro c hc hgood
    rw [hpc] at hgood
    rw [hpc']
    exact hgood.flushBlocked
  | condemned k hpc he hpc' => exact hs.condemn he (hothers hpc) hpc'
  | peeked k c n hpc _ _ _ _ _ he hpc' =>
    exact hs.same he (fun j => by rw [hpc]; trivial) fun j => .inl (by rw [hpc']; trivial)
  | readShort k length n hpc he hpc' =>
    apply hs.handled he (by rw [hpc]; rfl) (by rw [hpc']; rfl)
    intro c hc hgood
    rw [hpc']
    exact hgood.condemned.congr rfl rfl rfl
  | consumed k length c hpc hc _ he hpc' =>
    have haway : ∀ j, s'.pc.Away j ∨ s'.pc.Halted := by
      intro j
      rcases hpc' with hpc' | hpc' <;> rw [hpc']
      · exact .inl trivial
      · exact .inr (.inr rfl)
    apply hs.modify he (hothers (by rw [hpc]; rfl)) (fun j _ => haway j)
    intro c' hc' hgood
    rw [hpc] at hgood
    exact (hgood.elsewhere trivial (haway k)).congr rfl rfl rfl
  | answered k length c o frame hpc hc hlen hb hkept hturn hreply hframe he hpc' =>
    apply hs.handled he (by rw [hpc]; rfl) (by rw [hpc']; rfl)
    intro c' hc' hgood
    obtain rfl := Option.some.inj (hc.symm.trans hc')
    obtain ⟨c', hc', -, hsize, hmessage⟩ := hinv.reading k length hpc
    obtain rfl := Option.some.inj (hc.symm.trans hc')
    have hlength : (c.stream.unread.take length).length ≤ 65536 :=
      (List.length_take_le _ _).trans hsize
    obtain ⟨f, hf, hisFrame⟩ := frame_of_turn hinv.buffer hlength hmessage hturn hreply
    obtain rfl := Except.ok.inj (hf.symm.trans hframe)
    rw [hpc] at hgood
    rw [hpc']
    exact Good.answered (hgood.congr rfl rfl rfl) hkept hisFrame
  | responded k frame offset n hpc hwrite _ he hpc' =>
    apply hs.handled he (by rw [hpc]; rfl)
    · rw [hpc']
      split_ifs <;> rfl
    · intro c hc hgood
      rw [hpc] at hgood
      rw [hpc']
      apply hgood.responded
      intro hkept
      exact hi k (by simp [hpc, Pc.responding]) c hc hkept n (by simp [hwrite, Input.written])
  | respondBlocked k frame offset hpc he hpc' =>
    apply hs.handled he (by rw [hpc]; rfl) (by rw [hpc', hpc]; rfl)
    intro c hc hgood
    rw [hpc] at hgood
    rw [hpc', hpc]
    exact hgood.respondBlocked
  | deregistered k hpc he hpc' =>
    exact hs.remove he (hothers (by rw [hpc]; rfl)) fun j _ => .inl (by rw [hpc']; trivial)
  | arrived k bytes _ he hpc' =>
    intro j c hc
    rw [he] at hc
    rw [hpc']
    rcases Slab.get_modify_eq_some hc with ⟨-, hc⟩ | ⟨c₀, rfl, hc₀, rfl⟩
    · exact hs j c hc
    · exact (hs j c₀ hc₀).congr rfl rfl rfl

omit [Crypto] in
lemma output_initial : Output initial := by
  intro k c hc
  cases hc

def Written (s : State) : Prop := ∀ k c, s.Live k c →
  c.stream.accepted ++ s.pc.remainder k c = c.started.flatten ∧ ∀ f ∈ c.started, IsFrame f

omit [Crypto] in
lemma Output.written (hs : Output s) : Written s := by
  rintro k c ⟨hc, hne, hrun⟩
  have hgood := hs k c hc
  exact ⟨hgood.balanced hne hrun, hgood.whole⟩

omit [Crypto] in
lemma respond_wrote {frame : Bytes} {offset n : ℕ} (hoffset : offset ≤ frame.length)
    (h : respond s k frame offset (.ok n) = some s') :
    s'.streams = s.streams.modify k (.accept ((frame.drop offset).take n)) ∧
      n ≤ (frame.drop offset).length ∧
      (s'.pc = .peek k ∨ s'.pc = .respond k frame (offset + n)) := by
  rw [respond, if_neg (Nat.not_lt.mpr hoffset)] at h
  simp only at h
  split_ifs at h with hlong hall
  · cases h
    exact ⟨rfl, Nat.le_of_not_lt hlong, .inl rfl⟩
  · cases h
    exact ⟨rfl, Nat.le_of_not_lt hlong, .inr rfl⟩

lemma noRetry_of_written (hs : Output s) (hwithin : Within s) (h : step m s i = some s')
    (hs' : Written s') :
    NoRetry s i := by
  intro k hk c hc hkept n hn
  obtain ⟨frame, offset, hpc⟩ : ∃ frame offset, s.pc = .respond k frame offset := by
    cases hpc : s.pc with
    | respond j frame offset =>
      obtain rfl : j = k := by simpa [hpc, Pc.responding] using hk
      exact ⟨frame, offset, rfl⟩
    | _ => simp [hpc, Pc.responding] at hk
  obtain rfl : i = .write (.ok n) := by
    match i, hn with
    | .write (.ok n'), hn => simpa [Input.written] using hn
  have hgood := hs k c hc
  rw [hpc] at hgood
  have hsaved := (hgood.saved _ _ rfl).resolve_left (Option.isSome_iff_ne_none.mp hkept)
  rw [step_respond hpc] at h
  obtain ⟨he, hle, hpc'⟩ := respond_wrote (hwithin.responding _ _ _ hpc) h
  have hlive : s'.Live k (c.accept ((frame.drop offset).take n)) := by
    refine ⟨by rw [he, Slab.get_modify_of_get _ hc], ?_, ?_⟩
    · rcases hpc' with hpc' | hpc' <;> simp [hpc']
    · rcases hpc' with hpc' | hpc' <;> simp [hpc', Pc.Halted]
  have htwice := congrArg List.length (hs' k _ hlive).1
  have hrest : s'.pc.remainder k (c.accept ((frame.drop offset).take n)) = frame.drop offset := by
    rw [Pc.remainder, if_pos (by simpa using hkept), unsent_accept, unsent_some hsaved,
      List.drop_zero]
  rw [hrest, Conn.accept_accepted, Conn.accept_started, ← hgood.respond_balanced] at htwice
  simp only [List.length_append, List.length_take] at htwice
  omega

theorem frames_written_whole (h : Run m NoRetry s) :
    Written s ∧ ∀ i s', step m s i = some s' → (NoRetry s i ↔ Written s') := by
  obtain ⟨hs, hinv⟩ := h.invariant (P := fun s => Output s ∧ Inv m s) ⟨output_initial, inv_initial⟩
    fun _ _ _ hs hi h => ⟨hs.1.step hs.2 hi (step_cases h), hs.2.step h⟩
  exact ⟨hs.written, fun i s' hstep =>
    ⟨fun hi => (hs.step hinv hi (step_cases hstep)).written,
      noRetry_of_written hs hinv.within hstep⟩⟩

end Output

section Binding

variable [Crypto] {m : Mapping} {s : State}

lemma answer_binding (canonical : SocketAddr) (relayed : SocketAddrV6) {b : Bytes}
    (hb : typAt b = 0x0001#16) :
    answerTo canonical relayed b = .respond .success [.xorMappedAddress canonical] := by
  have hclass : classAt b = .request := by
    rw [classAt, hb]
    rfl
  have hmethod : methodAt b = .binding := by
    rw [methodAt, hb]
    decide
  simp [answerTo, answer, hclass, hmethod]

omit [Crypto] in
lemma bindingRequest_isFrame : IsFrame bindingRequest := by decide +kernel

lemma binding_reply (canonical : SocketAddr) (relayed : SocketAddrV6) {b : Bytes}
    (hb : b.length = 65536) :
    ∃ o frame, handleTurn canonical relayed (splice b 0 bindingRequest) = .ok o ∧ o.reply = true ∧
      frameOf o.buffer = .ok frame ∧ IsFrame frame := by
  have htake : (splice b 0 bindingRequest).take 20 = bindingRequest := splice_zero_take (by decide)
  have hlen : (splice b 0 bindingRequest).length = 65536 := by
    rw [splice_length (by rw [hb]; decide), hb]
  have htyp : typAt (splice b 0 bindingRequest) = 0x0001#16 := by
    rw [← typAt_take (n := 20) (by omega), htake]
    decide
  have htxid : txidAt (splice b 0 bindingRequest) ≠ List.replicate 12 0 := by
    rw [← txidAt_take (n := 20) (by omega), htake]
    decide
  have hdec := decodable_splice hb (by decide) bindingRequest_isFrame
  obtain ⟨f, items, hf, hrun⟩ :=
    handleTurn_respond hdec htxid (answer_binding canonical relayed htyp)
  obtain ⟨tail, htail⟩ := hrun _ (by omega) rfl rfl (answer_binding canonical relayed htyp)
  exact ⟨_, f, htail, rfl, frameOf_append hf.built tail, Built.isFrame hf.built⟩

lemma run_peek {allowed : State → Input → Prop}
    (hok : ∀ s i, s.pc.handles = none → i.packet = none → allowed s i) {relayed : SocketAddrV6}
    (hrelayed : m.fromIndex 0#64 = some relayed) (bytes : Bytes) :
    ∃ s, Run m allowed s ∧ s.pc = .peek 0 ∧
      s.streams.get 0 = some ((Conn.fresh relayed 0).arrive bytes) := by
  obtain ⟨s, hs, hpc, -, hstreams⟩ := run_firstClient hok hrelayed
  have hget : s.streams.get 0 = some (.fresh relayed 0) := by
    rw [hstreams]
    rfl
  have hfull := Slab.get_modify_of_get (.arrive bytes) hget
  have h₁ := hs.next (.arrive 0 bytes) (hok _ _ (by rw [hpc]; rfl) rfl) rfl
  have h₂ := Run.event hok h₁ hpc ⟨.conn 0, true, false, false, false⟩ []
    (by simp [State.Registered, hfull])
  rw [dispatch_readable rfl hfull rfl rfl rfl] at h₂
  exact ⟨_, h₂, rfl, hfull⟩

lemma run_read {allowed : State → Input → Prop}
    (hok : ∀ s i, s.pc.responding = none → i.packet = none → allowed s i) {relayed : SocketAddrV6}
    (hrelayed : m.fromIndex 0#64 = some relayed) :
    ∃ s, Run m allowed s ∧ s.pc = .read 0 20 ∧
      s.streams.get 0 = some ((Conn.fresh relayed 0).arrive bindingRequest) := by
  have hverdict := (isFrame_iff.mp bindingRequest_isFrame).1
  have hlength : lengthAt bindingRequest + 20 = 20 := by decide
  have hrequest : bindingRequest.length = 20 := by decide
  obtain ⟨s, hs, hpc, hget⟩ :=
    run_peek (fun s i h => hok s i (responding_of_handles h)) hrelayed bindingRequest
  generalize bindingRequest = request at *
  have hunread : ((Conn.fresh relayed 0).arrive request).stream.unread = request := rfl
  generalize (Conn.fresh relayed 0).arrive request = c at *
  have hlen : 20 ≤ c.stream.unread.length := by rw [hunread, hrequest]
  have htake : c.stream.unread.take 20 = request := by
    rw [hunread, List.take_of_length_le (by omega)]
  have hbuffer := hs.inv.buffer
  have hpeek := (step_peek (m := m) hpc hget (.ok 20)).trans (peek_ok hlen (by omega))
  rw [htake, hverdict, afterPeek_ok (by omega) hverdict, hlength] at hpeek
  exact ⟨_, hs.next _ (hok _ _ (by rw [hpc]; rfl) rfl) hpeek, rfl, hget⟩

lemma run_response {allowed : State → Input → Prop}
    (hok : ∀ s i, s.pc.responding = none → i.packet = none → allowed s i) {relayed : SocketAddrV6}
    (hrelayed : m.fromIndex 0#64 = some relayed) :
    ∃ s c frame, Run m allowed s ∧ s.pc = .respond 0 frame 0 ∧ s.streams.get 0 = some c ∧
      c.partialFrame = none ∧
      c.stream.accepted = [] ∧ c.started = [frame] ∧ IsFrame frame := by
  have hrequest : bindingRequest.length = 20 := by decide
  obtain ⟨s, hs, hpc, hget⟩ := run_read hok hrelayed
  obtain ⟨o, frame, hturn, hreply, hframe, hisFrame⟩ :=
    binding_reply (.v6 relayed) relayed hs.inv.buffer
  generalize bindingRequest = request at *
  have hunread : ((Conn.fresh relayed 0).arrive request).stream.unread = request := rfl
  generalize hc : (Conn.fresh relayed 0).arrive request = c at *
  have hfresh : c.partialFrame = none ∧ c.stream.accepted = [] ∧ c.started = [] ∧
      c.relayed = relayed := by
    rw [← hc]
    exact ⟨rfl, rfl, rfl, rfl⟩
  have hlen : 20 ≤ c.stream.unread.length := by rw [hunread, hrequest]
  have htake : c.stream.unread.take 20 = request := by
    rw [hunread, List.take_of_length_le (by omega)]
  have hread :=
    (step_read (m := m) hpc hget (.ok 20)).trans (read_ok (by rw [hs.inv.buffer]; omega) hlen)
  rw [← hfresh.2.2.2] at hturn
  rw [htake, handle_reply hfresh.1 hturn hreply hframe] at hread
  have h₁ := hs.next _ (hok _ _ (by rw [hpc]; rfl) rfl) hread
  have hget₁ := Slab.get_modify_of_get (.start frame)
    (Slab.get_modify_of_get (fun c' => (c'.drain 20).consume request) hget)
  refine ⟨_, _, frame, h₁, rfl, hget₁, hfresh.1, hfresh.2.1, ?_, hisFrame⟩
  exact congrArg (· ++ [frame]) hfresh.2.2.1

omit [Crypto] in
lemma respond_one {k : ℕ} {frame : Bytes} (h : 2 ≤ frame.length) : respond s k frame 0 (.ok 1) =
    some ((s.onConn k (.accept ((frame.drop 0).take 1))).goto (.respond k frame (0 + 1))) := by
  have hdrop : (frame.drop 0).length = frame.length := rfl
  simp only [respond, hdrop]
  rw [if_neg (Nat.not_lt_zero _), if_neg (by omega), if_neg (by omega)]

end Binding

theorem frames_written_whole_binding :
    letI : Crypto := .recorded [] [] []
    ∃ s s', Run defaultMapping NoRetry s ∧ s.pc.responding = some 0 ∧
      step defaultMapping s (.write (.ok 1)) = some s' ∧
      Written s' := by
  let _ : Crypto := .recorded [] [] []
  have hok : ∀ s i, s.pc.responding = none → i.packet = none → NoRetry s i := by
    intro s i hnone _ k hk
    rw [hnone] at hk
    cases hk
  obtain ⟨s, c, frame, hs, hpc, hget, hkept, -, -, hframe⟩ := run_response hok firstRelayed_eq
  have hlen := hframe.length_pos
  have hwrite := (step_respond (m := defaultMapping) hpc (.ok 1)).trans (respond_one (by omega))
  have hresponding : s.pc.responding = some 0 := by rw [hpc]; rfl
  refine ⟨s, _, hs, hresponding, hwrite, ((frames_written_whole hs).2 _ _ hwrite).mp ?_⟩
  intro k hk c' hc' hsome
  obtain rfl : 0 = k := Option.some.inj (hresponding.symm.trans hk)
  obtain rfl : c = c' := Option.some.inj (hget.symm.trans hc')
  simp [hkept] at hsome

/-- A response of which one byte is written after the stream has reported `WouldBlock`: that byte is
kept to be written once more. -/
theorem response_byte_written_twice :
    letI : Crypto := .recorded [] [] []
    ∃ s k c, Reachable defaultMapping s ∧ s.Live k c ∧
      c.stream.accepted ++ c.unsent ≠ c.started.flatten ∧
      ¬ Written s := by
  let _ : Crypto := .recorded [] [] []
  obtain ⟨s, c, frame, hs, hpc, hget, hkept, haccepted, hstarted, hframe⟩ :
    ∃ s c frame, Reachable defaultMapping s ∧ _ :=
      run_response (fun _ _ _ _ => trivial) firstRelayed_eq
  have hlen := hframe.length_pos
  have hblock : respond s 0 frame 0 (.error .wouldBlock) =
      some (s.onConn 0 (.keep (some (0, frame.drop 0)))) :=
    if_neg (Nat.not_lt_zero _)
  have hblocked := hs.next (.write (.error .wouldBlock)) trivial ((step_respond hpc _).trans hblock)
  obtain ⟨s₁, h₁, hpc₁, hget₁⟩ : ∃ s₁, Reachable defaultMapping s₁ ∧ s₁.pc = .respond 0 frame 0 ∧
      s₁.streams.get 0 = some (c.keep (some (0, frame.drop 0))) :=
    ⟨_, hblocked, hpc, Slab.get_modify_of_get _ hget⟩
  have h₂ := h₁.next (.write (.ok 1)) trivial ((step_respond hpc₁ _).trans (respond_one (by omega)))
  have hget₂ := Slab.get_modify_of_get (.accept ((frame.drop 0).take 1)) hget₁
  obtain ⟨s₂, h₂, hpc₂, hget₂⟩ : ∃ s₂, Reachable defaultMapping s₂ ∧ s₂.pc = .respond 0 frame 1 ∧
      s₂.streams.get 0 = some ((c.keep (some (0, frame))).accept (frame.take 1)) :=
      ⟨_, h₂, rfl, hget₂⟩
  have hlive : s₂.Live 0 ((c.keep (some (0, frame))).accept (frame.take 1)) :=
    ⟨hget₂, by simp [hpc₂], by simp [hpc₂, Pc.Halted]⟩
  have htwice : ((c.keep (some (0, frame))).accept (frame.take 1)).stream.accepted ++
      ((c.keep (some (0, frame))).accept (frame.take 1)).unsent ≠
        ((c.keep (some (0, frame))).accept (frame.take 1)).started.flatten := by
    intro he
    have hle := congrArg List.length he
    simp only [Conn.unsent, Conn.accept_accepted, Conn.accept_partialFrame, Conn.accept_started,
      Conn.keep_accepted, Conn.keep_partialFrame, Conn.keep_started, haccepted,
      hstarted, List.nil_append, List.drop_zero, List.length_append, List.length_take,
      List.flatten_singleton] at hle
    omega
  exact ⟨s₂, 0, _, h₂, hlive, htwice,
    fun hwritten => htwice (by simpa [Pc.remainder] using (hwritten 0 _ hlive).1)⟩

end Masquerade.TurnserverTcp
