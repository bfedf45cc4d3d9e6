import Masquerade.Lib.Framing
import Masquerade.Stun.Incremental
import Masquerade.TurnserverTcp.Isolation

/-! What is read off a stream, however its bytes come in. -/

namespace Masquerade.TurnserverTcp

open Lib Stun Common

section Next

/-- The bytes at hand fail one of the header checks that can be made on them, or are a header that
announces more than the buffer holds. -/
def Violates (xs : Bytes) : Prop :=
  (2 ≤ xs.length ∧ typAt xs >>> 14 ≠ 0) ∨ (4 ≤ xs.length ∧ ¬ 4 ∣ lengthAt xs) ∨
    (8 ≤ xs.length ∧ (cookieAt xs ≠ magicCookie ∨ 65536 < 20 + lengthAt xs))

instance (xs : Bytes) : Decidable (Violates xs) := inferInstanceAs (Decidable (_ ∨ _ ∨ _))

def stunNext (xs : Bytes) : Next :=
  if Violates xs then .close
  else if 20 + lengthAt xs ≤ xs.length then .frame (20 + lengthAt xs)
  else .wait

variable {xs : Bytes}

lemma stunNext_frame {n : ℕ} : stunNext xs = .frame n ↔ verdict xs = .ok () ∧ n ≤ 65536 ∧
    n = 20 + lengthAt xs := by
  rw [verdict_ok_iff, stunNext]
  constructor
  · intro h
    split_ifs at h with hviolates hlen
    cases h
    simp only [Violates, not_or, not_and, not_not, not_lt] at hviolates
    obtain ⟨htop, hfour, hcookie⟩ := hviolates
    exact ⟨⟨hlen, htop (by omega), hfour (by omega), (hcookie (by omega)).1⟩,
      (hcookie (by omega)).2, rfl⟩
  · rintro ⟨⟨hlen, htop, hfour, hcookie⟩, hsize, rfl⟩
    have hfine : ¬ Violates xs := by
      simp only [Violates, htop, hfour, hcookie, ne_eq, not_true_eq_false, and_false, false_or,
        not_and, not_lt]
      exact fun _ => hsize
    rw [if_neg hfine, if_pos hlen]

lemma verdict_append (hv : verdict xs = .ok ()) (ys : Bytes) :
    verdict (xs ++ ys) = .ok () ∧ lengthAt (xs ++ ys) = lengthAt xs := by
  have hlen := ((verdict_ok_iff xs).mp hv).1
  refine ⟨?_, lengthAt_append ys (by omega)⟩
  obtain ⟨hsame, -⟩ | ⟨n, hn, -⟩ := verdict_append_cases xs ys
  · rw [hsame, hv]
  · cases hv.symm.trans hn

def stunFraming : Framing UInt8 where
  next := stunNext
  bounds h := by
    obtain ⟨hv, -, rfl⟩ := stunNext_frame.mp h
    have := ((verdict_ok_iff _).mp hv).1
    omega
  frame_append ys h := by
    obtain ⟨hv, hsize, rfl⟩ := stunNext_frame.mp h
    obtain ⟨hv', hlength⟩ := verdict_append hv ys
    exact stunNext_frame.mpr ⟨hv', hsize, by rw [hlength]⟩

def nextPc (k : ℕ) : Next → Pc
  | .frame n => .read k n
  | .wait => .next
  | .close => .deregister k

lemma stunNext_wait (hfine : ¬ Violates xs) (hlen : xs.length < 20 + lengthAt xs) :
    stunNext xs = .wait := by
  rw [stunNext, if_neg hfine, if_neg (by omega)]

lemma afterPeek_next (k : ℕ) {b : Bytes} (hb : b.length = 65536) (xs : Bytes) :
    afterPeek k 65536 (splice b 0 (xs.take (min xs.length 65536)))
      (verdict (xs.take (min xs.length 65536))) =
      nextPc k (stunNext xs) := by
  set v := xs.take (min xs.length 65536) with hv
  have hvlen : v.length = min xs.length 65536 := by rw [hv, List.length_take]; omega
  have hclose : Violates xs → stunNext xs = .close := fun h => if_pos h
  -- The checks in the order of the decoder.
  by_cases h2 : xs.length < 2
  · rw [stunNext_wait (by simp only [Violates]; omega) (by omega), verdict, if_pos (by omega)]
    rfl
  have htyp : typAt v = typAt xs := typAt_take (by omega)
  by_cases ht : typAt xs >>> 14 ≠ 0
  · rw [hclose (.inl ⟨by omega, ht⟩), verdict, htyp, if_neg (by omega), if_pos ht]
    rfl
  by_cases h4 : xs.length < 4
  · have hfine : ¬ Violates xs := by
      rintro (⟨-, h⟩ | ⟨h, -⟩ | ⟨h, -⟩)
      · exact ht h
      · omega
      · omega
    rw [stunNext_wait hfine (by omega), verdict, htyp, if_neg (by omega), if_neg ht,
      if_pos (by omega)]
    rfl
  have hlength : lengthAt v = lengthAt xs := lengthAt_take (by omega)
  by_cases hd : ¬ 4 ∣ lengthAt xs
  · rw [hclose (.inr (.inl ⟨by omega, hd⟩)), verdict, htyp, hlength, if_neg (by omega), if_neg ht,
      if_neg (by omega), if_pos hd]
    rfl
  by_cases h8 : xs.length < 8
  · have hfine : ¬ Violates xs := by
      rintro (⟨-, h⟩ | ⟨-, h⟩ | ⟨h, -⟩)
      · exact ht h
      · exact hd h
      · omega
    rw [stunNext_wait hfine (by omega), verdict, htyp, hlength, if_neg (by omega), if_neg ht,
      if_neg (by omega), if_neg hd, if_pos (by omega)]
    rfl
  have hcookie : cookieAt v = cookieAt xs := cookieAt_take (by omega)
  by_cases hc : cookieAt xs ≠ magicCookie
  · rw [hclose (.inr (.inr ⟨by omega, .inl hc⟩)), verdict, htyp, hlength, hcookie,
      if_neg (by omega), if_neg ht, if_neg (by omega), if_neg hd, if_neg (by omega), if_pos hc]
    rfl
  have hpast : verdict v =
      if v.length < 20 + lengthAt xs then .error (.tooShort (20 + lengthAt xs)) else .ok () := by
    rw [verdict, htyp, hlength, hcookie, if_neg (by omega), if_neg ht, if_neg (by omega), if_neg hd,
      if_neg (by omega), if_neg hc]
  by_cases hbig : 65536 < 20 + lengthAt xs
  · rw [hclose (.inr (.inr ⟨by omega, .inr hbig⟩)), hpast, if_pos (by omega)]
    exact if_pos hbig
  have hfine : ¬ Violates xs := by
    rintro (⟨-, h⟩ | ⟨-, h⟩ | ⟨-, h | h⟩)
    · exact ht h
    · exact hd h
    · exact hc h
    · exact hbig h
  by_cases hlen : xs.length < 20 + lengthAt xs
  · rw [stunNext_wait hfine hlen, hpast, if_pos (by omega)]
    exact if_neg hbig
  · have hok : verdict v = .ok () := by rw [hpast, if_neg (by omega)]
    rw [hok, afterPeek_ok (by omega) hok, hlength, stunNext, if_neg hfine,
      if_pos (by omega), Nat.add_comm]
    rfl

end Next

section Streams

def Pc.Reading (k : ℕ) : Pc → Prop
  | .peek j | .read j _ | .respond j _ _ => j = k
  | _ => False

def available (unread : Bytes) : IoResult ℕ :=
  if unread = [] then .error .wouldBlock else .ok (min unread.length 65536)

/-- The calls on the stream in slot `k` do not fail, and its bytes are there as the system tells. -/
def Contract (k : ℕ) (s : State) : Input ⊕ Bytes → Prop
  | .inl (.peek outcome) =>
    s.pc = .peek k → ∀ c, s.streams.get k = some c → outcome = available c.stream.unread
  | .inl (.read outcome) => ∀ length, s.pc = .read k length → outcome = .ok length
  | .inl (.write outcome) => s.pc.Reading k → outcome ≠ .error .other
  | _ => True

def Framed (k : ℕ) (s : State) : Prop :=
  ∀ c, s.streams.get k = some c → stunFraming.Taken c.stream.received c.consumed c.stream.unread ∧
    ∀ length, s.pc = .read k length → stunNext c.stream.unread = .frame length

variable {m : Mapping} {k : ℕ} {s s' : State}

lemma framed_initial : Framed k initial := by
  intro c hc
  have hnone : initial.streams.get k = none := Slab.get_empty k
  rw [hnone] at hc
  cases hc

variable [Crypto]

/-- Besides the steps of the program, anything may be left in the buffer. -/
def disturbed (m : Mapping) (s : State) : Input ⊕ Bytes → Option State
  | .inl i => step m s i
  | .inr b => if b.length = s.buffer.length then some { s with buffer := b } else none

inductive Feed (k : ℕ) (s : State) (c' : Conn) : Prop
  | fresh (h : c'.stream.received = []) (h' : c'.consumed = []) (h'' : c'.stream.unread = [])
  | same (c : Conn) (hc : s.streams.get k = some c) (h : c'.stream.received = c.stream.received)
      (h' : c'.consumed = c.consumed) (h'' : c'.stream.unread = c.stream.unread)
  | more (c : Conn) (bytes : Bytes) (hc : s.streams.get k = some c) (h : c' = c.arrive bytes)
  | taken (c : Conn) (length : ℕ) (hpc : s.pc = .read k length) (hc : s.streams.get k = some c)
      (h : c'.stream.received = c.stream.received) (h' : c'.consumed = c.consumed ++
      [c.stream.unread.take length]) (h'' : c'.stream.unread = c.stream.unread.drop length)

omit [Crypto] in
lemma feed_modify {j : ℕ} {f : Conn → Conn} {c' : Conn}
    (hc' : (s.streams.modify j f).get k = some c')
    (hf : ∀ c, (f c).stream.received = c.stream.received ∧ (f c).consumed = c.consumed ∧
      (f c).stream.unread = c.stream.unread) : Feed k s c' := by
  rcases Slab.get_modify_eq_some hc' with ⟨-, hc'⟩ | ⟨c, rfl, hc, rfl⟩
  · exact .same c' hc' rfl rfl rfl
  · exact .same c hc (hf c).1 (hf c).2.1 (hf c).2.2

lemma Step.feed {i : Input} (h : Step m s i s') (hi : Contract k s (.inl i)) {c' : Conn}
    (hc' : s'.streams.get k = some c') : Feed k s c' := by
  cases h with
  | idle he | enter _ _ _ _ _ _ _ _ _ _ he | routed _ _ _ _ _ _ _ _ _ _ _ _ _ _ he
  | condemned _ _ he
  | peeked _ _ _ _ _ _ _ _ _ he =>
    rw [he] at hc'
    exact .same c' hc' rfl rfl rfl
  | accepted relayed _ _ _ he =>
    rw [he] at hc'
    rcases Slab.get_insert_eq_some hc' with ⟨-, hc'⟩ | ⟨rfl, rfl⟩
    · exact .same c' hc' rfl rfl rfl
    · exact .fresh rfl rfl rfl
  | tunFailed j _ _ he | deregistered j _ he =>
    rw [he] at hc'
    exact .same c' (Slab.get_remove_eq_some hc').2 rfl rfl rfl
  | resume _ _ _ _ _ _ _ _ _ _ _ _ _ _ he | tunWrote _ _ _ _ _ he | flushed _ _ _ _ _ _ _ he
  | flushBlocked _ _ _ _ _ he | responded _ _ _ _ _ _ _ he | respondBlocked _ _ _ _ he =>
    rw [he] at hc'
    exact feed_modify hc' fun _ => ⟨rfl, rfl, rfl⟩
  | readShort j length n hpc he _ hread hn =>
    rw [he] at hc'
    rcases Slab.get_modify_eq_some hc' with ⟨-, hc'⟩ | ⟨c, rfl, hc, rfl⟩
    · exact .same c' hc' rfl rfl rfl
    · subst hread
      exact absurd (Except.ok.inj (hi length hpc)) hn
  | consumed j length c hpc hc _ he | answered j length c _ _ hpc hc _ _ _ _ _ _ he =>
    rw [he] at hc'
    rcases Slab.get_modify_eq_some hc' with ⟨-, hc'⟩ | ⟨c₀, rfl, hc₀, rfl⟩
    · exact .same c' hc' rfl rfl rfl
    · obtain rfl : c = c₀ := Option.some.inj (hc.symm.trans hc₀)
      exact .taken c length hpc hc rfl rfl rfl
  | arrived j bytes _ he =>
    rw [he] at hc'
    rcases Slab.get_modify_eq_some hc' with ⟨-, hc'⟩ | ⟨c, rfl, hc, rfl⟩
    · exact .same c' hc' rfl rfl rfl
    · exact .more c bytes hc rfl

omit [Crypto] in
lemma Feed.taken_off {c' : Conn} (h : Feed k s c') (hs : Framed k s) :
    stunFraming.Taken c'.stream.received c'.consumed c'.stream.unread := by
  cases h with
  | fresh h h' h'' =>
    rw [h, h', h'']
    exact .nil
  | same c hc h h' h'' =>
    rw [h, h', h'']
    exact (hs c hc).1
  | more c bytes hc h =>
    rw [h]
    exact (hs c hc).1.append bytes
  | taken c length hpc hc h h' h'' =>
    rw [h, h', h'']
    exact (hs c hc).1.snoc ((hs c hc).2 length hpc)

lemma Step.framed {i : Input} (h : Step m s i s') (hi : Contract k s (.inl i)) (hinv : Inv m s)
    (hs : Framed k s) :
    Framed k s' := by
  intro c' hc'
  refine ⟨(h.feed hi hc').taken_off hs, fun length hk => ?_⟩
  rcases h.reads hk with ⟨c, n, hc, hb, hverdict, rfl, he⟩ | ⟨j, bytes, hpc, he⟩
  · obtain rfl : c' = c := Option.some.inj (hc'.symm.trans (he ▸ hc))
    have hbuffer := hinv.buffer
    obtain ⟨hle, hlen, -⟩ := isFrame_take hverdict
    obtain ⟨hv, hlength⟩ := verdict_append hverdict (c'.stream.unread.drop n)
    rw [List.take_append_drop] at hv hlength
    exact stunNext_frame.mpr ⟨hv, by omega, by omega⟩
  · rw [he] at hc'
    rcases Slab.get_modify_eq_some hc' with ⟨-, hc'⟩ | ⟨c, rfl, hc, rfl⟩
    · exact (hs c' hc').2 length hpc
    · exact stunFraming.frame_append bytes ((hs c hc).2 length hpc)

abbrev Served (m : Mapping) (k : ℕ) : State → Prop := Reaches (disturbed m) (Contract k) initial

lemma Served.framed (h : Served m k s) : Inv m s ∧ Framed k s := by
  refine h.invariant (P := fun s => Inv m s ∧ Framed k s)
    ⟨inv_initial, framed_initial⟩ fun t i t' ht hi hstep => ?_
  obtain ⟨hinv, hframed⟩ := ht
  match i with
  | .inl i => exact ⟨hinv.step hstep, (step_cases hstep).framed hi hinv hframed⟩
  | .inr b =>
    simp only [disturbed] at hstep
    split_ifs at hstep with hb
    cases hstep
    exact ⟨⟨hb.trans hinv.buffer, hinv.slots, hinv.live, hinv.sending, hinv.reading,
      ⟨hinv.within.kept, hinv.within.flushing, hinv.within.responding⟩⟩, hframed⟩

lemma step_available (hinv : Inv m s) {c : Conn} (hc : s.streams.get k = some c)
    (hpc : s.pc = .peek k) :
    ∃ s', step m s (.peek (available c.stream.unread)) = some s' ∧
      s'.pc = nextPc k (stunNext c.stream.unread) ∧
      s'.streams = s.streams := by
  have hbuffer := hinv.buffer
  rw [step_peek hpc hc, available]
  split_ifs with hempty
  · refine ⟨_, rfl, ?_, rfl⟩
    rw [hempty]
    rfl
  · refine ⟨_, peek_ok (min_le_left _ _) (by omega), ?_, rfl⟩
    rw [State.goto_pc, hbuffer, afterPeek_next k hbuffer]

omit [Crypto] in
lemma nextPc_close {xs : Bytes} : nextPc k (stunNext xs) = .deregister k ↔ Violates xs := by
  rw [stunNext]
  split_ifs with hviolates hlen <;> simp [nextPc, hviolates]

omit [Crypto] in
lemma nextPc_not_frame {xs : Bytes} (h : ¬ (nextPc k (stunNext xs)).Reading k) (n : ℕ) :
    stunNext xs ≠ .frame n := by
  intro hn
  rw [hn] at h
  exact h rfl

lemma handle_reading {c : Conn} {message b : Bytes} (hb : b.length = 65536)
    (hm : message.length ≤ 65536) (hframe : IsFrame message) (hs : s.buffer = splice b 0 message) :
    (handle s k c).pc.Reading k := by
  have hrunning := handle_running (k := k) (c := c) hb hm hframe hs
  unfold handle at hrunning ⊢
  repeat' split
  all_goals first
    | exact rfl
    | simp_all [Pc.Halted]

omit [Crypto] in
lemma respond_reading {frame : Bytes} {offset : ℕ} {outcome : IoResult ℕ}
    (hpc : s.pc = .respond k frame offset) (hoffset : offset ≤ frame.length)
    (hok : outcome ≠ .error .other) (h : respond s k frame offset outcome = some s') :
    s'.pc.Reading k := by
  rw [respond, if_neg (Nat.not_lt.mpr hoffset)] at h
  cases outcome with
  | ok n =>
    simp only at h
    split_ifs at h
    all_goals
      cases h
      exact rfl
  | error e =>
    cases e with
    | wouldBlock =>
      cases h
      rw [State.onConn_pc, hpc]
      exact rfl
    | other => exact absurd rfl hok

lemma stays_reading (hinv : Inv m s) {i : Input} (hi : Contract k s (.inl i))
    (hk : s.pc.Reading k) (h : step m s i = some s') : s'.pc.Reading k ∨ s.pc = .peek k ∧
    ∃ outcome, i = .peek outcome := by
  unfold step at h
  match i with
  | .arrive index bytes =>
    cases h
    exact .inl hk
  | .poll none | .poll (some events) | .accept outcome | .recv outcome =>
    simp only at h
    split_ifs at h with hpc
    simp [hpc, Pc.Reading] at hk
  | .tick =>
    simp only at h
    split at h
    next hpc _ => simp [hpc, Pc.Reading] at hk
    next hpc _ => simp [hpc, Pc.Reading] at hk
    next => cases h
  | .deregister ok =>
    simp only at h
    split at h
    next hpc => simp [hpc, Pc.Reading] at hk
    next index hpc => simp [hpc, Pc.Reading] at hk
    next => cases h
  | .write outcome =>
    have hok := hi hk
    simp only at h
    split at h
    next hpc => simp [hpc, Pc.Reading] at hk
    next hpc => simp [hpc, Pc.Reading] at hk
    next index frame offset hpc =>
      rw [hpc] at hk
      obtain rfl : index = k := hk
      exact .inl (respond_reading hpc (hinv.within.responding _ _ _ hpc) hok h)
    next => cases h
  | .peek outcome =>
    simp only at h
    split at h
    next index hpc =>
      rw [hpc] at hk
      obtain rfl : index = k := hk
      exact .inr ⟨hpc, outcome, rfl⟩
    next => cases h
  | .read outcome =>
    simp only at h
    split at h
    next index length hpc =>
      rw [hpc] at hk
      obtain rfl : index = k := hk
      obtain ⟨c, hc, hlen, hsize, hframe⟩ := hinv.reading index length hpc
      have hbuffer := hinv.buffer
      rw [hi length hpc, hc, Option.bind_some, read_ok (by omega) hlen, Option.some.injEq] at h
      subst h
      exact .inl (handle_reading hbuffer (by simp; omega) hframe rfl)
    next => cases h

lemma Run.served (h : Run m (fun s i => Contract k s (.inl i)) s) : Served m k s := by
  induction h with
  | refl => exact .refl
  | next i _ hi ht ih => exact ih.next (.inl i) hi ht

lemma served_peek {relayed : SocketAddrV6} (hrelayed : m.fromIndex 0#64 = some relayed)
    (bytes : Bytes) :
    ∃ s, Served m 0 s ∧ s.pc = .peek 0 ∧
      s.streams.get 0 = some ((Conn.fresh relayed 0).arrive bytes) := by
  have hok : ∀ (s : State) (i : Input), s.pc.handles = none → i.packet = none →
      Contract 0 s (.inl i) := by
    intro s i hnone _
    cases i with
    | peek outcome =>
      intro hpc
      rw [hpc] at hnone
      cases hnone
    | read outcome =>
      intro length hpc
      rw [hpc] at hnone
      cases hnone
    | write outcome =>
      intro hk
      cases hpc : s.pc <;> simp_all [Pc.Reading, Pc.handles]
    | _ => trivial
  obtain ⟨s, hs, hpc, hget⟩ := run_peek hok hrelayed bytes
  exact ⟨s, hs.served, hpc, hget⟩

def bindingIndication : Bytes :=
  [0x00, 0x11, 0x00, 0x00, 0x21, 0x12, 0xA4, 0x42, 0x01, 0x02, 0x03, 0x04, 0x05, 0x06, 0x07, 0x08,
    0x09, 0x0A, 0x0B, 0x0C]

lemma handle_indication {c : Conn} {b : Bytes} (hb : b.length = 65536)
    (hkept : c.partialFrame = none) (hs : s.buffer = splice b 0 bindingIndication) :
    (handle s k c).pc = .peek k ∧ (handle s k c).streams = s.streams := by
  have htake : (splice b 0 bindingIndication).take 20 = bindingIndication :=
    splice_zero_take (by decide)
  have hlen : (splice b 0 bindingIndication).length = 65536 := by
    rw [splice_length (by rw [hb]; decide), hb]
  have htyp : typAt (splice b 0 bindingIndication) = 0x0011#16 := by
    rw [← typAt_take (n := 20) (by omega), htake]
    decide
  have hclass : classAt (splice b 0 bindingIndication) = .indication := by
    rw [classAt, htyp]
    rfl
  have hmethod : methodAt (splice b 0 bindingIndication) = .binding := by
    rw [methodAt, htyp]
    decide
  rw [← hs] at hlen hclass hmethod
  have hanswer : answerTo (.v6 c.relayed) c.relayed s.buffer = .ignore := by
    rw [answerTo, hclass, hmethod, answer]
    cases (turnAttrs (itemsOf s.buffer)).unknownAttrs <;> rfl
  have hturn : handleTurn (.v6 c.relayed) c.relayed s.buffer = .ok ⟨s.buffer, [], false⟩ := by
    rw [handleTurn_eq _ _ (by omega), hanswer]
    exact ite_self _
  simp [handle, hkept, hturn]

lemma served_behind {relayed : SocketAddrV6} (hrelayed : m.fromIndex 0#64 = some relayed)
    (bytes : Bytes) :
    ∃ s c, Served m 0 s ∧ s.pc = .peek 0 ∧ s.streams.get 0 = some c ∧
      c.stream.received = bindingIndication ++ bytes ∧ c.consumed = [bindingIndication] ∧
        c.stream.unread = bytes := by
  have hindication : bindingIndication.length = 20 := by decide
  obtain ⟨s, hs, hpc, hget⟩ := served_peek hrelayed (bindingIndication ++ bytes)
  have hunread : ((Conn.fresh relayed 0).arrive (bindingIndication ++ bytes)).stream.unread =
      bindingIndication ++ bytes := rfl
  have hnext : stunNext (bindingIndication ++ bytes) = .frame 20 := by
    have hgrows : ∀ {xs}, stunNext xs = .frame 20 → stunNext (xs ++ bytes) = .frame 20 := fun h =>
      stunFraming.frame_append bytes h
    apply hgrows
    decide
  obtain ⟨s₁, h₁, hpc₁, hstreams⟩ := step_available hs.framed.1 hget hpc
  rw [hunread, hnext] at hpc₁
  have hget₁ := hget
  rw [← hstreams] at hget₁
  have hserved : Served m 0 s₁ := by
    refine hs.next (.inl (.peek _)) (fun _ c' hc' => ?_) h₁
    rw [Option.some.inj (hget.symm.trans hc')]
  have hbuffer := hserved.framed.1.buffer
  have hread := (step_read (m := m) hpc₁ hget₁ (.ok 20)).trans
    (read_ok (by omega) (by rw [hunread, List.length_append]; omega))
  have htake : ((Conn.fresh relayed 0).arrive (bindingIndication ++ bytes)).stream.unread.take 20 =
      bindingIndication :=
    List.take_left' hindication
  rw [htake] at hread
  have hcontract : Contract 0 s₁ (.inl (.read (.ok 20))) := by
    intro length hlength
    cases hpc₁.symm.trans hlength
    rfl
  obtain ⟨hpc₂, hstreams₂⟩ :=
    handle_indication (k := 0) (c := (Conn.fresh relayed 0).arrive (bindingIndication ++ bytes))
    (s := { s₁ with buffer := splice s₁.buffer 0 bindingIndication }.onConn 0
      fun c' => (c'.drain 20).consume bindingIndication) hbuffer rfl rfl
  have hget₂ := Slab.get_modify_of_get (fun c' => (c'.drain 20).consume bindingIndication) hget₁
  refine ⟨_, _, hserved.next _ hcontract hread, hpc₂,
    (congrArg (Slab.get · 0) hstreams₂).trans hget₂, rfl, rfl, ?_⟩
  exact List.drop_left' hindication

end Streams

end Masquerade.TurnserverTcp
