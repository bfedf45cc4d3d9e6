import Masquerade.Common.Exchange
import Masquerade.Lib.Trace
import Masquerade.TurnserverTcp.Delivery
import Masquerade.TurnserverTcp.Output

/-! Every message begun on a connection, and every packet sent for it, goes back to what came in for
that connection. -/

namespace Masquerade.TurnserverTcp

open Lib Stun Common

section Sent

variable {m : Mapping} {s s' : State}

lemma dispatch_sent (e : Event) : (dispatch s e).sent = s.sent := by
  unfold dispatch takePartial
  repeat' split
  all_goals rfl

lemma accept_sent (outcome : Option SetUp) : (accept m s outcome).sent = s.sent := by
  unfold accept
  simp only
  repeat' split
  all_goals rfl

lemma route_sent (receiver : SocketAddrV6) : (route m s receiver).sent = s.sent := by
  unfold route
  repeat' split
  all_goals rfl

lemma tunWrite_sent {k : ℕ} {frame : Bytes} {outcome : IoResult ℕ}
    (h : tunWrite s k frame outcome = some s') :
    s'.sent = s.sent := by
  unfold tunWrite at h
  simp only at h
  repeat' split at h
  all_goals cases h
  all_goals rfl

lemma flush_sent {k : ℕ} {readable : Bool} {offset : ℕ} {buffer : Bytes} {outcome : IoResult ℕ}
    (h : flush s k readable offset buffer outcome = some s') : s'.sent = s.sent := by
  unfold flush at h
  simp only at h
  repeat' split at h
  all_goals cases h
  all_goals rfl

lemma respond_sent {k : ℕ} {frame : Bytes} {offset : ℕ} {outcome : IoResult ℕ}
    (h : respond s k frame offset outcome = some s') : s'.sent = s.sent := by
  unfold respond at h
  simp only at h
  repeat' split at h
  all_goals cases h
  all_goals rfl

lemma peek_sent {k : ℕ} {c : Conn} {outcome : IoResult ℕ} (h : peek s k c outcome = some s') :
    s'.sent = s.sent := by
  unfold peek at h
  simp only at h
  repeat' split at h
  all_goals cases h
  all_goals rfl

variable [Crypto]

lemma recv_sent {outcome : Option (Bytes × List.Vector UInt8 12)} (h : recv m s outcome = some s') :
    s'.sent = s.sent := by
  unfold recv at h
  rcases outcome with _ | ⟨packet, random⟩
  · cases h
    rfl
  · simp only at h
    split_ifs at h
    split at h <;> cases h
    · rfl
    · rfl
    · exact route_sent _

lemma read_sent {k length : ℕ} {c : Conn} {outcome : IoResult ℕ}
    (h : read s k length c outcome = some s') :
    s'.sent = s.sent ∨ ∃ o, length ≤ c.stream.unread.length ∧
      handleTurn (.v6 c.relayed) c.relayed (splice s.buffer 0 (c.stream.unread.take length)) =
      .ok o ∧ s'.sent = s.sent ++ o.sent ∧ (o.reply = false → s'.streams =
        s.streams.modify k fun c' => (c'.drain length).consume (c.stream.unread.take length)) ∧
      (o.reply = false → s'.pc = .peek k) := by
  unfold read at h
  split_ifs at h with hb
  · cases h
    exact .inl rfl
  cases outcome with
  | error e =>
    cases h
    exact .inl rfl
  | ok n =>
    simp only at h
    split_ifs at h with hlong hn
    · cases h
      exact .inl rfl
    rw [not_or, Nat.not_lt, Nat.not_lt] at hlong
    obtain rfl : n = length := not_not.mp hn
    rw [← Option.some.inj h, handle]
    split_ifs with hkept
    · exact .inl rfl
    simp only [State.onConn_buffer]
    cases hturn : handleTurn (.v6 c.relayed) c.relayed
      (splice s.buffer 0 (c.stream.unread.take n)) with
    | error e => exact .inl rfl
    | ok o =>
      refine .inr ⟨o, hlong.1, rfl, ?_⟩
      simp only
      split_ifs with hreply
      · cases hframe : frameOf o.buffer with
        | error e => exact ⟨rfl, fun h => by simp [hreply] at h, fun h => by simp [hreply] at h⟩
        | ok frame => exact ⟨rfl, fun h => by simp [hreply] at h, fun h => by simp [hreply] at h⟩
      · exact ⟨rfl, fun _ => rfl, fun _ => rfl⟩

lemma step_sent {i : Input} (h : step m s i = some s') : s'.sent = s.sent ∨ ∃ k length c o,
    s.pc = .read k length ∧ s.streams.get k = some c ∧ length ≤ c.stream.unread.length ∧
    handleTurn (.v6 c.relayed) c.relayed (splice s.buffer 0 (c.stream.unread.take length)) =
    .ok o ∧ s'.sent = s.sent ++ o.sent ∧ (o.reply = false → s'.streams =
      s.streams.modify k fun c' => (c'.drain length).consume (c.stream.unread.take length)) ∧
    (o.reply = false → s'.pc = .peek k) ∧ ∃ outcome, i = .read outcome := by
  unfold step at h
  cases i with
  | poll outcome =>
    cases outcome <;> simp only at h <;> split_ifs at h <;> cases h <;> exact .inl rfl
  | accept outcome =>
    simp only at h
    split_ifs at h
    cases h
    exact .inl (accept_sent _)
  | tick =>
    simp only at h
    split at h <;> cases h
    · exact .inl rfl
    · exact .inl (dispatch_sent _)
  | recv outcome =>
    simp only at h
    split_ifs at h
    exact .inl (recv_sent h)
  | write outcome =>
    simp only at h
    split at h
    · exact .inl (tunWrite_sent h)
    · exact .inl (flush_sent h)
    · exact .inl (respond_sent h)
    · cases h
  | peek outcome =>
    simp only at h
    split at h
    · obtain ⟨c, -, h⟩ := Option.bind_eq_some_iff.mp h
      exact .inl (peek_sent h)
    · cases h
  | read outcome =>
    simp only at h
    split at h
    next k length hpc =>
      obtain ⟨c, hc, h⟩ := Option.bind_eq_some_iff.mp h
      rcases read_sent h with hsame | ⟨o, hlen, hturn, hsent, hstreams, hpc'⟩
      · exact .inl hsame
      · exact .inr ⟨k, length, c, o, hpc, hc, hlen, hturn, hsent, hstreams, hpc', outcome, rfl⟩
    next => cases h
  | deregister ok =>
    simp only at h
    repeat' split at h
    all_goals cases h
    all_goals exact .inl rfl
  | arrive index bytes =>
    cases h
    exact .inl rfl

end Sent

section Fed

def Fed (s : State) : Prop := ∀ k c, s.streams.get k = some c →
    (s.pc = .deregister k ∨ s.pc.Halted) ∨ c.consumed.flatten ++ c.stream.unread = c.stream.received

lemma fed_initial : Fed initial := by
  intro k c hc
  have hnone : initial.streams.get k = none := Slab.get_empty k
  rw [hnone] at hc
  cases hc

variable {m : Mapping} {s s' : State} {i : Input}

lemma Fed.going (hs : Fed s) (hclose : ∀ j, s.pc ≠ .deregister j)
    (hhalt : ¬ s.pc.Halted) {k : ℕ} {c : Conn} (hc : s.streams.get k = some c) :
    c.consumed.flatten ++ c.stream.unread = c.stream.received := by
  rcases hs k c hc with (hpc | hpc) | hfed
  · exact absurd hpc (hclose k)
  · exact absurd hpc hhalt
  · exact hfed

lemma Fed.keeps (hs : Fed s) (hclose : ∀ j, s.pc ≠ .deregister j) (hhalt : ¬ s.pc.Halted)
    {k : ℕ} {f : Conn → Conn} (he : s'.streams = s.streams.modify k f)
    (hf : ∀ c, (f c).consumed = c.consumed ∧
      (f c).stream.unread = c.stream.unread ∧
        (f c).stream.received = c.stream.received) : Fed s' := by
  intro j c' hc'
  rw [he] at hc'
  rcases Slab.get_modify_eq_some hc' with ⟨-, hc'⟩ | ⟨c, rfl, hc, rfl⟩
  · exact .inr (hs.going hclose hhalt hc')
  · obtain ⟨hconsumed, hunread, hreceived⟩ := hf c
    rw [hconsumed, hunread, hreceived]
    exact .inr (hs.going hclose hhalt hc)

lemma Fed.removes (hs : Fed s) {k : ℕ} (he : s'.streams = s.streams.remove k)
    (hclose : ∀ j ≠ k, s.pc ≠ .deregister j) (hhalt : ¬ s.pc.Halted) : Fed s' := by
  intro j c hc
  rw [he] at hc
  obtain ⟨hj, hc⟩ := Slab.get_remove_eq_some hc
  rcases hs j c hc with (hpc | hpc) | hfed
  · exact absurd hpc (hclose j hj)
  · exact absurd hpc hhalt
  · exact .inr hfed

lemma Fed.takes (hs : Fed s) {k length : ℕ} {c : Conn} (hpc : s.pc = .read k length)
    (hc : s.streams.get k = some c) {f : Conn → Conn} (he : s'.streams = s.streams.modify k f)
    (hf : (f c).consumed = c.consumed ++ [c.stream.unread.take length] ∧
      (f c).stream.unread = c.stream.unread.drop length ∧
        (f c).stream.received = c.stream.received) : Fed s' := by
  have hclose : ∀ j, s.pc ≠ .deregister j := by simp [hpc]
  have hhalt : ¬ s.pc.Halted := by simp [hpc, Pc.Halted]
  intro j c' hc'
  rw [he] at hc'
  rcases Slab.get_modify_eq_some hc' with ⟨-, hc'⟩ | ⟨c₀, rfl, hc₀, rfl⟩
  · exact .inr (hs.going hclose hhalt hc')
  · obtain rfl : c = c₀ := Option.some.inj (hc.symm.trans hc₀)
    obtain ⟨hconsumed, hunread, hreceived⟩ := hf
    have hfed := hs.going hclose hhalt hc
    rw [hconsumed, hunread, hreceived, ← hfed]
    simp

variable [Crypto]

lemma Step.fed (h : Step m s i s') (hs : Fed s) : Fed s' := by
  cases h with
  | idle he hpc' hfrom =>
    intro k c hc
    rw [he] at hc
    rcases hfrom with hsettled | hhalted
    · refine .inr (hs.going (fun j hj => ?_) (fun hhalt => ?_) hc)
      · simp [hj, Pc.Settled] at hsettled
      · rcases hhalt with hhalt | hhalt <;> simp [hhalt, Pc.Settled] at hsettled
    · exact .inl (.inr hhalted)
  | enter _ _ _ _ hpc _ _ _ _ _ he =>
    intro k c hc
    rw [he] at hc
    exact .inr (hs.going (by simp [hpc]) (by simp [hpc, Pc.Halted]) hc)
  | peeked _ _ _ hpc _ _ _ _ _ he =>
    intro k c hc
    rw [he] at hc
    exact .inr (hs.going (by simp [hpc]) (by simp [hpc, Pc.Halted]) hc)
  | routed _ _ _ _ _ _ hpc _ _ _ _ _ _ _ he =>
    intro k c hc
    rw [he] at hc
    exact .inr (hs.going (by simp [hpc]) (by simp [hpc, Pc.Halted]) hc)
  | condemned k hpc he hpc' =>
    intro j c hc
    rw [he] at hc
    rcases hs j c hc with (hdereg | hhalt) | hfed
    · rw [hdereg] at hpc
      exact .inl (.inl (hpc'.trans (congrArg Pc.deregister (Option.some.inj hpc).symm)))
    · rcases hhalt with hhalt | hhalt <;> simp [hhalt, Pc.handles] at hpc
    · exact .inr hfed
  | accepted relayed hpc _ _ he =>
    intro k c hc
    rw [he] at hc
    rcases Slab.get_insert_eq_some hc with ⟨-, hc⟩ | ⟨rfl, rfl⟩
    · exact .inr (hs.going (by simp [hpc]) (by simp [hpc, Pc.Halted]) hc)
    · exact .inr rfl
  | tunFailed k _ hpc he => exact hs.removes he (by simp [hpc]) (by simp [hpc, Pc.Halted])
  | deregistered k hpc he =>
    refine hs.removes he (fun j hj => ?_) (by simp [hpc, Pc.Halted])
    rw [hpc]
    exact fun h => hj (Pc.deregister.inj h).symm
  | resume k _ _ _ _ _ _ hpc _ _ _ _ _ _ he | tunWrote k _ _ hpc _ he | flushed k _ _ _ _ hpc _ he
  | flushBlocked k _ _ _ hpc he | responded k _ _ _ hpc _ _ he | respondBlocked k _ _ hpc he =>
    exact hs.keeps (by simp [hpc]) (by simp [hpc, Pc.Halted]) he fun _ => ⟨rfl, rfl, rfl⟩
  | readShort k length n hpc he hpc' =>
    intro j c' hc'
    rw [he] at hc'
    rcases Slab.get_modify_eq_some hc' with ⟨-, hc'⟩ | ⟨c, rfl, hc, rfl⟩
    · exact .inr (hs.going (by simp [hpc]) (by simp [hpc, Pc.Halted]) hc')
    · exact .inl (.inl hpc')
  | consumed k length c hpc hc _ he => exact hs.takes hpc hc he ⟨rfl, rfl, rfl⟩
  | answered k length c _ _ hpc hc _ _ _ _ _ _ he => exact hs.takes hpc hc he ⟨rfl, rfl, rfl⟩
  | arrived k bytes _ he hpc' =>
    intro j c' hc'
    rw [he] at hc'
    rw [hpc']
    rcases Slab.get_modify_eq_some hc' with ⟨-, hc'⟩ | ⟨c, rfl, hc, rfl⟩
    · exact hs j c' hc'
    · rcases hs j c hc with hpc | hfed
      · exact .inl hpc
      · right
        simp only [Conn.arrive, ← hfed, List.append_assoc]

end Fed

section Messages

def home (receiver : SocketAddrV6) : SocketAddrV6 := ⟨receiver.ip, receiver.port ||| 0x8000, 0, 0⟩

inductive Owed (arrived : List (Bytes × List.Vector UInt8 12)) (c : Conn) : Bytes → Prop
  | answer {message response : Bytes} : message ∈ c.consumed → Answers response message →
      Owed arrived c response
  | told {packet : Bytes} {random : List.Vector UInt8 12} {sender receiver : SocketAddrV6}
      {bytes indication : Bytes} : (packet, random) ∈ arrived →
      classify packet = .data sender receiver bytes → home receiver = c.relayed →
      Tells indication sender bytes → Owed arrived c indication
  | reported {packet : Bytes} {random : List.Vector UInt8 12} {peer receiver : SocketAddrV6}
      {typ code : UInt8} {arg : List.Vector UInt8 4} {indication : Bytes} : (packet, random) ∈
      arrived → classify packet = .icmp peer receiver typ code arg → home receiver = c.relayed →
      ReportsIcmp indication peer typ code arg → Owed arrived c indication

structure Own (arrived : List (Bytes × List.Vector UInt8 12)) (c : Conn) : Prop where
  whole : ∀ message ∈ c.consumed, IsFrame message
  follows : c.consumed.flatten <+: c.stream.received
  owed : ∀ message ∈ c.started, Owed arrived c message

variable {arrived arrived' : List (Bytes × List.Vector UInt8 12)} {c c' : Conn} {message : Bytes}

lemma Owed.mono (h : Owed arrived c message) (harrived : arrived ⊆ arrived')
    (hconsumed : c.consumed ⊆ c'.consumed) (hrelayed : c'.relayed = c.relayed) :
    Owed arrived' c' message := by
  cases h with
  | answer hmem hanswers => exact .answer (hconsumed hmem) hanswers
  | told hmem hclass hhome htells =>
    exact .told (harrived hmem) hclass (hhome.trans hrelayed.symm) htells
  | reported hmem hclass hhome hreports =>
    exact .reported (harrived hmem) hclass (hhome.trans hrelayed.symm) hreports

lemma Own.mono (h : Own arrived c) (harrived : arrived ⊆ arrived')
    (hrelayed : c'.relayed = c.relayed) (hconsumed : c'.consumed = c.consumed)
    (hreceived : c.stream.received <+: c'.stream.received) (hstarted : c'.started = c.started) :
    Own arrived' c' where
  whole := hconsumed ▸ h.whole
  follows := hconsumed ▸ h.follows.trans hreceived
  owed x hx :=
    (h.owed x (hstarted ▸ hx)).mono harrived (by rw [hconsumed]; exact List.Subset.refl _) hrelayed

lemma own_fresh (relayed : SocketAddrV6) (id : ℕ) : Own arrived (.fresh relayed id) where
  whole message h := by cases h
  follows := List.nil_prefix
  owed message h := by cases h

lemma Own.start (h : Own arrived c) (howed : Owed arrived c message) :
    Own arrived (c.start message) where
  whole := h.whole
  follows := h.follows
  owed x hx := by
    have hx : Owed arrived c x := by
      rcases List.mem_append.mp hx with hx | hx
      · exact h.owed x hx
      · exact List.mem_singleton.mp hx ▸ howed
    exact hx.mono (List.Subset.refl _) (List.Subset.refl _) rfl

variable [Crypto] {m : Mapping} {s s' : State} {i : Input} {k length : ℕ}

structure Upcoming (c : Conn) (message : Bytes) : Prop where
  whole : IsFrame message
  short : message.length ≤ 65536
  follows : c.consumed.flatten ++ message <+: c.stream.received

omit [Crypto] in
lemma upcoming (hs : Inv m s) (hfed : Fed s) (hpc : s.pc = .read k length)
    (hc : s.streams.get k = some c) :
    Upcoming c (c.stream.unread.take length) := by
  obtain ⟨c', hc', hlen, hsize, hframe⟩ := hs.reading k length hpc
  obtain rfl : c = c' := Option.some.inj (hc.symm.trans hc')
  have hbytes := hfed.going (by simp [hpc]) (by simp [hpc, Pc.Halted]) hc
  refine ⟨hframe, ?_, ?_⟩
  · rw [List.length_take]
    omega
  · rw [← hbytes]
    exact (List.prefix_append_right_inj _).mpr (List.take_prefix _ _)

omit [Crypto] in
lemma Own.read (h : Own arrived c) (hnext : Upcoming c message) (n : ℕ) :
    Own arrived ((c.drain n).consume message) where
  whole x hx := by
    rcases List.mem_append.mp hx with hx | hx
    · exact h.whole x hx
    · exact List.mem_singleton.mp hx ▸ hnext.whole
  follows := by simpa [Conn.consume, Conn.drain] using hnext.follows
  owed x hx := (h.owed x hx).mono (List.Subset.refl _) (List.subset_append_left _ _) rfl

lemma answers_of_turned {relayed : SocketAddrV6} {response : Bytes} (hr : relayed.Plain)
    (hnext : Upcoming c message) (h : turned (.v6 relayed) relayed message = ⟨some response, []⟩) :
    Answers response message := by
  rcases turned_meaning (.v6 relayed) hr (isFrame_iff.mp hnext.whole).1 hnext.short with
    hnone | ⟨m, hm, hanswers⟩ | ⟨_, _, packet, hpacket, -⟩
  · rw [hnone] at h
    cases h
  · rw [hm] at h
    cases h
    exact hanswers
  · rw [hpacket] at h
    cases h

lemma sent_of_turned {relayed : SocketAddrV6} {packet : Bytes} (hr : relayed.Plain)
    (hnext : Upcoming c message) (h : packet ∈ (turned (.v6 relayed) relayed message).sent) :
    (turned (.v6 relayed) relayed message).response = none ∧
      ∃ peer bytes, Asks message peer bytes ∧ Carries packet relayed peer bytes := by
  rcases turned_meaning (.v6 relayed) hr (isFrame_iff.mp hnext.whole).1 hnext.short with
    hnone | ⟨m, hm, -⟩ | ⟨peer, bytes, packet', hpacket, hasks, hcarries, -⟩
  · rw [hnone] at h
    cases h
  · rw [hm] at h
    cases h
  · rw [hpacket] at h ⊢
    cases List.mem_singleton.mp h
    exact ⟨rfl, peer, bytes, hasks, hcarries⟩

lemma owed_of_netted {packet : Bytes} {random : List.Vector UInt8 12} {receiver : SocketAddrV6}
    (hmem : (packet, random) ∈ arrived) (hle : packet.length ≤ 65536)
    (h : netted random packet = some (receiver, message)) (hhome : home receiver = c.relayed) :
    Owed arrived c message := by
  rcases netted_meaning random hle with hnone | ⟨sender, receiver', bytes, m, hclass, hm, htells⟩ |
    ⟨peer, receiver', typ, code, arg, m, hclass, hm, hreports⟩
  · rw [hnone] at h
    cases h
  · rw [hm] at h
    cases h
    exact .told hmem hclass hhome htells
  · rw [hm] at h
    cases h
    exact .reported hmem hclass hhome hreports

end Messages

section Accounts

variable [Crypto] (m : Mapping)

def Held (s : State) (p : SocketAddrV6 × Bytes) : Prop :=
  ∃ k c, s.streams.get k = some c ∧ c.relayed = p.1 ∧ p.2 ∈ c.consumed

def Spoke (is : List Input) (p : SocketAddrV6 × Bytes) : Prop :=
  ∃ is' t, is' <+: is ∧ run (step m) initial is' = some t ∧ Held t p

def Sent (is : List Input) (packet : Bytes) : Prop := ∃ relayed message peer bytes,
  Spoke m is (relayed, message) ∧ Asks message peer bytes ∧ Carries packet relayed peer bytes

structure Accounts (s : State × List Input) : Prop where
  reached : run (step m) initial s.2 = some s.1
  inv : Inv m s.1
  fed : Fed s.1
  own : ∀ k c, s.1.streams.get k = some c → Own (s.2.filterMap Input.packet) c
  pending : ∀ k frame, s.1.pc = .tunWrite k frame →
    ∃ c, s.1.streams.get k = some c ∧ Owed (s.2.filterMap Input.packet) c frame
  sent : ∀ packet ∈ s.1.sent, Sent m s.2 packet

variable {m} {s s' : State} {is : List Input} {i : Input} {k : ℕ}

omit [Crypto] in
lemma plain_relayed (hs : Inv m s) {c : Conn} (hc : s.streams.get k = some c) :
    c.relayed.Plain := by
  obtain ⟨-, hrelayed⟩ := m.fromIndex_eq_some.mp (hs.slots k c hc).2
  rw [hrelayed]
  exact ⟨rfl, rfl⟩

omit [Crypto] in
lemma packets_snoc (is : List Input) (i : Input) :
    (is ++ [i]).filterMap Input.packet = is.filterMap Input.packet ++ i.packet.toList := by
  rw [List.filterMap_append]
  cases hi : i.packet <;> simp [hi]

omit [Crypto] in
lemma own_modify {arrived arrived' : List (Bytes × List.Vector UInt8 12)} {f : Conn → Conn}
    (hown : ∀ k c, s.streams.get k = some c → Own arrived c) (harrived : arrived ⊆ arrived')
    (he : s'.streams = s.streams.modify k f)
    (hf : ∀ c, s.streams.get k = some c → Own arrived c → Own arrived' (f c)) :
    ∀ j c, s'.streams.get j = some c → Own arrived' c := by
  intro j c hc
  rw [he] at hc
  rcases Slab.get_modify_eq_some hc with ⟨-, hc⟩ | ⟨c₀, rfl, hc₀, rfl⟩
  · exact (hown j c hc).mono harrived rfl rfl (List.prefix_refl _) rfl
  · exact hf c₀ hc₀ (hown j c₀ hc₀)

lemma Accounts.step_own (h : Accounts m (s, is)) (hstep : Step m s i s') :
    ∀ k c, s'.streams.get k = some c → Own ((is ++ [i]).filterMap Input.packet) c := by
  have harrived : is.filterMap Input.packet ⊆ (is ++ [i]).filterMap Input.packet := by
    rw [packets_snoc]
    exact List.subset_append_left _ _
  have hlater : ∀ {c c' : Conn}, Own (is.filterMap Input.packet) c → c'.relayed = c.relayed →
      c'.consumed = c.consumed → c.stream.received <+: c'.stream.received → c'.started = c.started →
      Own ((is ++ [i]).filterMap Input.packet) c' := fun hc => hc.mono harrived
  cases hstep with
  | idle he | enter _ _ _ _ _ _ _ _ _ _ he | routed _ _ _ _ _ _ _ _ _ _ _ _ _ _ he
  | condemned _ _ he
  | peeked _ _ _ _ _ _ _ _ _ he =>
    intro j c hc
    rw [he] at hc
    exact hlater (h.own j c hc) rfl rfl (List.prefix_refl _) rfl
  | resume _ _ _ _ _ _ _ _ _ _ _ _ _ _ he | flushed _ _ _ _ _ _ _ he | flushBlocked _ _ _ _ _ he
  | readShort _ _ _ _ he | responded _ _ _ _ _ _ _ he | respondBlocked _ _ _ _ he =>
    exact own_modify h.own harrived he fun c _ hc => hlater hc rfl rfl (List.prefix_refl _) rfl
  | arrived k bytes _ he =>
    exact own_modify h.own harrived he fun c _ hc => hlater hc rfl rfl (List.prefix_append _ _) rfl
  | accepted relayed _ _ _ he =>
    intro j c hc
    rw [he] at hc
    rcases Slab.get_insert_eq_some hc with ⟨-, hc⟩ | ⟨rfl, rfl⟩
    · exact hlater (h.own j c hc) rfl rfl (List.prefix_refl _) rfl
    · exact own_fresh relayed s.accepts
  | tunFailed k _ _ he | deregistered k _ he =>
    intro j c hc
    rw [he] at hc
    exact hlater (h.own j c (Slab.get_remove_eq_some hc).2) rfl rfl (List.prefix_refl _) rfl
  | tunWrote k frame n hpc _ he =>
    obtain ⟨c', hc', howed⟩ := h.pending k frame hpc
    apply own_modify h.own harrived he
    intro c hc hown
    obtain rfl := Option.some.inj (hc'.symm.trans hc)
    exact hlater (hown.start howed) rfl rfl (List.prefix_refl _) rfl
  | consumed k length c' hpc hc' _ he =>
    apply own_modify h.own harrived he
    intro c hc hown
    obtain rfl := Option.some.inj (hc'.symm.trans hc)
    exact hlater (hown.read (upcoming h.inv h.fed hpc hc) length) rfl rfl (List.prefix_refl _) rfl
  | answered k length c' o frame hpc hc' _ _ _ hturn hreply hframe he =>
    apply own_modify h.own harrived he
    intro c hc hown
    obtain rfl := Option.some.inj (hc'.symm.trans hc)
    have hnext := upcoming h.inv h.fed hpc hc
    have hreceived := received_splice h.inv.buffer hnext.short
    obtain ⟨f, items, tail, rfl, hbuilt, hturned⟩ :=
      turned_reply _ _ hreceived (isFrame_iff.mp hnext.whole).1 hturn hreply
    rw [frameOf_append hbuilt] at hframe
    obtain rfl := Except.ok.inj hframe
    have hanswers := answers_of_turned (plain_relayed h.inv hc) hnext hturned
    have howed : Owed (is.filterMap Input.packet)
        ((c'.drain length).consume (c'.stream.unread.take length)) _ :=
      .answer (List.mem_append_right _ (List.mem_singleton_self _)) hanswers
    exact hlater ((hown.read hnext length).start howed) rfl rfl (List.prefix_refl _) rfl

lemma Accounts.step_pending (h : Accounts m (s, is)) (hstep : Step m s i s') (k : ℕ) (frame : Bytes)
    (hk : s'.pc = .tunWrite k frame) :
    ∃ c, s'.streams.get k = some c ∧ Owed ((is ++ [i]).filterMap Input.packet) c frame := by
  rw [packets_snoc]
  cases hstep with
  | routed packet random receiver index c frame' hpc hi hlen hnet hindex hc hkept hframe he hpc' =>
    rw [hpc', Pc.tunWrite.injEq] at hk
    obtain ⟨rfl, rfl⟩ := hk
    have hle : packet.length ≤ 65536 := h.inv.buffer ▸ hlen
    obtain ⟨f, items, tail, hmsg, hbuilt, hnetted⟩ :=
      netted_message random (received_splice h.inv.buffer hle) hnet
    rw [hmsg, frameOf_append hbuilt] at hframe
    obtain rfl := Except.ok.inj hframe
    have hmem : (packet, random) ∈ is.filterMap Input.packet ++ i.packet.toList := by
      rw [hi]
      exact List.mem_append_right _ (List.mem_singleton_self _)
    exact ⟨c, he ▸ hc,
      owed_of_netted hmem hle hnetted (h.inv.slots.relayed_of_toIndex hindex hc).symm⟩
  | arrived j bytes hi he hpc' =>
    obtain ⟨c, hc, howed⟩ := h.pending k frame (hpc'.symm.trans hk)
    have harrived : is.filterMap Input.packet ⊆ is.filterMap Input.packet ++ i.packet.toList :=
      List.subset_append_left _ _
    rw [he, Slab.get_modify]
    split_ifs with hj
    · subst hj
      exact ⟨c.arrive bytes, by rw [hc, Option.map_some],
        howed.mono harrived (List.Subset.refl _) rfl⟩
    · exact ⟨c, hc, howed.mono harrived (List.Subset.refl _) rfl⟩
  | idle _ hpc' =>
    rw [hk] at hpc'
    cases hpc'
  | flushed _ _ _ _ _ _ _ _ hpc' | flushBlocked _ _ _ _ _ _ hpc' =>
    rw [hpc'] at hk
    simp only [afterFlush] at hk
    split_ifs at hk
  | responded _ _ _ _ _ _ _ _ hpc' =>
    rw [hpc'] at hk
    split_ifs at hk
  | enter _ _ _ _ _ _ _ _ _ _ _ hpc' | consumed _ _ _ _ _ _ _ hpc' =>
    rcases hpc' with hpc' | hpc' <;> simp [hpc'] at hk
  | respondBlocked _ _ _ hpc _ hpc' =>
    rw [hpc', hpc] at hk
    cases hk
  | resume _ _ _ _ _ _ _ _ _ _ _ _ _ _ _ hpc' | accepted _ _ _ _ _ hpc' | tunWrote _ _ _ _ _ _ hpc'
  | tunFailed _ _ _ _ hpc' | condemned _ _ _ hpc' | peeked _ _ _ _ _ _ _ _ _ _ hpc'
  | readShort _ _ _ _ _ hpc' | answered _ _ _ _ _ _ _ _ _ _ _ _ _ _ hpc'
  | deregistered _ _ _ hpc' =>
    rw [hpc'] at hk
    cases hk

lemma Sent.snoc {packet : Bytes} (h : Sent m is packet) (i : Input) :
    Sent m (is ++ [i]) packet := by
  obtain ⟨relayed, message, peer, bytes, ⟨is', t, hprefix, ht, hheld⟩, hasks, hcarries⟩ := h
  exact ⟨relayed, message, peer, bytes, ⟨is', t, hprefix.trans (List.prefix_append _ _), ht, hheld⟩,
    hasks, hcarries⟩

lemma Accounts.step_sent (h : Accounts m (s, is)) (hstep : step m s i = some s') :
    ∀ packet ∈ s'.sent, Sent m (is ++ [i]) packet := by
  intro packet hpacket
  rcases TurnserverTcp.step_sent hstep with hsame |
    ⟨k, length, c, o, hpc, hc, -, hturn, hsent, hstreams, -, -⟩
  · exact (h.sent packet (hsame ▸ hpacket)).snoc i
  rw [hsent] at hpacket
  rcases List.mem_append.mp hpacket with hpacket | hpacket
  · exact (h.sent packet hpacket).snoc i
  have hnext := upcoming h.inv h.fed hpc hc
  have hreceived := received_splice h.inv.buffer hnext.short
  obtain ⟨o', ho', hobserved⟩ :=
    handleTurn_turned (.v6 c.relayed) c.relayed hreceived (isFrame_iff.mp hnext.whole).1
  obtain rfl := Except.ok.inj (ho'.symm.trans hturn)
  have hmem : packet ∈ o'.observed.sent := hpacket
  rw [hobserved] at hmem
  obtain ⟨hresponse, peer, bytes, hasks, hcarries⟩ :=
    sent_of_turned (plain_relayed h.inv hc) hnext hmem
  -- A packet is all that a message leads to.
  have hreply : o'.reply = false := by
    rw [← hobserved] at hresponse
    simpa [Outcome.observed] using hresponse
  have hget :=
    Slab.get_modify_of_get (fun c' => (c'.drain length).consume (c.stream.unread.take length)) hc
  rw [← hstreams hreply] at hget
  refine ⟨c.relayed, _, peer, bytes, ⟨is ++ [i], s', List.prefix_refl _, ?_, k, _, hget, rfl, ?_⟩,
    hasks, hcarries⟩
  · exact run_append.mpr ⟨s, h.reached, run_single.trans hstep⟩
  · exact List.mem_append_right _ (List.mem_singleton_self _)

lemma Accounts.step (h : Accounts m (s, is)) (hstep : step m s i = some s') :
    Accounts m (s', is ++ [i]) where
  reached := run_append.mpr ⟨s, h.reached, run_single.trans hstep⟩
  inv := h.inv.step hstep
  fed := (step_cases hstep).fed h.fed
  own := h.step_own (step_cases hstep)
  pending := h.step_pending (step_cases hstep)
  sent := h.step_sent hstep

lemma accounts_initial : Accounts m (initial, []) where
  reached := rfl
  inv := inv_initial
  fed := fed_initial
  own k c hc := by
    have hnone : initial.streams.get k = none := Slab.get_empty k
    rw [hnone] at hc
    cases hc
  pending k frame h := by cases h
  sent packet h := by cases h

lemma accounts {t : State} (h : run (TurnserverTcp.step m) initial is = some t) :
    Accounts m (t, is) := by
  refine run_invariant (P := Accounts m) ?_ accounts_initial (run_recording h [])
  rintro ⟨s, is⟩ i ⟨s', is'⟩ hs hstep
  obtain ⟨t, ht, heq⟩ := Option.map_eq_some_iff.mp hstep
  cases heq
  exact hs.step ht

theorem clients_get_their_own {t : State} (h : run (step m) initial is = some t) :
    (∀ k c, t.streams.get k = some c → (∀ message ∈ c.consumed, IsFrame message) ∧
      c.consumed.flatten <+: c.stream.received ∧
      ∀ message ∈ c.started, Owed (is.filterMap Input.packet) c message) ∧
    ∀ packet ∈ t.sent, ∃ relayed message peer bytes, Spoke m is (relayed, message) ∧
      Asks message peer bytes ∧ Carries packet relayed peer bytes := by
  have haccounts := accounts h
  constructor
  · intro k c hc
    have hown := haccounts.own k c hc
    exact ⟨hown.whole, hown.follows, hown.owed⟩
  · exact haccounts.sent

end Accounts

theorem clients_get_their_own_binding :
    letI : Crypto := .recorded [] [] []
    ∃ is t c response, run (step defaultMapping) initial is = some t ∧ t.streams.get 0 = some c ∧
      c.started = [response] ∧ Owed (is.filterMap Input.packet) c response := by
  let _ : Crypto := .recorded [] [] []
  obtain ⟨s, c, response, hs, -, hget, -, -, hstarted, -⟩ :
    ∃ s c frame, Reachable defaultMapping s ∧ _ :=
      run_response (fun _ _ _ _ => trivial) firstRelayed_eq
  obtain ⟨is, his, -⟩ := run_of_reaches hs
  have howed := ((clients_get_their_own his).1 0 c hget).2.2 response
    (by rw [hstarted]; exact List.mem_singleton_self _)
  exact ⟨is, s, c, response, his, hget, hstarted, howed⟩

end Masquerade.TurnserverTcp
