import Masquerade.Common.InPlace
import Masquerade.TurnserverTcp.Machine

/-! All that one step of the event loop can do to the connections. -/

namespace Masquerade.TurnserverTcp

open Lib Stun Common

def Pc.handles : Pc → Option ℕ
  | .flush index _ _ _ | .peek index | .read index _ | .respond index _ _ | .deregister index =>
    some index
  | _ => none

def Pc.Settled : Pc → Prop
  | .flush .. | .respond .. | .deregister _ | .exited | .panicked => False
  | _ => True

def Pc.Halted (pc : Pc) : Prop := pc = .exited ∨ pc = .panicked

def Pc.Outside : Pc → Prop
  | .poll | .next | .accept | .tun | .tunDeregister | .exited | .panicked => True
  | _ => False

def Touches (e : Event) (c : Conn) : Prop :=
  (e.readClosed || e.error) = true ∨ e.readable = true ∨
    (e.writable = true ∧ c.partialFrame.isSome = true)

instance (e : Event) (c : Conn) : Decidable (Touches e c) := inferInstanceAs (Decidable (_ ∨ _))

namespace Conn

variable (c : Conn)

@[simp] lemma accept_accepted (bytes : Bytes) :
    (c.accept bytes).stream.accepted = c.stream.accepted ++ bytes := rfl
@[simp] lemma accept_partialFrame (bytes : Bytes) :
    (c.accept bytes).partialFrame = c.partialFrame := rfl
@[simp] lemma accept_started (bytes : Bytes) : (c.accept bytes).started = c.started := rfl
@[simp] lemma keep_accepted (rest : Option (ℕ × Bytes)) :
    (c.keep rest).stream.accepted = c.stream.accepted := rfl
@[simp] lemma keep_partialFrame (rest : Option (ℕ × Bytes)) :
    (c.keep rest).partialFrame = rest := rfl
@[simp] lemma keep_started (rest : Option (ℕ × Bytes)) : (c.keep rest).started = c.started := rfl
@[simp] lemma start_accepted (frame : Bytes) :
    (c.start frame).stream.accepted = c.stream.accepted := rfl
@[simp] lemma start_started (frame : Bytes) : (c.start frame).started = c.started ++ [frame] := rfl

end Conn

namespace State

@[simp] lemma goto_pc (s : State) (pc : Pc) : (s.goto pc).pc = pc := rfl
@[simp] lemma goto_streams (s : State) (pc : Pc) : (s.goto pc).streams = s.streams := rfl
@[simp] lemma goto_raised (s : State) (pc : Pc) : (s.goto pc).raised = s.raised := rfl
@[simp] lemma onConn_pc (s : State) (index : ℕ) (f : Conn → Conn) :
    (s.onConn index f).pc = s.pc := rfl
@[simp] lemma onConn_buffer (s : State) (index : ℕ) (f : Conn → Conn) :
    (s.onConn index f).buffer = s.buffer := rfl
@[simp] lemma onConn_streams (s : State) (index : ℕ) (f : Conn → Conn) :
    (s.onConn index f).streams = s.streams.modify index f := rfl

end State

section

variable [Crypto]

section Calls

variable {m : Mapping} {s : State}

lemma step_poll (hpc : s.pc = .poll) {events : List Event} (h : ∀ e ∈ events, s.Registered e) :
    step m s (.poll (some events)) =
      some { s with pc := .next, events := events, raised := s.idAt } :=
  if_pos ⟨hpc, h⟩

lemma step_tick_nil (hpc : s.pc = .next) (he : s.events = []) :
    step m s .tick = some (s.goto .poll) := by
  simp only [step, hpc, he]

lemma step_tick_cons (hpc : s.pc = .next) {e : Event} {es : List Event} (he : s.events = e :: es) :
    step m s .tick = some (dispatch { s with events := es } e) := by
  simp only [step, hpc, he]

lemma step_accept (hpc : s.pc = .accept) (outcome : Option SetUp) :
    step m s (.accept outcome) = some (accept m s outcome) :=
  if_pos hpc

lemma step_recv (hpc : s.pc = .tun) (outcome : Option (Bytes × List.Vector UInt8 12)) :
    step m s (.recv outcome) = recv m s outcome :=
  if_pos hpc

lemma step_tunWrite {k : ℕ} {frame : Bytes} (hpc : s.pc = .tunWrite k frame)
    (outcome : IoResult ℕ) :
    step m s (.write outcome) = tunWrite s k frame outcome := by
  simp only [step, hpc]

lemma step_flush_blocked {k : ℕ} {readable : Bool} {offset : ℕ} {buffer : Bytes}
    (hpc : s.pc = .flush k readable offset buffer) (hoffset : offset ≤ buffer.length) :
    step m s (.write (.error .wouldBlock)) =
      some ((s.onConn k (.keep (some (offset, buffer)))).goto (afterFlush k readable)) := by
  simp only [step, hpc, flush, if_neg (Nat.not_lt.mpr hoffset)]

lemma step_respond {k : ℕ} {frame : Bytes} {offset : ℕ} (hpc : s.pc = .respond k frame offset)
    (outcome : IoResult ℕ) :
    step m s (.write outcome) = respond s k frame offset outcome := by
  simp only [step, hpc]

lemma step_peek {k : ℕ} {c : Conn} (hpc : s.pc = .peek k) (hc : s.streams.get k = some c)
    (outcome : IoResult ℕ) :
    step m s (.peek outcome) = peek s k c outcome := by
  simp only [step, hpc, hc, Option.bind_some]

lemma step_read {k length : ℕ} {c : Conn} (hpc : s.pc = .read k length)
    (hc : s.streams.get k = some c) (outcome : IoResult ℕ) :
    step m s (.read outcome) = read s k length c outcome := by
  simp only [step, hpc, hc, Option.bind_some]

lemma step_tunDeregister (hpc : s.pc = .tunDeregister) :
    step m s (.deregister true) = some (s.goto .tun) := by
  simp only [step, hpc, if_true]

lemma step_deregister {k : ℕ} (hpc : s.pc = .deregister k) :
    step m s (.deregister true) = some ({ s with streams := s.streams.remove k }.goto .next) := by
  simp only [step, hpc, if_true]

omit [Crypto] in
lemma dispatch_closed {e : Event} {k : ℕ} {c : Conn} (ht : e.token = .conn k)
    (hc : s.streams.get k = some c) (hclosed : (e.readClosed || e.error) = true) :
    dispatch s e = s.goto (.deregister k) := by
  simp only [dispatch, ht, hc, hclosed, if_true]

omit [Crypto] in
lemma dispatch_readable {e : Event} {k : ℕ} {c : Conn} (ht : e.token = .conn k)
    (hc : s.streams.get k = some c) (hopen : (e.readClosed || e.error) = false)
    (hw : e.writable = false) (hr : e.readable = true) :
    dispatch s e = s.goto (.peek k) := by
  simp only [dispatch, ht, hc, hopen, hw, hr, Bool.false_eq_true, if_false, Bool.true_or]
  rfl

end Calls

inductive Step (m : Mapping) (s : State) (i : Input) (s' : State) : Prop
  | idle (hs : s'.streams = s.streams) (hpc : s'.pc.Outside) (hfrom : s.pc.Settled ∨ s'.pc.Halted)
  | enter (k : ℕ) (c : Conn) (e : Event) (es : List Event) (hpc : s.pc = .next)
      (hi : i = .tick) (he : s.events = e :: es) (ht : e.token = .conn k)
      (hc : s.streams.get k = some c) (htouch : Touches e c) (hs : s'.streams = s.streams)
      (hpc' : s'.pc = .deregister k ∨ s'.pc = .peek k)
  | resume (k : ℕ) (c : Conn) (e : Event) (es : List Event) (readable : Bool)
      (offset : ℕ) (buffer : Bytes) (hpc : s.pc = .next) (hi : i = .tick)
      (he : s.events = e :: es) (ht : e.token = .conn k) (hc : s.streams.get k = some c)
      (htouch : Touches e c) (hkept : c.partialFrame = some (offset, buffer))
      (hs : s'.streams = s.streams.modify k (.keep none))
      (hpc' : s'.pc = .flush k readable offset buffer)
  | accepted (relayed : SocketAddrV6) (hpc : s.pc = .accept)
      (hrelayed : m.fromIndex (BitVec.ofNat 64 s.streams.vacantKey) = some relayed)
      (hslots : s.streams.vacantKey < maxSlots) (hs : s'.streams =
      s.streams.insert ⟨relayed, none, ⟨s.accepts, [], [], []⟩, [], []⟩) (hpc' : s'.pc = .accept)
      (hi : i = .accept (some ⟨true, true⟩)) (haccepts : s'.accepts = s.accepts + 1)
  | routed (packet : Bytes) (random : List.Vector UInt8 12) (receiver : SocketAddrV6)
      (index : Usize) (c : Conn) (frame : Bytes) (hpc : s.pc = .tun)
      (hi : i = .recv (some (packet, random))) (hlen : packet.length ≤ s.buffer.length) (hnet :
      handleNet packet.length random (splice s.buffer 0 packet) = .ok (some (receiver, s'.buffer)))
      (hindex : m.toIndex receiver = some index) (hc : s.streams.get index.toNat = some c)
      (hkept : c.partialFrame = none) (hframe : frameOf s'.buffer = .ok frame)
      (hs : s'.streams = s.streams) (hpc' : s'.pc = .tunWrite index.toNat frame)
  | tunWrote (k : ℕ) (frame : Bytes) (n : ℕ) (hpc : s.pc = .tunWrite k frame)
      (hn : n ≤ frame.length) (hs : s'.streams = s.streams.modify k fun c =>
      ((c.start frame).accept (frame.take n)).keep
        (if n < frame.length then some (0, frame.drop n) else c.partialFrame)) (hpc' : s'.pc = .tun)
      (hi : i = .write (.ok n))
  | tunFailed (k : ℕ) (frame : Bytes) (hpc : s.pc = .tunWrite k frame)
      (hs : s'.streams = s.streams.remove k) (hpc' : s'.pc = .tunDeregister)
  | flushed (k : ℕ) (readable : Bool) (offset : ℕ) (buffer : Bytes) (n : ℕ)
      (hpc : s.pc = .flush k readable offset buffer) (hn : n ≤ (buffer.drop offset).length)
      (hs : s'.streams = s.streams.modify k (.accept ((buffer.drop offset).take n)))
      (hpc' : s'.pc = if (buffer.drop offset).length ≤ n then afterFlush k readable
        else .flush k readable (offset + n) buffer)
  | flushBlocked (k : ℕ) (readable : Bool) (offset : ℕ) (buffer : Bytes)
      (hpc : s.pc = .flush k readable offset buffer) (hs : s'.streams =
      s.streams.modify k (.keep (some (offset, buffer)))) (hpc' : s'.pc = afterFlush k readable)
  | condemned (k : ℕ) (hpc : s.pc.handles = some k) (hs : s'.streams = s.streams)
      (hpc' : s'.pc = .deregister k)
  | peeked (k : ℕ) (c : Conn) (n : ℕ) (hpc : s.pc = .peek k) (hi : i = .peek (.ok n))
      (hc : s.streams.get k = some c) (hn : n ≤ c.stream.unread.length) (hb : n ≤ s.buffer.length)
      (hverdict : verdict (c.stream.unread.take n) = .ok ()) (hs : s'.streams = s.streams)
      (hpc' : s'.pc = .read k (lengthAt (c.stream.unread.take n) + 20))
  | readShort (k length : ℕ) (n : ℕ) (hpc : s.pc = .read k length)
      (hs : s'.streams = s.streams.modify k (.drain n)) (hpc' : s'.pc = .deregister k)
      (hi : i = .read (.ok n)) (hn : n ≠ length)
  | consumed (k length : ℕ) (c : Conn) (hpc : s.pc = .read k length)
      (hc : s.streams.get k = some c) (hlen : length ≤ c.stream.unread.length) (hs : s'.streams =
      s.streams.modify k fun c' => (c'.drain length).consume (c.stream.unread.take length))
      (hpc' : s'.pc = .peek k ∨ s'.pc = .panicked)
  | answered (k length : ℕ) (c : Conn) (o : Outcome) (frame : Bytes) (hpc : s.pc = .read k length)
      (hc : s.streams.get k = some c) (hlen : length ≤ c.stream.unread.length)
      (hb : length ≤ s.buffer.length) (hkept : c.partialFrame = none) (hturn :
      handleTurn (.v6 c.relayed) c.relayed (splice s.buffer 0 (c.stream.unread.take length)) =
      .ok o) (hreply : o.reply = true) (hframe : frameOf o.buffer = .ok frame) (hs : s'.streams =
      s.streams.modify k fun c' =>
        ((c'.drain length).consume (c.stream.unread.take length)).start frame)
      (hpc' : s'.pc = .respond k frame 0)
  | responded (k : ℕ) (frame : Bytes) (offset n : ℕ) (hpc : s.pc = .respond k frame offset)
      (hi : i = .write (.ok n)) (hn : n ≤ (frame.drop offset).length)
      (hs : s'.streams = s.streams.modify k (.accept ((frame.drop offset).take n))) (hpc' : s'.pc =
      if (frame.drop offset).length ≤ n then .peek k else .respond k frame (offset + n))
  | respondBlocked (k : ℕ) (frame : Bytes) (offset : ℕ) (hpc : s.pc = .respond k frame offset) (hs :
      s'.streams = s.streams.modify k (.keep (some (0, frame.drop offset)))) (hpc' : s'.pc = s.pc)
  | deregistered (k : ℕ) (hpc : s.pc = .deregister k) (hs : s'.streams = s.streams.remove k)
      (hpc' : s'.pc = .next)
  | arrived (k : ℕ) (bytes : Bytes) (hi : i = .arrive k bytes)
      (hs : s'.streams = s.streams.modify k (.arrive bytes)) (hpc' : s'.pc = s.pc)

variable {m : Mapping} {s s' : State} {i : Input}

lemma dispatch_step {e : Event} {es : List Event} (hpc : s.pc = .next) (he : s.events = e :: es) :
    Step m s .tick (dispatch { s with events := es } e) := by
  have hfrom : s.pc.Settled := by simp [hpc, Pc.Settled]
  unfold dispatch
  cases ht : e.token with
  | tcp => exact .idle rfl trivial (.inl hfrom)
  | tun => exact .idle rfl trivial (.inl hfrom)
  | conn k =>
    simp only
    cases hc : s.streams.get k with
    | none => exact .idle rfl trivial (.inl hfrom)
    | some c =>
      by_cases hclosed : (e.readClosed || e.error) = true
      · simp only [hclosed, if_true]
        exact .enter k c e es hpc rfl he ht hc (.inl hclosed) rfl (.inl rfl)
      have herror : (e.readable || e.error) = e.readable := by
        rw [Bool.or_eq_true, not_or, Bool.not_eq_true, Bool.not_eq_true] at hclosed
        rw [hclosed.2, Bool.or_false]
      simp only [if_neg hclosed, herror]
      have hskip : Step m s .tick ((⟨s.pc, es, s.buffer, s.streams, s.sent, s.raised, s.accepts⟩ :
          State).goto (afterFlush k e.readable)) := by
        cases hread : e.readable with
        | true => exact .enter k c e es hpc rfl he ht hc (.inr (.inl hread)) rfl (.inr rfl)
        | false => exact .idle rfl trivial (.inl hfrom)
      cases hw : e.writable with
      | false => exact hskip
      | true =>
        simp only [if_true]
        cases hp : c.partialFrame with
        | none => simpa [takePartial, hp] using hskip
        | some rest =>
          obtain ⟨offset, buffer⟩ := rest
          simp only [takePartial, hp]
          exact .resume k c e es e.readable offset buffer hpc rfl he ht hc
            (.inr (.inr ⟨hw, by simp [hp]⟩)) hp rfl rfl

lemma accept_step (hpc : s.pc = .accept) (outcome : Option SetUp) :
    Step m s (.accept outcome) (accept m s outcome) := by
  have hfrom : s.pc.Settled := by simp [hpc, Pc.Settled]
  unfold accept
  cases outcome with
  | none => exact .idle rfl trivial (.inl hfrom)
  | some setUp =>
    cases hrelayed : m.fromIndex (BitVec.ofNat 64 s.streams.vacantKey) with
    | none =>
      simp only [hrelayed]
      split_ifs with hnodelay
      · exact .idle rfl (by simp [hpc, Pc.Outside]) (.inl hfrom)
      · exact .idle rfl trivial (.inl hfrom)
    | some relayed =>
      simp only [hrelayed]
      split_ifs with hnodelay hregistered hslots
      · exact .idle rfl trivial (.inl hfrom)
      · obtain ⟨nodelay, registered⟩ := setUp
        obtain rfl : nodelay = true := hnodelay
        obtain rfl : registered = true := hregistered
        exact .accepted relayed hpc hrelayed (Nat.lt_of_not_le hslots) rfl hpc rfl rfl
      · exact .idle rfl trivial (.inl hfrom)
      · exact .idle rfl trivial (.inl hfrom)

lemma recv_step (hpc : s.pc = .tun) {outcome : Option (Bytes × List.Vector UInt8 12)}
    (h : recv m s outcome = some s') : Step m s (.recv outcome) s' := by
  have hfrom : s.pc.Settled := by simp [hpc, Pc.Settled]
  have hout : s.pc.Outside := by simp [hpc, Pc.Outside]
  unfold recv at h
  cases outcome with
  | none =>
    cases h
    exact .idle rfl trivial (.inl hfrom)
  | some input =>
    obtain ⟨packet, random⟩ := input
    simp only at h
    split_ifs at h with hlen
    cases hnet : handleNet packet.length random (splice s.buffer 0 packet) with
    | error e =>
      rw [hnet] at h
      cases h
      exact .idle rfl trivial (.inl hfrom)
    | ok r =>
      rw [hnet] at h
      cases r with
      | none =>
        cases h
        exact .idle rfl hout (.inl hfrom)
      | some r =>
        obtain ⟨receiver, msg⟩ := r
        simp only [route, Option.some.injEq] at h
        cases hindex : m.toIndex receiver with
        | none =>
          rw [hindex] at h
          cases h
          exact .idle rfl hout (.inl hfrom)
        | some index =>
          rw [hindex] at h
          cases hc : s.streams.get index.toNat with
          | none =>
            simp only [hc] at h
            cases h
            exact .idle rfl hout (.inl hfrom)
          | some c =>
            simp only [hc] at h
            cases hp : c.partialFrame with
            | some rest =>
              simp only [hp, Option.isSome_some, if_true] at h
              cases h
              exact .idle rfl hout (.inl hfrom)
            | none =>
              simp only [hp, Option.isSome_none, Bool.false_eq_true, if_false] at h
              cases hframe : frameOf msg with
              | error e =>
                rw [hframe] at h
                cases h
                exact .idle rfl trivial (.inl hfrom)
              | ok frame =>
                rw [hframe] at h
                cases h
                exact .routed packet random receiver index c frame hpc rfl
                  (Nat.le_of_not_lt hlen) hnet hindex hc hp hframe rfl rfl

lemma tunWrite_step {k : ℕ} {frame : Bytes} (hpc : s.pc = .tunWrite k frame) {outcome : IoResult ℕ}
    (h : tunWrite s k frame outcome = some s') : Step m s (.write outcome) s' := by
  have hfrom : s.pc.Settled := by simp [hpc, Pc.Settled]
  unfold tunWrite at h
  match outcome with
  | .error .wouldBlock =>
    cases h
    exact .idle rfl trivial (.inl hfrom)
  | .error .other =>
    cases h
    exact .tunFailed k frame hpc rfl rfl
  | .ok n =>
    simp only at h
    split_ifs at h with hlong hshort
    · cases h
      refine .tunWrote k frame n hpc (Nat.le_of_not_lt hlong) ?_ rfl rfl
      simp only [if_pos hshort, State.goto_streams, State.onConn_streams, Slab.modify_modify]
    · cases h
      refine .tunWrote k frame n hpc (Nat.le_of_not_lt hlong) ?_ rfl rfl
      simp only [if_neg hshort]
      rfl

lemma flush_step {k : ℕ} {readable : Bool} {offset : ℕ} {buffer : Bytes}
    (hpc : s.pc = .flush k readable offset buffer) {outcome : IoResult ℕ}
    (h : flush s k readable offset buffer outcome = some s') : Step m s i s' := by
  unfold flush at h
  split_ifs at h with hoffset
  · cases h
    exact .idle rfl trivial (.inr (.inr rfl))
  match outcome with
  | .error .wouldBlock =>
    cases h
    exact .flushBlocked k readable offset buffer hpc rfl rfl
  | .error .other =>
    cases h
    exact .condemned k (by simp [hpc, Pc.handles]) rfl rfl
  | .ok n =>
    simp only at h
    split_ifs at h with hlong hall
    · cases h
      exact .flushed k readable offset buffer n hpc (Nat.le_of_not_lt hlong) rfl
        (by rw [if_pos hall]; rfl)
    · cases h
      exact .flushed k readable offset buffer n hpc (Nat.le_of_not_lt hlong) rfl
        (by rw [if_neg hall]; rfl)

lemma respond_step {k : ℕ} {frame : Bytes} {offset : ℕ} (hpc : s.pc = .respond k frame offset)
    {outcome : IoResult ℕ} (h : respond s k frame offset outcome = some s') :
    Step m s (.write outcome) s' := by
  unfold respond at h
  split_ifs at h with hoffset
  · cases h
    exact .idle rfl trivial (.inr (.inr rfl))
  match outcome with
  | .error .wouldBlock =>
    cases h
    exact .respondBlocked k frame offset hpc rfl rfl
  | .error .other =>
    cases h
    exact .condemned k (by simp [hpc, Pc.handles]) rfl rfl
  | .ok n =>
    simp only at h
    split_ifs at h with hlong hall
    · cases h
      exact .responded k frame offset n hpc rfl (Nat.le_of_not_lt hlong) rfl
        (by rw [if_pos hall]; rfl)
    · cases h
      exact .responded k frame offset n hpc rfl (Nat.le_of_not_lt hlong) rfl
        (by rw [if_neg hall]; rfl)

omit [Crypto] in
lemma splice_zero_take {b v : Bytes} {n : ℕ} (hn : v.length = n) : (splice b 0 v).take n = v := by
  rw [splice, List.take_zero, List.nil_append, ← hn, List.take_left]

omit [Crypto] in
lemma decode_splice {b v : Bytes} {n : ℕ} (hn : v.length = n) (hb : n ≤ b.length) :
    decode (splice b 0 v) n = .ok (verdict v) := by
  rw [decode_eq (by rw [splice_length (by omega)]; exact hb), splice_zero_take hn]

omit [Crypto] in
lemma peek_ok {k n : ℕ} {c : Conn} (hn : n ≤ c.stream.unread.length) (hb : n ≤ s.buffer.length) :
    peek s k c (.ok n) = some ({ s with buffer := splice s.buffer 0 (c.stream.unread.take n) }.goto
      (afterPeek k s.buffer.length (splice s.buffer 0 (c.stream.unread.take n))
        (verdict (c.stream.unread.take n)))) := by
  have hlen : (c.stream.unread.take n).length = n := by simp [hn]
  rw [peek, if_neg (by omega)]
  simp only [decode_splice hlen hb,
    splice_length (show 0 + (c.stream.unread.take n).length ≤ s.buffer.length by omega)]

omit [Crypto] in
lemma afterPeek_ok {k size : ℕ} {b v : Bytes} (hb : v.length ≤ b.length) (hv : verdict v = .ok ()) :
    afterPeek k size (splice b 0 v) (.ok ()) = .read k (lengthAt v + 20) := by
  have hsize := ((verdict_ok_iff _).mp hv).1
  have hlen : len (splice b 0 v) = .ok (lengthAt v + 20) := by
    rw [len_ok (by rw [splice_length (by omega)]; omega),
      ← lengthAt_take (n := v.length) (by omega), splice_zero_take rfl]
  simp only [afterPeek, hlen]

lemma peek_step {k : ℕ} (hpc : s.pc = .peek k) {c : Conn} (hc : s.streams.get k = some c)
    {outcome : IoResult ℕ} (h : peek s k c outcome = some s') : Step m s (.peek outcome) s' := by
  have hfrom : s.pc.Settled := by simp [hpc, Pc.Settled]
  have hhandles : s.pc.handles = some k := by simp [hpc, Pc.handles]
  match outcome with
  | .error .wouldBlock =>
    cases h
    exact .idle rfl trivial (.inl hfrom)
  | .error .other =>
    cases h
    exact .condemned k hhandles rfl rfl
  | .ok n =>
    have hle : n ≤ c.stream.unread.length ∧ n ≤ s.buffer.length := by
      by_contra hlong
      rw [peek, if_pos (by omega)] at h
      cases h
    rw [peek_ok hle.1 hle.2, Option.some.injEq] at h
    subst h
    cases hv : verdict (c.stream.unread.take n) with
    | ok u =>
      refine .peeked k c n hpc rfl hc hle.1 hle.2 hv rfl ?_
      rw [State.goto_pc, afterPeek_ok (by simp; omega) hv]
    | error e =>
      cases e with
      | notStun => exact .condemned k hhandles rfl rfl
      | tooShort expected =>
        by_cases hbig : s.buffer.length < expected
        · exact .condemned k hhandles rfl (by simp only [State.goto_pc, afterPeek, if_pos hbig])
        · exact .idle rfl (by simp only [State.goto_pc, afterPeek, if_neg hbig, Pc.Outside])
            (.inl hfrom)

lemma handle_reply {k : ℕ} {c : Conn} (hkept : c.partialFrame = none) {o : Outcome}
    (hturn : handleTurn (.v6 c.relayed) c.relayed s.buffer = .ok o) (hreply : o.reply = true)
    {frame : Bytes} (hframe : frameOf o.buffer = .ok frame) : handle s k c =
      ({ s with buffer := o.buffer, sent := s.sent ++ o.sent }.onConn k (.start frame)).goto
        (.respond k frame 0) := by
  simp only [handle, hkept, hturn, hreply, hframe, Option.isSome_none, Bool.false_eq_true,
    if_false, if_true]

lemma read_ok {k length : ℕ} {c : Conn} (hb : length ≤ s.buffer.length)
    (hlen : length ≤ c.stream.unread.length) :
    read s k length c (.ok length) =
      some (handle ({ s with buffer := splice s.buffer 0 (c.stream.unread.take length) }.onConn
      k fun c' => (c'.drain length).consume (c.stream.unread.take length)) k c) := by
  simp only [read, if_neg (Nat.not_lt.mpr hb), ne_eq, not_true_eq_false, if_false]
  rw [if_neg (by omega)]

lemma read_step {k length : ℕ} (hpc : s.pc = .read k length)
    {c : Conn} (hc : s.streams.get k = some c) {outcome : IoResult ℕ}
    (h : read s k length c outcome = some s') : Step m s (.read outcome) s' := by
  have hfrom : s.pc.Settled := by simp [hpc, Pc.Settled]
  unfold read at h
  split_ifs at h with hb
  · cases h
    exact .idle rfl trivial (.inl hfrom)
  match outcome with
  | .error e =>
    cases h
    exact .idle rfl trivial (.inl hfrom)
  | .ok n =>
    simp only at h
    split_ifs at h with hlong hn
    · cases h
      exact .readShort k length n hpc rfl rfl rfl hn
    rw [not_or, Nat.not_lt, Nat.not_lt] at hlong
    obtain rfl : n = length := not_not.mp hn
    rw [← Option.some.inj h, handle]
    cases hp : c.partialFrame with
    | some rest => exact .consumed k n c hpc hc hlong.1 rfl (.inl rfl)
    | none =>
      simp only [Option.isSome_none, Bool.false_eq_true, if_false, State.onConn_buffer]
      cases hturn : handleTurn (.v6 c.relayed) c.relayed
        (splice s.buffer 0 (c.stream.unread.take n)) with
      | error e => exact .consumed k n c hpc hc hlong.1 rfl (.inr rfl)
      | ok o =>
        simp only
        split_ifs with hreply
        · cases hframe : frameOf o.buffer with
          | error e => exact .consumed k n c hpc hc hlong.1 rfl (.inr rfl)
          | ok frame =>
            refine .answered k n c o frame hpc hc hlong.1
              (Nat.le_of_not_lt hb) hp hturn hreply hframe ?_ rfl
            simp only [State.goto_streams, State.onConn_streams, Slab.modify_modify]
        · exact .consumed k n c hpc hc hlong.1 rfl (.inl rfl)

lemma step_cases (h : step m s i = some s') : Step m s i s' := by
  unfold step at h
  match i with
  | .poll none =>
    simp only at h
    split_ifs at h with hpc
    cases h
    exact .idle rfl trivial (.inl (by simp [hpc, Pc.Settled]))
  | .poll (some events) =>
    simp only at h
    split_ifs at h with hpc
    cases h
    exact .idle rfl trivial (.inl (by simp [hpc.1, Pc.Settled]))
  | .tick =>
    simp only at h
    split at h
    next hpc hevents =>
      cases h
      exact .idle rfl trivial (.inl (by simp [hpc, Pc.Settled]))
    next e events hpc hevents =>
      cases h
      exact dispatch_step hpc hevents
    next => cases h
  | .accept outcome =>
    simp only at h
    split_ifs at h with hpc
    cases h
    exact accept_step hpc outcome
  | .recv outcome =>
    simp only at h
    split_ifs at h with hpc
    exact recv_step hpc h
  | .write outcome =>
    simp only at h
    split at h
    next index frame hpc => exact tunWrite_step hpc h
    next index readable offset buffer hpc => exact flush_step hpc h
    next index frame offset hpc => exact respond_step hpc h
    next => cases h
  | .peek outcome =>
    simp only at h
    split at h
    next index hpc =>
      obtain ⟨c, hc, h⟩ := Option.bind_eq_some_iff.mp h
      exact peek_step hpc hc h
    next => cases h
  | .read outcome =>
    simp only at h
    split at h
    next index length hpc =>
      obtain ⟨c, hc, h⟩ := Option.bind_eq_some_iff.mp h
      exact read_step hpc hc h
    next => cases h
  | .deregister ok =>
    simp only at h
    split at h
    next hpc =>
      cases h
      refine .idle rfl ?_ (.inl (by simp [hpc, Pc.Settled]))
      cases ok <;> trivial
    next index hpc =>
      split_ifs at h with hok
      · cases h
        exact .deregistered index hpc rfl rfl
      · cases h
        exact .idle rfl trivial (.inr (.inl rfl))
    next => cases h
  | .arrive index bytes =>
    cases h
    exact .arrived index bytes rfl rfl rfl

end

end Masquerade.TurnserverTcp
