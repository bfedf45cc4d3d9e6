import Masquerade.DtlsProxy.Steps
import Masquerade.DtlsProxy.Laws

/-! What holds of the streams in every run, and of a call of OpenSSL while it lasts. -/

namespace Masquerade.DtlsProxy

open Lib Wire

variable {E : Engine} {cfg : Config} {s s' : State E} {i : Input} {k : SocketAddrV6}
  {stream stream' : SslStream E}

lemma Step.origin (h : Step cfg s i s') (hk : s'.streams.lookup k = some stream') :
    (∃ stream, s.streams.lookup k = some stream ∧ stream'.bio.sendFrom = stream.bio.sendFrom ∧
      stream'.bio.sendTo = stream.bio.sendTo) ∨
    (∃ d, s.receives i = some d ∧ s.streams.lookup d.dst = none ∧ d.src ≠ cfg.endpoint ∧ k = d.dst ∧
      stream' = .new E d) ∨
    ∃ src stream, s.pc = .pull k src ∧ s.streams.lookup k = some stream ∧ 0 < E.pending stream.ssl ∧
      stream'.bio.sendFrom = stream.bio.sendFrom ∧ stream'.bio.sendTo = src := by
  -- an update of one stream, the others as they were
  have hput : ∀ {dst : SocketAddrV6} {stream updated : SslStream E},
      (s.streams.insert dst updated).lookup k = some stream' → s.streams.lookup dst = some stream →
      updated.bio.sendFrom = stream.bio.sendFrom → updated.bio.sendTo = stream.bio.sendTo →
      ∃ stream, s.streams.lookup k = some stream ∧ stream'.bio.sendFrom = stream.bio.sendFrom ∧
        stream'.bio.sendTo = stream.bio.sendTo := by
    intro dst stream updated hupdated hdst hfrom hto
    obtain ⟨-, hk⟩ | ⟨rfl, rfl⟩ := lookup_insert_eq_some hupdated
    · exact ⟨stream', hk, rfl, rfl⟩
    · exact ⟨stream, hdst, hfrom, hto⟩
  cases h with
  | dropped _ hs => exact .inl ⟨stream', hs ▸ hk, rfl, rfl⟩
  | refused _ _ _ _ hs => exact .inl ⟨stream', hs ▸ hk, rfl, rfl⟩
  | broken _ _ _ _ _ _ hs => exact .inl ⟨stream', hs ▸ hk, rfl, rfl⟩
  | created d _ _ _ hd hvacant hsrc _ hs =>
    rw [hs] at hk
    obtain ⟨-, hk⟩ | ⟨rfl, rfl⟩ := lookup_insert_eq_some hk
    · exact .inl ⟨stream', hk, rfl, rfl⟩
    · exact .inr (.inl ⟨d, hd, hvacant, hsrc, rfl, rfl⟩)
  | asked _ _ _ _ _ _ _ _ hs => exact .inl ⟨stream', hs ▸ hk, rfl, rfl⟩
  | media d stream sessions _ _ hstream _ hs =>
    rw [hs] at hk
    exact .inl (hput hk hstream rfl rfl)
  | read _ _ _ _ _ _ _ _ _ _ _ hs => exact .inl ⟨stream', hs ▸ hk, rfl, rfl⟩
  | wrote _ _ _ _ _ _ _ _ _ _ _ _ hs => exact .inl ⟨stream', hs ▸ hk, rfl, rfl⟩
  | returned _ _ _ _ stream _ _ _ _ hstream _ hs =>
    rw [hs] at hk
    exact .inl (hput hk hstream rfl rfl)
  | removed _ _ _ _ _ _ _ _ _ _ _ hkept =>
    exact .inl ⟨stream', ((hkept k stream').mp hk).2, rfl, rfl⟩
  | pulled dst src stream ssl buf hpc hstream hpending _ hs =>
    rw [hs] at hk
    obtain ⟨-, hk⟩ | ⟨rfl, rfl⟩ := lookup_insert_eq_some hk
    · exact .inl ⟨stream', hk, rfl, rfl⟩
    · exact .inr (.inr ⟨src, stream, hpc, hstream, hpending, rfl, rfl⟩)
  | pullFailed dst src stream ssl code old hpc _ hstream _ _ hs =>
    subst hs
    exact .inl (hput (lookup_of_cleanup hk) hstream rfl rfl)
  | done dst src stream old _ _ _ _ hs =>
    subst hs
    exact .inl ⟨stream', lookup_of_cleanup hk, rfl, rfl⟩

variable {allowed : State E → Input → Prop}

def Keyed (s : State E) : Prop := ∀ k stream, s.streams.lookup k = some stream →
    stream.bio.sendFrom = k

lemma Keyed.step (h : Keyed s) (hstep : Step cfg s i s') : Keyed s' := by
  intro k stream' hk
  obtain ⟨stream, hstream, hfrom, -⟩ | ⟨d, -, -, -, rfl, rfl⟩ |
    ⟨src, stream, -, hstream, -, hfrom, -⟩ := hstep.origin hk
  · rw [hfrom, h k stream hstream]
  · rfl
  · rw [hfrom, h k stream hstream]

lemma keyed (hrun : Reaches (step cfg) allowed (initial E) s) : Keyed s := by
  apply hrun.invariant (P := Keyed)
  · intro k stream hk
    cases hk
  · intro s i s' hs _ hstep
    exact hs.step (step_cases hstep)

section Pending

def Pc.draining : Pc E → Option SocketAddrV6
  | .pull dst _ => some dst
  | _ => none

def Quiet (s : State E) : Prop :=
  ∀ k stream, s.streams.lookup k = some stream → s.pc.draining ≠ some k → E.pending stream.ssl = 0

lemma Quiet.step (hE : E.Drains) (h : Quiet s) (hstep : Step cfg s i s') : Quiet s' := by
  intro k stream' hk hdraining
  cases hstep with
  | dropped hpc hs => exact h k stream' (hs ▸ hk) (by simp [hpc, Pc.draining])
  | refused _ hpc _ _ hs => exact h k stream' (hs ▸ hk) (by simp [hpc, Pc.draining])
  | broken _ _ _ _ hpc _ hs => exact h k stream' (hs ▸ hk) (by simp [hpc, Pc.draining])
  | created d _ hpc _ _ _ _ _ hs =>
    rw [hs] at hk
    obtain ⟨-, hk⟩ | ⟨rfl, rfl⟩ := lookup_insert_eq_some hk
    · exact h k stream' hk (by simp [hpc, Pc.draining])
    · exact hE.fresh
  | asked _ _ _ hpc _ _ _ _ hs => exact h k stream' (hs ▸ hk) (by simp [hpc, Pc.draining])
  | media d stream _ hpc _ hstream _ hs =>
    rw [hs] at hk
    obtain ⟨-, hk⟩ | ⟨rfl, rfl⟩ := lookup_insert_eq_some hk
    · exact h k stream' hk (by simp [hpc, Pc.draining])
    · exact h _ stream hstream (by simp [hpc, Pc.draining])
  | read _ _ _ _ _ _ _ hpc _ _ _ hs => exact h k stream' (hs ▸ hk) (by simp [hpc, Pc.draining])
  | wrote _ _ _ _ _ _ _ _ hpc _ _ _ hs => exact h k stream' (hs ▸ hk) (by simp [hpc, Pc.draining])
  | returned dst src handshake c stream ssl result sessions hpc hstream _ hs hpc' =>
    rw [hs] at hk
    obtain ⟨-, hk⟩ | ⟨rfl, rfl⟩ := lookup_insert_eq_some hk
    · exact h k stream' hk (by simp [hpc, Pc.draining])
    · exact absurd (by simp [hpc', Pc.draining]) hdraining
  | removed _ _ _ _ _ _ _ hpc _ _ _ hkept =>
    exact h k stream' ((hkept k stream').mp hk).2 (by simp [hpc, Pc.draining])
  | pulled dst src stream ssl buf hpc _ _ _ hs hpc' =>
    rw [hs] at hk
    obtain ⟨hne, hk⟩ | ⟨rfl, rfl⟩ := lookup_insert_eq_some hk
    · exact h k stream' hk (by simpa [hpc, Pc.draining] using fun hdst : dst = k => hne hdst.symm)
    · exact absurd (by simp [hpc', Pc.draining]) hdraining
  | pullFailed dst src stream ssl code old _ _ _ hpending hread _ =>
    obtain ⟨ssl', buf, hok⟩ := hE.reads stream.ssl hpending
    rw [hok] at hread
    cases hread
  | done dst src stream old hpc _ hstream hpending hs =>
    subst hs
    have hk := lookup_of_cleanup hk
    by_cases hdst : k = dst
    · subst hdst
      rw [hstream, Option.some.injEq] at hk
      rw [← hk]
      exact hpending
    · exact h k stream' hk (by simpa [hpc, Pc.draining] using fun hk : dst = k => hdst hk.symm)

lemma quiet (hE : E.Drains) (hrun : Reaches (step cfg) allowed (initial E) s) : Quiet s := by
  apply hrun.invariant (P := Quiet)
  · intro k stream hk
    cases hk
  · intro s i s' hs _ hstep
    exact hs.step hE (step_cases hstep)

end Pending

section Calls

structure Calling (s : State E) (d : Datagram) (stream : SslStream E) (r : Request)
    (reads : List Bytes) (c : E.Call) : Prop where
  pc : s.pc = .call d.dst d.src (r = .doHandshake) c
  lookup : s.streams.lookup d.dst = some stream
  sendFrom : stream.bio.sendFrom = d.dst
  within : Within E stream.ssl r reads c
  reads : ∀ data ∈ reads, data = d.payload
  packet : s.packet.Holds d ∨ s.packet.unread = none ∧ s.packet.Whole

variable {d : Datagram} {r : Request} {reads : List Bytes} {c : E.Call} {size : ℕ}

lemma Calling.whole (h : Calling s d stream r reads c) : s.packet.Whole :=
  h.packet.elim (·.whole) (·.2)

lemma Calling.lasts {dst src : SocketAddrV6} {handshake : Bool} {c' : E.Call}
    (h : Calling s d stream r reads c) (hstep : Step cfg s i s')
    (hpc' : s'.pc = .call dst src handshake c') :
    ∃ reads', Calling s' d stream r reads' c' := by
  cases hstep with
  | dropped hpc => cases hpc.symm.trans h.pc
  | refused _ hpc => cases hpc.symm.trans h.pc
  | broken _ _ _ _ _ _ _ hpanicked => cases hpanicked.symm.trans hpc'
  | created _ _ hpc => cases hpc.symm.trans h.pc
  | asked _ _ _ hpc => cases hpc.symm.trans h.pc
  | media _ _ _ hpc => cases hpc.symm.trans h.pc
  | read _ _ _ _ stream' size result hpc hstream hnext hread hs hcall =>
    cases hpc.symm.trans h.pc
    cases hcall.symm.trans hpc'
    obtain rfl : stream' = stream := Option.some.inj (hstream.symm.trans h.lookup)
    rw [h.sendFrom] at hread
    obtain hholds | hburned := h.packet
    · rw [hholds.read, Except.ok.injEq, Prod.mk.injEq] at hread
      obtain ⟨hburn, rfl⟩ := hread
      have hpacket : s'.packet.unread = none ∧ s'.packet.Whole := by
        rw [← hburn]
        exact ⟨s.packet.burn_unread, s.packet.burn_whole⟩
      split_ifs at hcall ⊢ with hsize
      · exact ⟨reads, hcall, hs ▸ h.lookup, h.sendFrom, h.within.readFailed size _ hnext,
          h.reads, .inr hpacket⟩
      · refine ⟨reads ++ [d.payload], hcall, hs ▸ h.lookup, h.sendFrom, h.within.read size _ hnext,
          ?_, .inr hpacket⟩
        intro data hdata
        obtain hdata | hdata := List.mem_append.mp hdata
        · exact h.reads data hdata
        · exact List.mem_singleton.mp hdata
    · rw [Udp6Packet.read_burned hburned.1, Except.ok.injEq, Prod.mk.injEq] at hread
      obtain ⟨hpacket, rfl⟩ := hread
      exact ⟨reads, hcall, hs ▸ h.lookup, h.sendFrom, h.within.readFailed size _ hnext, h.reads,
        .inr (by rwa [← hpacket])⟩
  | wrote _ _ _ _ stream' buf sent result hpc hstream hnext hwrite hs hcall =>
    cases hpc.symm.trans h.pc
    cases hcall.symm.trans hpc'
    obtain ⟨p, sent', result', hcases, hp⟩ :=
      s.packet.write_cases stream'.bio.sendFrom stream'.bio.sendTo buf
    rw [hcases] at hwrite
    cases hwrite
    refine ⟨reads, hcall, hs ▸ h.lookup, h.sendFrom, h.within.wrote buf _ hnext, h.reads, ?_⟩
    obtain ⟨hkept, -⟩ | hburned := hp
    · rw [hkept]
      exact h.packet
    · exact .inr hburned
  | returned _ _ _ _ _ _ _ _ _ _ _ _ hpull => cases hpull.symm.trans hpc'
  | removed _ _ _ _ _ _ _ _ _ _ _ _ hrecv => cases hrecv.symm.trans hpc'
  | pulled _ _ _ _ _ hpc => cases hpc.symm.trans h.pc
  | pullFailed _ _ _ _ _ _ hpc => cases hpc.symm.trans h.pc
  | done _ _ _ _ hpc => cases hpc.symm.trans h.pc

lemma Step.into_call {dst src : SocketAddrV6} {handshake : Bool} (h : Step cfg s i s')
    (hkeyed : Keyed s) (hpc' : s'.pc = .call dst src handshake c) :
    (∃ d, (∃ outcome, i = .recv outcome true) ∧ s.receives i = some d ∧
      s.streams.lookup d.dst = none ∧
      d.src ≠ cfg.endpoint ∧ Calling s' d (.new E d) .doHandshake [] c) ∨
    (∃ d stream r, s.receives i = some d ∧ s.streams.lookup d.dst = some stream ∧
      fate cfg stream d = .request r ∧
      Calling s' d stream r [] c) ∨
    ∃ dst src handshake c, s.pc = .call dst src handshake c := by
  cases h with
  | dropped _ _ hrecv => cases hrecv.symm.trans hpc'
  | refused _ _ _ _ _ hexited => cases hexited.symm.trans hpc'
  | created d outcome _ hi hd hvacant hsrc hholds hs hcall =>
    cases hcall.symm.trans hpc'
    refine .inl ⟨d, ⟨outcome, hi⟩, hd, hvacant, hsrc, hcall, ?_, rfl, .start, by simp, .inl hholds⟩
    rw [hs, AList.lookup_insert]
  | asked d stream r _ hd hstream hfate hholds hs hcall =>
    cases hcall.symm.trans hpc'
    exact .inr (.inl ⟨d, stream, r, hd, hstream, hfate, hcall, hs ▸ hstream, hkeyed _ _ hstream,
      .start, by simp, .inl hholds⟩)
  | media _ _ _ _ _ _ _ _ hidle =>
    rw [hpc'] at hidle
    exact hidle.elim
  | broken _ _ _ _ hcall => exact .inr (.inr ⟨_, _, _, _, hcall⟩)
  | read _ _ _ _ _ _ _ hcall => exact .inr (.inr ⟨_, _, _, _, hcall⟩)
  | wrote _ _ _ _ _ _ _ _ hcall => exact .inr (.inr ⟨_, _, _, _, hcall⟩)
  | returned _ _ _ _ _ _ _ _ hcall => exact .inr (.inr ⟨_, _, _, _, hcall⟩)
  | removed _ _ _ _ _ _ _ hcall => exact .inr (.inr ⟨_, _, _, _, hcall⟩)
  | pulled _ _ _ _ _ _ _ _ _ _ hpull => cases hpull.symm.trans hpc'
  | pullFailed _ _ _ _ _ _ _ _ _ _ _ hs =>
    rw [hs, cleanup_pc] at hpc'
    cases hpc'
  | done _ _ _ _ _ _ _ _ hs =>
    rw [hs, cleanup_pc] at hpc'
    cases hpc'

lemma Step.into_pull {dst src : SocketAddrV6} (h : Step cfg s i s') (hpc' : s'.pc = .pull dst src)
    (hk : s'.streams.lookup dst = some stream') :
    (∃ handshake c result, s.pc = .call dst src handshake c ∧ E.next c = .ret stream'.ssl result) ∨
    ∃ stream, s.pc = .pull dst src ∧ s.streams.lookup dst = some stream ∧
    0 < E.pending stream.ssl := by
  cases h with
  | dropped _ _ hrecv => cases hrecv.symm.trans hpc'
  | refused _ _ _ _ _ hexited => cases hexited.symm.trans hpc'
  | created _ _ _ _ _ _ _ _ _ hcall => cases hcall.symm.trans hpc'
  | asked _ _ _ _ _ _ _ _ _ hcall => cases hcall.symm.trans hpc'
  | media _ _ _ _ _ _ _ _ hidle =>
    rw [hpc'] at hidle
    exact hidle.elim
  | broken _ _ _ _ _ _ _ hpanicked => cases hpanicked.symm.trans hpc'
  | read _ _ _ _ _ _ _ _ _ _ _ _ hcall => cases hcall.symm.trans hpc'
  | wrote _ _ _ _ _ _ _ _ _ _ _ _ _ hcall => cases hcall.symm.trans hpc'
  | returned _ _ handshake c stream ssl result sessions hcall _ hnext hs hpull =>
    cases hpull.symm.trans hpc'
    rw [hs, AList.lookup_insert] at hk
    cases hk
    exact .inl ⟨handshake, c, result, hcall, hnext⟩
  | removed _ _ _ _ _ _ _ _ _ _ _ _ hrecv => cases hrecv.symm.trans hpc'
  | pulled _ _ stream _ _ hpc hstream hpending _ _ hpull =>
    cases hpull.symm.trans hpc'
    exact .inr ⟨stream, hpc, hstream, hpending⟩
  | pullFailed _ _ _ _ _ _ _ _ _ _ _ hs =>
    rw [hs, cleanup_pc] at hpc'
    cases hpc'
  | done _ _ _ _ _ _ _ _ hs =>
    rw [hs, cleanup_pc] at hpc'
    cases hpc'

section Progress

variable (cfg) (old : SocketAddrV6 → Bool)

lemma Calling.tick (h : Calling s d stream r reads c) :
    step cfg s (.tick old) = some (tickCall s d.dst d.src (r = .doHandshake) c stream) := by
  unfold step
  simp only [h.pc, h.lookup, Option.map_some]

lemma Calling.read_first (h : Calling s d stream r reads c) (hholds : s.packet.Holds d)
    (hnext : E.next c = .read size) (hsize : d.payload.length ≤ size) :
    ∃ s', step cfg s (.tick old) = some s' ∧
      Calling s' d stream r (reads ++ [d.payload]) (E.wasRead c (.ok d.payload)) ∧
        s'.packet.unread = none := by
  have hread : s.packet.read stream.bio.sendFrom size = .ok (s.packet.burn, .ok d.payload) := by
    rw [h.sendFrom, hholds.read, if_neg (Nat.not_lt.mpr hsize)]
  refine ⟨_, h.tick cfg old, ?_⟩
  simp only [tickCall, hnext, hread]
  refine ⟨⟨rfl, h.lookup, h.sendFrom, h.within.read size _ hnext, ?_,
    .inr ⟨?_, s.packet.burn_whole⟩⟩, ?_⟩
  · intro data hdata
    obtain hdata | hdata := List.mem_append.mp hdata
    · exact h.reads data hdata
    · exact List.mem_singleton.mp hdata
  · exact s.packet.burn_unread
  · exact s.packet.burn_unread

lemma Calling.read_again (h : Calling s d stream r reads c) (hburned : s.packet.unread = none)
    (hnext : E.next c = .read size) :
    ∃ s', step cfg s (.tick old) = some s' ∧
      Calling s' d stream r reads (E.wasRead c (.error .wouldBlock)) ∧
      s'.packet.unread = none := by
  refine ⟨_, h.tick cfg old, ?_⟩
  simp only [tickCall, hnext, Udp6Packet.read_burned hburned]
  exact ⟨⟨rfl, h.lookup, h.sendFrom, h.within.readFailed size _ hnext, h.reads,
    .inr ⟨hburned, h.whole⟩⟩, hburned⟩

lemma Calling.write {buf : Bytes} (h : Calling s d stream r reads c)
    (hburns : s.packet.unread = none ∨ buf.length ≤ 4096) (hnext : E.next c = .write buf) :
    ∃ s' result, step cfg s (.tick old) = some s' ∧
      Calling s' d stream r reads (E.wasWritten c result) ∧
      s'.packet.unread = none := by
  obtain ⟨p, sent, result, hwrite, hp⟩ :=
    s.packet.write_cases stream.bio.sendFrom stream.bio.sendTo buf
  have hpacket : p.unread = none ∧ p.Whole := by
    obtain ⟨rfl, hlong⟩ | hp := hp
    · exact ⟨hburns.resolve_right (Nat.not_le.mpr hlong), h.whole⟩
    · exact hp
  refine ⟨_, result, h.tick cfg old, ?_⟩
  simp only [tickCall, hnext, hwrite]
  exact ⟨⟨rfl, h.lookup, h.sendFrom, h.within.wrote buf _ hnext, h.reads, .inr hpacket⟩, hpacket.1⟩

lemma Calling.ret {ssl : E.Ssl} {result : Except ErrorCode Unit} (h : Calling s d stream r reads c)
    (hnext : E.next c = .ret ssl result) :
    step cfg s (.tick old) =
      some (returned s d.dst d.src (r = .doHandshake) stream ssl result) := by
  rw [h.tick, tickCall, hnext]

def Waiting (result : Except ErrorCode Unit) : Prop :=
  ∀ code, result = .error code → code = .wantRead ∨ code = .wantWrite

lemma returned_waiting {dst src : SocketAddrV6} {handshake : Bool}
    {ssl : E.Ssl} {result : Except ErrorCode Unit} (h : Waiting result) :
    returned s dst src handshake stream ssl result =
      (s.put dst ⟨ssl, { stream.bio with
        sessions := if handshake && E.isInitFinished ssl then E.sessionPair ssl
          else stream.bio.sessions }⟩).goto (.pull dst src) := by
  unfold returned
  cases result with
  | ok _ => rfl
  | error code => exact if_pos (h code rfl)

lemma pull_reads {dst src : SocketAddrV6} {ssl : E.Ssl} {buf : { buf : Bytes // buf.length ≤ 4096 }}
    (hpc : s.pc = .pull dst src) (hstream : s.streams.lookup dst = some stream)
    (hpending : 0 < E.pending stream.ssl) (hread : E.sslRead stream.ssl = (ssl, .ok buf)) :
    ∃ s', step cfg s (.tick old) = some s' ∧ s'.pc = .pull dst src ∧
      s'.streams.lookup dst = some ⟨ssl, { stream.bio with sendTo := src }⟩ := by
  obtain ⟨buf, hbuf⟩ := buf
  obtain ⟨q, hq⟩ := { s.packet with buffer := s.packet.buffer.fill buf hbuf }.address_ok
    stream.bio.sendFrom cfg.endpoint hbuf
  obtain ⟨packet, hpacket⟩ := q.sent_ok hbuf
  unfold step
  simp only [hpc, hstream, Option.map_some, tickPull, hpending, if_true, hread,
    State.put, hq, hpacket]
  exact ⟨_, rfl, rfl, AList.lookup_insert s.streams⟩

lemma pull_done {dst src : SocketAddrV6} (hpc : s.pc = .pull dst src)
    (hstream : s.streams.lookup dst = some stream) (hpending : E.pending stream.ssl = 0) :
    step cfg s (.tick old) = some (cleanup s old) := by
  unfold step
  simp only [hpc, hstream, Option.map_some, tickPull, hpending, lt_irrefl, if_false]

end Progress

end Calls

end Masquerade.DtlsProxy
