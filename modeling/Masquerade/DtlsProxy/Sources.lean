import Masquerade.DtlsProxy.Arrivals

/-! Plaintext and ciphertext, told apart by where they come from. -/

namespace Masquerade.DtlsProxy

open Lib Wire

variable {E : Engine} {cfg : Config} {s s₁ t : State E} {d : Datagram} {outcome : Option Bytes}
  {created : Bool} {stream : SslStream E}

section Fate

lemma fate_unfinished (h : E.isInitFinished stream.ssl = false) :
    fate cfg stream d = .request .doHandshake := by
  simp [fate, h]

lemma fate_plain (h : E.isInitFinished stream.ssl) (hmedia : mediaByte d.payload = none) :
    fate cfg stream d =
      if d.src = cfg.endpoint then .request (.sslWrite d.payload) else .request .sslPeek := by
  simp only [fate, h, hmedia, not_true_eq_false, if_false]
  split_ifs <;> rfl

lemma fate_media (cfg : Config) {second : UInt8} (h : E.isInitFinished stream.ssl)
    (hmedia : mediaByte d.payload = some second) :
    stream.bio.sessions = none ∧ fate cfg stream d = .drop ∨
    ∃ incoming outgoing, stream.bio.sessions = some (incoming, outgoing) ∧ fate cfg stream d =
      if d.src = cfg.rtpEndpoint then .protect (isRtcp second) incoming outgoing
      else .unprotect (isRtcp second) incoming outgoing := by
  cases hsessions : stream.bio.sessions with
  | none => exact .inl ⟨rfl, by simp [fate, h, hmedia, hsessions]⟩
  | some sessions => exact .inr ⟨_, _, rfl, by simp [fate, h, hmedia, hsessions]⟩

lemma fate_sslWrite {plain : Bytes} (h : fate cfg stream d = .request (.sslWrite plain)) :
    E.isInitFinished stream.ssl := by
  cases hfinished : E.isInitFinished stream.ssl with
  | true => rfl
  | false =>
    rw [fate_unfinished hfinished] at h
    cases h

end Fate

def arrival (cfg : Config) (s : State E) (d : Datagram) (created : Bool) : Fate E :=
  match s.streams.lookup d.dst with
  | some stream => fate cfg stream d
  | none => if d.src = cfg.endpoint ∨ created = false then .drop else fate cfg (.new E d) d

lemma arrival_known (cfg : Config) (created : Bool) (h : s.streams.lookup d.dst = some stream) :
    arrival cfg s d created = fate cfg stream d := by
  rw [arrival, h]

lemma arrival_vacant (h : s.streams.lookup d.dst = none) : arrival cfg s d created =
    if d.src = cfg.endpoint ∨ created = false then .drop else .request .doHandshake := by
  simp only [arrival, h, fate_new]

lemma arrival_call {dst src : SocketAddrV6} {handshake : Bool} {c : E.Call}
    (hkeyed : Keyed s) (hd : s.receives (.recv outcome created) = some d)
    (hstep : Step cfg s (.recv outcome created) s₁) (hrecv : s.pc = .recv)
    (hpc : s₁.pc = .call dst src handshake c) :
    ∃ stream r, arrival cfg s d created = .request r ∧ Calling s₁ d stream r [] c ∧
      (r ≠ .doHandshake → fate cfg stream d = .request r) := by
  obtain ⟨d', ⟨outcome', hi⟩, hd', hvacant, hsrc, hcalling⟩ |
    ⟨d', stream, r, hd', hstream, hfate, hcalling⟩ | ⟨dst, src, handshake, c, hcall⟩ :=
    hstep.into_call hkeyed hpc
  · obtain rfl : d = d' := Option.some.inj (hd.symm.trans hd')
    cases hi
    refine ⟨_, _, ?_, hcalling, fun h => absurd rfl h⟩
    rw [arrival_vacant hvacant, if_neg (by simp [hsrc])]
  · obtain rfl : d = d' := Option.some.inj (hd.symm.trans hd')
    exact ⟨stream, r, by rw [arrival_known _ _ hstream, hfate], hcalling, fun _ => hfate⟩
  · cases hrecv.symm.trans hcall

def Fate.Performed (cfg : Config) (s s₁ : State E) (d : Datagram) : Fate E → Prop
  | .drop => s₁.streams = s.streams ∧ s₁.sent = s.sent ∧ s₁.pc.Idle
  | .request r => ∃ stream, s₁.streams.lookup d.dst = some stream ∧
      s₁.pc = .call d.dst d.src (r = .doHandshake) (E.start r stream.ssl)
  | .unprotect rtcp incoming outgoing =>
    ∃ (p : Udp6Packet) (stream : SslStream E) (cursor : Cursor), p.Holds d ∧
      s.streams.lookup d.dst = some stream ∧ cursor.data = d.payload ∧ s₁ =
      media cfg { s with packet := p } d stream ((E.unprotect rtcp incoming cursor).1, outgoing)
        (E.unprotect rtcp incoming cursor).2.1 (E.unprotect rtcp incoming cursor).2.2
  | .protect rtcp incoming outgoing =>
    ∃ (p : Udp6Packet) (stream : SslStream E) (cursor : Cursor), p.Holds d ∧
      s.streams.lookup d.dst = some stream ∧ cursor.data = d.payload ∧
      s₁ = media cfg { s with packet := p } d stream (incoming, (E.protect rtcp outgoing cursor).1)
        (E.protect rtcp outgoing cursor).2.1 (E.protect rtcp outgoing cursor).2.2

lemma dispatch_performed {p : Udp6Packet} (hp : p.Holds d) (hpc : s.pc = .recv)
    (hstream : s.streams.lookup d.dst = some stream) :
    (fate cfg stream d).Performed cfg s (dispatch cfg { s with packet := p } d stream) d := by
  obtain ⟨position, hposition, hdata⟩ := hp.position
  unfold dispatch
  cases fate cfg stream d with
  | drop => exact ⟨rfl, rfl, by simp [hpc, Pc.Idle]⟩
  | request r => exact ⟨stream, hstream, rfl⟩
  | unprotect rtcp incoming outgoing =>
    simp only [hposition]
    exact ⟨p, stream, ⟨p.buffer, position⟩, hp, hstream, hdata, rfl⟩
  | protect rtcp incoming outgoing =>
    simp only [hposition]
    exact ⟨p, stream, ⟨p.buffer, position⟩, hp, hstream, hdata, rfl⟩

lemma arrival_performed (hd : s.receives (.recv outcome created) = some d)
    (hstep : step cfg s (.recv outcome created) = some s₁) :
    (arrival cfg s d created).Performed cfg s s₁ d := by
  have hpc := pc_of_recv hstep
  obtain ⟨p, hp, hs₁⟩ := step_receives cfg hd hpc
  cases hs₁.symm.trans hstep
  cases hstream : s.streams.lookup d.dst with
  | some stream =>
    rw [arrival_known _ _ hstream]
    simp only [accepted, hstream]
    exact dispatch_performed hp hpc hstream
  | none =>
    rw [arrival_vacant hstream]
    simp only [accepted, hstream]
    by_cases hsrc : d.src = cfg.endpoint
    · simp only [hsrc, true_or, if_true]
      exact ⟨rfl, rfl, by simp [hpc, Pc.Idle]⟩
    · cases created with
      | false =>
        simp only [hsrc, or_true, if_true, if_false]
        exact ⟨rfl, rfl, trivial⟩
      | true =>
        simp only [hsrc, Bool.true_eq_false, or_self, not_true_eq_false, if_false,
          dispatch_request (fate_new d)]
        exact ⟨.new E d, AList.lookup_insert s.streams, rfl⟩

structure Separated (cfg : Config) (s s₁ : State E) (d : Datagram) (created : Bool) : Prop where
  performed : (arrival cfg s d created).Performed cfg s s₁ d
  endpoint : d.src = cfg.endpoint →
    arrival cfg s d created = .drop ∨ arrival cfg s d created = .request (.sslWrite d.payload)
  media : d.src = cfg.rtpEndpoint →
    arrival cfg s d created = .drop ∨
      ∃ rtcp incoming outgoing, arrival cfg s d created = .protect rtcp incoming outgoing
  unread : d.src = cfg.endpoint ∨ d.src = cfg.rtpEndpoint →
    ∀ t, Reaches (step cfg) (fun _ i => ∃ old, i = .tick old) s₁ t →
      ∀ dst src handshake c stream size p data, t.pc = .call dst src handshake c →
        t.streams.lookup dst = some stream →
        E.next c = .read size → t.packet.read stream.bio.sendFrom size ≠ .ok (p, .ok data)

structure Separable (cfg : Config) (s : State E) (d : Datagram) (created : Bool) : Prop where
  endpoint : d.src = cfg.endpoint → ∀ stream, s.streams.lookup d.dst = some stream →
    E.isInitFinished stream.ssl ∧ (mediaByte d.payload ≠ none → stream.bio.sessions = none)
  media : d.src = cfg.rtpEndpoint → ∀ stream, s.streams.lookup d.dst = some stream →
    E.isInitFinished stream.ssl ∧ mediaByte d.payload ≠ none
  vacant : d.src = cfg.rtpEndpoint → s.streams.lookup d.dst = none → d.src = cfg.endpoint ∨
    created = false

lemma Separable.of_separated (h : Separated cfg s s₁ d created) : Separable cfg s d created where
  endpoint hsrc stream hstream := by
    have harrival := h.endpoint hsrc
    rw [arrival_known _ _ hstream] at harrival
    cases hfinished : E.isInitFinished stream.ssl with
    | false =>
      rw [fate_unfinished hfinished] at harrival
      obtain h | h := harrival <;> cases h
    | true =>
      refine ⟨rfl, fun hmedia => ?_⟩
      obtain ⟨second, hsecond⟩ := Option.ne_none_iff_exists'.mp hmedia
      obtain ⟨hsessions, -⟩ | ⟨incoming, outgoing, -, hfate⟩ := fate_media cfg hfinished hsecond
      · exact hsessions
      · rw [hfate] at harrival
        split_ifs at harrival <;> obtain h | h := harrival <;> cases h
  media hsrc stream hstream := by
    have harrival := h.media hsrc
    rw [arrival_known _ _ hstream] at harrival
    cases hfinished : E.isInitFinished stream.ssl with
    | false =>
      rw [fate_unfinished hfinished] at harrival
      obtain h | ⟨_, _, _, h⟩ := harrival <;> cases h
    | true =>
      refine ⟨rfl, fun hmedia => ?_⟩
      rw [fate_plain hfinished hmedia] at harrival
      split_ifs at harrival <;> obtain h | ⟨_, _, _, h⟩ := harrival <;> cases h
  vacant hsrc hvacant := by
    have harrival := h.media hsrc
    rw [arrival_vacant hvacant] at harrival
    split_ifs at harrival with hdrop
    · exact hdrop
    · obtain h | ⟨_, _, _, h⟩ := harrival <;> cases h

lemma Separable.endpoint_arrival (h : Separable cfg s d created) (hsrc : d.src = cfg.endpoint) :
    arrival cfg s d created = .drop ∨ arrival cfg s d created = .request (.sslWrite d.payload) := by
  cases hstream : s.streams.lookup d.dst with
  | none =>
    rw [arrival_vacant hstream, if_pos (.inl hsrc)]
    exact .inl rfl
  | some stream =>
    obtain ⟨hfinished, hsessions⟩ := h.endpoint hsrc stream hstream
    rw [arrival_known _ _ hstream]
    cases hmedia : mediaByte d.payload with
    | none =>
      rw [fate_plain hfinished hmedia, if_pos hsrc]
      exact .inr rfl
    | some second =>
      have hnone := hsessions (by rw [hmedia]; simp)
      obtain ⟨-, hfate⟩ | ⟨_, _, hsome, -⟩ := fate_media cfg hfinished hmedia
      · exact .inl hfate
      · rw [hnone] at hsome
        cases hsome

lemma Separable.media_arrival (h : Separable cfg s d created) (hsrc : d.src = cfg.rtpEndpoint) :
    arrival cfg s d created = .drop ∨
      ∃ rtcp incoming outgoing, arrival cfg s d created = .protect rtcp incoming outgoing := by
  cases hstream : s.streams.lookup d.dst with
  | none =>
    rw [arrival_vacant hstream, if_pos (h.vacant hsrc hstream)]
    exact .inl rfl
  | some stream =>
    obtain ⟨hfinished, hmedia⟩ := h.media hsrc stream hstream
    obtain ⟨second, hsecond⟩ := Option.ne_none_iff_exists'.mp hmedia
    rw [arrival_known _ _ hstream]
    obtain ⟨-, hfate⟩ | ⟨incoming, outgoing, -, hfate⟩ := fate_media cfg hfinished hsecond
    · exact .inl hfate
    · rw [hfate, if_pos hsrc]
      exact .inr ⟨_, _, _, rfl⟩

def Writing (d : Datagram) (t : State E) : Prop :=
  ∀ dst src handshake c, t.pc = .call dst src handshake c →
    ∃ stream plain reads, Calling t d stream (.sslWrite plain) reads c ∧ E.isInitFinished stream.ssl

lemma Writing.lasts {i : Input} (h : Writing d s) (hkeyed : Keyed s) (hi : ∃ old, i = .tick old)
    (hstep : Step cfg s i s₁) : Writing d s₁ := by
  intro dst src handshake c hpc
  obtain ⟨old, rfl⟩ := hi
  obtain ⟨_, -, hd, -⟩ | ⟨_, _, _, hd, -⟩ | ⟨dst, src, handshake, c', hcall⟩ :=
    hstep.into_call hkeyed hpc
  · cases hd
  · cases hd
  · obtain ⟨stream, plain, reads, hcalling, hfinished⟩ := h dst src handshake c' hcall
    obtain ⟨reads', hcalling⟩ := hcalling.lasts hstep hpc
    exact ⟨stream, plain, reads', hcalling, hfinished⟩

variable {allowed : State E → Input → Prop}

lemma Separable.writing (h : Separable cfg s d created)
    (hrun : Reaches (step cfg) allowed (initial E) s)
    (hd : s.receives (.recv outcome created) = some d)
    (hstep : step cfg s (.recv outcome created) = some s₁)
    (hsrc : d.src = cfg.endpoint ∨ d.src = cfg.rtpEndpoint) : Writing d s₁ := by
  intro dst src handshake c hpc
  have hrecv := pc_of_recv hstep
  obtain ⟨stream, r, harrival, hcalling, hfate⟩ :=
    arrival_call (keyed hrun) hd (step_cases hstep) hrecv hpc
  obtain rfl : r = .sslWrite d.payload := by
    obtain hsrc | hsrc := hsrc
    · obtain hdrop | hwrite := h.endpoint_arrival hsrc
      · cases hdrop.symm.trans harrival
      · exact (Fate.request.inj (hwrite.symm.trans harrival)).symm
    · obtain hdrop | ⟨_, _, _, hprotect⟩ := h.media_arrival hsrc
      · cases hdrop.symm.trans harrival
      · cases hprotect.symm.trans harrival
  exact ⟨stream, _, _, hcalling, fate_sslWrite (hfate (by simp))⟩

theorem separated_iff (hE : E.WritesAlone)
    (hrun : Reaches (step cfg) (fun _ _ => True) (initial E) s)
    (hd : s.receives (.recv outcome created) = some d)
    (hstep : step cfg s (.recv outcome created) = some s₁) :
    Separated cfg s s₁ d created ↔ Separable cfg s d created := by
  refine ⟨Separable.of_separated,
    fun h => ⟨arrival_performed hd hstep, h.endpoint_arrival, h.media_arrival, ?_⟩⟩
  intro hsrc t ht
  have hs₁ : Reaches (step cfg) (fun _ _ => True) (initial E) s₁ := hrun.next _ trivial hstep
  have hwriting : Writing d t := by
    induction ht with
    | refl => exact h.writing hrun hd hstep hsrc
    | next i ht hi hstep ih =>
      exact ih.lasts (keyed (hs₁.append (ht.mono fun _ _ _ => trivial))) hi (step_cases hstep)
  intro dst src handshake c _ size _ _ hpc _ hnext _
  obtain ⟨stream, plain, reads, hcalling, hfinished⟩ := hwriting dst src handshake c hpc
  exact hE stream.ssl plain reads c size hfinished hcalling.within hnext

theorem separated_session : ∃ s s₁ : State server, s.streams.lookup ⟨2, 443, 0, 0⟩ =
    some ⟨⟨.finished, []⟩, ⟨⟨2, 443, 0, 0⟩, ⟨3, 5000, 0, 0⟩, some ((), ())⟩⟩ ∧
      Separated .default s s₁ ⟨⟨2, 443, 0, 0⟩, Config.default.endpoint, [104, 105]⟩ true := by
  obtain ⟨s, hrun, hpc, hstream⟩ :=
    server_session .default ⟨2, 443, 0, 0⟩ ⟨3, 5000, 0, 0⟩ (by decide) (by decide) (by decide)
  have hfits : Datagram.Fits ⟨⟨2, 443, 0, 0⟩, Config.default.endpoint, [104, 105]⟩ :=
    ⟨by decide, by decide, by simp⟩
  obtain ⟨s₁, hstep, -⟩ :=
    arrives_known .default (r := .sslWrite [104, 105]) (hfits.receives s true) hpc hstream rfl rfl
  refine ⟨s, s₁, hstream, ?_⟩
  refine (separated_iff server_writesAlone (hrun.mono fun _ _ _ => trivial)
    (hfits.receives s true) hstep).mpr ?_
  refine ⟨fun _ stream' hstream' => ?_, fun hrtp => absurd hrtp (by decide),
    fun hrtp => absurd hrtp (by decide)⟩
  obtain rfl := Option.some.inj (hstream.symm.trans hstream')
  exact ⟨rfl, fun hmedia => absurd rfl hmedia⟩

/-- While the handshake is going on, what the endpoint sends is read as a part of it. -/
theorem plaintext_read_in_handshake : server.WritesAlone ∧
    ∃ (s s₁ : State server) (d : Datagram) (c : Script) (p : Udp6Packet),
    d = ⟨⟨2, 443, 0, 0⟩, Config.default.endpoint, [104, 105]⟩ ∧
      Reaches (step .default) (fun _ _ => True) (initial server) s ∧ s.receives
      (.recv (some d.bytes) true) = some d ∧ step .default s (.recv (some d.bytes) true) = some s₁ ∧
      s₁.pc = .call d.dst d.src true c ∧ server.next c = .read 16384 ∧
      s₁.packet.read d.dst 16384 = .ok (p, .ok d.payload) ∧ ¬ Separated .default s s₁ d true := by
  refine ⟨server_writesAlone, ?_⟩
  obtain ⟨s, hrun, hpc, hstream⟩ :=
    server_hello .default (s := initial server) (d := ⟨⟨2, 443, 0, 0⟩, ⟨3, 5000, 0, 0⟩, [22, 1]⟩)
    ⟨by decide, by decide, by simp⟩ (by simp) rfl rfl (by decide)
  have hfits : Datagram.Fits ⟨⟨2, 443, 0, 0⟩, Config.default.endpoint, [104, 105]⟩ :=
    ⟨by decide, by decide, by simp⟩
  obtain ⟨s₁, hstep, hcall, hholds⟩ :=
    arrives_known .default (r := .doHandshake) (hfits.receives s true) hpc hstream rfl rfl
  refine ⟨s, s₁, _, _, _, rfl, hrun.mono fun _ _ _ => trivial, hfits.receives s true, hstep,
    hcall.pc, rfl, hholds.read, ?_⟩
  intro hseparated
  have harrival :=
    arrival_known .default true (d := ⟨⟨2, 443, 0, 0⟩, Config.default.endpoint, [104, 105]⟩) hstream
  rw [fate_unfinished rfl] at harrival
  obtain h | h := hseparated.endpoint rfl <;> cases harrival.symm.trans h

end Masquerade.DtlsProxy
