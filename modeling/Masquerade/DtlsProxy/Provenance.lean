import Masquerade.DtlsProxy.Isolation

/-! Where everything that the proxy sends comes from. -/

namespace Masquerade.DtlsProxy

open Lib Wire

def taken : Input → List Datagram
  | .recv (some received) _ =>
    if h : received.length ≤ 4144 then
      match (Udp6Packet.newZeroed.recv received h).datagram received.length with
      | .ok (some d) => [d]
      | _ => []
    else []
  | _ => []

variable {E : Engine} {cfg : Config} {s s' : State E} {i : Input} {seen : List Datagram}

lemma taken_of_receives {d : Datagram} (h : s.receives i = some d) : d ∈ taken i := by
  cases i with
  | tick old => cases h
  | recv outcome created =>
    obtain ⟨received, hlen, rfl, hd, -⟩ := receives_cases h
    simp only [taken, dif_pos hlen,
      Udp6Packet.datagram_recv_some hlen s.packet Udp6Packet.newZeroed hd, List.mem_singleton]

structure Media (stream : SslStream E) (d : Datagram) (rtcp : Bool) (incoming : E.Inbound)
    (outgoing : E.Outbound) : Prop where
  finished : E.isInitFinished stream.ssl
  sessions : stream.bio.sessions = some (incoming, outgoing)
  kind : ∃ second, mediaByte d.payload = some second ∧ rtcp = isRtcp second

/-- What a step sends from the address of a session, to whom, and what the proxy has received for
it. -/
inductive Accounted (cfg : Config) (seen : List Datagram) (s : State E) (i : Input)
    (src : SocketAddrV6) : SocketAddrV6 → Bytes → Prop
  -- OpenSSL, called for a datagram of the session, writes to an address that one has come from
  | written {d peer : Datagram} {stream : SslStream E} {r : Request} {reads : List Bytes}
      {c : E.Call} {buf : Bytes} (hd : d ∈ seen) (hdst : d.dst = src)
      (hcalling : Calling s d stream r reads c) (hnext : E.next c = .write buf)
      (hpeer : peer ∈ seen) (hto : peer.dst = src) (hsendTo : peer.src = stream.bio.sendTo) :
      Accounted cfg seen s i src peer.src buf
  -- what OpenSSL has decrypted for the session goes to the endpoint
  | plain {d : Datagram} {stream : SslStream E} {ssl : E.Ssl}
      {buf : { buf : Bytes // buf.length ≤ 4096 }} (hd : d ∈ seen) (hdst : d.dst = src)
      (hpc : s.pc = .pull src d.src) (hstream : s.streams.lookup src = some stream)
      (hpending : 0 < E.pending stream.ssl) (hread : E.sslRead stream.ssl = (ssl, .ok buf)) :
      Accounted cfg seen s i src cfg.endpoint buf
  | incoming {d : Datagram} {stream : SslStream E} {rtcp : Bool} {incoming : E.Inbound}
      {outgoing : E.Outbound} {cursor : Cursor} (hd : s.receives i = some d) (hdst : d.dst = src)
      (hsrc : d.src ≠ cfg.rtpEndpoint) (hstream : s.streams.lookup src = some stream)
      (hmedia : Media stream d rtcp incoming outgoing) (hdata : cursor.data = d.payload)
      (hok : (E.unprotect rtcp incoming cursor).2.2 = true) :
      Accounted cfg seen s i src cfg.rtpEndpoint (E.unprotect rtcp incoming cursor).2.1.data
  | outgoing {d peer : Datagram} {stream : SslStream E} {rtcp : Bool} {incoming : E.Inbound}
      {outgoing : E.Outbound} {cursor : Cursor} (hd : s.receives i = some d) (hdst : d.dst = src)
      (hsrc : d.src = cfg.rtpEndpoint) (hstream : s.streams.lookup src = some stream)
      (hmedia : Media stream d rtcp incoming outgoing) (hdata : cursor.data = d.payload)
      (hok : (E.protect rtcp outgoing cursor).2.2 = true) (hpeer : peer ∈ seen)
      (hto : peer.dst = src) (hsendTo : peer.src = stream.bio.sendTo) :
      Accounted cfg seen s i src peer.src (E.protect rtcp outgoing cursor).2.1.data

structure Known (seen : List Datagram) (s : State E) : Prop where
  streams : ∀ k stream, s.streams.lookup k = some stream →
    stream.bio.sendFrom = k ∧ ∃ d ∈ seen, d.dst = k ∧ d.src = stream.bio.sendTo
  calls : ∀ dst src handshake c, s.pc = .call dst src handshake c →
    ∃ d ∈ seen, ∃ stream r reads, Calling s d stream r reads c
  pulls : ∀ dst src, s.pc = .pull dst src → ∃ d ∈ seen, d.dst = dst ∧ d.src = src

section Converting

variable {d : Datagram}

lemma fate_converts (cfg : Config) (stream : SslStream E) (d : Datagram) :
    fate cfg stream d = .drop ∨ (∃ r, fate cfg stream d = .request r) ∨
    ∃ rtcp incoming outgoing, Media stream d rtcp incoming outgoing ∧ fate cfg stream d =
      if d.src = cfg.rtpEndpoint then .protect rtcp incoming outgoing else .unprotect rtcp incoming
        outgoing := by
  by_cases hfinished : E.isInitFinished stream.ssl
  · cases hmedia : mediaByte d.payload with
    | none =>
      rw [fate_plain hfinished hmedia, ← apply_ite]
      exact .inr (.inl ⟨_, rfl⟩)
    | some second =>
      obtain ⟨-, hfate⟩ | ⟨incoming, outgoing, hsessions, hfate⟩ := fate_media cfg hfinished hmedia
      · exact .inl hfate
      · exact .inr (.inr ⟨_, incoming, outgoing, ⟨hfinished, hsessions, second, hmedia, rfl⟩,
          hfate⟩)
  · rw [fate, if_pos hfinished]
    exact .inr (.inl ⟨_, rfl⟩)

variable {cfg : Config} {stream : SslStream E} {rtcp : Bool} {incoming : E.Inbound}
  {outgoing : E.Outbound}

lemma media_of_unprotect (h : fate cfg stream d = .unprotect rtcp incoming outgoing) :
    d.src ≠ cfg.rtpEndpoint ∧ Media stream d rtcp incoming outgoing := by
  obtain hdrop | ⟨r, hrequest⟩ | ⟨rtcp', incoming', outgoing', hmedia, hconverts⟩ :=
    fate_converts cfg stream d
  · cases hdrop.symm.trans h
  · cases hrequest.symm.trans h
  · by_cases hsrc : d.src = cfg.rtpEndpoint
    · rw [if_pos hsrc] at hconverts
      cases hconverts.symm.trans h
    · rw [if_neg hsrc] at hconverts
      cases hconverts.symm.trans h
      exact ⟨hsrc, hmedia⟩

lemma media_of_protect (h : fate cfg stream d = .protect rtcp incoming outgoing) :
    d.src = cfg.rtpEndpoint ∧ Media stream d rtcp incoming outgoing := by
  obtain hdrop | ⟨r, hrequest⟩ | ⟨rtcp', incoming', outgoing', hmedia, hconverts⟩ :=
    fate_converts cfg stream d
  · cases hdrop.symm.trans h
  · cases hrequest.symm.trans h
  · by_cases hsrc : d.src = cfg.rtpEndpoint
    · rw [if_pos hsrc] at hconverts
      cases hconverts.symm.trans h
      exact ⟨hsrc, hmedia⟩
    · rw [if_neg hsrc] at hconverts
      cases hconverts.symm.trans h

lemma cursor_of_datagram {p : Udp6Packet} {length : ℕ} (hd : p.datagram length = .ok (some d)) :
    Cursor.data ⟨p.buffer, d.payload.length⟩ = d.payload := by
  obtain ⟨-, -, -, -, -, hpayload⟩ := Udp6Packet.datagram_some hd
  rw [hpayload, Cursor.data, List.length_take, ← List.take_eq_take_min]

end Converting

lemma Emission.accounted {src dst : SocketAddrV6} {payload : Bytes}
    (h : Known seen s) (he : Emission cfg s i src dst payload) :
    Accounted cfg (seen ++ taken i) s i src dst payload := by
  have hold : ∀ {d}, d ∈ seen → d ∈ seen ++ taken i := fun hd => List.mem_append_left _ hd
  cases he with
  | @written dst src handshake c stream buf old hpc hstream hnext =>
    obtain ⟨hfrom, peer, hpeer, hto, hsendTo⟩ := h.streams _ _ hstream
    obtain ⟨d, hd, stream', r, reads, hcalling⟩ := h.calls _ _ _ _ hpc
    cases hpc.symm.trans hcalling.pc
    obtain rfl : stream' = stream := Option.some.inj (hcalling.lookup.symm.trans hstream)
    rw [hfrom, ← hsendTo]
    exact .written (hold hd) rfl hcalling hnext (hold hpeer) hto hsendTo
  | plain hpc hstream hpending hread =>
    obtain ⟨hfrom, -⟩ := h.streams _ _ hstream
    obtain ⟨d, hd, rfl, rfl⟩ := h.pulls _ _ hpc
    rw [hfrom]
    exact .plain (hold hd) rfl hpc hstream hpending hread
  | @media received created d stream cursor hlen hpc hdatagram hstream hmedia =>
    obtain ⟨hfrom, peer, hpeer, hto, hsendTo⟩ := h.streams _ _ hstream
    have hd : s.receives (.recv (some received) created) = some d := receives_recv hlen hdatagram
    have hcursor := cursor_of_datagram hdatagram
    rw [hfrom]
    cases hfate : fate cfg stream d with
    | drop => rw [hfate] at hmedia; cases hmedia
    | request r => rw [hfate] at hmedia; cases hmedia
    | unprotect rtcp incoming outgoing =>
      rw [hfate, Fate.converts, Option.some.injEq] at hmedia
      obtain ⟨hside, hsessions⟩ := media_of_unprotect hfate
      have haccounted : Accounted cfg (seen ++ taken (.recv (some received) created)) s _ _ _ _ :=
        .incoming hd rfl hside hstream hsessions hcursor (congrArg Prod.snd hmedia)
      rw [if_neg hside]
      rwa [hmedia] at haccounted
    | protect rtcp incoming outgoing =>
      rw [hfate, Fate.converts, Option.some.injEq] at hmedia
      obtain ⟨hside, hsessions⟩ := media_of_protect hfate
      have haccounted : Accounted cfg (seen ++ taken (.recv (some received) created)) s _ _ _ _ :=
        .outgoing hd rfl hside hstream hsessions hcursor (congrArg Prod.snd hmedia)
          (hold hpeer) hto hsendTo
      rw [if_pos hside, ← hsendTo]
      rwa [hmedia] at haccounted

lemma Step.pulls {dst src : SocketAddrV6} (h : Step cfg s i s') (hpc' : s'.pc = .pull dst src) :
    (∃ handshake c, s.pc = .call dst src handshake c) ∨ s.pc = .pull dst src := by
  cases h with
  | dropped _ _ hrecv => cases hrecv.symm.trans hpc'
  | refused _ _ _ _ _ hexited => cases hexited.symm.trans hpc'
  | broken _ _ _ _ _ _ _ hpanicked => cases hpanicked.symm.trans hpc'
  | created _ _ _ _ _ _ _ _ _ hcall => cases hcall.symm.trans hpc'
  | asked _ _ _ _ _ _ _ _ _ hcall => cases hcall.symm.trans hpc'
  | media _ _ _ _ _ _ _ _ hidle =>
    rw [hpc'] at hidle
    exact hidle.elim
  | read _ _ _ _ _ _ _ _ _ _ _ _ hcall => cases hcall.symm.trans hpc'
  | wrote _ _ _ _ _ _ _ _ _ _ _ _ _ hcall => cases hcall.symm.trans hpc'
  | returned _ _ handshake c _ _ _ _ hcall _ _ _ hpull =>
    cases hpull.symm.trans hpc'
    exact .inl ⟨handshake, c, hcall⟩
  | removed _ _ _ _ _ _ _ _ _ _ _ _ hrecv => cases hrecv.symm.trans hpc'
  | pulled _ _ _ _ _ hpc _ _ _ _ hpull =>
    cases hpull.symm.trans hpc'
    exact .inr hpc
  | pullFailed _ _ _ _ _ _ _ _ _ _ _ hs =>
    rw [hs, cleanup_pc] at hpc'
    cases hpc'
  | done _ _ _ _ _ _ _ _ hs =>
    rw [hs, cleanup_pc] at hpc'
    cases hpc'

lemma Known.step (h : Known seen s) (hstep : step cfg s i = some s') :
    Known (seen ++ taken i) s' := by
  have hcases := step_cases hstep
  have hold : ∀ {d}, d ∈ seen → d ∈ seen ++ taken i := fun hd => List.mem_append_left _ hd
  have hnew : ∀ {d}, s.receives i = some d → d ∈ seen ++ taken i := fun hd =>
    List.mem_append_right _ (taken_of_receives hd)
  refine ⟨fun k stream' hk => ?_, fun dst src handshake c hpc' => ?_, fun dst src hpc' => ?_⟩
  · obtain ⟨stream, hstream, hfrom, hto⟩ | ⟨d, hd, -, -, rfl, rfl⟩ |
        ⟨src, stream, hpc, hstream, -, hfrom, hto⟩ :=
      hcases.origin hk
    · obtain ⟨hkey, d, hd, hdst, hsrc⟩ := h.streams k stream hstream
      exact ⟨hfrom.trans hkey, d, hold hd, hdst, hsrc.trans hto.symm⟩
    · exact ⟨rfl, d, hnew hd, rfl, rfl⟩
    · obtain ⟨d, hd, hdst, hsrc⟩ := h.pulls k src hpc
      exact ⟨hfrom.trans (h.streams k stream hstream).1, d, hold hd, hdst, hsrc.trans hto.symm⟩
  · have hkeyed : Keyed s := fun k stream hk => (h.streams k stream hk).1
    obtain ⟨d, -, hd, -, -, hcalling⟩ | ⟨d, stream, r, hd, -, -, hcalling⟩ | ⟨_, _, _, _, hpc⟩ :=
      hcases.into_call hkeyed hpc'
    · exact ⟨d, hnew hd, _, _, _, hcalling⟩
    · exact ⟨d, hnew hd, _, _, _, hcalling⟩
    · obtain ⟨d, hd, stream, r, reads, hcalling⟩ := h.calls _ _ _ _ hpc
      obtain ⟨reads', hlasts⟩ := hcalling.lasts hcases hpc'
      exact ⟨d, hold hd, stream, r, reads', hlasts⟩
  · obtain ⟨handshake, c, hpc⟩ | hpc := hcases.pulls hpc'
    · obtain ⟨d, hd, stream, r, reads, hcalling⟩ := h.calls _ _ _ _ hpc
      cases hpc.symm.trans hcalling.pc
      exact ⟨d, hold hd, rfl, rfl⟩
    · obtain ⟨d, hd, hdst, hsrc⟩ := h.pulls dst src hpc
      exact ⟨d, hold hd, hdst, hsrc⟩

lemma known {is : List Input} (hrun : run (step cfg) (initial E) is = some s) :
    Known (is.flatMap taken) s := by
  have hinitial : Known [] (initial E) := by
    refine ⟨fun k stream hk => ?_, fun dst src handshake c hpc => ?_, fun dst src hpc => ?_⟩
    · cases hk
    · cases hpc
    · cases hpc
  exact run_collects (P := Known) (fun _ _ _ _ h hstep => h.step hstep) hinitial hrun

def Sends (cfg : Config) (packet : Bytes) (s : State E) (i : Input) : Prop :=
  ∃ s' src dst payload, step cfg s i = some s' ∧ s'.sent = s.sent ++ [packet] ∧
    Emitted packet src dst payload ∧ Emission cfg s i src dst payload

lemma sends_iff (hE : E.Bounded) {packet : Bytes} (hstep : step cfg s i = some s') :
    packet ∈ s'.sent ↔ packet ∈ s.sent ∨ Sends cfg packet s i := by
  constructor
  · intro hpacket
    obtain ⟨src, dst, payload, he⟩ | hsilent := step_silent hstep
    · obtain ⟨-, packet', hsent, hemitted⟩ := he.emits hE hstep
      rw [hsent] at hpacket
      obtain hold | hnew := List.mem_append.mp hpacket
      · exact .inl hold
      · obtain rfl := List.mem_singleton.mp hnew
        exact .inr ⟨s', src, dst, payload, hstep, hsent, hemitted, he⟩
    · rw [hsilent.sent] at hpacket
      exact .inl hpacket
  · rintro (hold | ⟨t, src, dst, payload, ht, hsent, -⟩)
    · obtain ⟨src, dst, payload, he⟩ | hsilent := step_silent hstep
      · obtain ⟨-, packet', hsent, -⟩ := he.emits hE hstep
        rw [hsent]
        exact List.mem_append_left _ hold
      · rwa [hsilent.sent]
    · obtain rfl : s' = t := Option.some.inj (hstep.symm.trans ht)
      rw [hsent]
      exact List.mem_append_right _ (List.mem_singleton_self _)

theorem sent_accounted (hE : E.Bounded) {is : List Input}
    (hrun : run (step cfg) (initial E) is = some s) :
    ∀ packet ∈ s.sent, ∃ before i after t t' src dst payload, is = before ++ i :: after ∧
      run (step cfg) (initial E) before = some t ∧ step cfg t i = some t' ∧
      t'.sent = t.sent ++ [packet] ∧ Emitted packet src dst payload ∧
      Accounted cfg ((before ++ [i]).flatMap taken) t i src dst payload := by
  intro packet hpacket
  have hsends := (run_reaches_iff (P := fun s : State E => packet ∈ s.sent) (I := fun _ => True)
    (fun _ _ _ _ _ => trivial) (fun _ _ _ _ hstep => sends_iff hE hstep) trivial hrun).mp hpacket
  obtain hnone | ⟨before, i, after, t, rfl, hbefore, t', src, dst, payload, hstep, hsent,
    hemitted, he⟩ := hsends
  · cases hnone
  · have haccounted := he.accounted (known hbefore)
    refine ⟨before, i, after, t, t', src, dst, payload, rfl, hbefore, hstep, hsent, hemitted, ?_⟩
    rwa [List.flatMap_append, List.flatMap_singleton]

theorem sent_accounted_hello : ∃ (s : State server) (packet : Bytes), packet ∈ s.sent ∧
    run (step .default) (initial server) twoClients = some s ∧
    ∃ before i after t t' src dst payload, twoClients = before ++ i :: after ∧
      run (step .default) (initial server) before = some t ∧ step .default t i = some t' ∧
      t'.sent = t.sent ++ [packet] ∧ Emitted packet src dst payload ∧
      Accounted .default ((before ++ [i]).flatMap taken) t i src dst payload := by
  have hruns : ((run (step .default) (initial server) twoClients).any fun s => s.sent.length =
      3) = true := by
    decide +kernel
  simp only [Option.any_eq_true, decide_eq_true_eq] at hruns
  obtain ⟨s, hs, hsent⟩ := hruns
  obtain ⟨packet, hpacket⟩ := List.exists_mem_of_length_pos (show 0 < s.sent.length by omega)
  exact ⟨s, packet, hpacket, hs, sent_accounted server_bounded hs packet hpacket⟩

end Masquerade.DtlsProxy
