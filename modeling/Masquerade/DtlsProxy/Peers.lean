import Masquerade.DtlsProxy.Arrivals

/-! The address that ciphertext is sent to. -/

namespace Masquerade.DtlsProxy

open Lib Wire

variable {E : Engine} {cfg : Config} {s s' : State E} {i : Input}

def Config.Inside (cfg : Config) (addr : SocketAddrV6) : Prop := addr = cfg.endpoint ∨
    addr = cfg.rtpEndpoint

def Honest (cfg : Config) (valid : E.Ssl → Bytes → Prop) (s : State E) (i : Input) : Prop :=
  ∀ d stream, s.receives i = some d → cfg.Inside d.src → s.streams.lookup d.dst = some stream →
    ¬ valid stream.ssl d.payload

def Answers (cfg : Config) (s : State E) (i : Input) : Prop :=
  ∀ d, s.receives i = some d → d.src = cfg.rtpEndpoint → d.src ≠ cfg.endpoint →
    s.streams.lookup d.dst ≠ none

variable {valid : E.Ssl → Bytes → Prop}

structure Outside (cfg : Config) (valid : E.Ssl → Bytes → Prop) (s : State E) : Prop where
  sendTo : ∀ k stream, s.streams.lookup k = some stream → ¬ cfg.Inside stream.bio.sendTo
  calling : ∀ dst src handshake c, s.pc = .call dst src handshake c → ∃ d stream r reads,
    Calling s d stream r reads c ∧ (cfg.Inside d.src → ¬ valid stream.ssl d.payload)
  pulling : ∀ dst src stream, s.pc = .pull dst src → s.streams.lookup dst = some stream →
    0 < E.pending stream.ssl → ¬ cfg.Inside src

lemma Answers.outside {d : Datagram} (h : Answers cfg s i) (hd : s.receives i = some d)
    (hvacant : s.streams.lookup d.dst = none) (hsrc : d.src ≠ cfg.endpoint) :
    ¬ cfg.Inside d.src := by
  rintro (hendpoint | hrtp)
  · exact hsrc hendpoint
  · exact h d hd hrtp hsrc hvacant

lemma Outside.step_sendTo (h : Outside cfg valid s) (hi : Answers cfg s i)
    (hstep : Step cfg s i s') :
    ∀ k stream, s'.streams.lookup k = some stream → ¬ cfg.Inside stream.bio.sendTo := by
  intro k stream' hk
  obtain ⟨stream, hstream, -, hto⟩ | ⟨d, hd, hvacant, hsrc, -, rfl⟩ |
      ⟨src, stream, hpc, hstream, hpending, -, hto⟩ :=
    hstep.origin hk
  · rw [hto]
    exact h.sendTo k stream hstream
  · exact hi.outside hd hvacant hsrc
  · rw [hto]
    exact h.pulling k src stream hpc hstream hpending

lemma Outside.step (hA : E.Authenticates valid) (h : Outside cfg valid s) (hquiet : Quiet s)
    (hkeyed : Keyed s) (hhonest : Honest cfg valid s i) (hanswers : Answers cfg s i)
    (hstep : Step cfg s i s') : Outside cfg valid s' where
  sendTo := h.step_sendTo hanswers hstep
  calling dst src handshake c hpc' := by
    obtain ⟨d, -, hd, hvacant, hsrc, hcalling⟩ | ⟨d, stream, r, hd, hstream, -, hcalling⟩ |
      ⟨dst, src, handshake, c, hpc⟩ := hstep.into_call hkeyed hpc'
    · exact ⟨d, .new E d, _, _, hcalling,
        fun hinside => absurd hinside (hanswers.outside hd hvacant hsrc)⟩
    · exact ⟨d, stream, r, _, hcalling, fun hinside => hhonest d stream hd hinside hstream⟩
    · obtain ⟨d, stream, r, reads, hcalling, hvalid⟩ := h.calling dst src handshake c hpc
      obtain ⟨reads', hcalling⟩ := hcalling.lasts hstep hpc'
      exact ⟨d, stream, r, reads', hcalling, hvalid⟩
  pulling dst src stream hpc' hstream hpending hinside := by
    obtain ⟨handshake, c, result, hpc, hnext⟩ | ⟨stream, hpc, hstream, hpending⟩ :=
      hstep.into_pull hpc' hstream
    · -- the call has read nothing but a datagram from the inside
      obtain ⟨d, before, r, reads, hcalling, hvalid⟩ := h.calling dst src handshake c hpc
      cases hpc.symm.trans hcalling.pc
      have hzero := hquiet _ before hcalling.lookup (by simp [hpc, Pc.draining])
      have hreads : ∀ data ∈ reads, ¬ valid before.ssl data := by
        intro data hdata
        rw [hcalling.reads data hdata]
        exact hvalid hinside
      have := hA _ r reads c _ result hzero hcalling.within hnext hreads
      omega
    · exact h.pulling dst src stream hpc hstream hpending hinside

lemma outside_initial : Outside cfg valid (initial E) where
  sendTo k stream hk := by cases hk
  calling dst src handshake c hpc := by cases hpc
  pulling dst src stream hpc := by cases hpc

theorem sendTo_outside (hE : E.Drains) (hA : E.Authenticates valid)
    (hrun : Reaches (step cfg) (fun s i => Honest cfg valid s i ∧ Answers cfg s i) (initial E) s) :
    ∀ k stream, s.streams.lookup k = some stream →
      stream.bio.sendTo ≠ cfg.endpoint ∧ stream.bio.sendTo ≠ cfg.rtpEndpoint := by
  have houtside : Outside cfg valid s := by
    induction hrun with
    | refl => exact outside_initial
    | next i hrun hi hstep ih =>
      exact ih.step hA (quiet hE hrun) (keyed hrun) hi.1 hi.2 (step_cases hstep)
  intro k stream hk
  exact not_or.mp (houtside.sendTo k stream hk)

def greeting : Datagram := ⟨⟨2, 443, 0, 0⟩, Config.default.endpoint, [104, 105]⟩

theorem sendTo_outside_session : ∃ (s t u : State server) (stream : SslStream server),
    s.receives (.recv (some greeting.bytes) true) = some greeting ∧
      step .default s (.recv (some greeting.bytes) true) = some t ∧ step .default t
      (.tick fun _ => false) = some u ∧ u.streams.lookup greeting.dst = some stream ∧
      stream.bio.sendTo = ⟨3, 5000, 0, 0⟩ ∧ stream.bio.sendTo ≠ Config.default.endpoint ∧
      stream.bio.sendTo ≠ Config.default.rtpEndpoint := by
  obtain ⟨s, hrun, hpc, hstream⟩ :=
    server_session .default ⟨2, 443, 0, 0⟩ ⟨3, 5000, 0, 0⟩ (by decide) (by decide) (by decide)
  have hfits : greeting.Fits := ⟨by decide, by decide, by decide⟩
  have hfate : fate .default (E := server)
      ⟨⟨.finished, []⟩, ⟨⟨2, 443, 0, 0⟩, ⟨3, 5000, 0, 0⟩, some ((), ())⟩⟩ greeting =
      .request (.sslWrite [104, 105]) := rfl
  obtain ⟨t, ht, hcall, -⟩ := arrives_known .default (hfits.receives s true) hpc hstream rfl hfate
  have hnext : server.next (server.start (.sslWrite [104, 105]) ⟨.finished, []⟩) =
    .write [23, 42, 104, 105] := rfl
  obtain ⟨u, _, hu, hwritten, -⟩ := hcall.write .default (fun _ => false) (.inr (by decide)) hnext
  have hsession : Reaches (step .default) (fun s i => Honest .default serverValid s i ∧
      Answers .default s i) (initial server) s := by
    apply hrun.mono
    intro t i hi
    have hsrc : ∀ d, t.receives i = some d → ¬ Config.default.Inside d.src := by
      intro d hd
      rw [hi d hd]
      unfold Config.Inside
      decide
    exact ⟨fun d _ hd hinside _ => absurd hinside (hsrc d hd),
      fun d hd hrtp _ => absurd (.inr hrtp) (hsrc d hd)⟩
  have hhonest : Honest .default serverValid s (.recv (some greeting.bytes) true) := by
    intro d stream hd _ hk
    obtain rfl := Option.some.inj ((hfits.receives s true).symm.trans hd)
    obtain rfl := Option.some.inj (hstream.symm.trans hk)
    simp [serverValid, greeting]
  have hanswers : Answers .default s (.recv (some greeting.bytes) true) := by
    intro d hd hrtp
    obtain rfl := Option.some.inj ((hfits.receives s true).symm.trans hd)
    exact absurd hrtp (by decide)
  have hticks : Honest .default serverValid t (.tick fun _ => false) ∧
      Answers .default t (.tick fun _ => false) :=
    ⟨fun _ _ hd => (by cases hd), fun _ hd => (by cases hd)⟩
  have hsays := (hsession.next _ ⟨hhonest, hanswers⟩ ht).next (.tick fun _ => false) hticks hu
  exact ⟨s, t, u, _, hfits.receives s true, ht, hu, hwritten.lookup, rfl,
    sendTo_outside server_drains server_authenticates hsays _ _ hwritten.lookup⟩

/-- A media packet to an address without a stream makes its sender, `rtp_endpoint`, the peer of a
new one. -/
theorem rtpEndpoint_becomes_peer : server.Drains ∧ server.Authenticates serverValid ∧
    ∃ s : State server, Reaches (step .default) (Honest .default serverValid) (initial server) s ∧
      ∃ stream, s.streams.lookup ⟨2, 443, 0, 0⟩ = some stream ∧
        stream.bio.sendTo = Config.default.rtpEndpoint := by
  refine ⟨server_drains, server_authenticates, ?_⟩
  have hfits : Datagram.Fits ⟨⟨2, 443, 0, 0⟩, Config.default.rtpEndpoint, [128, 96]⟩ :=
    ⟨by decide, by decide, by simp⟩
  obtain ⟨s, hstep, hcall, -⟩ :=
    arrives_new .default (hfits.receives (initial server) true) rfl rfl (by decide)
  refine ⟨s, Reaches.refl.next _ ?_ hstep, _, hcall.lookup, rfl⟩
  intro d stream _ _ hstream
  cases hstream

end Masquerade.DtlsProxy
