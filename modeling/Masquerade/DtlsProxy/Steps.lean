import Masquerade.DtlsProxy.Machine

/-! All that one step of the proxy can do to its streams. -/

namespace Masquerade.DtlsProxy

open Lib Wire

variable {E : Engine} {cfg : Config} {s s' : State E} {i : Input}

def State.receives (s : State E) : Input → Option Datagram
  | .recv (some received) _ =>
    if h : received.length ≤ 4144 then
      match (s.packet.recv received h).datagram received.length with
      | .ok d => d
      | .error _ => none
    else none
  | _ => none

def Pc.Idle : Pc E → Prop
  | .recv | .exited | .panicked => True
  | _ => False

section Lookup

variable {streams : Streams E} {k addr : SocketAddrV6} {stream stream' : SslStream E}

lemma lookup_insert_eq_some (h : (streams.insert addr stream).lookup k = some stream') :
    k ≠ addr ∧ streams.lookup k = some stream' ∨ k = addr ∧ stream = stream' := by
  by_cases hk : k = addr
  · subst hk
    rw [AList.lookup_insert] at h
    exact .inr ⟨rfl, Option.some.inj h⟩
  · rw [AList.lookup_insert_ne hk] at h
    exact .inl ⟨hk, h⟩

lemma lookup_erase_eq_some (h : (streams.erase addr).lookup k = some stream') :
    k ≠ addr ∧ streams.lookup k = some stream' := by
  by_cases hk : k = addr
  · subst hk
    rw [AList.lookup_erase] at h
    cases h
  · rw [AList.lookup_erase_ne hk] at h
    exact ⟨hk, h⟩

lemma lookup_retain {keep : SocketAddrV6 → Bool} :
    (streams.retain keep).lookup k = some stream ↔ streams.lookup k = some stream ∧
      keep k = true := by
  have hentries : ∀ {t : Streams E}, t.lookup k = some stream ↔ ⟨k, stream⟩ ∈ t.entries :=
    AList.mem_lookup_iff
  rw [hentries, hentries, Streams.retain, List.mem_filter]

lemma lookup_cleanup {old : SocketAddrV6 → Bool} (hold : old k = false) :
    (cleanup s old).streams.lookup k = s.streams.lookup k := by
  unfold cleanup
  split_ifs
  · apply Option.ext
    intro stream
    exact Iff.trans lookup_retain (by simp [hold])
  · rfl

lemma lookup_of_cleanup {old : SocketAddrV6 → Bool}
    (h : (cleanup s old).streams.lookup k = some stream) :
    s.streams.lookup k = some stream := by
  unfold cleanup at h
  split_ifs at h
  · exact (lookup_retain.mp h).1
  · exact h

@[simp] lemma cleanup_pc (old : SocketAddrV6 → Bool) : (cleanup s old).pc = .recv := by
  unfold cleanup
  split_ifs <;> rfl

end Lookup

inductive Step (cfg : Config) (s : State E) (i : Input) (s' : State E) : Prop
  | dropped (hpc : s.pc = .recv) (hs : s'.streams = s.streams) (hpc' : s'.pc = .recv)
  | refused (d : Datagram) (hpc : s.pc = .recv) (hd : s.receives i = some d)
      (hvacant : s.streams.lookup d.dst = none) (hs : s'.streams = s.streams)
      (hpc' : s'.pc = .exited)
  | broken (dst src : SocketAddrV6) (handshake : Bool) (c : E.Call)
      (hpc : s.pc = .call dst src handshake c) (hpacket : ¬ s.packet.Whole)
      (hs : s'.streams = s.streams) (hpc' : s'.pc = .panicked)
  | created (d : Datagram) (outcome : Option Bytes) (hpc : s.pc = .recv)
      (hi : i = .recv outcome true) (hd : s.receives i = some d)
      (hvacant : s.streams.lookup d.dst = none) (hsrc : d.src ≠ cfg.endpoint)
      (hpacket : s'.packet.Holds d) (hs : s'.streams = s.streams.insert d.dst (.new E d))
      (hpc' : s'.pc = .call d.dst d.src true (E.start .doHandshake E.accept))
  | asked (d : Datagram) (stream : SslStream E) (r : Request) (hpc : s.pc = .recv)
      (hd : s.receives i = some d) (hstream : s.streams.lookup d.dst = some stream)
      (hfate : fate cfg stream d = .request r)
      (hpacket : s'.packet.Holds d) (hs : s'.streams = s.streams)
      (hpc' : s'.pc = .call d.dst d.src (r = .doHandshake) (E.start r stream.ssl))
  | media (d : Datagram) (stream : SslStream E) (sessions : E.Inbound × E.Outbound)
      (hpc : s.pc = .recv) (hd : s.receives i = some d)
      (hstream : s.streams.lookup d.dst = some stream) (hfate : ∃ rtcp incoming outgoing,
      fate cfg stream d = .unprotect rtcp incoming outgoing ∨
        fate cfg stream d = .protect rtcp incoming outgoing)
      (hs : s'.streams = s.streams.insert d.dst
      ⟨stream.ssl, { stream.bio with sessions := some sessions }⟩) (hpc' : s'.pc.Idle) (hrefused :
      ∀ rtcp incoming outgoing, fate cfg stream d = .unprotect rtcp incoming outgoing →
        (∀ cursor : Cursor, cursor.data = d.payload →
          (E.unprotect rtcp incoming cursor).2.2 = false) → s'.pc = .recv)
  | read (dst src : SocketAddrV6) (handshake : Bool) (c : E.Call) (stream : SslStream E)
      (size : ℕ) (r : Except ErrorKind Bytes) (hpc : s.pc = .call dst src handshake c)
      (hstream : s.streams.lookup dst = some stream) (hnext : E.next c = .read size)
      (hread : s.packet.read stream.bio.sendFrom size = .ok (s'.packet, r))
      (hs : s'.streams = s.streams) (hpc' : s'.pc = .call dst src handshake (E.wasRead c r))
  | wrote (dst src : SocketAddrV6) (handshake : Bool) (c : E.Call)
      (stream : SslStream E) (buf : Bytes) (sent : List Bytes)
      (r : Except ErrorKind ℕ) (hpc : s.pc = .call dst src handshake c)
      (hstream : s.streams.lookup dst = some stream) (hnext : E.next c = .write buf) (hwrite :
      s.packet.write stream.bio.sendFrom stream.bio.sendTo buf = .ok (s'.packet, sent, r))
      (hs : s'.streams = s.streams) (hpc' : s'.pc = .call dst src handshake (E.wasWritten c r))
  | returned (dst src : SocketAddrV6) (handshake : Bool) (c : E.Call) (stream : SslStream E)
      (ssl : E.Ssl) (result : Except ErrorCode Unit) (sessions : Option (E.Inbound × E.Outbound))
      (hpc : s.pc = .call dst src handshake c) (hstream : s.streams.lookup dst = some stream)
      (hnext : E.next c = .ret ssl result) (hs : s'.streams = s.streams.insert dst
      ⟨ssl, { stream.bio with sessions := sessions }⟩) (hpc' : s'.pc = .pull dst src)
  | removed (dst src : SocketAddrV6) (handshake : Bool) (c : E.Call) (stream : SslStream E)
      (ssl : E.Ssl) (code : ErrorCode) (hpc : s.pc = .call dst src handshake c)
      (hstream : s.streams.lookup dst = some stream) (hnext : E.next c = .ret ssl (.error code))
      (hcode : code ≠ .wantRead ∧ code ≠ .wantWrite)
      (hkept : ∀ k stream, s'.streams.lookup k = some stream ↔
        k ≠ dst ∧ s.streams.lookup k = some stream) (hpc' : s'.pc = .recv)
  | pulled (dst src : SocketAddrV6) (stream : SslStream E) (ssl : E.Ssl)
      (buf : { buf : Bytes // buf.length ≤ 4096 }) (hpc : s.pc = .pull dst src)
      (hstream : s.streams.lookup dst = some stream) (hpending : 0 < E.pending stream.ssl)
      (hread : E.sslRead stream.ssl = (ssl, .ok buf)) (hs : s'.streams =
      s.streams.insert dst ⟨ssl, { stream.bio with sendTo := src }⟩) (hpc' : s'.pc = .pull dst src)
  | pullFailed (dst src : SocketAddrV6) (stream : SslStream E) (ssl : E.Ssl) (code : ErrorCode)
      (old : SocketAddrV6 → Bool) (hpc : s.pc = .pull dst src) (hi : i = .tick old)
      (hstream : s.streams.lookup dst = some stream) (hpending : 0 < E.pending stream.ssl)
      (hread : E.sslRead stream.ssl = (ssl, .error code))
      (hs : s' = cleanup (s.put dst { stream with ssl := ssl }) old)
  | done (dst src : SocketAddrV6) (stream : SslStream E)
      (old : SocketAddrV6 → Bool) (hpc : s.pc = .pull dst src) (hi : i = .tick old)
      (hstream : s.streams.lookup dst = some stream) (hpending : E.pending stream.ssl = 0)
      (hs : s' = cleanup s old)

lemma receives_recv {received : Bytes} {created : Bool} {d : Datagram} (h : received.length ≤ 4144)
    (hd : (s.packet.recv received h).datagram received.length = .ok (some d)) :
    s.receives (.recv (some received) created) = some d := by
  rw [State.receives, dif_pos h, hd]

section Dispatch

variable {d : Datagram} {stream : SslStream E}

lemma Udp6Packet.Holds.position {p : Udp6Packet} (h : p.Holds d) :
    ∃ position, subChecked p.udp.length.toNat 8 = .ok position ∧
      Cursor.data ⟨p.buffer, position⟩ = d.payload := by
  have hunread := h.unread
  unfold Udp6Packet.unread at hunread
  split_ifs at hunread with hburned
  have height : 8 ≤ p.udp.length.toNat := UInt16.le_iff_toNat_le.mp (UInt16.not_lt.mp hburned)
  exact ⟨_, subChecked_ok height, Option.some.inj hunread⟩

lemma media_cases (cfg : Config) (d : Datagram) (stream : SslStream E)
    (sessions : E.Inbound × E.Outbound) (cursor : Cursor) (ok : Bool) (hpc : s.pc = .recv) :
    (media cfg s d stream sessions cursor ok).streams =
        s.streams.insert d.dst ⟨stream.ssl, { stream.bio with sessions := some sessions }⟩ ∧
      (media cfg s d stream sessions cursor ok).pc.Idle := by
  have hrecv : s.pc.Idle := by
    rw [hpc]
    trivial
  unfold media
  cases ok with
  | false => exact ⟨rfl, hrecv⟩
  | true =>
    simp only [not_true_eq_false, if_false]
    generalize (if d.src = cfg.rtpEndpoint then stream.bio.sendTo else cfg.rtpEndpoint) = receiver
    split
    · exact ⟨rfl, trivial⟩
    · exact ⟨rfl, trivial⟩
    · exact ⟨rfl, hrecv⟩

lemma media_failed (sessions : E.Inbound × E.Outbound) (cursor : Cursor) (hpc : s.pc = .recv) :
    (media cfg s d stream sessions cursor false).pc = .recv := hpc

lemma dispatch_request {r : Request} (h : fate cfg stream d = .request r) :
    dispatch cfg s d stream =
      s.goto (.call d.dst d.src (r = .doHandshake) (E.start r stream.ssl)) := by
  rw [dispatch, h]

lemma fate_new (d : Datagram) : fate cfg (.new E d) d = .request .doHandshake := by
  simp [fate, SslStream.new, E.accept_unfinished]

lemma dispatch_cases (cfg : Config) (stream : SslStream E) (hpc : s.pc = .recv)
    (hp : s.packet.Holds d) :
    fate cfg stream d = .drop ∧ dispatch cfg s d stream = s ∨
    (∃ r, fate cfg stream d = .request r) ∨
    (∃ rtcp incoming outgoing, fate cfg stream d = .unprotect rtcp incoming outgoing ∨
      fate cfg stream d = .protect rtcp incoming outgoing) ∧
        ∃ sessions, (dispatch cfg s d stream).streams =
        s.streams.insert d.dst ⟨stream.ssl, { stream.bio with sessions := some sessions }⟩ ∧
      (dispatch cfg s d stream).pc.Idle ∧
      ∀ rtcp incoming outgoing, fate cfg stream d = .unprotect rtcp incoming outgoing →
        (∀ cursor : Cursor, cursor.data = d.payload →
          (E.unprotect rtcp incoming cursor).2.2 = false) →
          (dispatch cfg s d stream).pc = .recv := by
  obtain ⟨position, hposition, hdata⟩ := hp.position
  unfold dispatch
  cases hfate : fate cfg stream d with
  | drop => exact .inl ⟨rfl, rfl⟩
  | request r => exact .inr (.inl ⟨r, rfl⟩)
  | unprotect rtcp incoming outgoing =>
    simp only [hposition]
    obtain ⟨hstreams, hidle⟩ := media_cases cfg d stream
      ((E.unprotect rtcp incoming ⟨s.packet.buffer, position⟩).1, outgoing)
      (E.unprotect rtcp incoming ⟨s.packet.buffer, position⟩).2.1
      (E.unprotect rtcp incoming ⟨s.packet.buffer, position⟩).2.2 hpc
    refine .inr (.inr ⟨⟨_, _, _, .inl rfl⟩, _, hstreams, hidle, ?_⟩)
    rintro rtcp' incoming' outgoing' ⟨rfl, rfl, rfl⟩ hfails
    rw [hfails _ hdata]
    exact media_failed _ _ hpc
  | protect rtcp incoming outgoing =>
    simp only [hposition]
    obtain ⟨hstreams, hidle⟩ := media_cases cfg d stream
      (incoming, (E.protect rtcp outgoing ⟨s.packet.buffer, position⟩).1)
      (E.protect rtcp outgoing ⟨s.packet.buffer, position⟩).2.1
      (E.protect rtcp outgoing ⟨s.packet.buffer, position⟩).2.2 hpc
    refine .inr (.inr ⟨⟨_, _, _, .inr rfl⟩, _, hstreams, hidle, ?_⟩)
    rintro rtcp' incoming' outgoing' ⟨⟩

end Dispatch

lemma accepted_cases {d : Datagram} {outcome : Option Bytes} {created : Bool} {p : Udp6Packet}
    (hpc : s.pc = .recv) (hd : s.receives (.recv outcome created) = some d) (hp : p.Holds d) :
    Step cfg s (.recv outcome created) (accepted cfg { s with packet := p } d created) := by
  unfold accepted
  cases hstream : s.streams.lookup d.dst with
  | none =>
    simp only
    by_cases hsrc : d.src = cfg.endpoint
    · rw [if_pos hsrc]
      exact .dropped hpc rfl hpc
    rw [if_neg hsrc]
    cases created with
    | false => exact .refused d hpc hd hstream rfl rfl
    | true =>
      rw [if_neg (by simp), dispatch_request (fate_new d)]
      exact .created d outcome hpc rfl hd hstream hsrc hp rfl rfl
  | some stream =>
    simp only
    obtain ⟨-, hs⟩ | ⟨r, hfate⟩ | ⟨hfate, sessions, hs, hidle, hrefused⟩ :=
      dispatch_cases (s := { s with packet := p }) cfg stream hpc hp
    · rw [hs]
      exact .dropped hpc rfl hpc
    · rw [dispatch_request hfate]
      exact .asked d stream r hpc hd hstream hfate hp rfl rfl
    · exact .media d stream sessions hpc hd hstream hfate hs hidle hrefused

lemma recv_cases {outcome : Option Bytes} {created : Bool} (hpc : s.pc = .recv)
    (h : recv cfg s outcome created = some s') : Step cfg s (.recv outcome created) s' := by
  cases outcome with
  | none =>
    cases h
    exact .dropped hpc rfl hpc
  | some received =>
    rw [recv] at h
    split_ifs at h with hlen
    simp only [Option.some.injEq] at h
    obtain hnone | ⟨d, hd, hholds, -⟩ := (s.packet.recv received hlen).datagram_cases hlen
    · simp only [hnone] at h
      cases h
      exact .dropped hpc rfl hpc
    · simp only [hd] at h
      cases h
      exact accepted_cases hpc (receives_recv hlen hd) hholds

lemma returned_cases {dst src : SocketAddrV6} {handshake : Bool} {c : E.Call} {stream : SslStream E}
    {ssl : E.Ssl} {result : Except ErrorCode Unit} (hpc : s.pc = .call dst src handshake c)
    (hstream : s.streams.lookup dst = some stream) (hnext : E.next c = .ret ssl result) :
    Step cfg s i (returned s dst src handshake stream ssl result) := by
  unfold returned
  generalize
    (if handshake && E.isInitFinished ssl then E.sessionPair ssl else stream.bio.sessions) =
      sessions
  cases result with
  | ok _ => exact .returned dst src handshake c stream ssl _ _ hpc hstream hnext rfl rfl
  | error code =>
    simp only
    by_cases hcode : code = .wantRead ∨ code = .wantWrite
    · rw [if_pos hcode]
      exact .returned dst src handshake c stream ssl _ _ hpc hstream hnext rfl rfl
    · rw [if_neg hcode]
      rw [not_or] at hcode
      refine .removed dst src handshake c stream ssl code hpc hstream hnext hcode ?_ rfl
      intro k stream'
      constructor
      · intro h
        obtain ⟨hk, h⟩ := lookup_erase_eq_some h
        exact ⟨hk, by rwa [State.put, AList.lookup_insert_ne hk] at h⟩
      · rintro ⟨hk, h⟩
        rw [AList.lookup_erase_ne hk, State.put, AList.lookup_insert_ne hk, h]

lemma tickCall_cases {dst src : SocketAddrV6} {handshake : Bool} {c : E.Call} {stream : SslStream E}
    (hpc : s.pc = .call dst src handshake c) (hstream : s.streams.lookup dst = some stream) :
    Step cfg s i (tickCall s dst src handshake c stream) := by
  unfold tickCall
  cases hnext : E.next c with
  | read size =>
    simp only
    cases hread : s.packet.read stream.bio.sendFrom size with
    | error e =>
      refine .broken dst src handshake c hpc (fun hwhole => ?_) rfl rfl
      obtain ⟨r, hr⟩ := Udp6Packet.read_ok stream.bio.sendFrom size hwhole
      rw [hr] at hread
      cases hread
    | ok r => exact .read dst src handshake c stream size r.2 hpc hstream hnext hread rfl rfl
  | write buf =>
    obtain ⟨p, sent, r, hwrite, -⟩ := s.packet.write_cases stream.bio.sendFrom stream.bio.sendTo buf
    simp only [hwrite]
    exact .wrote dst src handshake c stream buf sent r hpc hstream hnext hwrite rfl rfl
  | ret ssl result => exact returned_cases hpc hstream hnext

lemma tickPull_cases {dst src : SocketAddrV6} {stream : SslStream E} {old : SocketAddrV6 → Bool}
    (hpc : s.pc = .pull dst src) (hstream : s.streams.lookup dst = some stream) :
    Step cfg s (.tick old) (tickPull cfg s dst src stream old) := by
  unfold tickPull
  split_ifs with hpending
  · rcases hread : E.sslRead stream.ssl with ⟨ssl, code | ⟨buf, hbuf⟩⟩
    · exact .pullFailed dst src stream ssl code old hpc rfl hstream hpending hread rfl
    · obtain ⟨q, hq⟩ := { s.packet with buffer := s.packet.buffer.fill buf hbuf }.address_ok
        stream.bio.sendFrom cfg.endpoint hbuf
      obtain ⟨packet, hpacket⟩ := q.sent_ok hbuf
      simp only [State.put, hq, hpacket]
      exact .pulled dst src stream ssl ⟨buf, hbuf⟩ hpc hstream hpending hread rfl hpc
  · exact .done dst src stream old hpc rfl hstream (Nat.eq_zero_of_not_pos hpending) rfl

lemma pc_of_recv {outcome : Option Bytes} {created : Bool}
    (h : step cfg s (.recv outcome created) = some s') :
    s.pc = .recv := by
  cases hpc : s.pc <;> simp [step, hpc] at h ⊢

theorem step_cases (h : step cfg s i = some s') : Step cfg s i s' := by
  cases i with
  | recv outcome created =>
    have hpc := pc_of_recv h
    simp only [step, hpc] at h
    exact recv_cases hpc h
  | tick old =>
    unfold step at h
    cases hpc : s.pc with
    | call dst src handshake c =>
      simp only [hpc, Option.map_eq_some_iff] at h
      obtain ⟨stream, hstream, rfl⟩ := h
      exact tickCall_cases hpc hstream
    | pull dst src =>
      simp only [hpc, Option.map_eq_some_iff] at h
      obtain ⟨stream, hstream, rfl⟩ := h
      exact tickPull_cases hpc hstream
    | recv => simp [hpc] at h
    | exited => simp [hpc] at h
    | panicked => simp [hpc] at h

end Masquerade.DtlsProxy
