import Masquerade.DtlsProxy.Arrivals

/-! Every packet that is sent would be accepted by the checks made on reception. -/

namespace Masquerade.DtlsProxy

open Lib Wire

structure Emitted (packet : Bytes) (src dst : SocketAddrV6) (payload : Bytes) : Prop where
  size : packet.length = 48 + payload.length
  version : Ip6Flags.version (Ip6Header.ofBytes packet).flags = 6
  len : (Ip6Header.ofBytes packet).len = packet.length
  nextHeader : (Ip6Header.ofBytes packet).nextHeader = IpProto.udp
  length : (UdpHeader.ofBytes (packet.drop 40)).length = (Ip6Header.ofBytes packet).payloadLength
  payloadLength : (Ip6Header.ofBytes packet).payloadLength.toNat = 8 + payload.length
  sender : (Ip6Header.ofBytes packet).src = src.ip ∧
    (UdpHeader.ofBytes (packet.drop 40)).srcPort = src.port
  receiver : (Ip6Header.ofBytes packet).dst = dst.ip ∧
    (UdpHeader.ofBytes (packet.drop 40)).dstPort = dst.port
  checksum : Verifies (Ip6Header.ofBytes packet) (UdpHeader.ofBytes (packet.drop 40)) payload
  body : packet.drop 48 = payload
  accepted : ∃ h, ∀ p : Udp6Packet, (p.recv packet h).datagram packet.length =
    .ok (some ⟨⟨dst.ip, dst.port, 0, 0⟩, ⟨src.ip, src.port, 0, 0⟩, payload⟩)

section Sites

variable {p q : Udp6Packet} {src dst : SocketAddrV6} {n : ℕ}

structure Udp6Packet.Addressed (q : Udp6Packet) (src dst : SocketAddrV6) (n : ℕ) : Prop where
  version : Ip6Flags.version q.ip.flags = 6
  nextHeader : q.ip.nextHeader = IpProto.udp
  payloadLength : q.ip.payloadLength.toNat = 8 + n
  length : q.udp.length = q.ip.payloadLength
  sender : q.ip.src = src.ip ∧ q.udp.srcPort = src.port
  receiver : q.ip.dst = dst.ip ∧ q.udp.dstPort = dst.port
  checksum : Verifies q.ip q.udp (q.buffer.toList.take n)

lemma Udp6Packet.Addressed.emitted (h : q.Addressed src dst n) (hn : n ≤ 4096) :
    readAt q.asBytes 0 (48 + n) = .ok (q.asBytes.take (48 + n)) ∧
      Emitted (q.asBytes.take (48 + n)) src dst (q.buffer.toList.take n) := by
  have hbytes : q.asBytes.take (48 + n) = q.ip.asBytes ++ q.udp.asBytes ++
      q.buffer.toList.take n := by
    rw [asBytes, List.take_append, List.take_of_length_le (by simp)]
    simp
  have hpayload : (q.buffer.toList.take n).length = n := by simp [hn]
  have hsize : (q.asBytes.take (48 + n)).length = 48 + n := by
    rw [List.length_take, asBytes_length]; omega
  have hip : Ip6Header.ofBytes (q.asBytes.take (48 + n)) = q.ip := by
    rw [hbytes, List.append_assoc, Ip6Header.ofBytes_asBytes]
  have hudp : UdpHeader.ofBytes ((q.asBytes.take (48 + n)).drop 40) = q.udp := by
    rw [hbytes, List.append_assoc, List.drop_left' (Ip6Header.asBytes_length _),
      UdpHeader.ofBytes_asBytes]
  refine ⟨by rw [readAt_ok (by rw [asBytes_length]; omega), slice_zero], ?_⟩
  constructor
  · rw [hsize, hpayload]
  · rw [hip, h.version]
  · rw [hip, Ip6Header.len, h.payloadLength, hsize]
    omega
  · rw [hip, h.nextHeader]
  · rw [hip, hudp, h.length]
  · rw [hip, h.payloadLength, hpayload]
  · rw [hip, hudp]
    exact h.sender
  · rw [hip, hudp]
    exact h.receiver
  · rw [hip, hudp]
    exact h.checksum
  · rw [hbytes, List.drop_left' (by simp)]
  · refine ⟨by omega, fun p => ?_⟩
    have hfits : (q.ip.asBytes ++ q.udp.asBytes ++ q.buffer.toList.take n).length ≤ 4144 := by
      rw [← hbytes]; omega
    have hrecv := p.datagram_recv _ _ _ h.version h.nextHeader h.length
      (h.payloadLength.trans (by rw [hpayload])) hfits
    rw [h.sender.1, h.sender.2, h.receiver.1, h.receiver.2] at hrecv
    simpa only [hbytes] using hrecv

lemma fill_take (buffer : Buffer) {buf : Bytes} (h : buf.length ≤ 4096) :
    (buffer.fill buf h).toList.take buf.length = buf := by
  change (splice buffer.toList 0 buf).take buf.length = buf
  rw [splice, List.take_zero, List.nil_append, List.take_left]

lemma address_emits (p : Udp6Packet) (sendFrom sendTo : SocketAddrV6) {buf : Bytes}
    (h : buf.length ≤ 4096) :
    ∃ q packet, { p with buffer := p.buffer.fill buf h }.address sendFrom sendTo buf = .ok q ∧
      readAt q.asBytes 0 (40 + (8 + buf.length)) = .ok packet ∧
        Emitted packet sendFrom sendTo buf := by
  have hfill := fill_take p.buffer h
  unfold Udp6Packet.address
  simp only [Common.setFlags]
  generalize hip : (⟨0x60000000#32, UInt16.ofNat (8 + buf.length), IpProto.udp, 64, sendFrom.ip,
    sendTo.ip⟩ : Ip6Header) = ip
  obtain ⟨c, hc⟩ := udpChecksumFill_ok ip ⟨sendFrom.port, sendTo.port,
    UInt16.ofNat (8 + buf.length), p.udp.checksum⟩ (show buf.length ≤ 65535 by omega)
  have hverifies := udpChecksumFill_verifies (show buf.length ≤ 65535 by omega) hc
  rw [hc, ok_bind]
  have haddressed : Udp6Packet.Addressed ⟨ip, ⟨sendFrom.port, sendTo.port,
      UInt16.ofNat (8 + buf.length), c⟩, p.buffer.fill buf h⟩ sendFrom sendTo buf.length := by
    subst hip
    exact ⟨show Ip6Flags.version 0x60000000#32 = 6 by decide, rfl, Common.toNat_ofNat16 (by omega),
      rfl, ⟨rfl, rfl⟩, ⟨rfl, rfl⟩, by rwa [hfill]⟩
  obtain ⟨hread, hemitted⟩ := haddressed.emitted h
  rw [hfill] at hemitted
  refine ⟨_, _, rfl, ?_, hemitted⟩
  rw [show 40 + (8 + buf.length) = 48 + buf.length by omega]
  exact hread

lemma forward_emits (hversion : Ip6Flags.version p.ip.flags = 6)
    (hnext : p.ip.nextHeader = IpProto.udp) (sendFrom receiver : SocketAddrV6) {cursor : Cursor}
    (hposition : cursor.position ≤ 4096) :
    ∃ q packet, p.forward sendFrom receiver cursor = .ok (some (q, packet)) ∧
      Emitted packet sendFrom receiver cursor.data := by
  have hbuffer := cursor.buffer.toList_length
  have hdata : (cursor.buffer.toList.take cursor.position).length ≤ 65535 := by
    rw [List.length_take]; omega
  unfold Udp6Packet.forward
  rw [readAt_ok (by omega), ok_bind, slice_zero, if_neg (by omega)]
  simp only
  generalize hip : ({ p.ip with
    payloadLength := UInt16.ofNat (8 + cursor.position)
    src := sendFrom.ip
    dst := receiver.ip } : Ip6Header) = ip
  obtain ⟨c, hc⟩ := udpChecksumFill_ok ip
    ⟨sendFrom.port, receiver.port, UInt16.ofNat (8 + cursor.position), p.udp.checksum⟩ hdata
  have hverifies := udpChecksumFill_verifies hdata hc
  have haddressed : Udp6Packet.Addressed ⟨ip, ⟨sendFrom.port, receiver.port,
      UInt16.ofNat (8 + cursor.position), c⟩, cursor.buffer⟩ sendFrom receiver cursor.position := by
    subst hip
    exact ⟨hversion, hnext, Common.toNat_ofNat16 (by omega), rfl, ⟨rfl, rfl⟩, ⟨rfl, rfl⟩, hverifies⟩
  obtain ⟨hread, hemitted⟩ := haddressed.emitted hposition
  rw [hc, ok_bind, show 40 + 8 + cursor.position = 48 + cursor.position by omega, hread]
  exact ⟨_, _, rfl, hemitted⟩

lemma write_emits (p : Udp6Packet) (sendFrom sendTo : SocketAddrV6) {buf : Bytes}
    (h : buf.length ≤ 4096) :
    ∃ q packet, p.write sendFrom sendTo buf = .ok (q, [packet], .ok buf.length) ∧
      Emitted packet sendFrom sendTo buf := by
  obtain ⟨q, packet, hq, hread, hemitted⟩ := address_emits p sendFrom sendTo h
  rw [Udp6Packet.write, dif_pos h, hq, ok_bind, hread]
  exact ⟨q.burn, packet, rfl, hemitted⟩

end Sites

structure Engine.Bounded (E : Engine) : Prop where
  unprotect : ∀ rtcp incoming cursor, cursor.position ≤ 4096 →
    (E.unprotect rtcp incoming cursor).2.1.position ≤ 4096
  protect : ∀ rtcp outgoing cursor, cursor.position ≤ 4096 →
    (E.protect rtcp outgoing cursor).2.1.position ≤ 4096

variable {E : Engine} {cfg : Config} {s s' : State E} {i : Input} {src dst : SocketAddrV6}
  {payload : Bytes}

def Fate.converts (cursor : Cursor) : Fate E → Option (Cursor × Bool)
  | .unprotect rtcp incoming _ => some (E.unprotect rtcp incoming cursor).2
  | .protect rtcp _ outgoing => some (E.protect rtcp outgoing cursor).2
  | _ => none

inductive Emission (cfg : Config) (s : State E) : Input → SocketAddrV6 → SocketAddrV6 → Bytes → Prop
  | written {dst src : SocketAddrV6} {handshake : Bool} {c : E.Call} {stream : SslStream E}
      {buf : Bytes} {old : SocketAddrV6 → Bool} (hpc : s.pc = .call dst src handshake c)
      (hstream : s.streams.lookup dst = some stream) (hnext : E.next c = .write buf)
      (hfits : buf.length ≤ 4096) :
      Emission cfg s (.tick old) stream.bio.sendFrom stream.bio.sendTo buf
  | media {received : Bytes} {created : Bool} {d : Datagram} {stream : SslStream E}
      {cursor : Cursor} (h : received.length ≤ 4144) (hpc : s.pc = .recv)
      (hd : (s.packet.recv received h).datagram received.length = .ok (some d))
      (hstream : s.streams.lookup d.dst = some stream) (hmedia : (fate cfg stream d).converts
      ⟨(s.packet.recv received h).buffer, d.payload.length⟩ = some (cursor, true)) :
      Emission cfg s (.recv (some received) created) stream.bio.sendFrom
        (if d.src = cfg.rtpEndpoint then stream.bio.sendTo else cfg.rtpEndpoint) cursor.data
  | plain {dst src : SocketAddrV6} {stream : SslStream E} {ssl : E.Ssl}
      {buf : { buf : Bytes // buf.length ≤ 4096 }} {old : SocketAddrV6 → Bool}
      (hpc : s.pc = .pull dst src) (hstream : s.streams.lookup dst = some stream)
      (hpending : 0 < E.pending stream.ssl) (hread : E.sslRead stream.ssl = (ssl, .ok buf)) :
      Emission cfg s (.tick old) stream.bio.sendFrom cfg.endpoint buf

section Media

variable {d : Datagram} {stream : SslStream E} {cursor : Cursor} {ok : Bool} {n : ℕ}

lemma dispatch_media (hn : subChecked s.packet.udp.length.toNat 8 = .ok n)
    (h : (fate cfg stream d).converts ⟨s.packet.buffer, n⟩ = some (cursor, ok)) :
    ∃ sessions, dispatch cfg s d stream = media cfg s d stream sessions cursor ok := by
  unfold dispatch
  cases hfate : fate cfg stream d with
  | drop => rw [hfate] at h; cases h
  | request r => rw [hfate] at h; cases h
  | unprotect rtcp incoming outgoing =>
    rw [hfate] at h
    obtain rfl : _ = cursor := congrArg Prod.fst (Option.some.inj h)
    obtain rfl : _ = ok := congrArg Prod.snd (Option.some.inj h)
    simp only [hn]
    exact ⟨_, rfl⟩
  | protect rtcp incoming outgoing =>
    rw [hfate] at h
    obtain rfl : _ = cursor := congrArg Prod.fst (Option.some.inj h)
    obtain rfl : _ = ok := congrArg Prod.snd (Option.some.inj h)
    simp only [hn]
    exact ⟨_, rfl⟩

lemma converts_bounded (hE : E.Bounded) {fate : Fate E} {before : Cursor}
    (hbefore : before.position ≤ 4096) (h : fate.converts before = some (cursor, ok)) :
    cursor.position ≤ 4096 := by
  cases fate with
  | drop => cases h
  | request r => cases h
  | unprotect rtcp incoming outgoing =>
    have := hE.unprotect rtcp incoming before hbefore
    rwa [Option.some.inj h] at this
  | protect rtcp incoming outgoing =>
    have := hE.protect rtcp outgoing before hbefore
    rwa [Option.some.inj h] at this

variable (cfg d) in
lemma media_emits (hversion : Ip6Flags.version s.packet.ip.flags = 6)
    (hnext : s.packet.ip.nextHeader = IpProto.udp) (hposition : cursor.position ≤ 4096)
    (sessions : E.Inbound × E.Outbound) :
    (media cfg s d stream sessions cursor true).pc = s.pc ∧
      ∃ packet, (media cfg s d stream sessions cursor true).sent = s.sent ++ [packet] ∧
        Emitted packet stream.bio.sendFrom
          (if d.src = cfg.rtpEndpoint then stream.bio.sendTo else cfg.rtpEndpoint)
          cursor.data := by
  obtain ⟨q, packet, hforward, hemitted⟩ := forward_emits hversion hnext stream.bio.sendFrom
    (if d.src = cfg.rtpEndpoint then stream.bio.sendTo else cfg.rtpEndpoint) hposition
  unfold media
  simp only [not_true_eq_false, if_false, State.put, hforward]
  exact ⟨trivial, packet, rfl, hemitted⟩

end Media

lemma Udp6Packet.position_of_datagram {p : Udp6Packet} {length : ℕ} {d : Datagram}
    (hlength : length ≤ 4144) (hd : p.datagram length = .ok (some d)) :
    subChecked p.udp.length.toNat 8 = .ok d.payload.length ∧ d.payload.length ≤ 4096 := by
  obtain ⟨-, hlen, -, hsame, height, hpayload⟩ := datagram_some hd
  have hbuffer := p.buffer.toList_length
  rw [Ip6Header.len, ← hsame] at hlen
  have hsize : d.payload.length = p.udp.length.toNat - 8 := by
    rw [hpayload, List.length_take]; omega
  rw [hsize]
  exact ⟨subChecked_ok height, by omega⟩

lemma step_accepted {received : Bytes} {d : Datagram} (h : received.length ≤ 4144) (created : Bool)
    (hpc : s.pc = .recv) (hd : (s.packet.recv received h).datagram received.length = .ok (some d)) :
    step cfg s (.recv (some received) created) =
      some (accepted cfg { s with packet := s.packet.recv received h } d created) := by
  unfold step
  simp only [hpc, recv, dif_pos h, hd]

lemma accepted_known {d : Datagram} {stream : SslStream E} {p : Udp6Packet} (created : Bool)
    (hstream : s.streams.lookup d.dst = some stream) :
    accepted cfg { s with packet := p } d created =
      dispatch cfg { s with packet := p } d stream := by
  simp only [accepted, hstream]

lemma Emission.emits (hE : E.Bounded) (he : Emission cfg s i src dst payload)
    (h : step cfg s i = some s') :
    s'.pc ≠ .panicked ∧ ∃ packet, s'.sent = s.sent ++ [packet] ∧
      Emitted packet src dst payload := by
  cases he with
  | @written dst src handshake c stream buf old hpc hstream hnext hfits =>
    obtain ⟨q, packet, hwrite, hemitted⟩ :=
      write_emits s.packet stream.bio.sendFrom stream.bio.sendTo hfits
    simp only [step, hpc, hstream, Option.map_some, tickCall, hnext, hwrite, Option.some.injEq] at h
    subst h
    exact ⟨by simp, packet, rfl, hemitted⟩
  | @media received created d stream cursor hlen hpc hd hstream hmedia =>
    obtain ⟨hversion, -, hnext, -⟩ := Udp6Packet.datagram_some hd
    obtain ⟨hn, hle⟩ := Udp6Packet.position_of_datagram hlen hd
    obtain ⟨sessions, hdispatch⟩ :=
      dispatch_media (s := { s with packet := s.packet.recv received hlen }) hn hmedia
    obtain ⟨hkept, packet, hsent, hemitted⟩ :=
      media_emits (s := { s with packet := s.packet.recv received hlen }) cfg d hversion hnext
      (converts_bounded hE hle hmedia) sessions
    rw [step_accepted hlen created hpc hd, accepted_known created hstream, hdispatch,
      Option.some.injEq] at h
    subst h
    refine ⟨?_, packet, hsent, hemitted⟩
    rw [hkept]
    simp [hpc]
  | @plain dst src stream ssl buf old hpc hstream hpending hread =>
    obtain ⟨q, packet, hq, hpacket, hemitted⟩ :=
      address_emits s.packet stream.bio.sendFrom cfg.endpoint buf.2
    simp only [step, hpc, hstream, Option.map_some, tickPull, if_pos hpending, hread, State.put, hq,
      hpacket, Option.some.injEq] at h
    subst h
    exact ⟨by simp, packet, rfl, hemitted⟩

section Only

structure Silent (s s' : State E) : Prop where
  sent : s'.sent = s.sent
  pc : s'.pc = .panicked → ∃ dst src handshake c, s.pc = .call dst src handshake c ∧
    ¬ s.packet.Whole

lemma cleanup_silent (s₀ : State E) (old : SocketAddrV6 → Bool) (hsent : s.sent = s₀.sent) :
    Silent s₀ (cleanup s old) := by
  refine ⟨?_, fun h => ?_⟩
  · unfold cleanup
    split_ifs <;> exact hsent
  · rw [cleanup_pc] at h
    cases h

lemma recv_silent {outcome : Option Bytes} {created : Bool}
    (h : step cfg s (.recv outcome created) = some s') :
    (∃ src dst payload, Emission cfg s (.recv outcome created) src dst payload) ∨ Silent s s' := by
  have hpc := pc_of_recv h
  cases outcome with
  | none =>
    simp only [step, hpc, recv, Option.some.injEq] at h
    subst h
    exact .inr ⟨rfl, by simp [hpc]⟩
  | some received =>
    have hlen : received.length ≤ 4144 := by
      by_contra hlong
      simp [step, hpc, recv, hlong] at h
    obtain hnone | ⟨d, hd, hholds, -⟩ := (s.packet.recv received hlen).datagram_cases hlen
    · simp only [step, hpc, recv, dif_pos hlen, hnone, Option.some.injEq] at h
      subst h
      exact .inr ⟨rfl, fun hpanicked => by cases hpanicked⟩
    rw [step_accepted hlen created hpc hd, Option.some.injEq] at h
    subst h
    cases hstream : s.streams.lookup d.dst with
    | none =>
      right
      simp only [accepted, hstream]
      split_ifs
      · exact ⟨rfl, by simp [hpc]⟩
      · rw [dispatch_request (fate_new d)]
        exact ⟨rfl, fun hpanicked => by cases hpanicked⟩
      · exact ⟨rfl, fun hpanicked => by cases hpanicked⟩
    | some stream =>
      rw [accepted_known created hstream]
      obtain ⟨hn, -⟩ := Udp6Packet.position_of_datagram hlen hd
      rcases hmedia : (fate cfg stream d).converts
        ⟨(s.packet.recv received hlen).buffer, d.payload.length⟩ with
        _ | ⟨cursor, _ | _⟩
      · right
        cases hfate : fate cfg stream d with
        | drop =>
          rw [dispatch, hfate]
          exact ⟨rfl, by simp [hpc]⟩
        | request r =>
          rw [dispatch_request hfate]
          exact ⟨rfl, fun hpanicked => by cases hpanicked⟩
        | unprotect => rw [hfate] at hmedia; cases hmedia
        | protect => rw [hfate] at hmedia; cases hmedia
      · obtain ⟨sessions, hdispatch⟩ :=
          dispatch_media (s := { s with packet := s.packet.recv received hlen }) hn hmedia
        rw [hdispatch]
        refine .inr ⟨rfl, fun hpanicked => ?_⟩
        cases (media_failed (s := { s with packet := s.packet.recv received hlen }) sessions cursor
          hpc).symm.trans hpanicked
      · exact .inl ⟨_, _, _, .media hlen hpc hd hstream hmedia⟩

lemma returned_silent {dst src : SocketAddrV6} {handshake : Bool}
    (stream : SslStream E) (ssl : E.Ssl) (result : Except ErrorCode Unit) :
    Silent s (returned s dst src handshake stream ssl result) := by
  unfold returned
  cases result with
  | ok _ => exact ⟨rfl, fun hpanicked => by cases hpanicked⟩
  | error code =>
    simp only
    split_ifs <;> exact ⟨rfl, fun hpanicked => by cases hpanicked⟩

lemma tick_silent {old : SocketAddrV6 → Bool} (h : step cfg s (.tick old) = some s') :
    (∃ src dst payload, Emission cfg s (.tick old) src dst payload) ∨ Silent s s' := by
  unfold step at h
  cases hpc : s.pc with
  | call dst src handshake c =>
    simp only [hpc, Option.map_eq_some_iff] at h
    obtain ⟨stream, hstream, rfl⟩ := h
    unfold tickCall
    cases hnext : E.next c with
    | read size =>
      right
      simp only
      cases hread : s.packet.read stream.bio.sendFrom size with
      | ok r => exact ⟨rfl, fun hpanicked => by cases hpanicked⟩
      | error e =>
        refine ⟨rfl, fun _ => ⟨dst, src, handshake, c, hpc, fun hwhole => ?_⟩⟩
        obtain ⟨r, hr⟩ := Udp6Packet.read_ok stream.bio.sendFrom size hwhole
        cases hr.symm.trans hread
    | write buf =>
      by_cases hfits : buf.length ≤ 4096
      · exact .inl ⟨_, _, _, .written hpc hstream hnext hfits⟩
      · have hwrite : s.packet.write stream.bio.sendFrom stream.bio.sendTo buf =
            .ok (s.packet, [], .error .outOfMemory) :=
          dif_neg hfits
        simp only [hwrite]
        exact .inr ⟨List.append_nil _, fun hpanicked => by cases hpanicked⟩
    | ret ssl result => exact .inr (returned_silent stream ssl result)
  | pull dst src =>
    simp only [hpc, Option.map_eq_some_iff] at h
    obtain ⟨stream, hstream, rfl⟩ := h
    unfold tickPull
    split_ifs with hpending
    · rcases hread : E.sslRead stream.ssl with ⟨ssl, code | buf⟩
      · exact .inr (cleanup_silent s old rfl)
      · exact .inl ⟨_, _, _, .plain hpc hstream hpending hread⟩
    · exact .inr (cleanup_silent s old rfl)
  | recv => simp [hpc] at h
  | exited => simp [hpc] at h
  | panicked => simp [hpc] at h

lemma step_silent (h : step cfg s i = some s') :
    (∃ src dst payload, Emission cfg s i src dst payload) ∨ Silent s s' := by
  cases i with
  | recv outcome created => exact recv_silent h
  | tick old => exact tick_silent h

end Only

section Run

variable {allowed : State E → Input → Prop}

lemma exists_calling (hrun : Reaches (step cfg) allowed (initial E) s) {dst src : SocketAddrV6}
    {handshake : Bool} {c : E.Call} (hpc : s.pc = .call dst src handshake c) :
    ∃ d stream r reads, Calling s d stream r reads c := by
  induction hrun generalizing dst src handshake c with
  | refl => cases hpc
  | next i hprev _ hstep ih =>
    obtain ⟨d, -, -, -, -, hcalling⟩ | ⟨d, stream, r, -, -, -, hcalling⟩ |
        ⟨dst, src, handshake, c, hcall⟩ :=
      (step_cases hstep).into_call (keyed hprev) hpc
    · exact ⟨d, _, _, _, hcalling⟩
    · exact ⟨d, stream, r, _, hcalling⟩
    · obtain ⟨d, stream, r, reads, hcalling⟩ := ih hcall
      obtain ⟨reads', hcalling⟩ := hcalling.lasts (step_cases hstep) hpc
      exact ⟨d, stream, r, reads', hcalling⟩

lemma not_panicked (hE : E.Bounded) (hrun : Reaches (step cfg) allowed (initial E) s) :
    s.pc ≠ .panicked := by
  cases hrun with
  | refl => nofun
  | next i hprev _ hstep =>
    obtain ⟨src, dst, payload, he⟩ | hsilent := step_silent hstep
    · exact (he.emits hE hstep).1
    · intro hpanicked
      obtain ⟨dst, src, handshake, c, hcall, hbroken⟩ := hsilent.pc hpanicked
      obtain ⟨d, stream, r, reads, hcalling⟩ := exists_calling hprev hcall
      exact hbroken hcalling.whole

lemma sent_emitted (hE : E.Bounded) (hrun : Reaches (step cfg) allowed (initial E) s) :
    ∀ packet ∈ s.sent, ∃ src dst payload, Emitted packet src dst payload := by
  refine hrun.invariant (P := fun s => ∀ packet ∈ s.sent, ∃ src dst payload,
    Emitted packet src dst payload) nofun ?_
  intro s i s' hs _ hstep
  obtain ⟨src, dst, payload, he⟩ | hsilent := step_silent hstep
  · obtain ⟨-, packet, hsent, hemitted⟩ := he.emits hE hstep
    rw [hsent]
    intro packet' hmem
    rcases List.mem_append.mp hmem with hold | hnew
    · exact hs packet' hold
    · rw [List.mem_singleton.mp hnew]
      exact ⟨src, dst, payload, hemitted⟩
  · rw [hsilent.sent]
    exact hs

theorem emits_acceptable (hE : E.Bounded)
    (hrun : Reaches (step cfg) (fun _ _ => True) (initial E) s) :
    s.pc ≠ .panicked ∧ (∀ packet ∈ s.sent, ∃ src dst payload, Emitted packet src dst payload) ∧
    ∀ i s', step cfg s i = some s' →
      (∀ src dst payload, Emission cfg s i src dst payload →
        ∃ packet, s'.sent = s.sent ++ [packet] ∧ Emitted packet src dst payload) ∧
      (s'.sent ≠ s.sent → ∃ src dst payload, Emission cfg s i src dst payload) := by
  refine ⟨not_panicked hE hrun, sent_emitted hE hrun, fun i s' hstep => ⟨?_, ?_⟩⟩
  · intro src dst payload he
    exact (he.emits hE hstep).2
  · intro hnew
    exact (step_silent hstep).resolve_right fun hsilent => hnew hsilent.sent

end Run

lemma server_bounded : server.Bounded where
  unprotect rtcp incoming cursor h := by
    change (if cursor.data.getLast? = some 42 then
        ((), { cursor with position := cursor.position - 1 }, true)
      else ((), cursor, false) : Unit × Cursor × Bool).2.1.position ≤ 4096
    split_ifs
    · exact (Nat.sub_le _ _).trans h
    · exact h
  protect rtcp outgoing cursor h := by
    change (if h : cursor.position < 4096 then
        ((), ⟨cursor.buffer.set ⟨cursor.position, h⟩ 42, cursor.position + 1⟩, true)
      else ((), cursor, false) : Unit × Cursor × Bool).2.1.position ≤ 4096
    split_ifs with hroom
    · exact hroom
    · exact h

theorem emits_acceptable_hello : ∃ (s s' : State server) (packet : Bytes), Reaches (step .default)
    (fun _ _ => True) (initial server) s ∧ step .default s (.tick fun _ => false) = some s' ∧
      s'.sent = s.sent ++ [packet] ∧ Emitted packet ⟨2, 443, 0, 0⟩ ⟨9, 9, 0, 0⟩ [22, 2] := by
  have hd : (⟨⟨2, 443, 0, 0⟩, ⟨9, 9, 0, 0⟩, [22, 1]⟩ : Datagram).Fits :=
    ⟨⟨rfl, rfl⟩, ⟨rfl, rfl⟩, by simp⟩
  obtain ⟨s₁, h₁, hcall, hholds⟩ :=
    arrives_new .default (hd.receives (initial server) true) rfl rfl (by decide)
  obtain ⟨s₂, h₂, hcall, hburned⟩ := hcall.read_first .default (fun _ => false) hholds
    (show server.next _ = .read 16384 from rfl) (by decide)
  obtain ⟨s₃, _, h₃, -⟩ := hcall.write .default (fun _ => false) (.inl hburned) rfl
  have hrun : Reaches (step .default) (fun _ _ => True) (initial server) s₂ :=
    (Reaches.refl.next _ trivial h₁).next _ trivial h₂
  obtain ⟨packet, hsent, hemitted⟩ := ((emits_acceptable server_bounded hrun).2.2 _ s₃ h₃).1 _ _ _
    (.written hcall.pc hcall.lookup rfl (by decide))
  exact ⟨s₂, s₃, packet, hrun, h₃, hsent, hemitted⟩

end Masquerade.DtlsProxy
