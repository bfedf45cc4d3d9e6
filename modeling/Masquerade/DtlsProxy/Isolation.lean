import Masquerade.DtlsProxy.Emission
import Masquerade.DtlsProxy.Survival
import Masquerade.Lib.Trace

/-! Every session is served as if it were the only one. -/

namespace Masquerade.DtlsProxy

open Lib Wire

namespace Udp6Packet

structure Alike (p q : Udp6Packet) : Prop where
  ip : p.ip = q.ip
  udp : p.udp = q.udp
  data : p.buffer.toList.take (p.udp.length.toNat - 8) =
    q.buffer.toList.take (p.udp.length.toNat - 8)

variable {p q : Udp6Packet} {sendFrom sendTo : SocketAddrV6} {size : ℕ}

lemma Alike.burn (h : p.Alike q) : p.burn.Alike q.burn :=
  ⟨h.ip, by rw [Udp6Packet.burn, Udp6Packet.burn, h.udp], rfl⟩

inductive SameRead (p q : Udp6Packet) : Exec (Udp6Packet × Except ErrorKind Bytes) →
    Exec (Udp6Packet × Except ErrorKind Bytes) → Prop
  | kept (r : Except ErrorKind Bytes) : SameRead p q (.ok (p, r)) (.ok (q, r))
  | burned (r : Except ErrorKind Bytes) : SameRead p q (.ok (p.burn, r)) (.ok (q.burn, r))
  | failed (e : Panic) : SameRead p q (.error e) (.error e)

lemma Alike.read (h : p.Alike q) (sendFrom : SocketAddrV6) (size : ℕ) :
    SameRead p q (p.read sendFrom size) (q.read sendFrom size) := by
  unfold Udp6Packet.read
  rw [← h.ip, ← h.udp]
  by_cases hburned : p.udp.length < 8
  · rw [if_pos hburned, if_pos hburned]
    exact .kept _
  rw [if_neg hburned, if_neg hburned]
  by_cases hip : p.ip.dst ≠ sendFrom.ip
  · simp only [if_pos hip]
    exact .kept _
  simp only [if_neg hip]
  by_cases hport : p.udp.dstPort ≠ sendFrom.port
  · simp only [if_pos hport]
    exact .kept _
  simp only [if_neg hport]
  by_cases hlen : p.udp.length.toNat - 8 ≤ 4096
  · have hread : readAt q.burn.buffer.toList 0 (p.udp.length.toNat - 8) =
        readAt p.burn.buffer.toList 0 (p.udp.length.toNat - 8) := by
      rw [readAt_ok (by simpa using hlen), readAt_ok (by simpa using hlen), slice_zero, slice_zero]
      exact congrArg Except.ok h.data.symm
    rw [hread, readAt_ok (by simpa using hlen), ok_bind, ok_bind]
    split_ifs
    · exact .burned _
    · exact .burned _
  · have hfails : ∀ p' : Udp6Packet, readAt p'.burn.buffer.toList 0 (p.udp.length.toNat - 8) =
        .error .index := by
      intro p'
      apply if_neg
      rwa [Nat.zero_add, List.Vector.toList_length]
    rw [hfails, hfails]
    exact .failed _

lemma sent_bytes (ip : Ip6Header) (udp : UdpHeader) (buffer : Buffer) {n : ℕ} (hn : n ≤ 4096) :
    readAt (asBytes ⟨ip, udp, buffer⟩) 0 (48 + n) =
      .ok (ip.asBytes ++ udp.asBytes ++ buffer.toList.take n) := by
  rw [readAt_ok (by rw [asBytes_length]; omega), slice_zero, asBytes, List.take_append,
    List.take_of_length_le (by simp)]
  simp

lemma address_uniform (sendFrom sendTo : SocketAddrV6) {buf : Bytes} (h : buf.length ≤ 4096) :
    ∃ (ip : Ip6Header) (udp : UdpHeader), ip.src = sendFrom.ip ∧ udp.srcPort = sendFrom.port ∧
      udp.length.toNat - 8 = buf.length ∧ ∀ p : Udp6Packet,
        { p with buffer := p.buffer.fill buf h }.address sendFrom sendTo buf =
          .ok ⟨ip, udp, p.buffer.fill buf h⟩ := by
  obtain ⟨c, hc⟩ := udpChecksumFill_ok ⟨0x60000000#32, UInt16.ofNat (8 + buf.length), IpProto.udp,
    64, sendFrom.ip, sendTo.ip⟩ ⟨sendFrom.port, sendTo.port, UInt16.ofNat (8 + buf.length), 0⟩
    (show buf.length ≤ 65535 by omega)
  refine ⟨⟨0x60000000#32, UInt16.ofNat (8 + buf.length), IpProto.udp, 64, sendFrom.ip, sendTo.ip⟩,
    ⟨sendFrom.port, sendTo.port, UInt16.ofNat (8 + buf.length), c⟩, rfl, rfl, ?_, fun p => ?_⟩
  · rw [Common.toNat_ofNat16 (by omega), Nat.add_sub_cancel_left]
  unfold Udp6Packet.address
  simp only [Common.setFlags]
  exact congrArg (· >>= _) hc

lemma write_uniform (sendFrom sendTo : SocketAddrV6) {buf : Bytes} (h : buf.length ≤ 4096) :
    ∃ (ip : Ip6Header) (udp : UdpHeader), ip.src = sendFrom.ip ∧ udp.srcPort = sendFrom.port ∧
      ∀ p : Udp6Packet, p.write sendFrom sendTo buf =
        .ok (⟨ip, { udp with length := 0 }, p.buffer.fill buf h⟩,
          [ip.asBytes ++ udp.asBytes ++ buf], .ok buf.length) := by
  obtain ⟨ip, udp, hip, hudp, -, haddress⟩ := address_uniform sendFrom sendTo h
  refine ⟨ip, udp, hip, hudp, fun p => ?_⟩
  rw [Udp6Packet.write, dif_pos h, haddress, ok_bind,
    show 40 + (8 + buf.length) = 48 + buf.length by omega, sent_bytes _ _ _ h, fill_take]
  rfl

lemma forward_uniform (p : Udp6Packet) (sendFrom receiver : SocketAddrV6) (data : Bytes)
    (h : data.length ≤ 4096) :
    ∃ (ip : Ip6Header) (udp : UdpHeader), ip.src = sendFrom.ip ∧ udp.srcPort = sendFrom.port ∧
      ∀ (q : Udp6Packet) (cursor : Cursor), q.ip = p.ip → cursor.position = data.length →
        cursor.data = data →
        q.forward sendFrom receiver cursor =
          .ok (some (⟨ip, udp, cursor.buffer⟩, ip.asBytes ++ udp.asBytes ++ data)) := by
  obtain ⟨c, hc⟩ := udpChecksumFill_ok
    { p.ip with
      payloadLength := UInt16.ofNat (8 + data.length), src := sendFrom.ip, dst := receiver.ip }
    ⟨sendFrom.port, receiver.port, UInt16.ofNat (8 + data.length), 0⟩
    (show data.length ≤ 65535 by omega)
  refine ⟨{ p.ip with
      payloadLength := UInt16.ofNat (8 + data.length), src := sendFrom.ip, dst := receiver.ip },
    ⟨sendFrom.port, receiver.port, UInt16.ofNat (8 + data.length), c⟩, rfl, rfl,
    fun q cursor hq hposition hdata => ?_⟩
  have hbuffer := cursor.buffer.toList_length
  unfold Udp6Packet.forward
  rw [readAt_ok (by omega), ok_bind, slice_zero, if_neg (by omega), hq, hposition]
  have htake : cursor.buffer.toList.take data.length = data := by rw [← hposition]; exact hdata
  simp only [htake]
  apply (congrArg (· >>= _) hc).trans
  rw [ok_bind, show 40 + 8 + data.length = 48 + data.length by omega, sent_bytes _ _ _ h, htake]
  rfl

section Recv

variable {received : Bytes} (h : received.length ≤ 4144)

lemma long_of_datagram {d : Datagram}
    (hd : (p.recv received h).datagram received.length = .ok (some d)) :
    48 ≤ received.length := by
  obtain ⟨-, hlen, -, hsame, height, -⟩ := datagram_some hd
  rw [Ip6Header.len, ← hsame] at hlen
  omega

lemma alike_recv (p q : Udp6Packet) {d : Datagram}
    (hd : (p.recv received h).datagram received.length = .ok (some d)) :
    (p.recv received h).Alike (q.recv received h) := by
  have hlong := long_of_datagram h hd
  have hip : ∀ p : Udp6Packet, (p.recv received h).ip = Ip6Header.ofBytes received := by
    intro p
    rw [recv_ip, ← Ip6Header.ofBytes_take (show 40 ≤ received.length by omega), List.take_left]
  have hudp : ∀ p : Udp6Packet, (p.recv received h).udp = UdpHeader.ofBytes (received.drop 40) := by
    intro p
    rw [recv_udp, List.drop_append_of_le_length (by omega),
      ← UdpHeader.ofBytes_take (show 8 ≤ (received.drop 40).length by
      rw [List.length_drop]; omega), List.take_left]
  obtain ⟨-, hlen, -, hsame, height, -⟩ := datagram_some hd
  rw [Ip6Header.len, ← hsame] at hlen
  have hdata : ∀ p' : Udp6Packet, (p'.recv received h).buffer.toList.take
      ((p.recv received h).udp.length.toNat - 8) = received.drop 48 := by
    intro p'
    rw [recv_buffer, List.drop_append_of_le_length (by omega),
      List.take_left' (by rw [List.length_drop]; omega)]
  exact ⟨by rw [hip, hip], by rw [hudp, hudp], by rw [hdata, hdata]⟩

lemma datagram_recv_some (p q : Udp6Packet) {d : Datagram}
    (hd : (p.recv received h).datagram received.length = .ok (some d)) :
    (q.recv received h).datagram received.length = .ok (some d) := by
  have halike := alike_recv h p q hd
  obtain ⟨-, hlen, -, hsame, height, -⟩ := datagram_some hd
  rw [Ip6Header.len, ← hsame] at hlen
  rw [← hd]
  unfold datagram
  have hsize : (p.recv received h).udp.length.toNat - 8 ≤ 4096 := by omega
  simp only [← halike.ip, ← halike.udp, subChecked_ok height, ok_bind]
  rw [readAt_ok (by simpa using hsize), readAt_ok (by simpa using hsize), slice_zero,
    slice_zero, halike.data]

end Recv

end Udp6Packet

def sender (packet : Bytes) : SocketAddrV6 :=
  ⟨(Ip6Header.ofBytes packet).src, (UdpHeader.ofBytes (packet.drop 40)).srcPort, 0, 0⟩

lemma sender_bytes {ip : Ip6Header} {udp : UdpHeader} {src : SocketAddrV6} (hip : ip.src = src.ip)
    (hudp : udp.srcPort = src.port) (hsrc : src.Plain) (data : Bytes) :
    sender (ip.asBytes ++ udp.asBytes ++ data) = src := by
  rw [sender, List.append_assoc, Ip6Header.ofBytes_asBytes,
    List.drop_left' (Ip6Header.asBytes_length _), UdpHeader.ofBytes_asBytes, hip, hudp]
  exact (SocketAddrV6.eq_of_plain hsrc).symm

structure Cursor.Alike (c c' : Cursor) : Prop where
  position : c.position = c'.position
  data : c.data = c'.data

/-- SRTP converts a packet in place, whatever is behind it, and never to more than the buffer
holds. -/
structure Engine.Local (E : Engine) : Prop where
  bounded : E.Bounded
  unprotect : ∀ rtcp incoming c c', c.Alike c' →
    (E.unprotect rtcp incoming c).1 = (E.unprotect rtcp incoming c').1 ∧
    (E.unprotect rtcp incoming c).2.1.Alike (E.unprotect rtcp incoming c').2.1 ∧
    (E.unprotect rtcp incoming c).2.2 = (E.unprotect rtcp incoming c').2.2
  protect : ∀ rtcp outgoing c c', c.Alike c' →
    (E.protect rtcp outgoing c).1 = (E.protect rtcp outgoing c').1 ∧
    (E.protect rtcp outgoing c).2.1.Alike (E.protect rtcp outgoing c').2.1 ∧
    (E.protect rtcp outgoing c).2.2 = (E.protect rtcp outgoing c').2.2

section Alone

variable {E : Engine} {cfg : Config} {k : SocketAddrV6} {s s' t t' : State E} {stream : SslStream E}
  {d : Datagram}

structure Beside (k : SocketAddrV6) (s t : State E) : Prop where
  stream : t.streams.lookup k = s.streams.lookup k
  others : ∀ k', k' ≠ k → t.streams.lookup k' = none
  cleanup : t.nextCleanup = 10
  sent : t.sent = s.sent.filter fun packet => sender packet = k

structure Joint (k : SocketAddrV6) (s t : State E) : Prop extends Beside k s t where
  pc : t.pc = s.pc
  packet : s.pc.Idle ∨ s.pc.target = some k ∧ s.packet.Alike t.packet

lemma Beside.put (h : Beside k s t) (stream : SslStream E) :
    Beside k (s.put k stream) (t.put k stream) where
  stream := by simp only [State.put, AList.lookup_insert]
  others k' hk' := by
    rw [State.put, AList.lookup_insert_ne hk']
    exact h.others k' hk'
  cleanup := h.cleanup
  sent := h.sent

lemma Beside.sends (h : Beside k s t) {packet : Bytes} (hpacket : sender packet = k) :
    t.sent ++ [packet] = (s.sent ++ [packet]).filter fun packet => sender packet = k := by
  rw [List.filter_append, ← h.sent, List.filter_cons_of_pos (by simpa using hpacket)]
  rfl

lemma entries_le {streams : Streams E} (h : ∀ k', k' ≠ k → streams.lookup k' = none) :
    streams.entries.length ≤ 1 := by
  have hkeys : ∀ a ∈ streams.keys, a = k := by
    intro a ha
    by_contra hne
    have hsome := AList.lookup_isSome.mpr (AList.mem_keys.mp ha)
    rw [h a hne] at hsome
    cases hsome
  have hnodup := streams.keys_nodup
  rw [List.eq_replicate_of_mem hkeys, List.nodup_replicate] at hnodup
  simpa [AList.keys, List.keys] using hnodup

lemma Beside.cleaned {old : SocketAddrV6 → Bool} (h : Beside k s t) (hold : old k = false) :
    Joint k (DtlsProxy.cleanup s old) (DtlsProxy.cleanup t old) := by
  have hfew := entries_le h.others
  have ht : DtlsProxy.cleanup t old = t.goto .recv := if_neg (by rw [h.cleanup]; omega)
  have hsent : (DtlsProxy.cleanup s old).sent = s.sent := by
    unfold DtlsProxy.cleanup
    split_ifs <;> rfl
  refine ⟨⟨?_, ?_, ?_, ?_⟩, ?_, .inl ?_⟩
  · rw [ht, lookup_cleanup hold]
    exact h.stream
  · rw [ht]
    exact h.others
  · rw [ht]
    exact h.cleanup
  · rw [ht, hsent]
    exact h.sent
  · rw [cleanup_pc, cleanup_pc]
  · rw [cleanup_pc]
    trivial

lemma Beside.stopped (h : Beside k s t) {pc : Pc E} (hpc : pc.Idle) :
    Joint k (s.goto pc) (t.goto pc) :=
  ⟨⟨h.stream, h.others, h.cleanup, h.sent⟩, rfl, .inl hpc⟩

section Datagrams

variable (hk : k.Plain) (h : Beside k s t) (hfrom : stream.bio.sendFrom = k) (hdst : d.dst = k)

include hk h hfrom hdst

lemma media_joint (cfg : Config) (sessions : E.Inbound × E.Outbound) {c c' : Cursor}
    (hc : c.Alike c') (hbound : c.position ≤ 4096) (ok : Bool) (hip : s.packet.ip = t.packet.ip)
    (hpc : s.pc = .recv) (hpc' : t.pc = .recv) :
    Joint k (media cfg s d stream sessions c ok) (media cfg t d stream sessions c' ok) := by
  have hput := h.put { stream with bio := { stream.bio with sessions := some sessions } }
  unfold media
  rw [hdst]
  cases ok with
  | false =>
    refine ⟨⟨hput.stream, hput.others, hput.cleanup, hput.sent⟩, hpc'.trans hpc.symm, .inl ?_⟩
    change s.pc.Idle
    rw [hpc]
    trivial
  | true =>
    simp only [not_true_eq_false, if_false]
    generalize (if d.src = cfg.rtpEndpoint then stream.bio.sendTo else cfg.rtpEndpoint) = receiver
    have hlength : c.position = c.data.length := by simp [Cursor.data, hbound]
    obtain ⟨ip, udp, hsrc, hport, hforward⟩ :=
      s.packet.forward_uniform stream.bio.sendFrom receiver c.data (by omega)
    have hs := hforward s.packet c rfl hlength rfl
    have ht := hforward t.packet c' hip.symm (hc.position.symm.trans hlength) hc.data.symm
    rw [hfrom] at hsrc hport
    simp only [State.put, hs, ht]
    refine ⟨⟨hput.stream, hput.others, hput.cleanup, h.sends (sender_bytes hsrc hport hk _)⟩,
      hpc'.trans hpc.symm, .inl ?_⟩
    change s.pc.Idle
    rw [hpc]
    trivial

lemma dispatch_joint (hE : E.Local) (cfg : Config) (halike : s.packet.Alike t.packet)
    (hholds : s.packet.Holds d) (hpc : s.pc = .recv) (hpc' : t.pc = .recv) :
    Joint k (dispatch cfg s d stream) (dispatch cfg t d stream) := by
  obtain ⟨position, hposition, hdata⟩ := hholds.position
  have hposition' : subChecked t.packet.udp.length.toNat 8 = .ok position := by
    rw [← halike.udp, hposition]
  have hlength : position = s.packet.udp.length.toNat - 8 := by
    unfold subChecked at hposition
    split_ifs at hposition
    cases hposition
    rfl
  have hcursor : Cursor.Alike ⟨s.packet.buffer, position⟩ ⟨t.packet.buffer, position⟩ := ⟨rfl, by
    rw [Cursor.data, Cursor.data, hlength, halike.data]⟩
  have hbound : position ≤ 4096 := by
    have hwhole := hholds.whole
    rw [hlength]
    exact Nat.sub_le_iff_le_add.mpr hwhole
  unfold dispatch
  cases hfate : fate cfg stream d with
  | drop =>
    refine ⟨h, hpc'.trans hpc.symm, .inl ?_⟩
    rw [hpc]
    trivial
  | request r =>
    exact ⟨⟨h.stream, h.others, h.cleanup, h.sent⟩, rfl, .inr ⟨congrArg some hdst, halike⟩⟩
  | unprotect rtcp incoming outgoing =>
    simp only [hposition, hposition']
    obtain ⟨hsession, hconverted, hok⟩ := hE.unprotect rtcp incoming _ _ hcursor
    have hle := hE.bounded.unprotect rtcp incoming ⟨s.packet.buffer, position⟩ hbound
    rw [← hsession, ← hok]
    exact media_joint hk h hfrom hdst cfg _ hconverted hle _ halike.ip hpc hpc'
  | protect rtcp incoming outgoing =>
    simp only [hposition, hposition']
    obtain ⟨hsession, hconverted, hok⟩ := hE.protect rtcp outgoing _ _ hcursor
    have hle := hE.bounded.protect rtcp outgoing ⟨s.packet.buffer, position⟩ hbound
    rw [← hsession, ← hok]
    exact media_joint hk h hfrom hdst cfg _ hconverted hle _ halike.ip hpc hpc'

end Datagrams

section Calls

variable {src : SocketAddrV6} {handshake : Bool} {c : E.Call} {old : SocketAddrV6 → Bool}

lemma returned_joint (h : Beside k s t) (ssl : E.Ssl) (result : Except ErrorCode Unit)
    (halike : s.packet.Alike t.packet) : Joint k (returned s k src handshake stream ssl result)
      (returned t k src handshake stream ssl result) := by
  unfold returned
  generalize
    (if handshake && E.isInitFinished ssl then E.sessionPair ssl else stream.bio.sessions) =
      sessions
  have hput := h.put ⟨ssl, { stream.bio with sessions := sessions }⟩
  have hpulls :
      Joint k ((s.put k ⟨ssl, { stream.bio with sessions := sessions }⟩).goto (.pull k src))
      ((t.put k ⟨ssl, { stream.bio with sessions := sessions }⟩).goto (.pull k src)) :=
    ⟨⟨hput.stream, hput.others, hput.cleanup, hput.sent⟩, rfl, .inr ⟨rfl, halike⟩⟩
  cases result with
  | ok _ => exact hpulls
  | error code =>
    simp only
    by_cases hcode : code = .wantRead ∨ code = .wantWrite
    · rw [if_pos hcode, if_pos hcode]
      exact hpulls
    · rw [if_neg hcode, if_neg hcode]
      refine ⟨⟨?_, fun k' hk' => ?_, hput.cleanup, hput.sent⟩, rfl, .inl trivial⟩
      · simp only [AList.lookup_erase]
      · simp only [AList.lookup_erase_ne hk']
        exact hput.others k' hk'

lemma tickCall_joint (hk : k.Plain) (h : Beside k s t) (hfrom : stream.bio.sendFrom = k)
    (halike : s.packet.Alike t.packet) :
    Joint k (tickCall s k src handshake c stream) (tickCall t k src handshake c stream) := by
  unfold tickCall
  cases E.next c with
  | read size =>
    simp only
    have hread := halike.read stream.bio.sendFrom size
    generalize s.packet.read stream.bio.sendFrom size = x at hread
    generalize t.packet.read stream.bio.sendFrom size = y at hread
    cases hread with
    | kept r => exact ⟨⟨h.stream, h.others, h.cleanup, h.sent⟩, rfl, .inr ⟨rfl, halike⟩⟩
    | burned r => exact ⟨⟨h.stream, h.others, h.cleanup, h.sent⟩, rfl, .inr ⟨rfl, halike.burn⟩⟩
    | failed e => exact h.stopped trivial
  | write buf =>
    simp only
    by_cases hfits : buf.length ≤ 4096
    · obtain ⟨ip, udp, hsrc, hport, hwrite⟩ :=
        Udp6Packet.write_uniform stream.bio.sendFrom stream.bio.sendTo hfits
      rw [hwrite, hwrite]
      rw [hfrom] at hsrc hport
      exact ⟨⟨h.stream, h.others, h.cleanup, h.sends (sender_bytes hsrc hport hk buf)⟩, rfl,
        .inr ⟨rfl, rfl, rfl, rfl⟩⟩
    · have hlong : ∀ p : Udp6Packet, p.write stream.bio.sendFrom stream.bio.sendTo buf =
          .ok (p, [], .error .outOfMemory) :=
        fun p => dif_neg hfits
      rw [hlong, hlong]
      simp only [List.append_nil]
      exact ⟨⟨h.stream, h.others, h.cleanup, h.sent⟩, rfl, .inr ⟨rfl, halike⟩⟩
  | ret ssl result => exact returned_joint h ssl result halike

lemma tickPull_joint (hk : k.Plain) (h : Beside k s t) (hfrom : stream.bio.sendFrom = k)
    (hold : old k = false) (hpc : s.pc = .pull k src) (hpc' : t.pc = .pull k src) :
    Joint k (tickPull cfg s k src stream old) (tickPull cfg t k src stream old) := by
  unfold tickPull
  by_cases hpending : 0 < E.pending stream.ssl
  · rw [if_pos hpending, if_pos hpending]
    rcases E.sslRead stream.ssl with ⟨ssl, code | ⟨buf, hbuf⟩⟩
    · exact (h.put { stream with ssl := ssl }).cleaned hold
    · have hput := h.put ⟨ssl, { stream.bio with sendTo := src }⟩
      obtain ⟨ip, udp, hsrc, hport, hlength, haddress⟩ :=
        Udp6Packet.address_uniform stream.bio.sendFrom cfg.endpoint hbuf
      have hbytes := fun buffer => Udp6Packet.sent_bytes ip udp buffer hbuf
      rw [hfrom] at hsrc hport
      simp only [State.put, haddress, show 40 + (8 + buf.length) = 48 + buf.length by omega,
        hbytes, fill_take]
      refine ⟨⟨hput.stream, hput.others, hput.cleanup, h.sends (sender_bytes hsrc hport hk buf)⟩,
        hpc'.trans hpc.symm, .inr ⟨?_, rfl, rfl, ?_⟩⟩
      · change s.pc.target = some k
        rw [hpc]
        rfl
      · simp only [hlength, fill_take]
  · rw [if_neg hpending, if_neg hpending]
    exact h.cleaned hold

end Calls

lemma accepted_joint (hE : E.Local) (cfg : Config) (hk : k.Plain) (h : Beside k s t)
    (hfrom : ∀ stream, s.streams.lookup k = some stream → stream.bio.sendFrom = k)
    (hdst : d.dst = k) (halike : s.packet.Alike t.packet) (hholds : s.packet.Holds d)
    (hpc : s.pc = .recv) (hpc' : t.pc = .recv) (created : Bool) :
    Joint k (accepted cfg s d created) (accepted cfg t d created) := by
  unfold accepted
  rw [hdst, h.stream]
  cases hstream : s.streams.lookup k with
  | some stream =>
    exact dispatch_joint hk h (hfrom stream hstream) hdst hE cfg halike hholds hpc hpc'
  | none =>
    simp only
    by_cases hsrc : d.src = cfg.endpoint
    · rw [if_pos hsrc, if_pos hsrc]
      refine ⟨h, hpc'.trans hpc.symm, .inl ?_⟩
      rw [hpc]
      trivial
    rw [if_neg hsrc, if_neg hsrc]
    cases created with
    | false => exact h.stopped trivial
    | true => exact dispatch_joint hk (h.put (.new E d)) hdst hdst hE cfg halike hholds hpc hpc'

def Placed (s : State E) : Prop :=
  ∀ key stream, s.streams.lookup key = some stream → stream.bio.sendFrom = key ∧ key.Plain

lemma Placed.step {i : Input} (h : Placed s) (hstep : Step cfg s i s') : Placed s' := by
  intro key stream' hkey
  obtain ⟨stream, hstream, hfrom, -⟩ | ⟨d, hd, -, -, rfl, rfl⟩ |
      ⟨src, stream, -, hstream, -, hfrom, -⟩ :=
    hstep.origin hkey
  · exact ⟨hfrom.trans (h key stream hstream).1, (h key stream hstream).2⟩
  · cases i with
    | tick old => cases hd
    | recv outcome created =>
      obtain ⟨-, -, -, -, -, hfits⟩ := receives_cases hd
      exact ⟨rfl, hfits.dst⟩
  · exact ⟨hfrom.trans (h key stream hstream).1, (h key stream hstream).2⟩

def concerns (k : SocketAddrV6) (s : State E) (i : Input) : Bool :=
  s.pc.target = some k || (s.receives i).any fun d => d.dst = k

lemma concerns_eq_false {i : Input} :
    concerns k s i = false ↔ s.pc.target ≠ some k ∧ ∀ d, s.receives i = some d → d.dst ≠ k := by
  rw [concerns, Bool.or_eq_false_iff, decide_eq_false_iff_not]
  cases s.receives i <;> simp

structure Agree (k : SocketAddrV6) (s t : State E) : Prop extends Beside k s t where
  placed : Placed s
  working : s.pc.target = some k → t.pc = s.pc ∧ s.packet.Alike t.packet
  waiting : s.pc.target ≠ some k → t.pc = .recv ∨ s.pc = .exited ∨ s.pc = .panicked

lemma Joint.agree (h : Joint k s t) (hplaced : Placed s) : Agree k s t where
  toBeside := h.toBeside
  placed := hplaced
  working htarget := by
    refine ⟨h.pc, ?_⟩
    obtain hidle | ⟨-, halike⟩ := h.packet
    · rw [hidle.target] at htarget
      cases htarget
    · exact halike
  waiting htarget := by
    obtain hidle | ⟨htarget', -⟩ := h.packet
    · rw [h.pc]
      cases hpc : s.pc with
      | recv => exact .inl rfl
      | exited => exact .inr (.inl rfl)
      | panicked => exact .inr (.inr rfl)
      | call => exact absurd hidle (by rw [hpc]; exact id)
      | pull => exact absurd hidle (by rw [hpc]; exact id)
    · exact absurd htarget' htarget

def Recent (k : SocketAddrV6) (i : Input) : Prop := ∀ old, i = .tick old → old k = false

lemma agree_consistent (hE : E.Local) {i : Input} (h : Agree k s t) (hrecent : Recent k i)
    (hc : concerns k s i = true) (hstep : step cfg s i = some s') : ∃ t', step cfg t i = some t' ∧
    Agree k s' t' := by
  have hplaced := h.placed.step (step_cases hstep)
  suffices ∃ t', step cfg t i = some t' ∧ Joint k s' t' by
    obtain ⟨t', ht', hjoint⟩ := this
    exact ⟨t', ht', hjoint.agree hplaced⟩
  cases i with
  | recv outcome created =>
    have hpc := pc_of_recv hstep
    have htarget : s.pc.target ≠ some k := by simp [hpc, Pc.target]
    have hpc' : t.pc = .recv := by simpa [hpc] using h.waiting htarget
    simp only [concerns, htarget, decide_false, Bool.false_or, Option.any_eq_true,
      decide_eq_true_eq] at hc
    obtain ⟨d, hd, hdst⟩ := hc
    obtain ⟨received, hlen, rfl, hdatagram, hholds, hfits⟩ := receives_cases hd
    have halike := Udp6Packet.alike_recv hlen s.packet t.packet hdatagram
    have hs : step cfg s _ = some _ := step_accepted hlen created hpc hdatagram
    have ht : step cfg t _ = some _ :=
      step_accepted hlen created hpc'
        (Udp6Packet.datagram_recv_some hlen s.packet t.packet hdatagram)
    obtain rfl := Option.some.inj (hs.symm.trans hstep)
    refine ⟨_, ht, ?_⟩
    exact accepted_joint (s := { s with packet := s.packet.recv received hlen })
      (t := { t with packet := t.packet.recv received hlen }) hE cfg (hdst ▸ hfits.dst)
      ⟨h.stream, h.others, h.cleanup, h.sent⟩ (fun stream hstream => (h.placed k stream hstream).1)
      hdst halike hholds hpc hpc' created
  | tick old =>
    have htarget : s.pc.target = some k := by simpa [concerns, State.receives] using hc
    obtain ⟨hpc', halike⟩ := h.working htarget
    have hold := hrecent old rfl
    unfold step at hstep ⊢
    rw [hpc']
    cases hpc : s.pc with
    | recv => simp [hpc] at hstep
    | exited => simp [hpc] at hstep
    | panicked => simp [hpc] at hstep
    | call dst src handshake c =>
      simp only [hpc, Option.map_eq_some_iff] at hstep
      obtain ⟨stream, hstream, rfl⟩ := hstep
      obtain rfl : dst = k := by simpa [hpc, Pc.target] using htarget
      obtain ⟨hfrom, hk⟩ := h.placed dst stream hstream
      exact ⟨_, by simp only [h.stream, hstream, Option.map_some],
        tickCall_joint hk h.toBeside hfrom halike⟩
    | pull dst src =>
      simp only [hpc, Option.map_eq_some_iff] at hstep
      obtain ⟨stream, hstream, rfl⟩ := hstep
      obtain rfl : dst = k := by simpa [hpc, Pc.target] using htarget
      obtain ⟨hfrom, hk⟩ := h.placed dst stream hstream
      exact ⟨_, by simp only [h.stream, hstream, Option.map_some],
        tickPull_joint hk h.toBeside hfrom hold hpc (hpc'.trans hpc)⟩

section Elsewhere

variable {i : Input}

lemma Step.target_elsewhere (h : Step cfg s i s') (hc : concerns k s i = false) :
    s'.pc.target ≠ some k := by
  obtain ⟨htarget, hreceives⟩ := concerns_eq_false.mp hc
  have hsame : ∀ {dst src : SocketAddrV6} {handshake : Bool} {c : E.Call},
      s.pc = .call dst src handshake c → dst ≠ k := by
    rintro dst src handshake c hpc rfl
    exact htarget (by rw [hpc]; rfl)
  have hpulled : ∀ {dst src : SocketAddrV6}, s.pc = .pull dst src → dst ≠ k := by
    rintro dst src hpc rfl
    exact htarget (by rw [hpc]; rfl)
  have hsome : ∀ {dst : SocketAddrV6}, dst ≠ k → some dst ≠ some k :=
    fun hne heq => hne (Option.some.inj heq)
  cases h with
  | dropped _ _ hpc' => simp [hpc', Pc.target]
  | refused _ _ _ _ _ hpc' => simp [hpc', Pc.target]
  | broken _ _ _ _ _ _ _ hpc' => simp [hpc', Pc.target]
  | created d _ _ _ hd _ _ _ _ hpc' =>
    rw [hpc']
    exact hsome (hreceives d hd)
  | asked d _ _ _ hd _ _ _ _ hpc' =>
    rw [hpc']
    exact hsome (hreceives d hd)
  | media _ _ _ _ _ _ _ _ hidle => simp [hidle.target]
  | read _ _ _ _ _ _ _ hpc _ _ _ _ hpc' =>
    rw [hpc']
    exact hsome (hsame hpc)
  | wrote _ _ _ _ _ _ _ _ hpc _ _ _ _ hpc' =>
    rw [hpc']
    exact hsome (hsame hpc)
  | returned _ _ _ _ _ _ _ _ hpc _ _ _ hpc' =>
    rw [hpc']
    exact hsome (hsame hpc)
  | removed _ _ _ _ _ _ _ _ _ _ _ _ hpc' => simp [hpc', Pc.target]
  | pulled _ _ _ _ _ hpc _ _ _ _ hpc' =>
    rw [hpc']
    exact hsome (hpulled hpc)
  | pullFailed _ _ _ _ _ _ _ _ _ _ _ hs => simp [hs, Pc.target]
  | done _ _ _ _ _ _ _ _ hs => simp [hs, Pc.target]

lemma Step.lookup_elsewhere (h : Step cfg s i s') (hc : concerns k s i = false)
    (hrecent : Recent k i) :
    s'.streams.lookup k = s.streams.lookup k := by
  obtain ⟨htarget, hreceives⟩ := concerns_eq_false.mp hc
  cases hstream : s.streams.lookup k with
  | some stream => exact (h.frame hstream htarget hreceives hrecent).1
  | none =>
    cases hstream' : s'.streams.lookup k with
    | none => rfl
    | some stream' =>
      obtain ⟨stream, hstream'', -⟩ | ⟨d, hd, -, -, hdst, -⟩ | ⟨src, stream, -, hstream'', -⟩ :=
        h.origin hstream'
      · cases hstream.symm.trans hstream''
      · exact absurd hdst.symm (hreceives d hd)
      · cases hstream.symm.trans hstream''

lemma Emission.elsewhere {src dst : SocketAddrV6} {payload : Bytes}
    (he : Emission cfg s i src dst payload) (hplaced : Placed s) (hc : concerns k s i = false) :
    src.Plain ∧ src ≠ k := by
  obtain ⟨htarget, hreceives⟩ := concerns_eq_false.mp hc
  have hplain : ∀ {key : SocketAddrV6} {stream : SslStream E}, s.streams.lookup key = some stream →
      key ≠ k → stream.bio.sendFrom.Plain ∧ stream.bio.sendFrom ≠ k := by
    intro key stream hstream hne
    obtain ⟨hfrom, hkey⟩ := hplaced key stream hstream
    rw [hfrom]
    exact ⟨hkey, hne⟩
  cases he with
  | written hpc hstream =>
    apply hplain hstream
    rintro rfl
    exact htarget (by rw [hpc]; rfl)
  | media hlen _ hd hstream => exact hplain hstream (hreceives _ (receives_recv hlen hd))
  | plain hpc hstream =>
    apply hplain hstream
    rintro rfl
    exact htarget (by rw [hpc]; rfl)

lemma agree_respects (hE : E.Local) (h : Agree k s t) (hrecent : Recent k i)
    (hc : concerns k s i = false) (hstep : step cfg s i = some s') : Agree k s' t := by
  have hcases := step_cases hstep
  have htarget := hcases.target_elsewhere hc
  have htarget₀ := (concerns_eq_false.mp hc).1
  refine ⟨⟨?_, h.others, h.cleanup, ?_⟩, h.placed.step hcases, fun hk => absurd hk htarget,
    fun _ => .inl ?_⟩
  · rw [hcases.lookup_elsewhere hc hrecent]
    exact h.stream
  · obtain ⟨src, dst, payload, he⟩ | hsilent := step_silent hstep
    · obtain ⟨-, packet, hsent, hemitted⟩ := he.emits hE.bounded hstep
      obtain ⟨hplain, hother⟩ := he.elsewhere h.placed hc
      have hsender : sender packet = src := by
        rw [sender, hemitted.sender.1, hemitted.sender.2]
        exact (SocketAddrV6.eq_of_plain hplain).symm
      rw [hsent, List.filter_append, List.filter_cons_of_neg (by simpa [hsender] using hother),
        List.filter_nil, List.append_nil]
      exact h.sent
    · rw [hsilent.sent]
      exact h.sent
  · -- the proxy has not stopped, as it took the input
    obtain hrecv | hexited | hpanicked := h.waiting htarget₀
    · exact hrecv
    · cases i <;> simp [step, hexited] at hstep
    · cases i <;> simp [step, hpanicked] at hstep

end Elsewhere

lemma agree_initial (k : SocketAddrV6) : Agree k (initial E) (initial E) := by
  refine ⟨⟨rfl, fun _ _ => rfl, rfl, rfl⟩, ?_, ?_, fun _ => .inl rfl⟩
  · intro key stream hkey
    cases hkey
  · intro htarget
    cases htarget

theorem sessions_isolated (hE : E.Local) {is : List Input} (hrecent : ∀ i ∈ is, Recent k i)
    (hrun : run (step cfg) (initial E) is = some s) :
    ∃ t, run (step cfg) (initial E) (share (step cfg) (concerns k) (initial E) is) = some t ∧
      t.streams.lookup k = s.streams.lookup k ∧ (∀ k', k' ≠ k → t.streams.lookup k' = none) ∧
      t.sent = s.sent.filter fun packet => sender packet = k := by
  have hunwinds : Unwinds (step cfg) (concerns k) (step cfg) (Recent k) (Agree (E := E) k) :=
    ⟨fun _ _ _ _ h hrecent hc hstep => agree_consistent hE h hrecent hc hstep,
      fun _ _ _ _ h hrecent hc hstep => agree_respects hE h hrecent hc hstep⟩
  obtain ⟨t, ht, hagree⟩ := hunwinds.run (agree_initial k) hrecent hrun
  exact ⟨t, ht, hagree.stream, hagree.others, hagree.sent⟩

end Alone

lemma server_local : server.Local where
  bounded := server_bounded
  unprotect rtcp incoming c c' h := by
    simp only [server, h.data, h.position]
    split_ifs
    · refine ⟨trivial, ⟨rfl, ?_⟩, rfl⟩
      have htake : ∀ cursor : Cursor, Cursor.data { cursor with position := cursor.position - 1 } =
          cursor.data.take (cursor.position - 1) := by
        intro cursor
        rw [Cursor.data, Cursor.data, List.take_take, min_eq_left (Nat.sub_le _ _)]
      have hdata := htake c
      rw [h.data, h.position, ← htake c'] at hdata
      exact hdata
    · exact ⟨trivial, h, rfl⟩
  protect rtcp outgoing c c' h := by
    obtain ⟨buffer, position⟩ := c
    obtain ⟨buffer', position'⟩ := c'
    obtain rfl : position = position' := h.position
    simp only [server]
    split_ifs with hroom
    · refine ⟨trivial, ⟨rfl, ?_⟩, rfl⟩
      have htake : ∀ b : Buffer, Cursor.data ⟨b.set ⟨position, hroom⟩ 42, position + 1⟩ =
          Cursor.data ⟨b, position⟩ ++ [42] := by
        intro b
        simp [Cursor.data, List.take_add_one, List.take_set_of_le, hroom]
      rw [htake, htake, h.data]
    · exact ⟨trivial, h, rfl⟩

def speaks (dst src : SocketAddrV6) (ticks : ℕ) : List Input :=
  .recv (some (Datagram.bytes ⟨dst, src, [22, 1]⟩)) true :: List.replicate ticks
    (.tick fun _ => false)

def twoClients : List Input :=
  speaks ⟨2, 443, 0, 0⟩ ⟨3, 5000, 0, 0⟩ 5 ++ speaks ⟨4, 443, 0, 0⟩ ⟨5, 5000, 0, 0⟩ 5 ++
    speaks ⟨2, 443, 0, 0⟩ ⟨3, 5000, 0, 0⟩ 4

theorem sessions_isolated_twoClients : ∃ s t : State server, run (step .default)
    (initial server) twoClients = some s ∧ run (step .default) (initial server)
      (share (step .default) (concerns ⟨2, 443, 0, 0⟩) (initial server) twoClients) = some t ∧
    t.streams.lookup ⟨2, 443, 0, 0⟩ = s.streams.lookup ⟨2, 443, 0, 0⟩ ∧ s.sent.length = 3 ∧
      t.sent.length = 2 := by
  have hruns : ((run (step .default) (initial server) twoClients).any fun s => s.sent.length = 3 &&
      (s.sent.filter fun packet => sender packet = ⟨2, 443, 0, 0⟩).length = 2) = true := by
    decide +kernel
  have hrecent : ∀ i ∈ twoClients, Recent ⟨2, 443, 0, 0⟩ i := by
    rintro i hi old rfl
    simp [twoClients, speaks] at hi
    rw [hi]
  simp only [Option.any_eq_true, Bool.and_eq_true, decide_eq_true_eq] at hruns
  obtain ⟨s, hs, hsent⟩ := hruns
  obtain ⟨t, ht, hstream, -, hfilter⟩ := sessions_isolated server_local hrecent hs
  exact ⟨s, t, hs, ht, hstream, hsent.1, by rw [hfilter, hsent.2]⟩

end Masquerade.DtlsProxy
