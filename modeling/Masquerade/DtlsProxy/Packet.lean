import Masquerade.Checksum

/-! The one buffer of `dtls-proxy`: what is received is read from it, and what is sent is written to
it. -/

namespace Masquerade.DtlsProxy

open Lib Wire

inductive ErrorKind
  | wouldBlock
  | outOfMemory
  deriving DecidableEq, Repr

abbrev Buffer := List.Vector UInt8 4096

def Buffer.fill (buffer : Buffer) (bytes : Bytes) (h : bytes.length ≤ 4096) : Buffer :=
  ⟨splice buffer.toList 0 bytes, by rw [splice_length (by simpa using h), buffer.toList_length]⟩

structure Udp6Packet where
  ip : Ip6Header
  udp : UdpHeader
  buffer : Buffer

structure Datagram where
  dst : SocketAddrV6
  src : SocketAddrV6
  payload : Bytes
  deriving DecidableEq

namespace Udp6Packet

def asBytes (p : Udp6Packet) : Bytes := p.ip.asBytes ++ p.udp.asBytes ++ p.buffer.toList

lemma asBytes_length (p : Udp6Packet) : p.asBytes.length = 4144 := by simp [asBytes]

def ofBytes (b : Bytes) (h : b.length = 4144) : Udp6Packet where
  ip := .ofBytes b
  udp := .ofBytes (b.drop 40)
  buffer := ⟨b.drop 48, by rw [List.length_drop, h]⟩

def newZeroed : Udp6Packet := ofBytes (List.replicate 4144 0) List.length_replicate

def recv (p : Udp6Packet) (received : Bytes) (h : received.length ≤ 4144) : Udp6Packet :=
  ofBytes (splice p.asBytes 0 received)
    (by rw [splice_length (by rw [asBytes_length]; omega), asBytes_length])

def datagram (p : Udp6Packet) (length : ℕ) : Exec (Option Datagram) := do
  if Ip6Flags.version p.ip.flags ≠ 6 then
    return none
  if p.ip.len ≠ length then
    return none
  if p.ip.nextHeader ≠ IpProto.udp then
    return none
  if p.ip.payloadLength < 8 then
    return none
  if p.udp.length ≠ p.ip.payloadLength then
    return none
  let len ← subChecked p.udp.length.toNat 8
  let data ← readAt p.buffer.toList 0 len
  return some ⟨⟨p.ip.dst, p.udp.dstPort, 0, 0⟩, ⟨p.ip.src, p.udp.srcPort, 0, 0⟩, data⟩

def burn (p : Udp6Packet) : Udp6Packet := { p with udp := { p.udp with length := 0 } }

def address (p : Udp6Packet) (sendFrom sendTo : SocketAddrV6) (data : Bytes) : Exec Udp6Packet := do
  let ip : Ip6Header := {
    flags := Ip6Flags.setFlowLabel (Ip6Flags.setTrafficClass (Ip6Flags.setVersion p.ip.flags 6) 0) 0
    payloadLength := UInt16.ofNat (8 + data.length)
    nextHeader := IpProto.udp
    hopLimit := 64
    src := sendFrom.ip
    dst := sendTo.ip }
  let udp ← udpChecksumFill ip { p.udp with
    srcPort := sendFrom.port
    dstPort := sendTo.port
    length := ip.payloadLength } data
  return { p with ip := ip, udp := udp }

/-- `Bio::write`: the buffer, what was passed to `network.send`, and the result. -/
def write (p : Udp6Packet) (sendFrom sendTo : SocketAddrV6) (buf : Bytes) :
    Exec (Udp6Packet × List Bytes × Except ErrorKind ℕ) :=
  if h : buf.length ≤ 4096 then do
    let p ← { p with buffer := p.buffer.fill buf h }.address sendFrom sendTo buf
    let packet ← readAt p.asBytes 0 (40 + (8 + buf.length))
    return (p.burn, [packet], .ok buf.length)
  else
    return (p, [], .error .outOfMemory)

def read (p : Udp6Packet) (sendFrom : SocketAddrV6) (size : ℕ) :
    Exec (Udp6Packet × Except ErrorKind Bytes) := do
  if p.udp.length < 8 then
    return (p, .error .wouldBlock)
  let len := p.udp.length.toNat - 8
  if p.ip.dst ≠ sendFrom.ip then
    return (p, .error .wouldBlock)
  if p.udp.dstPort ≠ sendFrom.port then
    return (p, .error .wouldBlock)
  let p := p.burn
  let src ← readAt p.buffer.toList 0 len
  if size < len then
    return (p, .error .outOfMemory)
  return (p, .ok src)

section Laws

variable {p p' : Udp6Packet} {sendFrom sendTo : SocketAddrV6} {size : ℕ} {length : ℕ} {d : Datagram}

def unread (p : Udp6Packet) : Option Bytes :=
  if p.udp.length < 8 then none else some (p.buffer.toList.take (p.udp.length.toNat - 8))

@[simp] lemma burn_unread (p : Udp6Packet) : p.burn.unread = none :=
  if_pos (show (0 : UInt16) < 8 by decide)

def Whole (p : Udp6Packet) : Prop := p.udp.length.toNat ≤ 4104

lemma burn_whole (p : Udp6Packet) : p.burn.Whole := by simp [Whole, burn]

lemma read_burned (h : p.unread = none) : p.read sendFrom size = .ok (p, .error .wouldBlock) := by
  unfold unread at h
  split_ifs at h with hburned
  exact if_pos hburned

lemma read_foreign (h : ¬ (p.ip.dst = sendFrom.ip ∧ p.udp.dstPort = sendFrom.port)) :
    p.read sendFrom size = .ok (p, .error .wouldBlock) := by
  unfold read
  by_cases hburned : p.udp.length < 8
  · exact if_pos hburned
  rw [if_neg hburned]
  by_cases hip : p.ip.dst ≠ sendFrom.ip
  · exact if_pos hip
  simp only [if_neg hip]
  have hport : p.udp.dstPort ≠ sendFrom.port := fun hport => h ⟨not_not.mp hip, hport⟩
  exact if_pos hport

lemma read_unread {data : Bytes} (hp : p.Whole) (h : p.unread = some data)
    (hip : p.ip.dst = sendFrom.ip) (hport : p.udp.dstPort = sendFrom.port) :
    p.read sendFrom size =
      .ok (p.burn, if size < data.length then .error .outOfMemory else .ok data) := by
  unfold unread at h
  split_ifs at h with hburned
  have hsize : p.udp.length.toNat - 8 ≤ p.buffer.toList.length := by
    rw [List.Vector.toList_length]
    exact Nat.sub_le_iff_le_add.mpr hp
  have hlen : data.length = p.udp.length.toNat - 8 := by
    rw [← Option.some.inj h, List.length_take, min_eq_left hsize]
  have hread : readAt p.burn.buffer.toList 0 (p.udp.length.toNat - 8) = .ok data := by
    rw [readAt_ok (by rw [Nat.zero_add]; exact hsize), slice_zero]
    exact congrArg _ (Option.some.inj h)
  unfold read
  rw [if_neg hburned, if_neg (not_not.mpr hip)]
  simp only [if_neg (not_not.mpr hport), hread, ok_bind, hlen]
  split_ifs <;> rfl

lemma read_ok (sendFrom : SocketAddrV6) (size : ℕ) (hp : p.Whole) :
    ∃ r, p.read sendFrom size = .ok r := by
  cases hunread : p.unread with
  | none => exact ⟨_, read_burned hunread⟩
  | some data =>
    by_cases h : p.ip.dst = sendFrom.ip ∧ p.udp.dstPort = sendFrom.port
    · exact ⟨_, read_unread hp hunread h.1 h.2⟩
    · exact ⟨_, read_foreign h⟩

lemma address_ok (p : Udp6Packet) (sendFrom sendTo : SocketAddrV6) {data : Bytes}
    (h : data.length ≤ 4096) :
    ∃ q, p.address sendFrom sendTo data = .ok q := by
  unfold address
  simp only
  obtain ⟨c, hfill⟩ := udpChecksumFill_ok _ _ (show data.length ≤ 65535 by omega)
  rw [hfill, ok_bind]
  exact ⟨_, rfl⟩

lemma sent_ok (p : Udp6Packet) {n : ℕ} (h : n ≤ 4096) :
    ∃ packet, readAt p.asBytes 0 (40 + (8 + n)) = .ok packet :=
  ⟨_, readAt_ok (by rw [asBytes_length]; omega)⟩

lemma write_cases (p : Udp6Packet) (sendFrom sendTo : SocketAddrV6) (buf : Bytes) :
    ∃ p' sent r, p.write sendFrom sendTo buf = .ok (p', sent, r) ∧
      (p' = p ∧ 4096 < buf.length ∨ p'.unread = none ∧ p'.Whole) := by
  unfold write
  split_ifs with h
  · obtain ⟨q, hq⟩ := { p with buffer := p.buffer.fill buf h }.address_ok sendFrom sendTo h
    obtain ⟨packet, hpacket⟩ := q.sent_ok h
    rw [hq, ok_bind, hpacket, ok_bind]
    exact ⟨q.burn, _, _, rfl, .inr ⟨burn_unread q, burn_whole q⟩⟩
  · exact ⟨p, [], _, rfl, .inl ⟨rfl, Nat.lt_of_not_le h⟩⟩

structure Holds (p : Udp6Packet) (d : Datagram) : Prop where
  whole : p.Whole
  unread : p.unread = some d.payload
  ip : p.ip.dst = d.dst.ip
  port : p.udp.dstPort = d.dst.port

lemma Holds.read (h : p.Holds d) :
    p.read d.dst size =
      .ok (p.burn, if size < d.payload.length then .error .outOfMemory else .ok d.payload) :=
  read_unread h.whole h.unread h.ip h.port

lemma datagram_cases (p : Udp6Packet) (hlength : length ≤ 4144) :
    p.datagram length = .ok none ∨ ∃ d, p.datagram length = .ok (some d) ∧ p.Holds d ∧
      d.src.Plain ∧ d.dst.Plain ∧
      d.payload.length ≤ 4096 := by
  unfold datagram
  by_cases hversion : Ip6Flags.version p.ip.flags ≠ 6
  · exact .inl (if_pos hversion)
  rw [if_neg hversion]
  by_cases hlen : p.ip.len ≠ length
  · exact .inl (if_pos hlen)
  rw [if_neg hlen]
  by_cases hnext : p.ip.nextHeader ≠ IpProto.udp
  · exact .inl (if_pos hnext)
  rw [if_neg hnext]
  by_cases hsmall : p.ip.payloadLength < 8
  · exact .inl (if_pos hsmall)
  rw [if_neg hsmall]
  by_cases hsame : p.udp.length ≠ p.ip.payloadLength
  · exact .inl (if_pos hsame)
  rw [if_neg hsame]
  rw [not_not] at hlen hsame
  have hburned : ¬ p.udp.length < 8 := by rw [hsame]; exact hsmall
  have height : 8 ≤ p.udp.length.toNat := by
    have := UInt16.le_iff_toNat_le.mp (UInt16.not_lt.mp hburned)
    exact this
  have hwhole : p.udp.length.toNat ≤ 4104 := by
    rw [Ip6Header.len, ← hsame] at hlen
    omega
  have hbuffer := p.buffer.toList_length
  refine .inr ⟨⟨⟨p.ip.dst, p.udp.dstPort, 0, 0⟩, ⟨p.ip.src, p.udp.srcPort, 0, 0⟩,
    p.buffer.toList.take (p.udp.length.toNat - 8)⟩, ?_, ⟨hwhole, if_neg hburned, rfl, rfl⟩,
    ⟨rfl, rfl⟩, ⟨rfl, rfl⟩, ?_⟩
  · rw [subChecked_ok height, ok_bind, readAt_ok (by omega), ok_bind, slice_zero]
    rfl
  · simp only [List.length_take]
    omega

lemma datagram_some (h : p.datagram length = .ok (some d)) : Ip6Flags.version p.ip.flags = 6 ∧
    p.ip.len = length ∧ p.ip.nextHeader = IpProto.udp ∧ p.udp.length = p.ip.payloadLength ∧
    8 ≤ p.udp.length.toNat ∧ d.payload = p.buffer.toList.take (p.udp.length.toNat - 8) := by
  unfold datagram at h
  split_ifs at h with hversion hlen hnext hsmall hsame
  · cases h
  · cases h
  · cases h
  · cases h
  · cases h
  simp only [not_not] at hversion hlen hnext hsame
  have height : 8 ≤ p.udp.length.toNat := by
    rw [hsame]
    exact UInt16.le_iff_toNat_le.mp (UInt16.not_lt.mp hsmall)
  rw [subChecked_ok height, ok_bind, bind_eq_ok] at h
  obtain ⟨data, hdata, h⟩ := h
  unfold readAt at hdata
  split_ifs at hdata
  cases hdata
  cases h
  exact ⟨hversion, hlen, hnext, hsame, height, slice_zero _ _⟩

end Laws

section Received

variable (p : Udp6Packet) {received : Bytes} (h : received.length ≤ 4144)

lemma recv_ip :
    (p.recv received h).ip = Ip6Header.ofBytes (received ++ p.asBytes.drop received.length) := by
  change Ip6Header.ofBytes (splice p.asBytes 0 received) = _
  rw [splice, List.take_zero, List.nil_append, Nat.zero_add]

lemma recv_udp :
    (p.recv received h).udp = UdpHeader.ofBytes
      ((received ++ p.asBytes.drop received.length).drop 40) := by
  change UdpHeader.ofBytes ((splice p.asBytes 0 received).drop 40) = _
  rw [splice, List.take_zero, List.nil_append, Nat.zero_add]

lemma recv_buffer : (p.recv received h).buffer.toList =
    (received ++ p.asBytes.drop received.length).drop 48 := by
  change (splice p.asBytes 0 received).drop 48 = _
  rw [splice, List.take_zero, List.nil_append, Nat.zero_add]

lemma datagram_payload {d : Datagram}
    (hd : (p.recv received h).datagram received.length = .ok (some d)) :
    d.payload = received.drop 48 := by
  obtain ⟨-, hlen, -, hsame, height, hpayload⟩ := datagram_some hd
  rw [Ip6Header.len, ← hsame] at hlen
  rw [hpayload, recv_buffer, List.drop_append_of_le_length (by omega),
    List.take_left' (by rw [List.length_drop]; omega)]

variable (ip : Ip6Header) (udp : UdpHeader) (payload : Bytes)

lemma datagram_recv (hversion : Ip6Flags.version ip.flags = 6) (hnext : ip.nextHeader = IpProto.udp)
    (hsame : udp.length = ip.payloadLength) (hlength : ip.payloadLength.toNat = 8 + payload.length)
    (h : (ip.asBytes ++ udp.asBytes ++ payload).length ≤ 4144) :
    (p.recv (ip.asBytes ++ udp.asBytes ++ payload) h).datagram
      (ip.asBytes ++ udp.asBytes ++ payload).length =
      .ok (some ⟨⟨ip.dst, udp.dstPort, 0, 0⟩, ⟨ip.src, udp.srcPort, 0, 0⟩, payload⟩) := by
  have htotal : (ip.asBytes ++ udp.asBytes ++ payload).length = 48 + payload.length := by
    simp; omega
  have hip : (p.recv _ h).ip = ip := by
    rw [recv_ip, List.append_assoc, List.append_assoc, Ip6Header.ofBytes_asBytes]
  have hudp : (p.recv _ h).udp = udp := by
    rw [recv_udp, List.append_assoc, List.append_assoc,
      List.drop_left' (Ip6Header.asBytes_length _), UdpHeader.ofBytes_asBytes]
  have hbuffer : (p.recv _ h).buffer.toList.take payload.length = payload := by
    rw [recv_buffer, List.append_assoc, List.drop_left' (by simp), List.take_left]
  have hsize := (p.recv _ h).buffer.toList_length
  have hsmall : ¬ ip.payloadLength < 8 := by
    rw [UInt16.lt_iff_toNat_lt, hlength]
    simp
  unfold datagram
  rw [hip, hudp, if_neg (not_not.mpr hversion), if_neg
    (not_not.mpr (by rw [Ip6Header.len, htotal, hlength]; omega)), if_neg (not_not.mpr hnext),
    if_neg hsmall, if_neg (not_not.mpr hsame), hsame, hlength, subChecked_ok (by omega), ok_bind,
    Nat.add_sub_cancel_left, readAt_ok (by omega), ok_bind, slice_zero, hbuffer]
  rfl

end Received

end Udp6Packet

end Masquerade.DtlsProxy
