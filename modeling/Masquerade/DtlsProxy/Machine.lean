import Masquerade.DtlsProxy.Packet
import Masquerade.Lib.Run
import Mathlib.Data.List.AList

/-! The loop of `dtls-proxy`: each datagram goes to the stream of its destination, and OpenSSL,
called on it, calls back for what it reads and writes. -/

namespace Masquerade.DtlsProxy

open Lib Wire

inductive ErrorCode
  | zeroReturn
  | wantRead
  | wantWrite
  | syscall
  | ssl
  deriving DecidableEq, Repr

inductive Request
  | doHandshake
  | sslWrite (plain : Bytes)
  | sslPeek
  deriving DecidableEq

inductive Action (Ssl : Type)
  | read (size : ℕ)
  | write (buf : Bytes)
  | ret (ssl : Ssl) (result : Except ErrorCode Unit)

structure Cursor where
  buffer : Buffer
  position : ℕ

def Cursor.data (cursor : Cursor) : Bytes := cursor.buffer.toList.take cursor.position

/-- OpenSSL and libsrtp. A call is a machine of its own, which is told what came of each of its
reads and writes. `ssl_read` alone is one step, as if it made neither: the loop holds the shared
buffer while it runs, and what is left out is that OpenSSL may still come back for the buffer there
and panic, as it does when data is pending before the handshake is finished. The outcome of an
operation of SRTP is whether it succeeded. -/
structure Engine where
  Ssl : Type
  Call : Type
  Inbound : Type
  Outbound : Type
  accept : Ssl
  isInitFinished : Ssl → Bool
  pending : Ssl → ℕ
  start : Request → Ssl → Call
  next : Call → Action Ssl
  wasRead : Call → Except ErrorKind Bytes → Call
  wasWritten : Call → Except ErrorKind ℕ → Call
  sslRead : Ssl → Ssl × Except ErrorCode { buf : Bytes // buf.length ≤ 4096 }
  sessionPair : Ssl → Option (Inbound × Outbound)
  unprotect : Bool → Inbound → Cursor → Inbound × Cursor × Bool
  protect : Bool → Outbound → Cursor → Outbound × Cursor × Bool
  accept_unfinished : isInitFinished accept = false

structure Bio (E : Engine) where
  sendFrom : SocketAddrV6
  sendTo : SocketAddrV6
  sessions : Option (E.Inbound × E.Outbound)

structure SslStream (E : Engine) where
  ssl : E.Ssl
  bio : Bio E

abbrev Streams (E : Engine) := AList fun _ : SocketAddrV6 => SslStream E

def Streams.retain {E : Engine} (streams : Streams E) (keep : SocketAddrV6 → Bool) : Streams E where
  entries := streams.entries.filter fun entry => keep entry.1
  nodupKeys := streams.nodupKeys.sublist List.filter_sublist

inductive Pc (E : Engine)
  | recv
  | call (dst src : SocketAddrV6) (handshake : Bool) (c : E.Call)
  | pull (dst src : SocketAddrV6)
  | exited
  | panicked

structure State (E : Engine) where
  pc : Pc E
  packet : Udp6Packet
  streams : Streams E
  nextCleanup : ℕ
  sent : List Bytes

/-- A packet is received, or not, and a new stream, if one is needed, is set up, or not. In between
OpenSSL goes on by a `tick`; `old` are the streams that have not written anything for five
minutes. -/
inductive Input
  | recv (outcome : Option Bytes) (created : Bool)
  | tick (old : SocketAddrV6 → Bool)

structure Config where
  endpoint : SocketAddrV6
  rtpEndpoint : SocketAddrV6

def Config.default : Config := ⟨⟨1, 9899, 0, 0⟩, ⟨1, 4666, 0, 0⟩⟩

def initial (E : Engine) : State E where
  pc := .recv
  packet := .newZeroed
  streams := ∅
  nextCleanup := 10
  sent := []

inductive Fate (E : Engine)
  | drop
  | request (r : Request)
  | unprotect (rtcp : Bool) (incoming : E.Inbound) (outgoing : E.Outbound)
  | protect (rtcp : Bool) (incoming : E.Inbound) (outgoing : E.Outbound)

def mediaByte : Bytes → Option UInt8
  | first :: second :: _ => if 128 ≤ first ∧ first < 191 then some second else none
  | _ => none

def isRtcp (second : UInt8) : Bool := 200 ≤ second && second < 224

namespace State

variable {E : Engine}

def goto (s : State E) (pc : Pc E) : State E := { s with pc := pc }

def put (s : State E) (dst : SocketAddrV6) (stream : SslStream E) : State E :=
  { s with streams := s.streams.insert dst stream }

end State

section Loop

variable {E : Engine} (cfg : Config)

def fate (stream : SslStream E) (d : Datagram) : Fate E :=
  if ¬ E.isInitFinished stream.ssl then .request .doHandshake
  else match mediaByte d.payload with
    | some second =>
      match stream.bio.sessions with
      | none => .drop
      | some (incoming, outgoing) =>
        if d.src = cfg.rtpEndpoint then .protect (isRtcp second) incoming outgoing
        else .unprotect (isRtcp second) incoming outgoing
    | none =>
      if d.src = cfg.endpoint then
        .request (.sslWrite (if d.src = cfg.endpoint then d.payload else []))
      else .request .sslPeek

/-- The media packet, turned to its receiver. The rest of its headers is left as it was received. -/
def Udp6Packet.forward (p : Udp6Packet) (sendFrom receiver : SocketAddrV6) (cursor : Cursor) :
    Exec (Option (Udp6Packet × Bytes)) := do
  let data ← readAt cursor.buffer.toList 0 cursor.position
  -- `u16::try_from(..)?`
  if 65536 ≤ 8 + cursor.position then
    return none
  let ip := { p.ip with
    payloadLength := UInt16.ofNat (8 + cursor.position)
    src := sendFrom.ip
    dst := receiver.ip }
  let udp ← udpChecksumFill ip { p.udp with
    length := ip.payloadLength
    srcPort := sendFrom.port
    dstPort := receiver.port } data
  let p : Udp6Packet := ⟨ip, udp, cursor.buffer⟩
  let packet ← readAt p.asBytes 0 (40 + 8 + cursor.position)
  return some (p, packet)

def media (s : State E) (d : Datagram) (stream : SslStream E) (sessions : E.Inbound × E.Outbound)
    (cursor : Cursor) (ok : Bool) : State E :=
  let s := s.put d.dst { stream with bio := { stream.bio with sessions := some sessions } }
  if ¬ ok then { s with packet := { s.packet with buffer := cursor.buffer } }
  else
    let receiver := if d.src = cfg.rtpEndpoint then stream.bio.sendTo else cfg.rtpEndpoint
    match s.packet.forward stream.bio.sendFrom receiver cursor with
    | .error _ => s.goto .panicked
    | .ok none => s.goto .exited
    | .ok (some (p, packet)) => { s with packet := p, sent := s.sent ++ [packet] }

def dispatch (s : State E) (d : Datagram) (stream : SslStream E) : State E :=
  match fate cfg stream d with
  | .drop => s
  | .request r => s.goto (.call d.dst d.src (r = .doHandshake) (E.start r stream.ssl))
  | .unprotect rtcp incoming outgoing =>
    match subChecked s.packet.udp.length.toNat 8 with
    | .error _ => s.goto .panicked
    | .ok position =>
      let (incoming, cursor, ok) := E.unprotect rtcp incoming ⟨s.packet.buffer, position⟩
      media cfg s d stream (incoming, outgoing) cursor ok
  | .protect rtcp incoming outgoing =>
    match subChecked s.packet.udp.length.toNat 8 with
    | .error _ => s.goto .panicked
    | .ok position =>
      let (outgoing, cursor, ok) := E.protect rtcp outgoing ⟨s.packet.buffer, position⟩
      media cfg s d stream (incoming, outgoing) cursor ok

def SslStream.new (E : Engine) (d : Datagram) : SslStream E := ⟨E.accept, ⟨d.dst, d.src, none⟩⟩

def accepted (s : State E) (d : Datagram) (created : Bool) : State E :=
  match s.streams.lookup d.dst with
  | some stream => dispatch cfg s d stream
  | none =>
    if d.src = cfg.endpoint then s
    else if ¬ created then s.goto .exited
    else dispatch cfg (s.put d.dst (.new E d)) d (.new E d)

def recv (s : State E) (outcome : Option Bytes) (created : Bool) : Option (State E) :=
  match outcome with
  | none => some s
  | some received =>
    if h : received.length ≤ 4144 then
      let s := { s with packet := s.packet.recv received h }
      some (match s.packet.datagram received.length with
        | .error _ => s.goto .panicked
        | .ok none => s
        | .ok (some d) => accepted cfg s d created)
    else none

def cleanup (s : State E) (old : SocketAddrV6 → Bool) : State E :=
  if s.nextCleanup < s.streams.entries.length then
    let streams := s.streams.retain fun addr => !old addr
    { s with pc := .recv, streams := streams, nextCleanup := streams.entries.length + 10 }
  else s.goto .recv

def returned (s : State E) (dst src : SocketAddrV6) (handshake : Bool) (stream : SslStream E)
    (ssl : E.Ssl) (result : Except ErrorCode Unit) : State E :=
  let sessions :=
    if handshake && E.isInitFinished ssl then E.sessionPair ssl else stream.bio.sessions
  let s := s.put dst ⟨ssl, { stream.bio with sessions := sessions }⟩
  match result with
  | .error code =>
    if code = .wantRead ∨ code = .wantWrite then s.goto (.pull dst src)
    else { s with pc := .recv, streams := s.streams.erase dst }
  | .ok () => s.goto (.pull dst src)

def tickCall (s : State E) (dst src : SocketAddrV6) (handshake : Bool) (c : E.Call)
    (stream : SslStream E) : State E :=
  match E.next c with
  | .read size =>
    match s.packet.read stream.bio.sendFrom size with
    | .error _ => s.goto .panicked
    | .ok (p, r) => { s with packet := p, pc := .call dst src handshake (E.wasRead c r) }
  | .write buf =>
    match s.packet.write stream.bio.sendFrom stream.bio.sendTo buf with
    | .error _ => s.goto .panicked
    | .ok (p, sent, r) =>
      { s with
        packet := p, sent := s.sent ++ sent, pc := .call dst src handshake (E.wasWritten c r) }
  | .ret ssl result => returned s dst src handshake stream ssl result

def tickPull (s : State E) (dst src : SocketAddrV6) (stream : SslStream E)
    (old : SocketAddrV6 → Bool) : State E :=
  if 0 < E.pending stream.ssl then
    match E.sslRead stream.ssl with
    | (ssl, .error _) => cleanup (s.put dst { stream with ssl := ssl }) old
    | (ssl, .ok ⟨buf, h⟩) =>
      let s := s.put dst ⟨ssl, { stream.bio with sendTo := src }⟩
      match { s.packet with buffer := s.packet.buffer.fill buf h }.address stream.bio.sendFrom
        cfg.endpoint buf with
      | .error _ => s.goto .panicked
      | .ok p =>
        match readAt p.asBytes 0 (40 + (8 + buf.length)) with
        | .error _ => s.goto .panicked
        | .ok packet => { s with packet := p, sent := s.sent ++ [packet] }
  else cleanup s old

def step (s : State E) : Input → Option (State E)
  | .recv outcome created =>
    match s.pc with
    | .recv => recv cfg s outcome created
    | _ => none
  | .tick old =>
    match s.pc with
    | .call dst src handshake c =>
      (s.streams.lookup dst).map fun stream => tickCall s dst src handshake c stream
    | .pull dst src => (s.streams.lookup dst).map fun stream => tickPull cfg s dst src stream old
    | _ => none

end Loop

end Masquerade.DtlsProxy
