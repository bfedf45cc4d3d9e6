import Masquerade.Common.HandleNet
import Masquerade.Common.HandleTurn
import Masquerade.Lib.Trace
import Masquerade.TurnserverUdp.Mapping

/-! The event loop of the UDP server, one call of the operating system at a time. -/

namespace Masquerade.TurnserverUdp

open Lib Stun Common

/-- An address `::ffff:a.b.c.d` is the IPv4 address it holds, and every other one itself. -/
def IpAddr.toCanonical : IpAddr → IpAddr
  | .v4 ip => .v4 ip
  | .v6 ip => if ip >>> 32 = 0xFFFF#128 then .v4 (ip.setWidth 32) else .v6 ip

def SocketAddr.new (ip : IpAddr) (port : UInt16) : SocketAddr :=
  match ip with
  | .v4 ip => .v4 ⟨ip, port⟩
  | .v6 ip => .v6 ⟨ip, port, 0, 0⟩

def ipOf : SocketAddr → IpAddr
  | .v4 addr => .v4 addr.ip
  | .v6 addr => .v6 addr.ip

def canonicalOf (sender : SocketAddr) : SocketAddr :=
  SocketAddr.new (ipOf sender).toCanonical sender.port

def relayedFor (mappings : List Mapping) (sender : SocketAddr) : SocketAddrV6 :=
  relayedOf mappings (ipOf sender) sender.port

inductive Token
  | udp
  | tun
  deriving DecidableEq, Repr

inductive Pc
  | poll
  | next
  | udp
  | tun
  | exited
  | panicked
  deriving DecidableEq, Repr

inductive Action
  | send (packet : Bytes)
  | sendTo (datagram : Bytes) (receiver : SocketAddr)
  deriving DecidableEq

structure State where
  pc : Pc
  events : List Token
  buffer : Bytes
  actions : List Action

abbrev Datagram := { data : Bytes // data.length ≤ 65536 }

inductive Input
  | poll (events : Option (List Token))
  | tick
  | recvFrom (outcome : Option (Datagram × SocketAddr))
  | recv (outcome : Option (Datagram × List.Vector UInt8 12))
  deriving DecidableEq

namespace State

def goto (s : State) (pc : Pc) : State := { s with pc := pc }

def act (s : State) (actions : List Action) : State := { s with actions := s.actions ++ actions }

def fill (s : State) (data : Datagram) : State := { s with buffer := splice s.buffer 0 data.val }

end State

def initial : State where
  pc := .next
  events := []
  buffer := List.replicate 65536 0
  actions := []

def next (s : State) : State :=
  match s.events with
  | [] => s.goto .poll
  | .udp :: rest => { s with pc := .udp, events := rest }
  | .tun :: rest => { s with pc := .tun, events := rest }

def settle (s : State) : Exec State → State
  | .ok t => t
  | .error _ => s.goto .panicked

def reply (sender : SocketAddr) (s : State) (o : Outcome) : Exec State := do
  let s := { s with buffer := o.buffer }.act (o.sent.map .send)
  if o.reply then
    let length ← len o.buffer
    let response ← readAt o.buffer 0 length
    return s.act [.sendTo response sender]
  else return s

variable [Crypto] (mappings : List Mapping)

def received (sender : SocketAddr) (length : ℕ) (s : State) : Exec State := do
  match ← decode s.buffer length with
  | .error _ => return s
  | .ok () =>
    let o ← handleTurn (canonicalOf sender) (relayedFor mappings sender) s.buffer
    reply sender s o

def tunnelled (length : ℕ) (random : List.Vector UInt8 12) (s : State) : Exec State := do
  match ← handleNet length random s.buffer with
  | none => return s
  | some (receiver, msg) =>
    let s := { s with buffer := msg }
    let length ← len msg
    let indication ← readAt msg 0 length
    return s.act [.sendTo indication (mappedReceiver mappings receiver)]

def step (s : State) : Input → Option State
  | .tick => if s.pc = .next then some (next s) else none
  | .poll outcome =>
    if s.pc = .poll then
      match outcome with
      | none => some (s.goto .exited)
      | some events => some { s with pc := .next, events := events }
    else none
  | .recvFrom outcome =>
    if s.pc = .udp then
      match outcome with
      | none => some (s.goto .next)
      | some (data, sender) =>
        some (settle (s.fill data) (received mappings sender data.val.length (s.fill data)))
    else none
  | .recv outcome =>
    if s.pc = .tun then
      match outcome with
      | none => some (s.goto .next)
      | some (packet, random) =>
        some (settle (s.fill packet) (tunnelled mappings packet.val.length random (s.fill packet)))
    else none

end Masquerade.TurnserverUdp
