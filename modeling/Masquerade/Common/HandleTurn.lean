import Masquerade.Stun.Attribute
import Masquerade.Stun.Layout
import Masquerade.Wire

/-! The TURN request handler: parsing, the decision between its arms, and what each arm does. -/

namespace Masquerade.Common

open Lib Stun Wire

variable [Crypto]

structure TurnAttrs where
  username : Option Str
  realm : Option Str
  integrity : Option (Integrity 20)
  nonce : Option Str
  lifetime : Option UInt32
  requestedTransport : Option UInt8
  channel : Option UInt16
  xorPeer : Option SocketAddr
  data : Option Slice
  unknownAttrs : Option (List.Vector UInt16 8)

def parseTurn (buffer : Bytes) : Exec TurnAttrs := do
  let items ← attrs buffer
  let (username, items) ← parse Stun.username items
  let (realm, items) ← parse Stun.realm items
  let (integrity, items) ← parse Stun.messageIntegrity items
  let (nonce, items) ← parse Stun.nonce items
  let (lifetime, items) ← parse Stun.lifetime items
  let (requestedTransport, items) ← parse Stun.requestedTransport items
  let (channel, items) ← parse Stun.channelNumber items
  let (xorPeer, items) ← parse Stun.xorPeerAddress items
  let (data, items) ← parse Stun.data items
  return ⟨username, realm, integrity, nonce, lifetime, requestedTransport, channel, xorPeer, data,
    collectUnknown 8 items⟩

def methodUnknown (method : Method) : Bool :=
  !(method ∈ [Method.binding, .allocate, .refresh, .createPermission, .send, .channelBind])

def colon : Bytes := [0x3A]

def colonPassword : Bytes := [0x3A, 0x70, 0x61, 0x73, 0x73, 0x77, 0x6F, 0x72, 0x64]

def longTermKey (username realm : Str) : Bytes :=
  (Crypto.md5 (username.asBytes ++ colon ++ realm.asBytes ++ colonPassword)).toList

def turnKey (a : TurnAttrs) : Bytes :=
  match a.username, a.realm, a.integrity with
  | some username, some realm, some _ => longTermKey username realm
  | _, _, _ => List.replicate 16 0

def emptyStr : Str := ⟨[], rfl⟩

def noneStr : Str := ⟨[0x6E, 0x6F, 0x6E, 0x65], by decide⟩

/-- What an arm of the match does: `return None`, overwrite the message with a response, or send a
datagram. -/
inductive Answer
  | ignore
  | respond (class_ : Stun.Class) (attributes : List Attribute)
  | relay (peer : SocketAddrV6) (data : Slice)

section Answer

variable (canonical : SocketAddr) (relayed : SocketAddrV6)

def answerVerified (class_ : Stun.Class) (method : Method) (a : TurnAttrs) : Answer :=
  if class_ = .request ∧ method = .allocate ∧ a.requestedTransport ≠ some 17 then
    .respond .error [.errorCode 442 emptyStr, .messageIntegrity (turnKey a)]
  else if class_ = .request ∧ method = .allocate then
    .respond .success [.xorMappedAddress canonical, .xorRelayedAddress (.v6 relayed),
      .lifetime (a.lifetime.getD 1000), .messageIntegrity (turnKey a)]
  else if class_ = .request ∧ method = .refresh ∧ a.lifetime = some 0 then .ignore
  else if class_ = .request ∧ method = .refresh then
    .respond .success [.lifetime (a.lifetime.getD 1000), .messageIntegrity (turnKey a)]
  else if class_ = .request ∧ method = .createPermission then
    .respond .success [.messageIntegrity (turnKey a)]
  else if class_ = .request ∧ method = .channelBind then
    .respond .error [.errorCode 438 emptyStr, .messageIntegrity (turnKey a)]
  else if class_ = .indication ∧ method = .send then
    match a.xorPeer, a.data with
    | some (.v6 peer), some data => .relay peer data
    | _, _ => .ignore
  else .ignore

def answerKnown (class_ : Stun.Class) (method : Method) (a : TurnAttrs) : Answer :=
  if class_ = .request ∧ (a.username.isNone ∨ a.realm.isNone) then
    .respond .error [.errorCode 401 emptyStr, .realm noneStr, .nonce noneStr]
  else if class_ = .request ∧ a.integrity.isNone then .ignore
  else if class_ = .request ∧ ¬ a.integrity.any (fun i => i.verify (turnKey a)) then
    .respond .error [.errorCode 403 emptyStr]
  else answerVerified canonical relayed class_ method a

def answer (class_ : Stun.Class) (method : Method) (a : TurnAttrs) : Answer :=
  if class_ = .error ∨ class_ = .success then .ignore
  else if class_ = .request ∧ method = .binding then .respond .success [.xorMappedAddress canonical]
  else if class_ = .request ∧ methodUnknown method then .respond .error [.errorCode 404 emptyStr]
  else match a.unknownAttrs with
  | some unknown =>
    if class_ = .request then .respond .error
      [.errorCode 420 emptyStr, .unknownAttributes 8 unknown] else .ignore
  | none => answerKnown canonical relayed class_ method a

end Answer

structure Outcome where
  buffer : Bytes
  sent : List Bytes
  reply : Bool
  deriving DecidableEq

def respond (class_ : Stun.Class) (attributes : List Attribute) (buffer : Bytes) : Exec Bytes := do
  let buffer ← setLength buffer 0
  let buffer ← setClass buffer class_
  appendEach attributes buffer

/-- The arm for `Send`: the data is shifted to where an IPv6 and a UDP header fit before it. -/
def send (relayed peer : SocketAddrV6) (data : Slice) (buffer : Bytes) : Exec Outcome := do
  let len := data.bytes.length
  let i ← subChecked data.start 4
  if buffer.length < 48 + len then
    return ⟨buffer, [], false⟩
  let moved ← readAt buffer i (4 + len)
  let buffer ← writeAt buffer 44 moved
  let length ← addWithin 16 (len % 65536) 8
  let (ip, rest) ← unwrapSome (Ip6Header.fromPrefix buffer)
  let (udp, rest) ← unwrapSome (UdpHeader.fromPrefix rest)
  let data ← readAt rest 0 len
  let ip : Ip6Header := {
    flags := Ip6Flags.setFlowLabel (Ip6Flags.setTrafficClass (Ip6Flags.setVersion ip.flags 6) 0) 0
    payloadLength := UInt16.ofNat length
    nextHeader := IpProto.udp
    hopLimit := 64
    src := relayed.ip
    dst := peer.ip }
  let udp : UdpHeader := { udp with
    srcPort := relayed.port
    dstPort := peer.port
    length := UInt16.ofNat length }
  let udp ← udpChecksumFill ip udp data
  let buffer := ip.asBytes ++ udp.asBytes ++ rest
  let packet ← readAt buffer 0 ip.len
  return ⟨buffer, [packet], false⟩

def handleTurn (canonical : SocketAddr) (relayed : SocketAddrV6) (buffer : Bytes) :
    Exec Outcome := do
  -- All zeroes are refused as a transaction id.
  if (← txid buffer) = List.replicate 12 0 then
    return ⟨buffer, [], false⟩
  let a ← parseTurn buffer
  let method ← method buffer
  let class_ ← msgClass buffer
  match answer canonical relayed class_ method a with
  | .ignore => return ⟨buffer, [], false⟩
  | .respond class_ attributes =>
    let buffer ← respond class_ attributes buffer
    return ⟨buffer, [], true⟩
  | .relay peer data => send relayed peer data buffer

end Masquerade.Common
