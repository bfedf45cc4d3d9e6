import Masquerade.Common.HandleTurn

/-! The loop of `ice-dissolve`: connectivity checks for the fragment `dissolve` are answered, in
place, and everything else goes back to the network. -/

namespace Masquerade.IceDissolve

open Lib Stun Wire Common

variable [Crypto]

structure IceAttrs where
  username : Option Str
  integrity : Option (Integrity 20)
  iceControlled : Option UInt64
  iceControlling : Option UInt64
  priority : Option UInt32
  useCandidate : Option Unit
  fingerprint : Option Unit
  unknowns : Option (List.Vector UInt16 1)

def parseIce (buffer : Bytes) : Exec IceAttrs := do
  let items ← attrs buffer
  let (username, items) ← parse Stun.username items
  let (integrity, items) ← parse Stun.messageIntegrity items
  let (iceControlled, items) ← parse Stun.iceControlled items
  let (iceControlling, items) ← parse Stun.iceControlling items
  let (priority, items) ← parse Stun.priority items
  let (useCandidate, items) ← parse Stun.useCandidate items
  let (fingerprint, items) ← parse Stun.fingerprint items
  return ⟨username, integrity, iceControlled, iceControlling, priority, useCandidate, fingerprint,
    collectUnknown 1 items⟩

def xorOption {A : Type} : Option A → Option A → Option A
  | some a, none => some a
  | none, some b => some b
  | _, _ => none

def splitOnce (delimiter : UInt8) (s : Bytes) : Option (Bytes × Bytes) :=
  if delimiter ∈ s then some (s.takeWhile (· != delimiter),
    (s.dropWhile (· != delimiter)).drop 1) else none

def dissolve : Bytes := [0x64, 0x69, 0x73, 0x73, 0x6F, 0x6C, 0x76, 0x65]

/-- `b"the/ice/password/constant"`. -/
def iceKey : Bytes :=
  [0x74, 0x68, 0x65, 0x2F, 0x69, 0x63, 0x65, 0x2F, 0x70, 0x61, 0x73, 0x73, 0x77, 0x6F, 0x72, 0x64,
    0x2F, 0x63, 0x6F, 0x6E, 0x73, 0x74, 0x61, 0x6E, 0x74]

/-- The response to a check from `sender`, or nothing where the code breaks out of the block. -/
def answerIce (sender : SocketAddr) (a : IceAttrs) : Option (Stun.Class × List Attribute) :=
  match a.unknowns, a.username, a.integrity, xorOption a.iceControlled a.iceControlling, a.priority,
    a.fingerprint with
  | none, some username, some integrity, some _, some _, some () =>
    match splitOnce 0x3A username.asBytes with
    | none => none
    | some (dstUfrag, _) =>
      if dstUfrag ≠ dissolve then none
      else if ¬ integrity.verify iceKey then some (.error, [.errorCode 441 emptyStr, .fingerprint])
      else if a.iceControlled.isSome then
        some (.error, [.errorCode 487 emptyStr, .messageIntegrity iceKey, .fingerprint])
      else some (.success, [.xorMappedAddress sender, .messageIntegrity iceKey, .fingerprint])
  | _, _, _, _, _, _ => none

def turnAround (ip : Ip6Header) (udp : UdpHeader) (class_ : Stun.Class)
    (attributes : List Attribute) (inner : Bytes) :
    Exec (Bytes × ℕ) := do
  let inner ← respond class_ attributes inner
  let ip := { ip with src := ip.dst, dst := ip.src }
  let udp := { udp with srcPort := udp.dstPort, dstPort := udp.srcPort }
  let udpLength ← addWithin 16 (8 + 20) (← Stun.length inner)
  let udp := { udp with length := UInt16.ofNat udpLength }
  let ip := { ip with payloadLength := udp.length }
  let data ← readAt inner 0 (← len inner)
  let udp ← udpChecksumFill ip udp data
  return (ip.asBytes ++ udp.asBytes ++ inner, ip.len)

/-- The block `'intercept`: the buffer and the length it is left with. -/
def intercept (length : ℕ) (buffer : Bytes) : Exec (Bytes × ℕ) := do
  let some (ip, rest) := Ip6Header.fromPrefix buffer | return (buffer, length)
  if Ip6Flags.version ip.flags ≠ 6 then
    return (buffer, length)
  if ip.len ≠ length then
    return (buffer, length)
  if ip.nextHeader ≠ IpProto.udp then
    return (buffer, length)
  if ip.payloadLength < 8 then
    return (buffer, length)
  let some (udp, rest) := UdpHeader.fromPrefix rest | return (buffer, length)
  if udp.length ≠ ip.payloadLength then
    return (buffer, length)
  let dataLen ← subChecked udp.length.toNat 8
  -- `Some(0..3)`
  if ¬ rest.head?.any (· < 3) then
    return (buffer, length)
  let .ok () ← decode rest dataLen | return (buffer, length)
  if (← msgClass rest) ≠ .request ∨ (← method rest) ≠ .binding then
    return (buffer, length)
  let a ← parseIce rest
  match answerIce (.v6 ⟨ip.src, udp.srcPort, 0, 0⟩) a with
  | none => return (buffer, length)
  | some (class_, attributes) => turnAround ip udp class_ attributes rest

def forward (length : ℕ) (buffer : Bytes) : Exec Bytes := do
  let (buffer, length) ← intercept length buffer
  readAt buffer 0 length

end Masquerade.IceDissolve
