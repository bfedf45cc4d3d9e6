import Masquerade.Stun.Attribute
import Masquerade.Wire

/-! Packets from the network: UDP and ICMPv6 turned into `Data` indications, in place. -/

namespace Masquerade.Common

open Lib Stun Wire

variable [Crypto]

def dataIndication (random : List.Vector UInt8 12) (buffer : Bytes) : Exec Bytes := do
  let buffer ← setClass buffer .indication
  let buffer ← setMethod buffer .data
  let buffer ← setLength buffer 0
  let buffer ← setCookie buffer magicCookie
  setTxid buffer random

def relayUdp (ip : Ip6Header) (rest : Bytes) (random : List.Vector UInt8 12) (buffer : Bytes) :
    Exec (Option (SocketAddrV6 × Bytes)) := do
  if ip.payloadLength < 8 then
    return none
  let (udp, _) ← unwrapSome (UdpHeader.fromPrefix rest)
  if udp.length ≠ ip.payloadLength then
    return none
  let pad := (4 - udp.length.toNat % 4) % 4
  let stunLength := (24 + 4 - 8 + pad) + udp.length.toNat
  -- `checked_add(..)?`
  if 65536 ≤ stunLength then
    return none
  let dataLen ← subChecked udp.length.toNat 8
  let sender : SocketAddrV6 := ⟨ip.src, udp.srcPort, 0, 0⟩
  let receiver : SocketAddrV6 := ⟨ip.dst, udp.dstPort, 0, 0⟩
  let buffer ← dataIndication random buffer
  let buffer ← appendEach [.xorPeerAddress (.v6 sender)] buffer
  let data : StunAttrHeader := ⟨Typ.data, UInt16.ofNat dataLen⟩
  let buffer ← writeAt buffer 44 data.asBytes
  let buffer ← writeAt buffer (48 + dataLen) (List.replicate pad 0)
  let buffer ← setLength buffer stunLength
  return some (receiver, buffer)

def relayIcmp (ip : Ip6Header) (rest : Bytes) (random : List.Vector UInt8 12) (buffer : Bytes) :
    Exec (Option (SocketAddrV6 × Bytes)) := do
  if ip.payloadLength < 8 + 40 + 8 then
    return none
  let (icmp, rest) ← unwrapSome (Icmp6Header.fromPrefix rest)
  if ¬ (1 ≤ icmp.typ ∧ icmp.typ ≤ 3) then
    return none
  let (inner, rest) ← unwrapSome (Ip6Header.fromPrefix rest)
  if inner.nextHeader ≠ IpProto.udp then
    return none
  if inner.payloadLength < 8 then
    return none
  let (udp, _) ← unwrapSome (UdpHeader.fromPrefix rest)
  if udp.length ≠ inner.payloadLength then
    return none
  if ip.dst ≠ inner.src then
    return none
  let innerSender : SocketAddrV6 := ⟨inner.src, udp.srcPort, 0, 0⟩
  let innerReceiver : SocketAddrV6 := ⟨inner.dst, udp.dstPort, 0, 0⟩
  let buffer ← dataIndication random buffer
  let buffer ← appendEach [.xorPeerAddress (.v6 innerReceiver),
    .icmp icmp.typ icmp.code icmp.arg] buffer
  return some (innerSender, buffer)

/-- `random` is what `rng().fill_bytes` puts into the transaction id. -/
def handleNet (len : ℕ) (random : List.Vector UInt8 12) (buffer : Bytes) :
    Exec (Option (SocketAddrV6 × Bytes)) := do
  let (ip, rest) ← unwrapSome (Ip6Header.fromPrefix buffer)
  if Ip6Flags.version ip.flags ≠ 6 then
    return none
  if ip.len ≠ len then
    return none
  if ip.nextHeader = IpProto.udp then
    relayUdp ip rest random buffer
  else if ip.nextHeader = IpProto.icmp6 then
    relayIcmp ip rest random buffer
  else
    return none

end Masquerade.Common
