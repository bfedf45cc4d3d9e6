import Masquerade.Lib.BigEndian

/-! Internet addresses as the standard library has them, with their octets in network order. -/

namespace Masquerade

open Lib

abbrev Ipv4Addr := BitVec 32
abbrev Ipv6Addr := BitVec 128

def Ipv4Addr.octets (a : Ipv4Addr) : Bytes := toBE 4 a.toNat
def Ipv4Addr.fromOctets (bs : Bytes) : Ipv4Addr := BitVec.ofNat 32 (ofBE bs)

def Ipv6Addr.octets (a : Ipv6Addr) : Bytes := toBE 16 a.toNat
def Ipv6Addr.fromOctets (bs : Bytes) : Ipv6Addr := BitVec.ofNat 128 (ofBE bs)

structure SocketAddrV4 where
  ip : Ipv4Addr
  port : UInt16
  deriving DecidableEq, Repr

structure SocketAddrV6 where
  ip : Ipv6Addr
  port : UInt16
  flowinfo : UInt32
  scopeId : UInt32
  deriving DecidableEq, Repr

inductive SocketAddr
  | v4 (addr : SocketAddrV4)
  | v6 (addr : SocketAddrV6)
  deriving DecidableEq, Repr

def SocketAddr.port : SocketAddr → UInt16
  | .v4 addr => addr.port
  | .v6 addr => addr.port

def SocketAddr.isIpv4 : SocketAddr → Bool
  | .v4 _ => true
  | .v6 _ => false

/-- Flow label and scope are not carried by any of the wire formats. -/
def SocketAddrV6.Plain (addr : SocketAddrV6) : Prop := addr.flowinfo = 0 ∧ addr.scopeId = 0

def SocketAddr.Plain : SocketAddr → Prop
  | .v4 _ => True
  | .v6 addr => addr.Plain

instance (addr : SocketAddrV6) : Decidable addr.Plain := inferInstanceAs (Decidable (_ ∧ _))

instance : (addr : SocketAddr) → Decidable addr.Plain
  | .v4 _ => inferInstanceAs (Decidable True)
  | .v6 addr => inferInstanceAs (Decidable addr.Plain)

lemma SocketAddrV6.eq_of_plain {addr : SocketAddrV6} (h : addr.Plain) :
    addr = ⟨addr.ip, addr.port, 0, 0⟩ := by
  obtain ⟨ip, port, flowinfo, scopeId⟩ := addr
  obtain ⟨rfl, rfl⟩ : flowinfo = 0 ∧ scopeId = 0 := h
  rfl

@[simp] lemma Ipv4Addr.octets_length (a : Ipv4Addr) : (octets a).length = 4 := toBE_length 4 _

@[simp] lemma Ipv6Addr.octets_length (a : Ipv6Addr) : (octets a).length = 16 := toBE_length 16 _

@[simp] lemma Ipv4Addr.fromOctets_octets (a : Ipv4Addr) : fromOctets (octets a) = a := by
  simp [fromOctets, octets, Nat.mod_eq_of_lt a.isLt]

@[simp] lemma Ipv6Addr.fromOctets_octets (a : Ipv6Addr) : fromOctets (octets a) = a := by
  simp [fromOctets, octets, Nat.mod_eq_of_lt a.isLt]

end Masquerade
