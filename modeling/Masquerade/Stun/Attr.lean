import Masquerade.Lib.BigEndian
import Masquerade.Lib.Exec

/-! Attributes: their types, the bytes before them, and what a codec for one of them is. -/

namespace Masquerade.Stun

open Lib

namespace Typ

def mappedAddress : UInt16 := 0x0001
def username : UInt16 := 0x0006
def messageIntegrity : UInt16 := 0x0008
def errorCode : UInt16 := 0x0009
def unknownAttributes : UInt16 := 0x000A
def channelNumber : UInt16 := 0x000C
def lifetime : UInt16 := 0x000D
def xorPeerAddress : UInt16 := 0x0012
def data : UInt16 := 0x0013
def realm : UInt16 := 0x0014
def nonce : UInt16 := 0x0015
def xorRelayedAddress : UInt16 := 0x0016
def requestedAddressFamily : UInt16 := 0x0017
def evenPort : UInt16 := 0x0018
def requestedTransport : UInt16 := 0x0019
def dontFragment : UInt16 := 0x001A
def messageIntegritySha256 : UInt16 := 0x001C
def xorMappedAddress : UInt16 := 0x0020
def reservationToken : UInt16 := 0x0022
def priority : UInt16 := 0x0024
def useCandidate : UInt16 := 0x0025
def additionalAddressFamily : UInt16 := 0x8000
def addressErrorCode : UInt16 := 0x8001
def alternateDomain : UInt16 := 0x8003
def icmp : UInt16 := 0x8004
def software : UInt16 := 0x8022
def alternateServer : UInt16 := 0x8023
def fingerprint : UInt16 := 0x8028
def iceControlled : UInt16 := 0x8029
def iceControlling : UInt16 := 0x802A

end Typ

/-- The message up to an attribute: the first four bytes, their length field counting to the end of
that attribute, and the bytes after them. -/
structure Prefix where
  firstFour : Bytes
  bytes : Bytes
  deriving DecidableEq, Repr

def Prefix.xorBytes (p : Prefix) (dest : Bytes) : Exec Bytes := do
  require (dest.length ≤ 16)
  if dest.length ≤ p.bytes.length then return List.zipWith (· ^^^ ·) dest p.bytes
  else throw .index

def Prefix.all (p : Prefix) : Bytes := p.firstFour ++ p.bytes

structure Item where
  pre : Prefix
  typ : UInt16
  value : Bytes
  deriving DecidableEq, Repr

structure Slice where
  start : ℕ
  bytes : Bytes
  deriving DecidableEq, Repr

structure AttrDec (A : Type) where
  typ : UInt16
  Err : Type
  decode : Prefix → Bytes → Exec (Except Err A)
  mustPrecede : UInt16 → Bool

structure AttrEnc (A : Type) where
  typ : UInt16
  length : A → Exec ℕ
  encode : A → Prefix → Bytes → Exec Bytes

def mustPrecede (typ : UInt16) : Bool :=
  typ == Typ.messageIntegrity || typ == Typ.messageIntegritySha256 || typ == Typ.fingerprint

variable {A : Type}

structure AttrEnc.Writes (enc : AttrEnc A) (a : A) (n : ℕ) (f : Prefix → Bytes) : Prop where
  length : enc.length a = .ok n
  encode : ∀ p v, 16 ≤ p.bytes.length → v.length = n → enc.encode a p v = .ok (f p)
  size : ∀ p, 16 ≤ p.bytes.length → (f p).length = n

lemma AttrEnc.Writes.unique {enc : AttrEnc A} {a : A} {n n' : ℕ} {f f' : Prefix → Bytes}
    (h : enc.Writes a n f) (h' : enc.Writes a n' f') {p : Prefix} (hp : 16 ≤ p.bytes.length) :
    f p = f' p := by
  have hn : n = n' := Except.ok.inj (h.length.symm.trans h'.length)
  have hl : (List.replicate n (0 : UInt8)).length = n := List.length_replicate
  exact Except.ok.inj ((h.encode p _ hp hl).symm.trans (h'.encode p _ hp (hl.trans hn)))

def AttrDec.Safe (dec : AttrDec A) : Prop :=
  ∀ p v, 16 ≤ p.bytes.length → ∃ r, dec.decode p v = .ok r

def xorWith (p : Prefix) (bs : Bytes) : Bytes := List.zipWith (· ^^^ ·) bs p.bytes

lemma Prefix.xorBytes_ok {p : Prefix} {bs : Bytes} (hp : 16 ≤ p.bytes.length)
    (hb : bs.length ≤ 16) :
    p.xorBytes bs = .ok (xorWith p bs) := by
  simp only [xorBytes, require_ok hb, ok_bind]
  rw [if_pos (by omega)]
  rfl

lemma xorWith_length {p : Prefix} {bs : Bytes} (h : bs.length ≤ p.bytes.length) :
    (xorWith p bs).length = bs.length := by
  simp [xorWith, h]

lemma zipWith_xor_cancel (bs xs : Bytes) (h : bs.length ≤ xs.length) :
    List.zipWith (· ^^^ ·) (List.zipWith (· ^^^ ·) bs xs) xs = bs := by
  induction bs generalizing xs with
  | nil => simp
  | cons b bs ih =>
    cases xs with
    | nil => simp at h
    | cons x xs =>
      simp only [List.zipWith_cons_cons, List.cons.injEq]
      exact ⟨by rw [UInt8.xor_assoc, UInt8.xor_self, UInt8.xor_zero], ih xs (by simpa using h)⟩

lemma xorWith_xorWith {p : Prefix} {bs : Bytes} (h : bs.length ≤ p.bytes.length) :
    xorWith p (xorWith p bs) = bs := zipWith_xor_cancel bs p.bytes h

end Masquerade.Stun
