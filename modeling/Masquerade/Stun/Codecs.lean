import Masquerade.Addr
import Masquerade.Lib.Utf8
import Masquerade.Stun.Attr

/-! The attribute codecs, one definition for each macro or hand-written implementation. -/

namespace Masquerade.Stun

open Lib

/-- The digests come from other crates; nothing is assumed of them. -/
class Crypto where
  hmacSha1 : Bytes → Bytes → List.Vector UInt8 20
  md5 : Bytes → List.Vector UInt8 16
  crc32 : Bytes → UInt32

@[reducible] def Crypto.recorded (macs : List ((Bytes × Bytes) × List.Vector UInt8 20))
    (keys : List (Bytes × List.Vector UInt8 16)) (sums : List (Bytes × UInt32)) : Crypto where
  hmacSha1 key bytes := (macs.lookup (key, bytes)).getD (List.Vector.replicate 20 0)
  md5 bytes := (keys.lookup bytes).getD (List.Vector.replicate 16 0)
  crc32 bytes := (sums.lookup bytes).getD 0

inductive SocketAddrError
  | unknownFamily (family : UInt8)
  | unexpectedLength
  deriving DecidableEq, Repr

inductive TryFromSliceError
  | mk
  deriving DecidableEq, Repr

inductive Utf8Error
  | mk
  deriving DecidableEq, Repr

inductive UnexpectedLength
  | mk
  deriving DecidableEq, Repr

inductive BadFingerprint
  | mk
  deriving DecidableEq, Repr

inductive SanityNotFound
  | mk
  deriving DecidableEq, Repr

def xorIf (xor : Bool) (p : Prefix) (bs : Bytes) : Exec Bytes :=
  if xor then p.xorBytes bs else .ok bs

def copyTail (value : Bytes) (i : ℕ) (src : Bytes) : Exec Bytes := do
  if value.length < i then throw .index
  let tail ← copyFrom (value.drop i) src
  return value.take i ++ tail

section SocketAddr

variable (typ : UInt16) (xor : Bool)

def sockaddrAttr : AttrDec SocketAddr where
  typ := typ
  Err := SocketAddrError
  mustPrecede := mustPrecede
  decode p value := do
    if value.length < 4 then
      return .error .unexpectedLength
    let family ← indexAt value 1
    let port ← readAt value 2 2
    let port ← xorIf xor p port
    if family = 0x01 ∧ 8 ≤ value.length then
      let octets ← readAt value 4 4
      let octets ← xorIf xor p octets
      return .ok (.v4 ⟨Ipv4Addr.fromOctets octets, u16Of port⟩)
    else if family = 0x02 ∧ 20 ≤ value.length then
      let octets ← readAt value 4 16
      let octets ← xorIf xor p octets
      return .ok (.v6 ⟨Ipv6Addr.fromOctets octets, u16Of port, 0, 0⟩)
    else if family = 0x02 ∨ family = 0x01 then
      return .error .unexpectedLength
    else
      return .error (.unknownFamily family)

def sockaddrAttrEnc : AttrEnc SocketAddr where
  typ := typ
  length
    | .v4 _ => .ok 8
    | .v6 _ => .ok 20
  encode a p value := do
    let value ← writeAt value 0 [0]
    let value ← writeAt value 1 [if a.isIpv4 then 0x01 else 0x02]
    let port ← xorIf xor p (u16Bytes a.port)
    let value ← writeAt value 2 port
    match a with
    | .v4 addr =>
      let octets ← xorIf xor p (Ipv4Addr.octets addr.ip)
      copyTail value 4 octets
    | .v6 addr =>
      let octets ← xorIf xor p (Ipv6Addr.octets addr.ip)
      copyTail value 4 octets

end SocketAddr

def mappedAddress : AttrDec SocketAddr := sockaddrAttr Typ.mappedAddress false
def alternateServer : AttrDec SocketAddr := sockaddrAttr Typ.alternateServer false
def xorMappedAddress : AttrDec SocketAddr := sockaddrAttr Typ.xorMappedAddress true
def xorPeerAddress : AttrDec SocketAddr := sockaddrAttr Typ.xorPeerAddress true
def xorRelayedAddress : AttrDec SocketAddr := sockaddrAttr Typ.xorRelayedAddress true

def mappedAddressEnc : AttrEnc SocketAddr := sockaddrAttrEnc Typ.mappedAddress false
def alternateServerEnc : AttrEnc SocketAddr := sockaddrAttrEnc Typ.alternateServer false
def xorMappedAddressEnc : AttrEnc SocketAddr := sockaddrAttrEnc Typ.xorMappedAddress true
def xorPeerAddressEnc : AttrEnc SocketAddr := sockaddrAttrEnc Typ.xorPeerAddress true
def xorRelayedAddressEnc : AttrEnc SocketAddr := sockaddrAttrEnc Typ.xorRelayedAddress true

section Values

variable (typ : UInt16)

def numericAttr {A : Type} (width : ℕ) (fromBe : Bytes → A) : AttrDec A where
  typ := typ
  Err := TryFromSliceError
  mustPrecede := mustPrecede
  decode _ value := .ok (if value.length = width then .ok (fromBe value) else .error .mk)

def numericAttrEnc {A : Type} (width : ℕ) (toBe : A → Bytes) : AttrEnc A where
  typ := typ
  length _ := .ok width
  encode a _ value := copyFrom value (toBe a)

def strAttr : AttrDec Str where
  typ := typ
  Err := Utf8Error
  mustPrecede := mustPrecede
  decode _ value := .ok (match fromUtf8 value with
    | some s => .ok s
    | none => .error .mk)

def strAttrEnc : AttrEnc Str where
  typ := typ
  length s := .ok (s.asBytes.length % 65536)
  encode s _ value := copyFrom value s.asBytes

/-- The value itself: it starts four bytes after the prefix, whose `bytes` start at the cookie. -/
def sliceAttr : AttrDec Slice where
  typ := typ
  Err := Empty
  mustPrecede := mustPrecede
  decode p value := .ok (.ok ⟨4 + p.bytes.length + 4, value⟩)

def sliceAttrEnc : AttrEnc Bytes where
  typ := typ
  length s := .ok (s.length % 65536)
  encode s _ value := copyFrom value s

def emptyAttr : AttrDec Unit where
  typ := typ
  Err := Empty
  mustPrecede := mustPrecede
  decode _ _ := .ok (.ok ())

def emptyAttrEnc : AttrEnc Unit where
  typ := typ
  length _ := .ok 0
  encode _ _ value := .ok value

def weirdByteAttr : AttrDec UInt8 where
  typ := typ
  Err := UnexpectedLength
  mustPrecede := mustPrecede
  decode _ value := do
    if value.length < 1 then
      return .error .mk
    let b ← indexAt value 0
    return .ok b

def weirdByteAttrEnc : AttrEnc UInt8 where
  typ := typ
  length _ := .ok 4
  encode b _ value := do
    let value ← writeAt value 0 [b]
    writeAt value 1 [0, 0, 0]

end Values

def username : AttrDec Str := strAttr Typ.username
def realm : AttrDec Str := strAttr Typ.realm
def nonce : AttrDec Str := strAttr Typ.nonce
def alternateDomain : AttrDec Str := strAttr Typ.alternateDomain
def software : AttrDec Str := strAttr Typ.software
def priority : AttrDec UInt32 := numericAttr Typ.priority 4 u32Of
def iceControlled : AttrDec UInt64 := numericAttr Typ.iceControlled 8 u64Of
def iceControlling : AttrDec UInt64 := numericAttr Typ.iceControlling 8 u64Of
def lifetime : AttrDec UInt32 := numericAttr Typ.lifetime 4 u32Of
def useCandidate : AttrDec Unit := emptyAttr Typ.useCandidate
def dontFragment : AttrDec Unit := emptyAttr Typ.dontFragment
def data : AttrDec Slice := sliceAttr Typ.data
def requestedAddressFamily : AttrDec UInt8 := weirdByteAttr Typ.requestedAddressFamily
def requestedTransport : AttrDec UInt8 := weirdByteAttr Typ.requestedTransport
def additionalAddressFamily : AttrDec UInt8 := weirdByteAttr Typ.additionalAddressFamily

def usernameEnc : AttrEnc Str := strAttrEnc Typ.username
def realmEnc : AttrEnc Str := strAttrEnc Typ.realm
def nonceEnc : AttrEnc Str := strAttrEnc Typ.nonce
def alternateDomainEnc : AttrEnc Str := strAttrEnc Typ.alternateDomain
def softwareEnc : AttrEnc Str := strAttrEnc Typ.software
def priorityEnc : AttrEnc UInt32 := numericAttrEnc Typ.priority 4 u32Bytes
def iceControlledEnc : AttrEnc UInt64 := numericAttrEnc Typ.iceControlled 8 u64Bytes
def iceControllingEnc : AttrEnc UInt64 := numericAttrEnc Typ.iceControlling 8 u64Bytes
def lifetimeEnc : AttrEnc UInt32 := numericAttrEnc Typ.lifetime 4 u32Bytes
def useCandidateEnc : AttrEnc Unit := emptyAttrEnc Typ.useCandidate
def dontFragmentEnc : AttrEnc Unit := emptyAttrEnc Typ.dontFragment
def dataEnc : AttrEnc Bytes := sliceAttrEnc Typ.data
def requestedAddressFamilyEnc : AttrEnc UInt8 := weirdByteAttrEnc Typ.requestedAddressFamily
def requestedTransportEnc : AttrEnc UInt8 := weirdByteAttrEnc Typ.requestedTransport
def additionalAddressFamilyEnc : AttrEnc UInt8 := weirdByteAttrEnc Typ.additionalAddressFamily

def chunkWords : Bytes → List UInt16
  | b₀ :: b₁ :: rest => u16Of [b₀, b₁] :: chunkWords rest
  | _ => []

def unknownAttributes (n : ℕ) : AttrDec (List.Vector UInt16 n) where
  typ := Typ.unknownAttributes
  Err := Empty
  mustPrecede := mustPrecede
  decode _ value :=
    let words := (chunkWords value).take n
    .ok (.ok ⟨words ++ List.replicate (n - words.length) 0, by simp [words]⟩)

def encodeWords : List UInt16 → ℕ → Bytes → Exec Bytes
  | [], _, value => .ok value
  | a :: as, i, value =>
    if a = 0 then .ok value
    else do
      let value ← writeAt value (i * 2) (u16Bytes a)
      encodeWords as (i + 1) value

def unknownAttributesEnc (n : ℕ) : AttrEnc (List.Vector UInt16 n) where
  typ := Typ.unknownAttributes
  length words := .ok (((words.toList.filter (fun a => a != 0)).length * 2) % 65536)
  encode words _ value := encodeWords words.toList 0 value

def invalidReason : Str :=
  ⟨[0x3C, 0x52, 0x65, 0x61, 0x73, 0x6F, 0x6E, 0x20, 0x63, 0x6F, 0x6E, 0x74, 0x61, 0x69, 0x6E,
    0x65, 0x64, 0x20, 0x69, 0x6E, 0x76, 0x61, 0x6C, 0x69, 0x64, 0x20, 0x55, 0x54, 0x46, 0x2D, 0x38,
    0x3E], by decide⟩

def errorNumber (class_ number : UInt8) : UInt16 :=
  (class_ &&& 0b111).toUInt16 * 100 + (number % 100).toUInt16

def errorCode : AttrDec (UInt16 × Str) where
  typ := Typ.errorCode
  Err := UnexpectedLength
  mustPrecede := mustPrecede
  decode _ value := do
    if value.length < 4 then
      return .error .mk
    let class_ ← indexAt value 2
    let number ← indexAt value 3
    return .ok (errorNumber class_ number, (fromUtf8 (value.drop 4)).getD invalidReason)

def errorCodeEnc : AttrEnc (UInt16 × Str) where
  typ := Typ.errorCode
  length a := addWithin 16 4 (a.2.asBytes.length % 65536)
  encode a _ value := do
    require (a.1 ≤ 799)
    let value ← writeAt value 0 [0]
    let value ← writeAt value 1 [0]
    let value ← writeAt value 2 [(a.1 / 100).toUInt8]
    let value ← writeAt value 3 [(a.1 % 100).toUInt8]
    copyTail value 4 a.2.asBytes

def addressErrorCode : AttrDec (UInt8 × UInt16 × Str) where
  typ := Typ.addressErrorCode
  Err := UnexpectedLength
  mustPrecede := mustPrecede
  decode p value := do
    match ← errorCode.decode p value with
    | .error e => return .error e
    | .ok (code, reason) =>
      let family ← indexAt value 0
      return .ok (family, code, reason)

def addressErrorCodeEnc : AttrEnc (UInt8 × UInt16 × Str) where
  typ := Typ.addressErrorCode
  length a := errorCodeEnc.length a.2
  encode a p value := do
    let value ← errorCodeEnc.encode a.2 p value
    writeAt value 0 [a.1]

def channelNumber : AttrDec UInt16 where
  typ := Typ.channelNumber
  Err := UnexpectedLength
  mustPrecede := mustPrecede
  decode _ value := .ok (if value.length < 2 then .error .mk else .ok (u16Of (value.take 2)))

def channelNumberEnc : AttrEnc UInt16 where
  typ := Typ.channelNumber
  length _ := .ok 4
  encode a _ value := do
    let value ← writeAt value 0 (u16Bytes a)
    writeAt value 2 [0, 0]

def evenPort : AttrDec Bool where
  typ := Typ.evenPort
  Err := UnexpectedLength
  mustPrecede := mustPrecede
  decode _ value := do
    if value.length = 0 then
      return .error .mk
    let b ← indexAt value 0
    return .ok (b &&& 0b10000000 != 0)

def evenPortEnc : AttrEnc Bool where
  typ := Typ.evenPort
  length _ := .ok 1
  encode a _ value := writeAt value 0 [a.toUInt8 <<< 7]

def reservationToken : AttrDec (List.Vector UInt8 8) where
  typ := Typ.reservationToken
  Err := TryFromSliceError
  mustPrecede := mustPrecede
  decode _ value := .ok (match tryInto 8 value with
    | some token => .ok token
    | none => .error .mk)

def reservationTokenEnc : AttrEnc (List.Vector UInt8 8) where
  typ := Typ.reservationToken
  length _ := .ok 8
  encode a _ value := copyFrom value a.toList

/-- The implementation that refuses every value: the attribute is only ever written. -/
def icmp : AttrDec (UInt8 × UInt8 × List.Vector UInt8 4) where
  typ := Typ.icmp
  Err := SanityNotFound
  mustPrecede := mustPrecede
  decode _ _ := .ok (.error .mk)

def icmpEnc : AttrEnc (UInt8 × UInt8 × List.Vector UInt8 4) where
  typ := Typ.icmp
  length _ := .ok 8
  encode a _ value := do
    let value ← writeAt value 0 [a.1]
    let value ← writeAt value 1 [a.2.1]
    let value ← writeAt value 2 [a.1]
    let value ← writeAt value 3 [a.2.1]
    writeAt value 4 a.2.2.toList

structure Integrity (l : ℕ) where
  pre : Prefix
  mac : List.Vector UInt8 l
  deriving DecidableEq

def integrityAttr (typ : UInt16) (l : ℕ) : AttrDec (Integrity l) where
  typ := typ
  Err := TryFromSliceError
  mustPrecede t := t == Typ.fingerprint
  decode p value := .ok (match tryInto l value with
    | some mac => .ok ⟨p, mac⟩
    | none => .error .mk)

def messageIntegrity : AttrDec (Integrity 20) := integrityAttr Typ.messageIntegrity 20
def messageIntegritySha256 : AttrDec (Integrity 32) := integrityAttr Typ.messageIntegritySha256 32

variable [Crypto]

def Integrity.verify (i : Integrity 20) (key : Bytes) : Bool :=
  Crypto.hmacSha1 key i.pre.all == i.mac

def messageIntegrityEnc : AttrEnc Bytes where
  typ := Typ.messageIntegrity
  length _ := .ok 20
  encode key p value := copyFrom value (Crypto.hmacSha1 key p.all).toList

def fingerprintMagic : UInt32 := 0x5354554e

def fingerprint : AttrDec Unit where
  typ := Typ.fingerprint
  Err := BadFingerprint
  mustPrecede _ := false
  decode p value := .ok (
    if value.length = 4 ∧ u32Of value = Crypto.crc32 p.all ^^^ fingerprintMagic then .ok ()
    else .error .mk)

def fingerprintEnc : AttrEnc Unit where
  typ := Typ.fingerprint
  length _ := .ok 4
  encode _ p value := copyFrom value (u32Bytes (Crypto.crc32 p.all ^^^ fingerprintMagic))

end Masquerade.Stun
