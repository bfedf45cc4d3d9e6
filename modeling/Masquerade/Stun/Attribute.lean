import Masquerade.Stun.CodecLaws
import Masquerade.Stun.Message

/-! Values paired with their encoders, and messages composed of them. -/

namespace Masquerade.Stun

open Lib

inductive Attribute
  | mappedAddress (a : SocketAddr)
  | alternateServer (a : SocketAddr)
  | xorMappedAddress (a : SocketAddr)
  | xorPeerAddress (a : SocketAddr)
  | xorRelayedAddress (a : SocketAddr)
  | username (s : Str)
  | realm (s : Str)
  | nonce (s : Str)
  | alternateDomain (s : Str)
  | software (s : Str)
  | priority (n : UInt32)
  | iceControlled (n : UInt64)
  | iceControlling (n : UInt64)
  | lifetime (n : UInt32)
  | useCandidate
  | dontFragment
  | data (bs : Bytes)
  | unknownAttributes (n : ℕ) (words : List.Vector UInt16 n)
  | errorCode (code : UInt16) (reason : Str)
  | addressErrorCode (family : UInt8) (code : UInt16) (reason : Str)
  | channelNumber (n : UInt16)
  | evenPort (r : Bool)
  | requestedAddressFamily (b : UInt8)
  | requestedTransport (b : UInt8)
  | additionalAddressFamily (b : UInt8)
  | reservationToken (token : List.Vector UInt8 8)
  | icmp (typ code : UInt8) (arg : List.Vector UInt8 4)
  | messageIntegrity (key : Bytes)
  | fingerprint

structure Encoder where
  A : Type
  enc : AttrEnc A
  value : A

variable [Crypto]

def Attribute.encoder : Attribute → Encoder
  | mappedAddress a => ⟨_, mappedAddressEnc, a⟩
  | alternateServer a => ⟨_, alternateServerEnc, a⟩
  | xorMappedAddress a => ⟨_, xorMappedAddressEnc, a⟩
  | xorPeerAddress a => ⟨_, xorPeerAddressEnc, a⟩
  | xorRelayedAddress a => ⟨_, xorRelayedAddressEnc, a⟩
  | username s => ⟨_, usernameEnc, s⟩
  | realm s => ⟨_, realmEnc, s⟩
  | nonce s => ⟨_, nonceEnc, s⟩
  | alternateDomain s => ⟨_, alternateDomainEnc, s⟩
  | software s => ⟨_, softwareEnc, s⟩
  | priority n => ⟨_, priorityEnc, n⟩
  | iceControlled n => ⟨_, iceControlledEnc, n⟩
  | iceControlling n => ⟨_, iceControllingEnc, n⟩
  | lifetime n => ⟨_, lifetimeEnc, n⟩
  | useCandidate => ⟨_, useCandidateEnc, ()⟩
  | dontFragment => ⟨_, dontFragmentEnc, ()⟩
  | data bs => ⟨_, dataEnc, bs⟩
  | unknownAttributes n words => ⟨_, unknownAttributesEnc n, words⟩
  | errorCode code reason => ⟨_, errorCodeEnc, (code, reason)⟩
  | addressErrorCode family code reason => ⟨_, addressErrorCodeEnc, (family, code, reason)⟩
  | channelNumber n => ⟨_, channelNumberEnc, n⟩
  | evenPort r => ⟨_, evenPortEnc, r⟩
  | requestedAddressFamily b => ⟨_, requestedAddressFamilyEnc, b⟩
  | requestedTransport b => ⟨_, requestedTransportEnc, b⟩
  | additionalAddressFamily b => ⟨_, additionalAddressFamilyEnc, b⟩
  | reservationToken token => ⟨_, reservationTokenEnc, token⟩
  | icmp typ code arg => ⟨_, icmpEnc, (typ, code, arg)⟩
  | messageIntegrity key => ⟨_, messageIntegrityEnc, key⟩
  | fingerprint => ⟨_, fingerprintEnc, ()⟩

def Attribute.typ (a : Attribute) : UInt16 := a.encoder.enc.typ

section Typ

@[simp] lemma Attribute.typ_xorMappedAddress (a : SocketAddr) :
    (xorMappedAddress a).typ = Typ.xorMappedAddress := rfl

@[simp] lemma Attribute.typ_xorRelayedAddress (a : SocketAddr) :
    (xorRelayedAddress a).typ = Typ.xorRelayedAddress := rfl

@[simp] lemma Attribute.typ_lifetime (n : UInt32) : (lifetime n).typ = Typ.lifetime := rfl

@[simp] lemma Attribute.typ_errorCode (code : UInt16) (reason : Str) :
    (errorCode code reason).typ = Typ.errorCode := rfl

@[simp] lemma Attribute.typ_messageIntegrity (key : Bytes) :
    (messageIntegrity key).typ = Typ.messageIntegrity := rfl

@[simp] lemma Attribute.typ_realm (s : Str) : (realm s).typ = Typ.realm := rfl

@[simp] lemma Attribute.typ_nonce (s : Str) : (nonce s).typ = Typ.nonce := rfl

@[simp] lemma Attribute.typ_unknownAttributes (n : ℕ) (words : List.Vector UInt16 n) :
    (unknownAttributes n words).typ = Typ.unknownAttributes := rfl

end Typ

def Attribute.size (a : Attribute) : ℕ :=
  match a.encoder.enc.length a.encoder.value with
  | .ok n => 4 + n + padding n
  | .error _ => 0

def Attribute.append (a : Attribute) : Bytes → Exec (Except Error (Bytes × Item)) :=
  appendTraced a.encoder.enc a.encoder.value

def appendEach : List Attribute → Bytes → Exec Bytes
  | [], buffer => .ok buffer
  | a :: as, buffer => do
    let (buffer, _) ← unwrapOk (← a.append buffer)
    appendEach as buffer

def cost (as : List Attribute) : ℕ := (as.map Attribute.size).sum

def Attribute.Writable (a : Attribute) : Prop := ∃ n f, a.encoder.enc.Writes a.encoder.value n f

structure Attribute.Wrote (a : Attribute) (item : Item) : Prop where
  typ : item.typ = a.typ
  afterHeader : 16 ≤ item.pre.bytes.length
  value : ∀ n f, a.encoder.enc.Writes a.encoder.value n f → item.value = f item.pre

lemma Attribute.size_eq {a : Attribute} {n : ℕ} {f : Prefix → Bytes}
    (hw : a.encoder.enc.Writes a.encoder.value n f) :
    a.size = 4 + n + padding n := by
  rw [size, hw.length]

lemma Attribute.append_grows {a : Attribute} (ha : a.Writable) {m : Bytes} {items : List Item}
    (hm : Built m items) (hroom : lengthAt m + a.size < 65536) :
    ∃ m' item, Extends m items m' [item] ∧ a.Wrote item ∧ lengthAt m' = lengthAt m + a.size ∧
      ∀ tail, a.size ≤ tail.length →
        a.append (m ++ tail) = .ok (.ok (m' ++ tail.drop a.size, item)) := by
  obtain ⟨n, f, hw⟩ := ha
  have hml := hm.length
  have hn : lengthAt m + 4 + n + padding n < 65536 := by rw [size_eq hw] at hroom; omega
  have hpre : 16 ≤ (grownItem m a.typ n f).pre.bytes.length := by
    simp only [grownItem, prefixOf, List.length_drop]
    rw [withLength_length (by omega)]
    omega
  refine ⟨grow m a.typ n f, grownItem m a.typ n f, ⟨hm.grow hw.size hn, grow_take_two (by omega),
    slice_grow (by omega) (by omega)⟩, ⟨rfl, hpre, fun n' f' hw' => hw.unique hw' hpre⟩, ?_, ?_⟩
  · rw [lengthAt_grow (by omega) hn, size_eq hw]
    omega
  · intro tail ht
    rw [size_eq hw] at ht ⊢
    exact appendTraced_eq hw hm.whole hn ht

lemma wrote_typs {as : List Attribute} {items : List Item}
    (h : List.Forall₂ Attribute.Wrote as items) :
    items.map Item.typ = as.map Attribute.typ := by
  induction h with
  | nil => rfl
  | cons h _ ih => rw [List.map_cons, List.map_cons, h.typ, ih]

lemma appendEach_grows (as : List Attribute) (ha : ∀ a ∈ as, a.Writable) {m : Bytes}
    {items : List Item} (hm : Built m items) (hroom : lengthAt m + cost as < 65536) :
    ∃ m' new, Extends m items m' new ∧ List.Forall₂ Attribute.Wrote as new ∧
      lengthAt m' = lengthAt m + cost as ∧
      ∀ tail, cost as ≤ tail.length →
        appendEach as (m ++ tail) = .ok (m' ++ tail.drop (cost as)) := by
  induction as generalizing m items with
  | nil => exact ⟨m, [], ⟨by simpa using hm, rfl, rfl⟩, .nil, rfl, fun tail _ => rfl⟩
  | cons a as ih =>
    simp only [cost, List.map_cons, List.sum_cons] at hroom ⊢
    obtain ⟨m₁, item, hext, hwrote, hl, happend⟩ :=
      Attribute.append_grows (ha a List.mem_cons_self) hm (by omega)
    obtain ⟨m', new, hext', hall, hl', heach⟩ :=
      ih (fun x hx => ha x (List.mem_cons_of_mem _ hx)) hext.built (by rw [hl, cost]; omega)
    refine ⟨m', item :: new, hext.trans hext', .cons hwrote hall, by rw [hl', hl, cost]; omega, ?_⟩
    intro tail ht
    simp only [appendEach, happend tail (by omega), ok_bind, unwrapOk_ok]
    rw [heach _ (by rw [List.length_drop, cost]; omega), List.drop_drop]
    rfl

end Masquerade.Stun
