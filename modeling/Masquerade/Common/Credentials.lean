import Masquerade.Common.Exchange
import Masquerade.Stun.Composed
import Masquerade.Stun.Unknown

/-! What a client gets that knows the password, and one that does not. -/

namespace Masquerade.Common

open Lib Stun

section

variable [Crypto]

def SignedBy (key message : Bytes) : Prop :=
  ∃ i, parsed Stun.messageIntegrity message = .ok (some i) ∧ i.verify key = true

structure Grants (key : Bytes) (class_ : Stun.Class) (response : Bytes) : Prop where
  class_ : msgClass response = .ok class_
  signed : SignedBy key response

inductive Served (canonical : SocketAddr) (relayed : SocketAddrV6) (lifetime : Option UInt32)
    (transport : Option UInt8) (key : Bytes) : Method → Observed → Prop
  | allocate {response : Bytes} : transport = some 17 → Grants key .success response →
      parsed Stun.xorMappedAddress response = .ok (some canonical) →
      parsed Stun.xorRelayedAddress response = .ok (some (.v6 relayed)) →
      parsed Stun.lifetime response = .ok (some (lifetime.getD 1000)) →
      Served canonical relayed lifetime transport key .allocate ⟨some response, []⟩
  | nonUdp {response : Bytes} : transport ≠ some 17 → Grants key .error response →
      parsed Stun.errorCode response = .ok (some (442, emptyStr)) →
      Served canonical relayed lifetime transport key .allocate ⟨some response, []⟩
  | refresh {response : Bytes} : lifetime ≠ some 0 → Grants key .success response →
      parsed Stun.lifetime response = .ok (some (lifetime.getD 1000)) →
      Served canonical relayed lifetime transport key .refresh ⟨some response, []⟩
  | released : lifetime = some 0 →
      Served canonical relayed lifetime transport key .refresh ⟨none, []⟩
  | createPermission {response : Bytes} : Grants key .success response →
      Served canonical relayed lifetime transport key .createPermission ⟨some response, []⟩
  | channelBind {response : Bytes} : Grants key .error response →
      parsed Stun.errorCode response = .ok (some (438, emptyStr)) →
      Served canonical relayed lifetime transport key .channelBind ⟨some response, []⟩

def Challenged (observed : Observed) : Prop := ∃ response, observed = ⟨some response, []⟩ ∧
  msgClass response = .ok .error ∧ parsed Stun.errorCode response = .ok (some (401, emptyStr)) ∧
  parsed Stun.realm response = .ok (some noneStr) ∧ parsed Stun.nonce response = .ok (some noneStr)

def Refused (observed : Observed) : Prop := ∃ response, observed = ⟨some response, []⟩ ∧
  msgClass response = .ok .error ∧ parsed Stun.errorCode response = .ok (some (403, emptyStr)) ∧
  parsed Stun.messageIntegrity response = .ok none

structure Signable (a : Attribute) : Prop where
  fromCallers : a.FromCallers
  unsigned : a.typ ≠ Typ.messageIntegrity ∧ a.typ ≠ Typ.fingerprint

structure Plainly (known : UInt16 → Bool) (a : Attribute) : Prop extends Signable a where
  understood : known a.typ = true ∨ comprehensionRequired a.typ = false

def signature (key : Option Bytes) : List Attribute := (key.map .messageIntegrity).toList

section Heard

variable {front back : List Attribute} {key : Option Bytes} {items : List Item}

lemma typ_of_signature {a : Attribute} (h : a ∈ signature key) : a.typ = Typ.messageIntegrity := by
  cases key with
  | none => cases h
  | some k => rw [List.mem_singleton.mp h, Attribute.typ_messageIntegrity]

lemma typ_of_rest {a : Attribute} (hback : back = [] ∨ back = [.fingerprint]) (h : a ∈ back) :
    a.typ = Typ.fingerprint := by
  rcases hback with rfl | rfl
  · cases h
  · rw [List.mem_singleton.mp h]
    rfl

lemma not_sha256 (a : Attribute) : a.typ ≠ Typ.messageIntegritySha256 := by
  cases a <;> exact typ_ne rfl

lemma Signable.goes_on {a : Attribute} (h : Signable a) : mustPrecede a.typ = false := by
  simp [mustPrecede, h.unsigned.1, h.unsigned.2, not_sha256 a]

lemma Signable.goes_later {a : Attribute} (h : Signable a) : stopsLater a.typ = false := by
  simp [stopsLater, h.unsigned.2, not_sha256 a]

/-- A request as a client composes it: what it wants, perhaps a signature, and nothing more than a
fingerprint. -/
structure Requests (known : UInt16 → Bool) (front : List Attribute) (key : Option Bytes)
    (back : List Attribute) (items : List Item) : Prop where
  plainly : ∀ a ∈ front, Plainly known a
  rest : back = [] ∨ back = [.fingerprint]
  wrote : List.Forall₂ Attribute.Wrote (front ++ (signature key ++ back)) items

lemma callers_of_plainly (key : Option Bytes) {known : UInt16 → Bool}
    (hplainly : ∀ a ∈ front, Plainly known a) (hback : back = [] ∨ back = [.fingerprint]) :
    ∀ a ∈ front ++ (signature key ++ back), a.FromCallers := by
  intro a ha
  simp only [List.mem_append] at ha
  rcases ha with ha | ha | ha
  · exact (hplainly a ha).fromCallers
  · cases key with
    | none => cases ha
    | some k =>
      rw [List.mem_singleton.mp ha]
      trivial
  · rcases hback with rfl | rfl
    · cases ha
    · rw [List.mem_singleton.mp ha]
      trivial

namespace Requests

variable {known : UInt16 → Bool} (h : Requests known front key back items)

include h

lemma behind {a : Attribute} (ha : a ∈ signature key ++ back) : a.typ = Typ.messageIntegrity ∨
    a.typ = Typ.fingerprint := by
  rcases List.mem_append.mp ha with ha | ha
  · exact .inl (typ_of_signature ha)
  · exact .inr (typ_of_rest h.rest ha)

lemma reads {A : Type} {dec : AttrDec A} {f : Attribute → Option A} (hf : Picks dec f)
    {stops : UInt16 → Bool} (hstops : ∀ a, Signable a → stops a.typ = false)
    (htyp : dec.typ ≠ Typ.messageIntegrity ∧ dec.typ ≠ Typ.fingerprint) :
    (heard dec.typ stops items).bind dec.read = front.findSome? f := by
  refine hf.heard (fun a ha => (h.plainly a ha).fromCallers)
    (fun a ha => hstops a (h.plainly a ha).toSignable) ?_ h.wrote
  intro a ha ht
  rcases h.behind ha with hmac | hfingerprint
  · exact htyp.1 (ht.symm.trans hmac)
  · exact htyp.2 (ht.symm.trans hfingerprint)

lemma understood (hmac : known Typ.messageIntegrity = true) {n : ℕ} (hn : 0 < n) :
    collectUnknown n (items.filter fun item => !known item.typ) = none := by
  refine (collectUnknown_eq_none_iff hn).mpr (.inl ?_)
  rw [List.eq_nil_iff_forall_not_mem]
  intro t ht
  obtain ⟨hrequired, item, hitem, rfl⟩ := (mem_unknownTypes _).mp ht
  obtain ⟨hmem, hunknown⟩ := List.mem_filter.mp hitem
  have hmem' := List.mem_map_of_mem (f := Item.typ) hmem
  rw [wrote_typs h.wrote] at hmem'
  obtain ⟨a, ha, hat⟩ := List.mem_map.mp hmem'
  rw [← hat] at hrequired hunknown
  rcases List.mem_append.mp ha with ha | ha
  · rcases (h.plainly a ha).understood with hknown | hoptional
    · simp [hknown] at hunknown
    · simp [hoptional] at hrequired
  · rcases h.behind ha with hsigned | hfingerprint
    · simp [hsigned, hmac] at hunknown
    · rw [hfingerprint] at hrequired
      exact absurd hrequired (by decide)

lemma unsigned (hkey : key = none) :
    heard Typ.messageIntegrity (fun t => t == Typ.fingerprint) items = none := by
  have htyps : ∀ a ∈ front ++ (signature key ++ back), a.typ ≠ Typ.messageIntegrity := by
    intro a ha
    rcases List.mem_append.mp ha with ha | ha
    · exact (h.plainly a ha).unsigned.1
    · rw [typ_of_rest h.rest (by simpa [signature, hkey] using ha)]
      decide
  exact heard_none_of_wrote h.wrote htyps

lemma signed {k : Bytes} (hkey : key = some k) : ∃ i, (heard Typ.messageIntegrity
    (fun t => t == Typ.fingerprint) items).bind Stun.messageIntegrity.read = some i ∧
      ∀ k', i.verify k' = true ↔ Crypto.hmacSha1 k' i.pre.all = Crypto.hmacSha1 k i.pre.all := by
  have hwrote := h.wrote
  rw [hkey] at hwrote
  have hfront : ∀ a ∈ front, a.typ ≠ (Attribute.messageIntegrity k).typ ∧
      (a.typ == Typ.fingerprint) = false := by
    intro a ha
    exact ⟨(h.plainly a ha).unsigned.1, beq_eq_false_iff_ne.mpr (h.plainly a ha).unsigned.2⟩
  obtain ⟨item, hheard, hitem⟩ : ∃ item, heard Typ.messageIntegrity (fun t => t == Typ.fingerprint)
      items = some item ∧ (Attribute.messageIntegrity k).Wrote item :=
    heard_wrote (show List.Forall₂ Attribute.Wrote (front ++ .messageIntegrity k :: back) items from
      hwrote) hfront
  refine ⟨⟨item.pre, Crypto.hmacSha1 k item.pre.all⟩, ?_, fun k' => verify_iff _ k'⟩
  have hread : Stun.messageIntegrity.read item =
      some ⟨item.pre, Crypto.hmacSha1 k item.pre.all⟩ := by
    rw [AttrDec.read, hitem.value _ _ (messageIntegrity_writes k), messageIntegrity_decode]
  exact (congrArg (Option.bind · _) hheard).trans hread

end Requests

end Heard

section Responses

variable {canonical : SocketAddr} {relayed : SocketAddrV6} {b m : Bytes} {c : Stun.Class}
  {front back : List Attribute} {items : List Item}

lemma Response.msgClass (h : Response b c front m items) : msgClass m = .ok c := by
  have hml := h.built.length
  rw [msgClass_ok (by omega), h.typ, classOf_withClass]

lemma Response.says {A : Type} {dec : AttrDec A} {f : Attribute → Option A}
    (hf : Picks dec f) (hd : dec.Safe) (hdec : dec.mustPrecede = mustPrecede)
    (h : Response b c (front ++ back) m items) (hfront : ∀ a ∈ front, Signable a)
    (hback : ∀ a ∈ back, a.typ ≠ dec.typ) : parsed dec m = .ok (front.findSome? f) := by
  have hml := h.built.length
  have hitems := h.built.itemsOf []
  rw [List.append_nil] at hitems
  have hstops : ∀ a ∈ front, dec.mustPrecede a.typ = false := by
    intro a ha
    rw [hdec]
    exact (hfront a ha).goes_on
  rw [parsed_eq hd (by omega), hitems,
    hf.heard (fun a ha => (hfront a ha).fromCallers) hstops hback h.wrote]

lemma Response.signedBy {key : Bytes}
    (h : Response b c (front ++ .messageIntegrity key :: back) m items)
    (hfront : ∀ a ∈ front, Signable a) : SignedBy key m := by
  rw [SignedBy, ← List.append_nil m]
  exact h.carries_mac (fun a ha => (hfront a ha).unsigned) []

lemma Response.unsigned {as : List Attribute} (h : Response b c as m items)
    (has : ∀ a ∈ as, a.typ ≠ Typ.messageIntegrity) :
    parsed Stun.messageIntegrity m = .ok none := by
  have hml := h.built.length
  have hitems := h.built.itemsOf []
  rw [List.append_nil] at hitems
  have hsafe : Stun.messageIntegrity.Safe := integrity_safe _ _
  rw [parsed_eq hsafe (by omega), hitems]
  exact congrArg (fun item => Except.ok (Option.bind item _)) (heard_none_of_wrote h.wrote has)

lemma signable_errorCode {code : UInt16} (h : code ≤ 799) : Signable (.errorCode code emptyStr) :=
  ⟨⟨h, by decide⟩, typ_ne rfl, typ_ne rfl⟩

lemma signable_lifetime (n : UInt32) : Signable (.lifetime n) := ⟨trivial, typ_ne rfl, typ_ne rfl⟩

lemma signable_mapped {a : SocketAddr} (h : a.Plain) : Signable (.xorMappedAddress a) :=
  ⟨h, typ_ne rfl, typ_ne rfl⟩

lemma signable_relayed {a : SocketAddr} (h : a.Plain) : Signable (.xorRelayedAddress a) :=
  ⟨h, typ_ne rfl, typ_ne rfl⟩

end Responses

section Answers

variable {canonical : SocketAddr} {relayed : SocketAddrV6} {method : Method} {a : TurnAttrs}
  {message : Bytes} (hv : verdict message = .ok ()) (hle : message.length ≤ 65536)
  (hzero : txidAt message ≠ List.replicate 12 0)

include hv hle hzero

lemma challenged (ha : answerTo canonical relayed message =
    .respond .error [.errorCode 401 emptyStr, .realm noneStr, .nonce noneStr]) :
    Challenged (turned canonical relayed message) := by
  obtain ⟨m, items, hm, hresponse⟩ := turned_respond hv hle hzero ha
  have hfront : ∀ a ∈ [Attribute.errorCode 401 emptyStr, .realm noneStr, .nonce noneStr],
      Signable a := by
    have hnone : noneStr.asBytes.length < 65536 := by decide
    simp only [List.forall_mem_cons, List.not_mem_nil, false_imp_iff, implies_true, and_true]
    exact ⟨signable_errorCode (by decide), ⟨hnone, typ_ne rfl, typ_ne rfl⟩,
      ⟨hnone, typ_ne rfl, typ_ne rfl⟩⟩
  have hsays : Response message .error
      ([.errorCode 401 emptyStr, .realm noneStr, .nonce noneStr] ++ []) m items :=
    hresponse
  refine ⟨m, hm, hresponse.msgClass, ?_, ?_, ?_⟩
  · exact hsays.says picks_errorCode errorCode_safe rfl hfront (by simp)
  · exact hsays.says picks_realm (str_safe _) rfl hfront (by simp)
  · exact hsays.says picks_nonce (str_safe _) rfl hfront (by simp)

lemma refused (ha : answerTo canonical relayed message =
    .respond .error [.errorCode 403 emptyStr]) :
    Refused (turned canonical relayed message) := by
  obtain ⟨m, items, hm, hresponse⟩ := turned_respond hv hle hzero ha
  have hfront : ∀ a ∈ [Attribute.errorCode 403 emptyStr], Signable a := by
    simpa using signable_errorCode (by decide)
  have hsays : Response message .error ([.errorCode 403 emptyStr] ++ []) m items := hresponse
  refine ⟨m, hm, hresponse.msgClass, ?_, hresponse.unsigned (by simpa using typ_ne rfl)⟩
  exact hsays.says picks_errorCode errorCode_safe rfl hfront (by simp)

variable {key : Bytes} (hcanonical : canonical.Plain) (hrelayed : relayed.Plain)

include hcanonical hrelayed

lemma served (hmethod : method ∈ [Method.allocate, .refresh, .createPermission, .channelBind])
    (hkey : turnKey a = key)
    (ha : answerTo canonical relayed message = answerVerified canonical relayed .request method a) :
    Served canonical relayed a.lifetime a.requestedTransport key method
      (turned canonical relayed message) := by
  subst hkey
  have hlifetime := signable_lifetime (a.lifetime.getD 1000)
  simp only [List.mem_cons, List.not_mem_nil, or_false] at hmethod
  rcases hmethod with rfl | rfl | rfl | rfl
  · by_cases ht : a.requestedTransport = some 17
    · simp [answerVerified, ht] at ha
      obtain ⟨m, items, hm, hresponse⟩ := turned_respond hv hle hzero ha
      have hsays : Response message .success ([.xorMappedAddress canonical,
        .xorRelayedAddress (.v6 relayed), .lifetime (a.lifetime.getD 1000)] ++
        [.messageIntegrity (turnKey a)]) m items := hresponse
      have hfront : ∀ x ∈ [Attribute.xorMappedAddress canonical, .xorRelayedAddress (.v6 relayed),
          .lifetime (a.lifetime.getD 1000)], Signable x := by
        simpa using ⟨signable_mapped hcanonical, signable_relayed hrelayed, hlifetime⟩
      rw [hm]
      refine .allocate ht ⟨hresponse.msgClass, hsays.signedBy hfront⟩ ?_ ?_ ?_
      · exact hsays.says picks_xorMappedAddress (sockaddr_safe _ _) rfl hfront
          (by simpa using typ_ne rfl)
      · exact hsays.says picks_xorRelayedAddress (sockaddr_safe _ _) rfl hfront
          (by simpa using typ_ne rfl)
      · exact hsays.says picks_lifetime (numeric_safe _ _ _) rfl hfront (by simpa using typ_ne rfl)
    · simp [answerVerified, ht] at ha
      obtain ⟨m, items, hm, hresponse⟩ := turned_respond hv hle hzero ha
      have hsays : Response message .error
          ([.errorCode 442 emptyStr] ++ [.messageIntegrity (turnKey a)]) m items :=
        hresponse
      have hfront : ∀ x ∈ [Attribute.errorCode 442 emptyStr], Signable x := by
        simpa using signable_errorCode (by decide)
      rw [hm]
      refine .nonUdp ht ⟨hresponse.msgClass, hsays.signedBy hfront⟩ ?_
      exact hsays.says picks_errorCode errorCode_safe rfl hfront (by simpa using typ_ne rfl)
  · by_cases hl : a.lifetime = some 0
    · simp [answerVerified, hl] at ha
      rw [turned_ignore hv hle (.inr ha)]
      exact .released hl
    · simp [answerVerified, hl] at ha
      obtain ⟨m, items, hm, hresponse⟩ := turned_respond hv hle hzero ha
      have hsays : Response message .success
        ([.lifetime (a.lifetime.getD 1000)] ++ [.messageIntegrity (turnKey a)]) m items := hresponse
      have hfront : ∀ x ∈ [Attribute.lifetime (a.lifetime.getD 1000)], Signable x := by
        simpa using hlifetime
      rw [hm]
      refine .refresh hl ⟨hresponse.msgClass, hsays.signedBy hfront⟩ ?_
      exact hsays.says picks_lifetime (numeric_safe _ _ _) rfl hfront (by simpa using typ_ne rfl)
  · simp [answerVerified] at ha
    obtain ⟨m, items, hm, hresponse⟩ := turned_respond hv hle hzero ha
    have hsays : Response message .success ([] ++ [.messageIntegrity (turnKey a)]) m items :=
      hresponse
    rw [hm]
    exact .createPermission ⟨hresponse.msgClass, hsays.signedBy (by simp)⟩
  · simp [answerVerified] at ha
    obtain ⟨m, items, hm, hresponse⟩ := turned_respond hv hle hzero ha
    have hsays : Response message .error
        ([.errorCode 438 emptyStr] ++ [.messageIntegrity (turnKey a)]) m items :=
      hresponse
    have hfront : ∀ x ∈ [Attribute.errorCode 438 emptyStr], Signable x := by
      simpa using signable_errorCode (by decide)
    rw [hm]
    refine .channelBind ⟨hresponse.msgClass, hsays.signedBy hfront⟩ ?_
    exact hsays.says picks_errorCode errorCode_safe rfl hfront (by simpa using typ_ne rfl)

end Answers

/-- The keys give the bytes that the message is signed over different digests. -/
def Distinguishes (message key key' : Bytes) : Prop :=
  ∀ i, parsed Stun.messageIntegrity message = .ok (some i) →
    Crypto.hmacSha1 key i.pre.all ≠ Crypto.hmacSha1 key' i.pre.all

structure Decided (canonical : SocketAddr) (relayed : SocketAddrV6)
    (method : Method) (message : Bytes) (front : List Attribute) (key : Option Bytes)
    (observed : Observed) : Prop where
  challenged : front.findSome? Attribute.username? = none ∨
    front.findSome? Attribute.realm? = none → Challenged observed
  ignored : ∀ u r, front.findSome? Attribute.username? = some u →
    front.findSome? Attribute.realm? = some r → key = none → observed = ⟨none, []⟩
  served : ∀ u r, front.findSome? Attribute.username? = some u →
    front.findSome? Attribute.realm? = some r → key = some (longTermKey u r) →
    Served canonical relayed (front.findSome? Attribute.lifetime?)
      (front.findSome? Attribute.requestedTransport?) (longTermKey u r) method observed
  refused : ∀ u r k, front.findSome? Attribute.username? = some u →
    front.findSome? Attribute.realm? = some r → key = some k →
    Distinguishes message k (longTermKey u r) → Refused observed

section Decision

variable {canonical : SocketAddr} {relayed : SocketAddrV6} {method : Method} {a : TurnAttrs}

lemma answer_known (hmethod : method ∈ [Method.allocate, .refresh, .createPermission, .channelBind])
    (hunknown : a.unknownAttrs = none) :
    answer canonical relayed .request method a =
      answerKnown canonical relayed .request method a := by
  have hbinding : method ≠ .binding := by
    rintro rfl
    exact absurd hmethod (by decide)
  have hmember : methodUnknown method = false := by
    revert hmethod
    cases method <;> decide
  simp [answer, hbinding, hmember, hunknown]

lemma decided {m : Bytes} {front back : List Attribute} {key : Option Bytes}
    {items : List Item} (hbuilt : Built m items) (hle : m.length ≤ 65536)
    (hrequests : Requests isKnown front key back items) (hclass : classAt m = .request)
    (hmethod : methodAt m ∈ [Method.allocate, .refresh, .createPermission, .channelBind])
    (hzero : txidAt m ≠ List.replicate 12 0) (hcanonical : canonical.Plain)
    (hrelayed : relayed.Plain) :
    Decided canonical relayed (methodAt m) m front key (turned canonical relayed m) := by
  have hml := hbuilt.length
  have hitems := hbuilt.itemsOf []
  have hdecode := hbuilt.decode []
  rw [List.append_nil] at hitems hdecode
  have hv : verdict m = .ok () := by
    rw [decode_eq le_rfl, List.take_length] at hdecode
    exact Except.ok.inj hdecode
  have husername : (turnAttrs items).username = front.findSome? Attribute.username? :=
    hrequests.reads picks_username (fun _ ha => ha.goes_on) (by decide)
  have hrealm : (turnAttrs items).realm = front.findSome? Attribute.realm? :=
    hrequests.reads picks_realm (fun _ ha => ha.goes_on) (by decide)
  have hlifetime : (turnAttrs items).lifetime = front.findSome? Attribute.lifetime? :=
    hrequests.reads picks_lifetime (fun _ ha => ha.goes_later) (by decide)
  have htransport : (turnAttrs items).requestedTransport =
      front.findSome? Attribute.requestedTransport? :=
    hrequests.reads picks_requestedTransport (fun _ ha => ha.goes_later) (by decide)
  have hanswer : answerTo canonical relayed m = answerKnown canonical relayed .request (methodAt m)
      (turnAttrs items) := by
    have hunderstood : (turnAttrs items).unknownAttrs = none :=
      hrequests.understood rfl (by norm_num)
    rw [answerTo, hclass, hitems, answer_known hmethod hunderstood]
  have hsigned : ∀ u r k, front.findSome? Attribute.username? = some u →
      front.findSome? Attribute.realm? = some r → key = some k →
      turnKey (turnAttrs items) = longTermKey u r ∧ ∃ i, (turnAttrs items).integrity = some i ∧
        parsed Stun.messageIntegrity m = .ok (some i) ∧ (i.verify (longTermKey u r) = true ↔
          Crypto.hmacSha1 (longTermKey u r) i.pre.all = Crypto.hmacSha1 k i.pre.all) := by
    intro u r k hu hr hk
    obtain ⟨i, hi, hverify⟩ : ∃ i, (turnAttrs items).integrity = some i ∧ _ := hrequests.signed hk
    have hparsed : parsed Stun.messageIntegrity m = .ok (some i) := by
      rw [← hi, ← hitems]
      exact parsed_eq (integrity_safe _ _) (by omega)
    exact ⟨by rw [turnKey, husername, hrealm, hu, hr, hi], i, hi, hparsed, hverify _⟩
  refine ⟨fun hnone => challenged hv hle hzero ?_, fun u r hu hr hk => turned_ignore hv hle
    (.inr ?_), fun u r hu hr hk => ?_, fun u r k hu hr hk hwrong => refused hv hle hzero ?_⟩
  · rcases hnone with hnone | hnone <;> simp [hanswer, answerKnown, husername, hrealm, hnone]
  · have hunsigned : (turnAttrs items).integrity = none := by
      rw [turnAttrs, hrequests.unsigned hk]
      rfl
    simp [hanswer, answerKnown, husername, hrealm, hu, hr, hunsigned]
  · obtain ⟨hkey, i, hi, -, hverify⟩ := hsigned u r _ hu hr hk
    rw [← hlifetime, ← htransport]
    apply served hv hle hzero hcanonical hrelayed hmethod hkey
    simp [hanswer, answerKnown, husername, hrealm, hu, hr, hi, hkey, hverify.mpr rfl]
  · obtain ⟨hkey, i, hi, hparsed, hverify⟩ := hsigned u r k hu hr hk
    have hfails : i.verify (longTermKey u r) = false := by
      rw [Bool.eq_false_iff, Ne, hverify]
      exact (hwrong i hparsed).symm
    simp [hanswer, answerKnown, husername, hrealm, hu, hr, hi, hkey, hfails]

end Decision

theorem credentials_decide {canonical : SocketAddr}
    {relayed : SocketAddrV6} (hcanonical : canonical.Plain)
    (hrelayed : relayed.Plain) {buffer b : Bytes} (hb : 20 ≤ buffer.length)
    (htop : typAt buffer >>> 14 = 0) (hcookie : cookieAt buffer = magicCookie)
    (hlen : lengthAt buffer = 0) (hclass : msgClass buffer = .ok .request)
    {method : Method} (hmethod : Stun.method buffer = .ok method)
    (hknown : method ∈ [Method.allocate, .refresh, .createPermission, .channelBind])
    (hzero : txid buffer ≠ .ok (List.replicate 12 0)) {front back : List Attribute}
    {key : Option Bytes} (hplainly : ∀ a ∈ front, Plainly isKnown a)
    (hback : back = [] ∨ back = [.fingerprint]) {items : List Item}
    (happend : appendAll (front ++ (signature key ++ back)) buffer = .ok (.ok (b, items))) :
    ∃ n, len b = .ok n ∧ ∀ received, Received received (b.take n) →
      ∃ o, handleTurn canonical relayed received = .ok o ∧
        Decided canonical relayed method (b.take n) front key o.observed := by
  have hcallers := callers_of_plainly key hplainly hback
  obtain ⟨m, tail, rfl, hcomposed⟩ := appendAll_composed hb htop hcookie hlen hcallers happend
  have hbuilt := hcomposed.built
  have hml := hbuilt.length
  refine ⟨m.length, hbuilt.len tail, fun received hreceived => ?_⟩
  rw [List.take_left] at hreceived
  have hdecode := hbuilt.decode []
  rw [List.append_nil, decode_eq le_rfl, List.take_length] at hdecode
  obtain ⟨o, ho, hobserved⟩ := handleTurn_turned canonical relayed hreceived (Except.ok.inj hdecode)
  refine ⟨o, ho, ?_⟩
  have hmclass : classAt m = .request := by
    rw [classAt, hcomposed.typ, ← classAt, msgClass_eq (by omega) hclass]
  have hmmethod : methodAt m = method := by
    rw [methodAt, hcomposed.typ, ← methodAt, method_eq (by omega) hmethod]
  have htxid : txidAt m ≠ List.replicate 12 0 := by
    intro h
    rw [txid_ok hb, ← txidAt_eq hcomposed.fixed, h] at hzero
    exact hzero rfl
  rw [hobserved, ← hmmethod, List.take_left]
  exact decided hbuilt hreceived.le ⟨hplainly, hback, hcomposed.wrote⟩ hmclass
    (by rw [hmmethod]; exact hknown) htxid hcanonical hrelayed

end

def userStr : Str := ⟨[0x75, 0x73, 0x65, 0x72], by decide⟩

def allocateAttributes : List Attribute :=
  [.username userStr, .realm noneStr, .nonce noneStr, .requestedTransport 17]

def otherKey : Bytes :=
  [0x75, 0x3E, 0xA9, 0xEA, 0x8D, 0xCB, 0xA4, 0xAD, 0x3E, 0x18, 0xE6, 0xAB, 0xE2, 0x91, 0x4A, 0xAE]

def otherRequest : Bytes :=
  allocateRequest.take 56 ++ [0xB9, 0x92, 0x40, 0xDB, 0xD7, 0xAE, 0x70, 0x5A, 0x45, 0x78, 0x30,
    0xDD, 0x3E, 0x43, 0xEB, 0x5F, 0x77, 0xBB, 0xE5, 0x57]

lemma requestMac_length : (slice allocateRequest 56 20).length = 20 := rfl

lemma responseMac_length : (slice allocateResponse 68 20).length = 20 := rfl

@[reducible] def credentialDigests : Crypto :=
  .recorded [
    ((userKey.toList, allocateRequest.take 52), ⟨slice allocateRequest 56 20, requestMac_length⟩),
    ((userKey.toList, allocateResponse.take 64),
      ⟨slice allocateResponse 68 20, responseMac_length⟩),
    ((otherKey, allocateRequest.take 52), ⟨slice otherRequest 56 20, rfl⟩)]
    [(userCredentials, userKey)] []

lemma allocate_plainly [Crypto] : ∀ a ∈ allocateAttributes, Plainly isKnown a := by
  simp only [allocateAttributes, List.forall_mem_cons, List.not_mem_nil, false_imp_iff,
    implies_true, and_true]
  have hshort : userStr.asBytes.length < 65536 ∧ noneStr.asBytes.length < 65536 := by decide
  exact ⟨⟨⟨hshort.1, typ_ne rfl, typ_ne rfl⟩, .inl rfl⟩,
    ⟨⟨hshort.2, typ_ne rfl, typ_ne rfl⟩, .inl rfl⟩, ⟨⟨hshort.2, typ_ne rfl, typ_ne rfl⟩, .inl rfl⟩,
    ⟨trivial, typ_ne rfl, typ_ne rfl⟩, .inl rfl⟩

theorem credentials_decide_allocate :
    letI := credentialDigests
    (∃ o, handleTurn (.v4 ⟨0x7F000001, 4000⟩) ⟨0xFD000000000000000000000000000002, 32769, 0, 0⟩
        (fresh allocateRequest) = .ok o ∧
      Served (.v4 ⟨0x7F000001, 4000⟩) ⟨0xFD000000000000000000000000000002, 32769, 0, 0⟩
        none (some 17)
        (longTermKey userStr noneStr) .allocate o.observed) ∧
    ∃ o, handleTurn (.v4 ⟨0x7F000001, 4000⟩) ⟨0xFD000000000000000000000000000002, 32769, 0, 0⟩
        (fresh otherRequest) = .ok o ∧ Refused o.observed := by
  let _ := credentialDigests
  have hcanonical : (SocketAddr.v4 ⟨0x7F000001, 4000⟩).Plain := trivial
  have hrelayed : (⟨0xFD000000000000000000000000000002, 32769, 0, 0⟩ : SocketAddrV6).Plain :=
    ⟨rfl, rfl⟩
  have hmethod : Stun.method (withLength (allocateRequest.take 20) 0 ++ List.replicate 56 0) =
      .ok .allocate := by
    decide
  constructor
  · have happend : appendAll (allocateAttributes ++ (signature (some userKey.toList) ++ []))
        (withLength (allocateRequest.take 20) 0 ++ List.replicate 56 0) =
          .ok (.ok (allocateRequest, itemsOf allocateRequest)) := by
      decide +kernel
    have hkey : some userKey.toList = some (longTermKey userStr noneStr) := by decide +kernel
    obtain ⟨n, hn, hdecided⟩ :=
      credentials_decide hcanonical hrelayed (by decide) (by decide) (by decide) (by decide)
      (by decide) hmethod (by decide) (by decide) allocate_plainly (.inl rfl) happend
    obtain rfl : n = 76 := Except.ok.inj (hn.symm.trans (by decide))
    obtain ⟨o, ho, h⟩ := hdecided (fresh allocateRequest) (fresh_received (by decide))
    exact ⟨o, ho, h.served userStr noneStr rfl rfl hkey⟩
  · have happend : appendAll (allocateAttributes ++ (signature (some otherKey) ++ []))
        (withLength (allocateRequest.take 20) 0 ++ List.replicate 56 0) =
          .ok (.ok (otherRequest, itemsOf otherRequest)) := by
      decide +kernel
    obtain ⟨n, hn, hdecided⟩ :=
      credentials_decide hcanonical hrelayed (by decide) (by decide) (by decide) (by decide)
      (by decide) hmethod (by decide) (by decide) allocate_plainly (.inl rfl) happend
    obtain rfl : n = 76 := Except.ok.inj (hn.symm.trans (by decide))
    obtain ⟨o, ho, h⟩ := hdecided (fresh otherRequest) (fresh_received (by decide))
    have hsigned : (parsed Stun.messageIntegrity otherRequest).map (Option.map fun i => i.pre.all) =
        .ok (some (otherRequest.take 52)) := by
      decide +kernel
    have hdistinguishes : Distinguishes (otherRequest.take 76) otherKey
        (longTermKey userStr noneStr) := by
      intro i hi
      rw [show otherRequest.take 76 = otherRequest from rfl] at hi
      rw [hi] at hsigned
      have hpre : i.pre.all = otherRequest.take 52 := Option.some.inj (Except.ok.inj hsigned)
      rw [hpre]
      decide +kernel
    exact ⟨o, ho, h.refused userStr noneStr otherKey rfl rfl rfl hdistinguishes⟩

end Masquerade.Common
