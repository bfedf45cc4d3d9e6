import Masquerade.Common.HandleTurn

/-! What the handler reads from a message, and what its responses and datagrams are. -/

namespace Masquerade.Common

open Lib Stun Wire

section Reading

def stopsLater (typ : UInt16) : Bool := typ == Typ.messageIntegritySha256 || typ == Typ.fingerprint

def isKnown (typ : UInt16) : Bool :=
  typ ∈ [Typ.username, Typ.realm, Typ.messageIntegrity, Typ.nonce, Typ.lifetime,
    Typ.requestedTransport, Typ.channelNumber, Typ.xorPeerAddress, Typ.data]

def unknownItems (items : List Item) : List Item := items.filter fun item => !isKnown item.typ

def turnAttrs (items : List Item) : TurnAttrs where
  username := (heard Typ.username mustPrecede items).bind Stun.username.read
  realm := (heard Typ.realm mustPrecede items).bind Stun.realm.read
  integrity := (heard Typ.messageIntegrity (fun t => t == Typ.fingerprint) items).bind
    Stun.messageIntegrity.read
  nonce := (heard Typ.nonce stopsLater items).bind Stun.nonce.read
  lifetime := (heard Typ.lifetime stopsLater items).bind Stun.lifetime.read
  requestedTransport :=
    (heard Typ.requestedTransport stopsLater items).bind Stun.requestedTransport.read
  channel := (heard Typ.channelNumber stopsLater items).bind Stun.channelNumber.read
  xorPeer := (heard Typ.xorPeerAddress stopsLater items).bind Stun.xorPeerAddress.read
  data := (heard Typ.data stopsLater items).bind Stun.data.read
  unknownAttrs := collectUnknown 8 (unknownItems items)

lemma heard_skip {typ t : UInt16} {stops : UInt16 → Bool} (ht : t ≠ typ) (hs : stops t = false)
    (items : List Item) :
    heard typ stops (without t items) = heard typ stops items := by
  rw [heard_without ht]
  congr 1
  funext x
  by_cases hx : x = t
  · simp [hx, hs]
  · simp [hx]

lemma heard_behind_mac {typ : UInt16} (ht : Typ.messageIntegrity ≠ typ) (items : List Item) :
    heard typ mustPrecede (without Typ.messageIntegrity items) = heard typ stopsLater items := by
  rw [heard_without ht]
  congr 1
  funext x
  by_cases hx : x = Typ.messageIntegrity
  · rw [hx]; rfl
  · have hb : (x == Typ.messageIntegrity) = false := by simpa using hx
    simp [hb, bne, mustPrecede, stopsLater]

lemma unknownItems_eq (items : List Item) : unknownItems items = without Typ.data
    (without Typ.xorPeerAddress (without Typ.channelNumber (without Typ.requestedTransport
      (without Typ.lifetime (without Typ.nonce (without Typ.messageIntegrity (without Typ.realm
        (without Typ.username items)))))))) := by
  simp only [unknownItems, without, List.filter_filter]
  congr 1
  funext item
  rw [Bool.eq_iff_iff]
  simp only [isKnown, List.mem_cons, List.not_mem_nil, or_false, Bool.not_eq_true',
    decide_eq_false_iff_not, Bool.and_eq_true, bne_iff_ne]
  tauto

structure Behind (taken : List UInt16) (items xs : List Item) : Prop where
  afterHeader : AfterHeader xs
  heard : ∀ typ, typ ∉ taken → heard typ mustPrecede xs = Stun.heard typ stopsLater items

lemma Behind.parse {A : Type} {taken : List UInt16} {items xs : List Item}
    (h : Behind taken items xs) (dec : AttrDec A) (hd : dec.Safe)
    (hp : dec.mustPrecede = mustPrecede) (ht : dec.typ ∉ taken) (hs : mustPrecede dec.typ = false) :
    parse dec xs = .ok ((Stun.heard dec.typ stopsLater items).bind dec.read, without dec.typ xs) ∧
      Behind (dec.typ :: taken) items (without dec.typ xs) := by
  refine ⟨by rw [parse_eq hd h.afterHeader, hp, h.heard _ ht], h.afterHeader.without _, ?_⟩
  intro typ hn
  simp only [List.mem_cons, not_or] at hn
  rw [heard_skip (Ne.symm hn.1) hs, h.heard typ hn.2]

lemma behind_mac {items : List Item} (h : AfterHeader items) :
    Behind [Typ.username, Typ.realm, Typ.messageIntegrity] items
      (without Typ.messageIntegrity (without Typ.realm (without Typ.username items))) where
  afterHeader := ((h.without _).without _).without _
  heard typ ht := by
    simp only [List.mem_cons, List.not_mem_nil, or_false, not_or] at ht
    rw [heard_behind_mac (Ne.symm ht.2.2), heard_skip (Ne.symm ht.2.1) (by decide),
      heard_skip (Ne.symm ht.1) (by decide)]

lemma parseTurn_eq {b : Bytes} (hb : 4 ≤ b.length) : parseTurn b = .ok (turnAttrs (itemsOf b)) := by
  have h₀ := itemsOf_afterHeader hb
  simp only [parseTurn, attrs_eq, ok_bind, turnAttrs, unknownItems_eq]
  generalize itemsOf b = items at h₀
  have e₀ : parse Stun.username items = .ok (_, without Typ.username items) :=
    parse_eq (str_safe _) h₀
  have e₁ : parse Stun.realm (without Typ.username items) =
      .ok ((heard Typ.realm mustPrecede items).bind Stun.realm.read,
      without Typ.realm (without Typ.username items)) := by
    rw [← heard_skip (t := Typ.username) (by decide) (by decide) items]
    exact parse_eq (str_safe _) (h₀.without _)
  have e₂ : parse Stun.messageIntegrity (without Typ.realm (without Typ.username items)) =
      .ok ((heard Typ.messageIntegrity (fun t => t == Typ.fingerprint) items).bind
      Stun.messageIntegrity.read,
        without Typ.messageIntegrity (without Typ.realm (without Typ.username items))) := by
    rw [← heard_skip (t := Typ.username) (by decide) (by decide) items,
      ← heard_skip (t := Typ.realm) (by decide) (by decide) (without Typ.username items)]
    exact parse_eq (integrity_safe _ _) ((h₀.without _).without _)
  obtain ⟨e₃, h₃⟩ := (behind_mac h₀).parse Stun.nonce (str_safe _) rfl (by decide) (by decide)
  obtain ⟨e₄, h₄⟩ := h₃.parse Stun.lifetime (numeric_safe _ _ _) rfl (by decide) (by decide)
  obtain ⟨e₅, h₅⟩ := h₄.parse Stun.requestedTransport (weirdByte_safe _) rfl (by decide) (by decide)
  obtain ⟨e₆, h₆⟩ := h₅.parse Stun.channelNumber channelNumber_safe rfl (by decide) (by decide)
  obtain ⟨e₇, h₇⟩ := h₆.parse Stun.xorPeerAddress (sockaddr_safe _ _) rfl (by decide) (by decide)
  obtain ⟨e₈, -⟩ := h₇.parse Stun.data (slice_safe _) rfl (by decide) (by decide)
  simp only [e₀, e₁, e₂, e₃, e₄, e₅, e₆, e₇, e₈, ok_bind]
  rfl

end Reading
section Responding

def replyHeader (class_ : Stun.Class) (b : Bytes) : Bytes :=
  toBE 2 (withClass (typAt b) class_).toNat ++ (toBE 2 0 ++ slice b 4 16)

structure ValidHeader (b : Bytes) : Prop where
  length : 20 ≤ b.length
  top : typAt b >>> 14 = 0
  cookie : cookieAt b = magicCookie

lemma replyHeader_length (class_ : Stun.Class) {b : Bytes} (hb : 20 ≤ b.length) :
    (replyHeader class_ b).length = 20 := by
  have hs : (slice b 4 16).length = 16 := slice_length_of_le (by omega)
  simp [replyHeader, hs]

lemma typAt_replyHeader (class_ : Stun.Class) (b : Bytes) :
    typAt (replyHeader class_ b) = withClass (typAt b) class_ := by
  rw [typAt, replyHeader, slice_zero, List.take_left' (by simp), ofBE_toBE]
  simp [Nat.mod_eq_of_lt (withClass (typAt b) class_).isLt]

lemma lengthAt_replyHeader (class_ : Stun.Class) (b : Bytes) :
    lengthAt (replyHeader class_ b) = 0 := by
  rw [lengthAt, replyHeader, slice_append_right _ _ (i := 0) (by simp), slice_zero,
    List.take_left' (by simp), ofBE_toBE, Nat.zero_mod]

lemma slice_replyHeader (class_ : Stun.Class) (b : Bytes) {i n : ℕ} (hi : 4 ≤ i) (hn : i + n ≤ 20) :
    slice (replyHeader class_ b) i n = slice b i n := by
  have hs : (toBE 2 (withClass (typAt b) class_).toNat ++ toBE 2 0).length = 4 := by simp
  rw [replyHeader, ← List.append_assoc, slice_append_right _ _ (i := i - 4) (by omega), slice,
    slice, slice, List.drop_take, List.take_take, List.drop_drop, show 4 + (i - 4) = i by omega,
    min_eq_left (by omega)]

lemma replyHeader_built (class_ : Stun.Class) {b : Bytes} (h : ValidHeader b) :
    Built (replyHeader class_ b) [] := by
  have hl := replyHeader_length class_ h.length
  have hzero := lengthAt_replyHeader class_ b
  have hb : Built ((replyHeader class_ b).take 20) [] :=
    .header (by omega) (by rw [typAt_replyHeader, withClass_top, h.top])
      (by rw [cookieAt, slice_replyHeader class_ b (by omega) (by omega), ← cookieAt, h.cookie])
      hzero
  rwa [List.take_of_length_le (by omega)] at hb

lemma setHeader_eq (class_ : Stun.Class) {b : Bytes} (hb : 20 ≤ b.length) :
    (do let b ← setLength b 0; setClass b class_) = .ok (replyHeader class_ b ++ b.drop 20) := by
  obtain ⟨t, l, c, x, r, rfl, ht, hl, hc, hx⟩ := header_split hb
  have happ : t ++ (l ++ (c ++ (x ++ r))) = (t ++ l) ++ ((c ++ x) ++ r) := by
    simp only [List.append_assoc]
  have hdrop : (t ++ (l ++ (c ++ (x ++ r)))).drop 20 = r := by
    rw [happ, ← List.append_assoc, List.drop_left' (by simp [ht, hl, hc, hx])]
  have hslice : slice (t ++ (l ++ (c ++ (x ++ r)))) 4 16 = c ++ x := by
    rw [happ, slice_append_right _ _ (i := 0) (by simp [ht, hl]), slice_zero,
      List.take_left' (by simp [hc, hx])]
  have htyp : typAt (t ++ (toBE 2 0 ++ (c ++ (x ++ r)))) = typAt (t ++ (l ++ (c ++ (x ++ r)))) := by
    rw [typAt_append _ (by omega), typAt_append _ (by omega)]
  rw [setLength_front 0 ht hl, ok_bind, setClass_front class_ ht, htyp, replyHeader, hdrop, hslice]
  simp only [List.append_assoc]

variable [Crypto]

lemma respond_grows (class_ : Stun.Class) {as : List Attribute} (ha : ∀ a ∈ as, a.Writable)
    (hc : 20 + cost as ≤ 65535) {b : Bytes} (h : ValidHeader b) :
    ∃ m items, Built m items ∧ typAt m = withClass (typAt b) class_ ∧ slice m 4 16 = slice b 4 16 ∧
      List.Forall₂ Attribute.Wrote as items ∧ m.length = 20 + cost as ∧
      ∀ b', 20 + cost as ≤ b'.length → replyHeader class_ b' = replyHeader class_ b →
        respond class_ as b' = .ok (m ++ b'.drop (20 + cost as)) := by
  have hzero := lengthAt_replyHeader class_ b
  obtain ⟨m, items, hext, hall, hl, heach⟩ :=
    appendEach_grows _ ha (replyHeader_built class_ h) (by omega)
  refine ⟨m, items, hext.built, ?_, ?_, hall, ?_, ?_⟩
  · rw [typAt, slice_zero, hext.typ, ← slice_zero, ← typAt, typAt_replyHeader]
  · rw [hext.fixed, slice_replyHeader class_ b (by omega) (by omega)]
  · rw [hext.built.length, hl, hzero, Nat.zero_add]
  · intro b' hb' hh
    have hset := setHeader_eq class_ (show 20 ≤ b'.length by omega)
    have hrun : respond class_ as b' =
        (do let b ← setLength b' 0; setClass b class_) >>= appendEach as := by simp [respond]
    rw [hrun, hset, ok_bind, hh, heach _ (by rw [List.length_drop]; omega), List.drop_drop]

structure Small (k : ℕ) (a : Attribute) : Prop where
  writable : a.Writable
  size : a.size ≤ k

lemma Small.intro {a : Attribute} {k n : ℕ} {f : Prefix → Bytes}
    (hw : a.encoder.enc.Writes a.encoder.value n f) (hk : 4 + n + padding n ≤ k) : Small k a :=
  ⟨⟨n, f, hw⟩, by rw [Attribute.size_eq hw]; exact hk⟩

omit [Crypto] in
lemma sockaddrSize_padded (addr : SocketAddr) :
    4 + sockaddrSize addr + padding (sockaddrSize addr) ≤ 24 := by
  cases addr <;> simp [sockaddrSize, padding]

lemma small_mapped (addr : SocketAddr) : Small 24 (.xorMappedAddress addr) :=
  .intro (sockaddr_writes _ _ addr) (sockaddrSize_padded addr)

lemma small_relayed (addr : SocketAddr) : Small 24 (.xorRelayedAddress addr) :=
  .intro (sockaddr_writes _ _ addr) (sockaddrSize_padded addr)

lemma small_lifetime (n : UInt32) : Small 8 (.lifetime n) :=
  .intro (numeric_writes _ u32Bytes_length n) (by decide)

lemma small_mac (key : Bytes) : Small 24 (.messageIntegrity key) :=
  .intro (messageIntegrity_writes key) (by decide)

lemma small_realm : Small 8 (.realm noneStr) :=
  .intro (str_writes _ (show noneStr.asBytes.length < 65536 by decide))
    (show 4 + 4 + padding 4 ≤ 8 by decide)

lemma small_nonce : Small 8 (.nonce noneStr) :=
  .intro (str_writes _ (show noneStr.asBytes.length < 65536 by decide))
    (show 4 + 4 + padding 4 ≤ 8 by decide)

lemma small_error {code : UInt16} (h : code ≤ 799) : Small 8 (.errorCode code emptyStr) :=
  .intro (errorCode_writes h (by decide)) (by decide)

lemma small_unknown {words : List.Vector UInt16 8} (h : ZerosTrail words.toList) :
    Small 20 (.unknownAttributes 8 words) := by
  obtain ⟨xs, k, hw, hx⟩ := h
  have hl : xs.length ≤ 8 := by
    have := congrArg List.length hw
    simp only [List.Vector.toList_length, List.length_append, List.length_replicate] at this
    omega
  exact .intro (unknownAttributes_writes hw hx (by omega)) (by unfold padding; omega)

structure Fits (k : ℕ) (as : List Attribute) : Prop where
  writable : ∀ a ∈ as, a.Writable
  cost : cost as ≤ k

lemma Fits.one {k : ℕ} {a : Attribute} (h : Small k a) : Fits k [a] where
  writable := by simpa using h.writable
  cost := by simpa [Stun.cost] using h.size

lemma Fits.cons {j k : ℕ} {a : Attribute} {as : List Attribute} (h : Small j a) (hs : Fits k as) :
    Fits (j + k) (a :: as) where
  writable := by simpa using ⟨h.writable, hs.writable⟩
  cost := by
    have := hs.cost
    have := h.size
    simp only [Stun.cost, List.map_cons, List.sum_cons] at *
    omega

lemma Fits.mono {j k : ℕ} {as : List Attribute} (h : Fits j as) (hjk : j ≤ k) : Fits k as :=
  ⟨h.writable, h.cost.trans hjk⟩

section Arms

variable {canonical : SocketAddr} {relayed : SocketAddrV6} {class_ c : Stun.Class} {method : Method}
  {a : TurnAttrs} {as : List Attribute}

structure Verified (a : TurnAttrs) (u r : Str) (i : Integrity 20) : Prop where
  known : a.unknownAttrs = none
  username : a.username = some u
  realm : a.realm = some r
  integrity : a.integrity = some i
  verify : i.verify (longTermKey u r) = true

lemma Verified.turnKey {u r : Str} {i : Integrity 20} (h : Verified a u r i) :
    turnKey a = longTermKey u r := by
  rw [Common.turnKey, h.username, h.realm, h.integrity]

inductive Arm (canonical : SocketAddr) (relayed : SocketAddrV6) (method : Method) (a : TurnAttrs) :
    Stun.Class → List Attribute → Prop
  | binding : method = .binding →
      Arm canonical relayed method a .success [.xorMappedAddress canonical]
  | unknownMethod : methodUnknown method = true →
      Arm canonical relayed method a .error [.errorCode 404 emptyStr]
  | unknownAttrs {u : List.Vector UInt16 8} : a.unknownAttrs = some u →
      Arm canonical relayed method a .error [.errorCode 420 emptyStr, .unknownAttributes 8 u]
  | unauthenticated : a.username = none ∨ a.realm = none → Arm canonical relayed method a .error
      [.errorCode 401 emptyStr, .realm noneStr, .nonce noneStr]
  | forbidden : Arm canonical relayed method a .error [.errorCode 403 emptyStr]
  | nonUdp {u r : Str} {i : Integrity 20} : Verified a u r i →
      method = .allocate → a.requestedTransport ≠ some 17 →
      Arm canonical relayed method a .error [.errorCode 442 emptyStr, .messageIntegrity (turnKey a)]
  | allocate {u r : Str} {i : Integrity 20} : Verified a u r i → method = .allocate →
      a.requestedTransport = some 17 → Arm canonical relayed method a .success
      [.xorMappedAddress canonical, .xorRelayedAddress (.v6 relayed),
        .lifetime (a.lifetime.getD 1000), .messageIntegrity (turnKey a)]
  | refresh {u r : Str} {i : Integrity 20} : Verified a u r i → method = .refresh →
      a.lifetime ≠ some 0 → Arm canonical relayed method a .success
      [.lifetime (a.lifetime.getD 1000), .messageIntegrity (turnKey a)]
  | createPermission {u r : Str} {i : Integrity 20} : Verified a u r i →
      method = .createPermission →
      Arm canonical relayed method a .success [.messageIntegrity (turnKey a)]
  | channelBind {u r : Str} {i : Integrity 20} : Verified a u r i → method = .channelBind →
      Arm canonical relayed method a .error [.errorCode 438 emptyStr, .messageIntegrity (turnKey a)]

lemma answerVerified_respond {u r : Str} {i : Integrity 20} (hv : Verified a u r i)
    (h : answerVerified canonical relayed .request method a = .respond c as) :
    Arm canonical relayed method a c as := by
  unfold answerVerified at h
  cases method with
  | allocate =>
    by_cases ht : a.requestedTransport = some 17
    · simp [ht] at h
      obtain ⟨rfl, rfl⟩ := h
      exact .allocate hv rfl ht
    · simp [ht] at h
      obtain ⟨rfl, rfl⟩ := h
      exact .nonUdp hv rfl ht
  | refresh =>
    by_cases hl : a.lifetime = some 0
    · simp [hl] at h
    · simp [hl] at h
      obtain ⟨rfl, rfl⟩ := h
      exact .refresh hv rfl hl
  | createPermission =>
    simp at h
    obtain ⟨rfl, rfl⟩ := h
    exact .createPermission hv rfl
  | channelBind =>
    simp at h
    obtain ⟨rfl, rfl⟩ := h
    exact .channelBind hv rfl
  | unknown | binding | send | data => simp at h

lemma answerKnown_respond (hu : a.unknownAttrs = none)
    (h : answerKnown canonical relayed .request method a = .respond c as) :
    Arm canonical relayed method a c as := by
  unfold answerKnown at h
  match hname : a.username, hrealm : a.realm, hmac : a.integrity with
  | none, _, _ =>
    simp [hname] at h
    obtain ⟨rfl, rfl⟩ := h
    exact .unauthenticated (.inl hname)
  | some _, none, _ =>
    simp [hrealm] at h
    obtain ⟨rfl, rfl⟩ := h
    exact .unauthenticated (.inr hrealm)
  | some u, some r, none => simp [hname, hrealm, hmac] at h
  | some u, some r, some i =>
    have hkey : turnKey a = longTermKey u r := by rw [turnKey, hname, hrealm, hmac]
    by_cases hv : i.verify (longTermKey u r) = true
    · simp [hname, hrealm, hmac, hkey, hv] at h
      exact answerVerified_respond ⟨hu, hname, hrealm, hmac, hv⟩ h
    · simp [hname, hrealm, hmac, hkey, hv] at h
      obtain ⟨rfl, rfl⟩ := h
      exact .forbidden

lemma answerVerified_indication
    (h : answerVerified canonical relayed .indication method a = .respond c as) : False := by
  simp only [answerVerified, reduceCtorEq, false_and, if_false, true_and] at h
  split_ifs at h
  split at h <;> cases h

lemma answer_respond (h : answer canonical relayed class_ method a = .respond c as) :
    class_ = .request ∧ Arm canonical relayed method a c as := by
  cases class_ with
  | error | success => simp [answer] at h
  | indication =>
    cases hu : a.unknownAttrs with
    | some u => simp [answer, hu] at h
    | none =>
      simp only [answer, answerKnown, hu, reduceCtorEq, false_and, or_self, if_false] at h
      exact (answerVerified_indication h).elim
  | request =>
    refine ⟨rfl, ?_⟩
    simp only [answer, reduceCtorEq, or_self, if_false, true_and, if_true] at h
    split at h
    · cases h
      exact .binding ‹_›
    split at h
    · cases h
      exact .unknownMethod ‹_›
    split at h
    · cases h
      exact .unknownAttrs ‹_›
    · exact answerKnown_respond ‹_› h

lemma Arm.fits (hu : ∀ u, a.unknownAttrs = some u → ZerosTrail u.toList)
    (h : Arm canonical relayed method a c as) :
    Fits 80 as := by
  have hmac := small_mac (turnKey a)
  have hlifetime := small_lifetime (a.lifetime.getD 1000)
  cases h with
  | binding => exact (Fits.one (small_mapped canonical)).mono (by norm_num)
  | unknownMethod => exact (Fits.one (small_error (by decide))).mono (by norm_num)
  | unknownAttrs h =>
    exact (Fits.cons (small_error (by decide)) (.one (small_unknown (hu _ h)))).mono (by norm_num)
  | unauthenticated =>
    exact (Fits.cons (small_error (by decide)) (.cons small_realm (.one small_nonce))).mono
      (by norm_num)
  | forbidden => exact (Fits.one (small_error (by decide))).mono (by norm_num)
  | nonUdp => exact (Fits.cons (small_error (by decide)) (.one hmac)).mono (by norm_num)
  | allocate =>
    exact Fits.cons (small_mapped canonical)
      (.cons (small_relayed (.v6 relayed)) (.cons hlifetime (.one hmac)))
  | refresh => exact (Fits.cons hlifetime (.one hmac)).mono (by norm_num)
  | createPermission => exact (Fits.one hmac).mono (by norm_num)
  | channelBind => exact (Fits.cons (small_error (by decide)) (.one hmac)).mono (by norm_num)

end Arms

end Responding

end Masquerade.Common
