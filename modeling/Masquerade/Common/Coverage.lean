import Masquerade.Common.Auth
import Masquerade.Stun.Unknown

/-! Whether attributes behind the signature can change a response. -/

namespace Masquerade.Common

open Lib Stun Wire

section Shared

variable {b₁ b₂ : Bytes} {offset : ℕ} {mi₁ mi₂ : Item}

structure SameThroughMac (b₁ b₂ : Bytes) (offset : ℕ) (mi₁ mi₂ : Item) : Prop where
  typ : typAt b₁ = typAt b₂
  cookie : cookieAt b₁ = cookieAt b₂
  txid : txidAt b₁ = txidAt b₂
  body : slice b₁ 20 (offset + 24) = slice b₂ 20 (offset + 24)
  first₁ : First (itemsOf b₁) Typ.messageIntegrity [Typ.fingerprint] mi₁
  first₂ : First (itemsOf b₂) Typ.messageIntegrity [Typ.fingerprint] mi₂
  at₁ : mi₁.At b₁ offset
  at₂ : mi₂.At b₂ offset
  size₁ : mi₁.value.length = 20
  size₂ : mi₂.value.length = 20

lemma take_two_eq (h₁ : 2 ≤ b₁.length) (h₂ : 2 ≤ b₂.length) (h : typAt b₁ = typAt b₂) :
    b₁.take 2 = b₂.take 2 := by
  have hof : ofBE (b₁.take 2) = ofBE (b₂.take 2) := by
    have hlt : ∀ b : Bytes, ofBE (b.take 2) < 2 ^ 16 := by
      intro b
      have hb := ofBE_lt (b.take 2)
      have hp : 256 ^ (b.take 2).length ≤ 256 ^ 2 := Nat.pow_le_pow_right (by norm_num) (by simp)
      omega
    have htoNat := congrArg BitVec.toNat h
    simp only [typAt, slice_zero, BitVec.toNat_ofNat] at htoNat
    rwa [Nat.mod_eq_of_lt (hlt b₁), Nat.mod_eq_of_lt (hlt b₂)] at htoNat
  have hl : (b₁.take 2).length = (b₂.take 2).length := by simp; omega
  rw [← toBE_ofBE (b₁.take 2), ← toBE_ofBE (b₂.take 2), hof, hl]

lemma slice_split (b : Bytes) (i m n : ℕ) :
    slice b i (m + n) = slice b i m ++ slice b (i + m) n := by
  rw [slice, slice, slice, List.take_add, List.drop_drop]

lemma SameThroughMac.fixed (h : SameThroughMac b₁ b₂ offset mi₁ mi₂) (h₁ : 20 ≤ b₁.length)
    (h₂ : 20 ≤ b₂.length) :
    slice b₁ 4 16 = slice b₂ 4 16 := by
  have hc : ∀ b : Bytes, 20 ≤ b.length → slice b 4 4 = u32Bytes (cookieAt b) := by
    intro b hb
    have hl : (slice b 4 4).length = 4 := slice_length_of_le (by omega)
    rw [cookieAt, u32Bytes_u32Of hl]
  rw [slice_split b₁ 4 4 12, slice_split b₂ 4 4 12, hc b₁ h₁, hc b₂ h₂, h.cookie]
  exact congrArg _ h.txid

def beforeMac (items : List Item) : List Item :=
  items.takeWhile fun item => item.typ != Typ.messageIntegrity

def behindMac (items : List Item) : List Item :=
  (items.dropWhile fun item => item.typ != Typ.messageIntegrity).tail

lemma around_mac {items front after : List Item} {mi : Item} (h : items = front ++ mi :: after)
    (ht : mi.typ = Typ.messageIntegrity) (hfront : ∀ x ∈ front, x.typ ≠ Typ.messageIntegrity) :
    beforeMac items = front ∧ behindMac items = after := by
  have hall : ∀ x ∈ front, (x.typ != Typ.messageIntegrity) = true := fun x hx => by
    simpa using hfront x hx
  rw [h, beforeMac, behindMac, List.takeWhile_append_of_pos hall, List.dropWhile_append_of_pos hall,
    List.takeWhile_cons_of_neg (by simp [ht]), List.dropWhile_cons_of_neg (by simp [ht]),
    List.append_nil]
  exact ⟨rfl, rfl⟩

structure SplitAtMac (items front : List Item) (mi : Item) (after : List Item) : Prop where
  items : items = front ++ mi :: after
  typ : mi.typ = Typ.messageIntegrity
  front : ∀ x ∈ front, x.typ ≠ Typ.messageIntegrity ∧ x.typ ≠ Typ.fingerprint

lemma SameThroughMac.split (h : SameThroughMac b₁ b₂ offset mi₁ mi₂) (h₁ : 20 ≤ b₁.length)
    (h₂ : 20 ≤ b₂.length) :
    ∃ front, SplitAtMac (itemsOf b₁) front mi₁ (behindMac (itemsOf b₁)) ∧
      SplitAtMac (itemsOf b₂) front mi₁ (behindMac (itemsOf b₂)) ∧
        beforeMac (itemsOf b₁) = front := by
  obtain ⟨htyp, before, after, hsplit, hbeforeMac⟩ := h.first₁
  obtain ⟨j, hj, hc⟩ := itemsOf_covers (show 4 ≤ b₁.length by omega)
  rw [hsplit] at hc
  obtain ⟨k, hbefore, hrest⟩ := hc.split
  have hmi : mi₁ :: after = [mi₁] ++ after := rfl
  rw [hmi] at hrest
  obtain ⟨l, hone, -⟩ := hrest.split
  have hstop := hone.stop_eq
  have hk : k = offset := by
    cases hone with
    | cons hl _ =>
      have hb := h.at₁.bytes_length
      simp only [itemAt, List.length_take] at hb
      omega
  have hsize : mi₁.size = 24 := by simp [Item.size, h.size₁, padding]
  have hsize₂ : mi₂.size = 24 := by simp [Item.size, h.size₂, padding]
  have hann := h.at₂.announced
  simp only [List.map_cons, List.map_nil, List.sum_cons, List.sum_nil, hsize] at hstop
  have hcommon := hbefore.append hone
  have hbytes : (b₁.drop 4).take (16 + l) = (b₂.drop 4).take (16 + l) := by
    have hbody := h.body
    have hl : l = offset + 24 := by omega
    show slice b₁ 4 (16 + l) = slice b₂ 4 (16 + l)
    rw [slice_split b₁ 4 16 l, slice_split b₂ 4 16 l, h.fixed h₁ h₂, hl, hbody]
  have hcommon₂ := hcommon.congr hbytes
  rw [take_two_eq (by omega) (by omega) h.typ] at hcommon₂
  obtain ⟨after₂, hitems₂⟩ := itemsOf_of_covers (by omega) hcommon₂ (by omega)
  rw [List.append_assoc, List.singleton_append] at hitems₂
  have hfront : ∀ x ∈ before, x.typ ≠ Typ.messageIntegrity ∧ x.typ ≠ Typ.fingerprint := by
    intro x hx
    simpa using hbeforeMac x hx
  obtain ⟨hbefore₁, hbehind₁⟩ := around_mac hsplit htyp fun x hx => (hfront x hx).1
  obtain ⟨-, hbehind₂⟩ := around_mac hitems₂ htyp fun x hx => (hfront x hx).1
  exact ⟨before, ⟨by rw [hbehind₁, hsplit], htyp, hfront⟩,
    ⟨by rw [hbehind₂, hitems₂], htyp, hfront⟩, hbefore₁⟩

section Split

variable {items front after : List Item} {mi : Item}

lemma SplitAtMac.signed (h : SplitAtMac items front mi after) (typ : UInt16)
    (ht : Typ.messageIntegrity ≠ typ) :
    heard typ mustPrecede items = heard typ mustPrecede front := by
  have hmac : mustPrecede mi.typ = true := by rw [h.typ]; rfl
  have happend : front ++ mi :: after = (front ++ [mi]) ++ after := by simp
  rw [h.items, happend, heard_append_of_mem (show mi ∈ _ by simp) (.inr hmac),
    heard_stopped (by rwa [h.typ]) hmac]

lemma SplitAtMac.mac (h : SplitAtMac items front mi after) :
    heard Typ.messageIntegrity (fun t => t == Typ.fingerprint) items = some mi :=
  heard_eq_some_iff.mpr ⟨h.typ, front, after, h.items,
    fun x hx => ⟨(h.front x hx).1, by simpa using (h.front x hx).2⟩⟩

lemma SplitAtMac.reads {items' after' : List Item}
    (h : SplitAtMac items front mi after) (h' : SplitAtMac items' front mi after') :
    (turnAttrs items).username = (turnAttrs items').username ∧
      (turnAttrs items).realm = (turnAttrs items').realm ∧
      (turnAttrs items).integrity = (turnAttrs items').integrity := by
  simp only [turnAttrs, h.mac, h'.mac, and_true]
  rw [h.signed Typ.username (by decide), h'.signed Typ.username (by decide),
    h.signed Typ.realm (by decide), h'.signed Typ.realm (by decide)]
  exact ⟨rfl, rfl⟩

def Settled (typ : UInt16) (front : List Item) : Prop := ∃ x ∈ front, x.typ = typ ∨
    stopsLater x.typ = true

lemma SplitAtMac.settled (h : SplitAtMac items front mi after) {typ : UInt16}
    (hs : Settled typ front) :
    heard typ stopsLater items = heard typ stopsLater front := by
  obtain ⟨x, hx, hstop⟩ := hs
  rw [h.items, heard_append_of_mem hx hstop]

lemma SplitAtMac.unsettled (h : SplitAtMac items front mi after) {typ : UInt16}
    (ht : Typ.messageIntegrity ≠ typ) (hs : ¬ Settled typ front) :
    heard typ stopsLater items = heard typ stopsLater after := by
  have hfront : ∀ x ∈ front ++ [mi], x.typ ≠ typ ∧ stopsLater x.typ = false := by
    intro x hx
    rcases List.mem_append.mp hx with hx | hx
    · exact ⟨fun htyp => hs ⟨x, hx, .inl htyp⟩, by simpa using fun hstop => hs ⟨x, hx, .inr hstop⟩⟩
    · rw [List.mem_singleton.mp hx, h.typ]
      exact ⟨ht, rfl⟩
  have happend : front ++ mi :: after = (front ++ [mi]) ++ after := by simp
  rw [h.items, happend, heard_append_of_not hfront]

lemma unsettled_eq_none {typ : UInt16} (hs : ¬ Settled typ front) :
    heard typ stopsLater front = none :=
  heard_eq_none fun x hx htyp => hs ⟨x, hx, .inl htyp⟩

def listed (items : List Item) : List UInt16 := enterable (unknownItems items)

def added (front after : List Item) : List UInt16 :=
  ((listed after).filter fun t => t ∉ listed front).take (8 - (listed front).length)

lemma SplitAtMac.entered (h : SplitAtMac items front mi after) :
    entered 8 (unknownItems items) = (listed front).take 8 ++ added front after := by
  have hknown : isKnown mi.typ = true := by rw [h.typ]; rfl
  have hsplit : unknownItems items = unknownItems front ++ unknownItems after := by
    rw [h.items, unknownItems, unknownItems, unknownItems, List.filter_append,
      List.filter_cons_of_neg (by simp [hknown])]
  rw [hsplit, entered_append]
  rfl

end Split

end Shared

section

variable [Crypto]

section Answers

variable {canonical : SocketAddr} {relayed : SocketAddrV6} {method : Method} {a₁ a₂ : TurnAttrs}

def Immune (b : Bytes) : Prop :=
  txidAt b = List.replicate 12 0 ∨ methodAt b = .binding ∨ methodUnknown (methodAt b) = true

def AnsweredAlike (method : Method) (a₁ a₂ : TurnAttrs) : Prop :=
  a₁.unknownAttrs = a₂.unknownAttrs ∧
    (a₁.unknownAttrs = none → a₁.username ≠ none → a₁.realm ≠ none →
      (method = .allocate →
        (a₁.requestedTransport = some 17 ↔ a₂.requestedTransport = some 17) ∧
          (a₁.requestedTransport = some 17 → a₁.lifetime.getD 1000 = a₂.lifetime.getD 1000)) ∧
      (method = .refresh → a₁.lifetime.getD 1000 = a₂.lifetime.getD 1000))

omit [Crypto] in
lemma getD_eq_zero_iff (l : Option UInt32) : l.getD 1000 = 0 ↔ l = some 0 := by
  cases l <;> simp

lemma answerVerified_eq_iff (hkey : turnKey a₁ = turnKey a₂) :
    answerVerified canonical relayed .request method a₁ =
      answerVerified canonical relayed .request method a₂ ↔
      (method = .allocate →
        (a₁.requestedTransport = some 17 ↔ a₂.requestedTransport = some 17) ∧
          (a₁.requestedTransport = some 17 → a₁.lifetime.getD 1000 = a₂.lifetime.getD 1000)) ∧
      (method = .refresh → a₁.lifetime.getD 1000 = a₂.lifetime.getD 1000) := by
  cases method with
  | allocate =>
    by_cases h₁ : a₁.requestedTransport = some 17 <;>
      by_cases h₂ : a₂.requestedTransport = some 17 <;> simp [answerVerified, h₁, h₂, hkey]
  | refresh =>
    by_cases h₁ : a₁.lifetime = some 0 <;> by_cases h₂ : a₂.lifetime = some 0
    · simp [answerVerified, h₁, h₂]
    · have hne := (getD_eq_zero_iff a₂.lifetime).not.mpr h₂
      simp [answerVerified, h₁, h₂, Ne.symm hne]
    · have hne := (getD_eq_zero_iff a₁.lifetime).not.mpr h₁
      simp [answerVerified, h₁, h₂, hne]
    · simp [answerVerified, h₁, h₂, hkey]
  | createPermission | channelBind => simp [answerVerified, hkey]
  | unknown | binding | send | data => simp [answerVerified]

lemma answerKnown_of_verify {a : TurnAttrs} {u r : Str} {i : Integrity 20}
    (hn : a.username = some u) (hr : a.realm = some r) (hi : a.integrity = some i)
    (hv : i.verify (turnKey a) = true) :
    answerKnown canonical relayed .request method a =
      answerVerified canonical relayed .request method a := by
  simp [answerKnown, hn, hr, hi, hv]

lemma answer_eq_iff (hname : a₁.username = a₂.username) (hrealm : a₁.realm = a₂.realm)
    (hmac : a₁.integrity = a₂.integrity) {i : Integrity 20} (hi : a₁.integrity = some i)
    (hv : i.verify (turnKey a₁) = true) (hb : method ≠ .binding)
    (hu : methodUnknown method ≠ true) :
    answer canonical relayed .request method a₁ = answer canonical relayed .request method a₂ ↔
      AnsweredAlike method a₁ a₂ := by
  have hkey : turnKey a₁ = turnKey a₂ := by rw [turnKey, turnKey, hname, hrealm, hmac]
  have hknown : ∀ {a : TurnAttrs} {u : List.Vector UInt16 8}, a.unknownAttrs = none →
      answerKnown canonical relayed .request method a ≠
        .respond .error [.errorCode 420 emptyStr, .unknownAttributes 8 u] := by
    intro a u hnone h
    cases answerKnown_respond hnone h with
    | unknownAttrs h => simp [hnone] at h
  simp only [answer, hb, hu, and_false, if_false, reduceCtorEq, or_self, if_true]
  cases h₁ : a₁.unknownAttrs with
  | some u₁ =>
    cases h₂ : a₂.unknownAttrs with
    | some u₂ => simp [AnsweredAlike, h₁, h₂]
    | none =>
      simp only [AnsweredAlike, h₁, h₂, reduceCtorEq, false_and, iff_false]
      exact fun h => hknown h₂ h.symm
  | none =>
    cases h₂ : a₂.unknownAttrs with
    | some u₂ =>
      simp only [AnsweredAlike, h₁, h₂, reduceCtorEq, false_and, iff_false]
      exact hknown h₁
    | none =>
      cases hn : a₁.username with
      | none => simp [answerKnown, AnsweredAlike, ← hname, hn, h₁, h₂]
      | some u =>
        cases hr : a₁.realm with
        | none => simp [answerKnown, AnsweredAlike, ← hrealm, hn, hr, h₁, h₂]
        | some r =>
          simp only []
          rw [answerKnown_of_verify hn hr hi hv, answerKnown_of_verify (hname ▸ hn) (hrealm ▸ hr)
            (hmac ▸ hi) (hkey ▸ hv), answerVerified_eq_iff hkey]
          simp [AnsweredAlike, hn, hr, h₁, h₂]

end Answers

section Behind

variable {method : Method} {front items₁ items₂ after₁ after₂ : List Item} {mi : Item}

def secondsIn (items : List Item) : UInt32 :=
  ((heard Typ.lifetime stopsLater items).bind Stun.lifetime.read).getD 1000

def UdpIn (items : List Item) : Prop :=
  (heard Typ.requestedTransport stopsLater items).bind Stun.requestedTransport.read = some 17

def Named (front : List Item) : Prop :=
  (heard Typ.username mustPrecede front).bind Stun.username.read ≠ none ∧
    (heard Typ.realm mustPrecede front).bind Stun.realm.read ≠ none

def AsksUdp (front after : List Item) : Prop :=
  UdpIn front ∨ ¬ Settled Typ.requestedTransport front ∧ UdpIn after

structure Granting (front after : List Item) : Prop where
  before : listed front = []
  behind : listed after = []
  named : Named front

structure Unaffected (method : Method) (front after₁ after₂ : List Item) : Prop where
  unknown : added front after₁ = added front after₂
  transport : Granting front after₁ → method = .allocate →
    Settled Typ.requestedTransport front ∨ (UdpIn after₁ ↔ UdpIn after₂)
  lifetime : Granting front after₁ → method = .refresh ∨ method = .allocate ∧ AsksUdp front after₁ →
    Settled Typ.lifetime front ∨ secondsIn after₁ = secondsIn after₂

omit [Crypto] in
lemma SplitAtMac.unknown_iff (h₁ : SplitAtMac items₁ front mi after₁)
    (h₂ : SplitAtMac items₂ front mi after₂) :
    (turnAttrs items₁).unknownAttrs = (turnAttrs items₂).unknownAttrs ↔
      added front after₁ = added front after₂ := by
  simp only [turnAttrs]
  rw [collectUnknown_eq_iff, h₁.entered, h₂.entered, List.append_cancel_left_eq]

omit [Crypto] in
lemma SplitAtMac.granting_iff (h : SplitAtMac items₁ front mi after₁) : Granting front after₁ ↔
    (turnAttrs items₁).unknownAttrs = none ∧ (turnAttrs items₁).username ≠ none ∧
    (turnAttrs items₁).realm ≠ none := by
  simp only [turnAttrs]
  rw [collectUnknown_eq_none_iff_entered, h.entered, h.signed Typ.username (by decide),
    h.signed Typ.realm (by decide), List.append_eq_nil_iff]
  constructor
  · intro hgranting
    exact ⟨by simp [added, hgranting.before, hgranting.behind], hgranting.named⟩
  · rintro ⟨⟨hfront, hadded⟩, hnamed⟩
    have hnone : listed front = [] := by simpa using hfront
    exact ⟨hnone, by simpa [added, hnone] using hadded, hnamed⟩

omit [Crypto] in
lemma SplitAtMac.udp_iff (h : SplitAtMac items₁ front mi after₁) :
    (turnAttrs items₁).requestedTransport = some 17 ↔ AsksUdp front after₁ := by
  simp only [turnAttrs]
  by_cases hs : Settled Typ.requestedTransport front
  · rw [h.settled hs, AsksUdp, or_iff_left fun hnot => hnot.1 hs]
    rfl
  · have hnot : ¬ UdpIn front := by simp [UdpIn, unsettled_eq_none hs]
    rw [h.unsettled (by decide) hs, AsksUdp, or_iff_right hnot, and_iff_right hs]
    rfl

omit [Crypto] in
lemma SplitAtMac.lifetime_iff (h₁ : SplitAtMac items₁ front mi after₁)
    (h₂ : SplitAtMac items₂ front mi after₂) :
    (turnAttrs items₁).lifetime.getD 1000 = (turnAttrs items₂).lifetime.getD 1000 ↔
      Settled Typ.lifetime front ∨ secondsIn after₁ = secondsIn after₂ := by
  simp only [turnAttrs]
  by_cases hs : Settled Typ.lifetime front
  · rw [h₁.settled hs, h₂.settled hs]
    exact iff_of_true rfl (.inl hs)
  · rw [h₁.unsettled (by decide) hs, h₂.unsettled (by decide) hs, or_iff_right hs]
    rfl

omit [Crypto] in
lemma asksUdp_iff : (AsksUdp front after₁ ↔ AsksUdp front after₂) ↔
    Settled Typ.requestedTransport front ∨ (UdpIn after₁ ↔ UdpIn after₂) := by
  by_cases hs : Settled Typ.requestedTransport front
  · simp [AsksUdp, hs]
  · have hnot : ¬ UdpIn front := by simp [UdpIn, unsettled_eq_none hs]
    simp [AsksUdp, hs, hnot]

omit [Crypto] in
lemma SplitAtMac.alike_iff (h₁ : SplitAtMac items₁ front mi after₁)
    (h₂ : SplitAtMac items₂ front mi after₂) :
    AnsweredAlike method (turnAttrs items₁) (turnAttrs items₂) ↔
      Unaffected method front after₁ after₂ := by
  rw [AnsweredAlike, h₁.unknown_iff h₂, h₁.udp_iff, h₂.udp_iff, h₁.lifetime_iff h₂, asksUdp_iff]
  constructor
  · rintro ⟨hunknown, hgranting⟩
    refine ⟨hunknown, fun hs hm => ?_, fun hs hm => ?_⟩ <;> obtain ⟨hnone, hname, hrealm⟩ :=
      h₁.granting_iff.mp hs
    · exact ((hgranting hnone hname hrealm).1 hm).1
    · rcases hm with hm | ⟨hm, hudp⟩
      · exact (hgranting hnone hname hrealm).2 hm
      · exact ((hgranting hnone hname hrealm).1 hm).2 hudp
  · rintro ⟨hunknown, htransport, hlifetime⟩
    refine ⟨hunknown, fun hnone hname hrealm => ?_⟩
    have hs := h₁.granting_iff.mpr ⟨hnone, hname, hrealm⟩
    exact ⟨fun hm => ⟨htransport hs hm, fun hudp => hlifetime hs (.inr ⟨hm, hudp⟩)⟩,
      fun hm => hlifetime hs (.inl hm)⟩

end Behind

section Bytes

variable {canonical : SocketAddr} {relayed : SocketAddrV6} {key : Bytes}

inductive Used (canonical : SocketAddr) (relayed : SocketAddrV6) (key : Bytes) : Attribute → Prop
  | mapped : Used canonical relayed key (.xorMappedAddress canonical)
  | relayed : Used canonical relayed key (.xorRelayedAddress (.v6 relayed))
  | lifetime (n : UInt32) : Used canonical relayed key (.lifetime n)
  | mac : Used canonical relayed key (.messageIntegrity key)
  | realm : Used canonical relayed key (.realm noneStr)
  | nonce : Used canonical relayed key (.nonce noneStr)
  | error {code : UInt16} : code ≤ 799 → Used canonical relayed key (.errorCode code emptyStr)
  | unknown {u : List.Vector UInt16 8} : ZerosTrail u.toList →
      Used canonical relayed key (.unknownAttributes 8 u)

lemma lifetime_read {n : UInt32} {item : Item} (h : (Attribute.lifetime n).Wrote item) :
    Stun.lifetime.read item = some n := by
  rw [AttrDec.read, h.value _ _ (numeric_writes _ u32Bytes_length n)]
  simp only [Stun.lifetime, numeric_decode _ u32Bytes_length u32Of_u32Bytes]

lemma unknown_read {u : List.Vector UInt16 8} (hu : ZerosTrail u.toList)
    {item : Item} (h : (Attribute.unknownAttributes 8 u).Wrote item) :
    (Stun.unknownAttributes 8).read item = some u := by
  obtain ⟨xs, k, hw, hx⟩ := hu
  have hl : xs.length ≤ 8 := by
    have := congrArg List.length hw
    simp only [List.Vector.toList_length, List.length_append, List.length_replicate] at this
    omega
  rw [AttrDec.read, h.value _ _ (unknownAttributes_writes hw hx (by omega)),
    unknownAttributes_decode hw]

lemma Used.unique {a a' : Attribute} (h : Used canonical relayed key a)
    (h' : Used canonical relayed key a') {item : Item} (hw : a.Wrote item)
    (hw' : a'.Wrote item) : a = a' := by
  have ht : a.typ = a'.typ := hw.typ.symm.trans hw'.typ
  -- Attributes of different types apart, three kinds have a value of their own.
  cases h <;> cases h' <;>
    first
    | rfl
    | (simp only [Attribute.typ_xorMappedAddress, Attribute.typ_xorRelayedAddress,
        Attribute.typ_lifetime, Attribute.typ_messageIntegrity, Attribute.typ_realm,
        Attribute.typ_nonce, Attribute.typ_errorCode, Attribute.typ_unknownAttributes] at ht
       exact absurd ht (by decide))
    | skip
  case lifetime.lifetime n n' =>
    rw [Option.some.inj ((lifetime_read hw).symm.trans (lifetime_read hw'))]
  case error.error hc _ hc' =>
    rw [(Prod.mk.inj (Option.some.inj ((error_read hc hw).symm.trans (error_read hc' hw')))).1]
  case unknown.unknown hu _ hu' =>
    rw [Option.some.inj ((unknown_read hu hw).symm.trans (unknown_read hu' hw'))]

lemma used_unique {as as' : List Attribute} {items : List Item}
    (h : ∀ a ∈ as, Used canonical relayed key a) (h' : ∀ a ∈ as', Used canonical relayed key a)
    (hw : List.Forall₂ Attribute.Wrote as items) (hw' : List.Forall₂ Attribute.Wrote as' items) :
    as = as' := by
  induction hw generalizing as' with
  | nil => cases hw'; rfl
  | cons ha _ ih =>
    cases hw' with
    | cons ha' hrest' =>
      rw [List.forall_mem_cons] at h h'
      rw [h.1.unique h'.1 ha ha', ih h.2 h'.2 hrest']

lemma Arm.used {method : Method} {a : TurnAttrs} {c : Stun.Class}
    {as : List Attribute} (hu : ∀ u, a.unknownAttrs = some u → ZerosTrail u.toList)
    (h : Arm canonical relayed method a c as) :
    ∀ x ∈ as, Used canonical relayed (turnKey a) x := by
  cases h with
  | binding => simpa using Used.mapped
  | unknownMethod => simpa using Used.error (by decide)
  | unknownAttrs h => simpa using ⟨.error (by decide), .unknown (hu _ h)⟩
  | unauthenticated => simpa using ⟨.error (by decide), .realm, .nonce⟩
  | forbidden => simpa using Used.error (by decide)
  | nonUdp => simpa using ⟨.error (by decide), .mac⟩
  | allocate => simpa using ⟨.mapped, .relayed, .lifetime _, .mac⟩
  | refresh => simpa using ⟨.lifetime _, .mac⟩
  | createPermission => simpa using Used.mac
  | channelBind => simpa using ⟨.error (by decide), .mac⟩

lemma Response.unique {b₁ b₂ m : Bytes} {c₁ c₂ : Stun.Class} {as₁ as₂ : List Attribute}
    {items₁ items₂ : List Item} (h₁ : Response b₁ c₁ as₁ m items₁)
    (h₂ : Response b₂ c₂ as₂ m items₂) (hu₁ : ∀ a ∈ as₁, Used canonical relayed key a)
    (hu₂ : ∀ a ∈ as₂, Used canonical relayed key a) :
    c₁ = c₂ ∧ as₁ = as₂ := by
  have hitems : items₁ = items₂ := (h₁.built.itemsOf []).symm.trans (h₂.built.itemsOf [])
  subst hitems
  refine ⟨?_, used_unique hu₁ hu₂ h₁.wrote h₂.wrote⟩
  rw [← h₁.class_append [], ← h₂.class_append []]

end Bytes

section Coverage

variable {canonical : SocketAddr} {relayed : SocketAddrV6} {b b₁ b₂ : Bytes} {n n₁ n₂ : ℕ}

lemma handleTurn_request (canonical : SocketAddr) (relayed : SocketAddrV6)
    (h : Decodable b n) (h100 : 100 ≤ b.length) (hclass : classAt b = .request)
    (hzero : txidAt b ≠ List.replicate 12 0) :
    ∃ o, handleTurn canonical relayed b = .ok o ∧
      ((answerTo canonical relayed b = .ignore ∧ o.observed.response = none) ∨
        ∃ c as m items, answerTo canonical relayed b = .respond c as ∧
          o.observed.response = some m ∧
          Response b c as m items) := by
  rw [handleTurn_eq _ _ (by omega), if_neg hzero]
  cases ha : answerTo canonical relayed b with
  | ignore => exact ⟨_, rfl, .inl ⟨rfl, rfl⟩⟩
  | relay peer data =>
    have hind := (answer_relay_iff.mp ha).1
    rw [hclass] at hind
    cases hind
  | respond c as =>
    obtain ⟨m, items, hm, hrun⟩ := handleTurn_respond h hzero ha
    obtain ⟨tail, htail⟩ := hrun b h100 rfl rfl ha
    rw [handleTurn_eq _ _ (by omega), if_neg hzero, ha] at htail
    exact ⟨_, htail, .inr ⟨c, as, m, items, rfl, by rw [hm.observed tail], hm⟩⟩

omit [Crypto] in
lemma parseTurn_inj {a : TurnAttrs} (hb : 4 ≤ b.length) (h : parseTurn b = .ok a) :
    turnAttrs (itemsOf b) = a :=
  Except.ok.inj ((parseTurn_eq hb).symm.trans h)

lemma responses_eq_iff (h₁ : Decodable b₁ n₁) (h₂ : Decodable b₂ n₂) (hl₁ : 100 ≤ b₁.length)
    (hl₂ : 100 ≤ b₂.length) (hclass : classAt b₁ = .request) (htyp : typAt b₁ = typAt b₂)
    (hfixed : slice b₁ 4 16 = slice b₂ 4 16) (hzero : txidAt b₁ ≠ List.replicate 12 0)
    (hkey : turnKey (turnAttrs (itemsOf b₁)) = turnKey (turnAttrs (itemsOf b₂))) :
    (∃ o₁ o₂, handleTurn canonical relayed b₁ = .ok o₁ ∧ handleTurn canonical relayed b₂ = .ok o₂ ∧
      o₁.observed.response = o₂.observed.response) ↔
        answerTo canonical relayed b₁ = answerTo canonical relayed b₂ := by
  have hclass₂ : classAt b₂ = .request := by rw [classAt, ← htyp]; exact hclass
  have hzero₂ : txidAt b₂ ≠ List.replicate 12 0 := by rw [txidAt_eq hfixed.symm]; exact hzero
  obtain ⟨o₁, ho₁, hcase₁⟩ := handleTurn_request canonical relayed h₁ hl₁ hclass hzero
  obtain ⟨o₂, ho₂, hcase₂⟩ := handleTurn_request canonical relayed h₂ hl₂ hclass₂ hzero₂
  constructor
  · rintro ⟨p₁, p₂, hp₁, hp₂, hsame⟩
    obtain rfl : o₁ = p₁ := Except.ok.inj (ho₁.symm.trans hp₁)
    obtain rfl : o₂ = p₂ := Except.ok.inj (ho₂.symm.trans hp₂)
    rcases hcase₁ with ⟨ha₁, hr₁⟩ | ⟨c₁, as₁, m₁, items₁, ha₁, hr₁, hm₁⟩ <;> rcases hcase₂ with
      ⟨ha₂, hr₂⟩ | ⟨c₂, as₂, m₂, items₂, ha₂, hr₂, hm₂⟩ <;> rw [hr₁, hr₂] at hsame
    · rw [ha₁, ha₂]
    · cases hsame
    · cases hsame
    · obtain rfl := Option.some.inj hsame
      have hu₁ := (answer_respond ha₁).2.used fun u hu => collectUnknown_zerosTrail hu
      have hu₂ := (answer_respond ha₂).2.used fun u hu => collectUnknown_zerosTrail hu
      rw [← hkey] at hu₂
      obtain ⟨rfl, rfl⟩ := hm₁.unique hm₂ hu₁ hu₂
      rw [ha₁, ha₂]
  · intro hsame
    refine ⟨o₁, o₂, ho₁, ho₂, ?_⟩
    rcases hcase₁ with ⟨ha₁, hr₁⟩ | ⟨c₁, as₁, m₁, items₁, ha₁, hr₁, hm₁⟩
    · rcases hcase₂ with ⟨-, hr₂⟩ | ⟨c₂, as₂, m₂, items₂, ha₂, hr₂, hm₂⟩
      · rw [hr₁, hr₂]
      · rw [← hsame, ha₁] at ha₂
        cases ha₂
    · obtain ⟨m, items, hm, hrun⟩ := handleTurn_respond h₁ hzero ha₁
      obtain ⟨tail₁, ht₁⟩ := hrun b₁ hl₁ rfl rfl ha₁
      obtain ⟨tail₂, ht₂⟩ := hrun b₂ hl₂ htyp.symm hfixed.symm (hsame ▸ ha₁)
      rw [Except.ok.inj (ho₁.symm.trans ht₁), Except.ok.inj (ho₂.symm.trans ht₂),
        hm.observed, hm.observed]

theorem trailing_attributes_ignored_iff (h₁ : Decodable b₁ n₁) (h₂ : Decodable b₂ n₂)
    (hl₁ : 100 ≤ b₁.length) (hl₂ : 100 ≤ b₂.length) (hclass : msgClass b₁ = .ok .request)
    {offset : ℕ} {mi₁ mi₂ : Item} (hsame : SameThroughMac b₁ b₂ offset mi₁ mi₂) {a₁ : TurnAttrs}
    (ha₁ : parseTurn b₁ = .ok a₁) {i : Integrity 20} (hi : a₁.integrity = some i)
    (hv : i.verify (turnKey a₁) = true) :
    (∃ o₁ o₂, handleTurn canonical relayed b₁ = .ok o₁ ∧ handleTurn canonical relayed b₂ = .ok o₂ ∧
      o₁.observed.response = o₂.observed.response) ↔
      Immune b₁ ∨ Unaffected (methodAt b₁) (beforeMac (itemsOf b₁)) (behindMac (itemsOf b₁))
        (behindMac (itemsOf b₂)) := by
  obtain rfl := parseTurn_inj (by omega) ha₁
  have hfixed := hsame.fixed (by omega) (by omega)
  obtain ⟨front, hsplit₁, hsplit₂, hfront⟩ := hsame.split (by omega) (by omega)
  obtain ⟨hname, hrealm, hmac⟩ := hsplit₁.reads hsplit₂
  have hclass₁ := msgClass_eq (by omega) hclass
  have hclass₂ : classAt b₂ = .request := by rw [classAt, ← hsame.typ]; exact hclass₁
  have hmethod : methodAt b₁ = methodAt b₂ := by rw [methodAt, methodAt, hsame.typ]
  have hkey : turnKey (turnAttrs (itemsOf b₁)) = turnKey (turnAttrs (itemsOf b₂)) := by
    rw [turnKey, turnKey, hname, hrealm, hmac]
  by_cases hzero : txidAt b₁ = List.replicate 12 0
  · refine iff_of_true ⟨⟨b₁, [], false⟩, ⟨b₂, [], false⟩, ?_, ?_, rfl⟩ (.inl (.inl hzero))
    · rw [handleTurn_eq _ _ (by omega), if_pos hzero]
    · rw [handleTurn_eq _ _ (by omega), txidAt_eq hfixed.symm, if_pos hzero]
  rw [responses_eq_iff h₁ h₂ hl₁ hl₂ hclass₁ hsame.typ hfixed hzero hkey, answerTo, answerTo,
    hclass₁, hclass₂, ← hmethod]
  by_cases hb : methodAt b₁ = .binding
  · exact iff_of_true (by simp [answer, hb]) (.inl (.inr (.inl hb)))
  by_cases hu : methodUnknown (methodAt b₁) = true
  · exact iff_of_true (by simp [answer, hb, hu]) (.inl (.inr (.inr hu)))
  rw [answer_eq_iff hname hrealm hmac hi hv hb hu, hsplit₁.alike_iff hsplit₂, hfront]
  exact ⟨.inr, fun h => h.resolve_left (by rintro (h | h | h); exacts [hzero h, hb h, hu h])⟩

end Coverage

end

def refreshRequest : Bytes :=
  [0x00, 0x04, 0x00, 0x28, 0x21, 0x12, 0xA4, 0x42, 0x01, 0x02, 0x03, 0x04, 0x05, 0x06, 0x07, 0x08,
    0x09, 0x0A, 0x0B, 0x0C, 0x00, 0x06, 0x00, 0x04, 0x75, 0x73, 0x65, 0x72, 0x00, 0x14, 0x00, 0x04,
    0x6E, 0x6F, 0x6E, 0x65, 0x00, 0x08, 0x00, 0x14, 0xCF, 0x43, 0x92, 0x03, 0x0A, 0xD0, 0x3D, 0x8E,
    0xC7, 0xD4, 0x2A, 0x1C, 0x1D, 0x5C, 0xC6, 0xFB, 0xB9, 0xF6, 0x84, 0x16]

def refreshTrailing (n : UInt32) : Bytes :=
  withLength refreshRequest 48 ++ tlv Typ.lifetime (u32Bytes n)

def plainBuffer : Bytes := refreshRequest ++ List.replicate 40 0

def trailingBuffer (n : UInt32) : Bytes := refreshTrailing n ++ List.replicate 32 0

def refreshResponse : Bytes :=
  [0x01, 0x04, 0x00, 0x20, 0x21, 0x12, 0xA4, 0x42, 0x01, 0x02, 0x03, 0x04, 0x05, 0x06, 0x07, 0x08,
    0x09, 0x0A, 0x0B, 0x0C, 0x00, 0x0D, 0x00, 0x04, 0x00, 0x00, 0x03, 0xE8, 0x00, 0x08, 0x00, 0x14,
    0x1C, 0x55, 0x34, 0xB5, 0xB3, 0xDF, 0x26, 0x09, 0x3D, 0x6F, 0x8E, 0xE9, 0xC1, 0xDB, 0xF5, 0xB7,
    0x5E, 0x07, 0xFE, 0x4A]

def refreshTrailingResponse : Bytes :=
  [0x01, 0x04, 0x00, 0x20, 0x21, 0x12, 0xA4, 0x42, 0x01, 0x02, 0x03, 0x04, 0x05, 0x06, 0x07, 0x08,
    0x09, 0x0A, 0x0B, 0x0C, 0x00, 0x0D, 0x00, 0x04, 0x00, 0x00, 0x00, 0x05, 0x00, 0x08, 0x00, 0x14,
    0xB6, 0x6B, 0x4F, 0xCE, 0x1C, 0x1C, 0xC7, 0xB4, 0x09, 0x1D, 0xC1, 0xF9, 0xFF, 0x11, 0xBC, 0xCD,
    0x3E, 0xC4, 0x26, 0x99]

@[reducible] def refreshDigests : Crypto :=
  .recorded [((userKey.toList, refreshRequest.take 36), ⟨slice refreshRequest 40 20, rfl⟩),
    ((userKey.toList, refreshResponse.take 28), ⟨slice refreshResponse 32 20, rfl⟩),
    ((userKey.toList, refreshTrailingResponse.take 28), ⟨slice refreshTrailingResponse 32 20, rfl⟩)]
    [(userCredentials, userKey)] []

def refreshMac (b : Bytes) : Item := itemAt (b.take 2) (b.drop 4) 16

lemma refreshMac_first {b : Bytes}
    (h : itemsOf b = (itemsOf b).take 2 ++ refreshMac b :: (itemsOf b).drop 3)
    (ht : (refreshMac b).typ = Typ.messageIntegrity)
    (hb : ∀ x ∈ (itemsOf b).take 2, x.typ ≠ Typ.messageIntegrity ∧ x.typ ∉ [Typ.fingerprint]) :
    First (itemsOf b) Typ.messageIntegrity [Typ.fingerprint] (refreshMac b) :=
  ⟨ht, _, _, h, hb⟩

lemma refresh_same {n : UInt32} (hn : n = 5 ∨ n = 1000) :
    SameThroughMac plainBuffer (trailingBuffer n) 16
      (refreshMac plainBuffer) (refreshMac (trailingBuffer n)) := by
  have hfirst := refreshMac_first (b := plainBuffer) (by decide +kernel) (by decide +kernel)
    (by decide +kernel)
  have hat : (refreshMac plainBuffer).At plainBuffer 16 :=
    ⟨by decide +kernel, by decide +kernel, by decide +kernel, by decide +kernel, by decide +kernel,
      by decide +kernel⟩
  rcases hn with rfl | rfl
  · exact ⟨by decide +kernel, by decide +kernel, by decide +kernel, by decide +kernel,
      hfirst, refreshMac_first (by decide +kernel) (by decide +kernel) (by decide +kernel),
      hat, ⟨by decide +kernel, by decide +kernel, by decide +kernel, by decide +kernel,
      by decide +kernel, by decide +kernel⟩, by decide +kernel, by decide +kernel⟩
  · exact ⟨by decide +kernel, by decide +kernel, by decide +kernel, by decide +kernel,
      hfirst, refreshMac_first (by decide +kernel) (by decide +kernel) (by decide +kernel),
      hat, ⟨by decide +kernel, by decide +kernel, by decide +kernel, by decide +kernel,
      by decide +kernel, by decide +kernel⟩, by decide +kernel, by decide +kernel⟩

def refreshIntegrity : Integrity 20 :=
  ⟨(refreshMac plainBuffer).pre, ⟨slice refreshRequest 40 20, rfl⟩⟩

lemma refresh_verifies :
    letI := refreshDigests
    (turnAttrs (itemsOf plainBuffer)).integrity = some refreshIntegrity ∧
      refreshIntegrity.verify (turnKey (turnAttrs (itemsOf plainBuffer))) = true := by
  decide +kernel

theorem trailing_lifetime_changes_response :
    letI := refreshDigests
    Decodable plainBuffer 60 ∧ Decodable (trailingBuffer 5) 68 ∧ 100 ≤ plainBuffer.length ∧
      100 ≤ (trailingBuffer 5).length ∧ msgClass plainBuffer = .ok .request ∧ SameThroughMac
      plainBuffer (trailingBuffer 5) 16 (refreshMac plainBuffer) (refreshMac (trailingBuffer 5)) ∧
      (∃ a i, parseTurn plainBuffer = .ok a ∧ a.integrity = some i ∧ i.verify (turnKey a) = true) ∧
      ¬ ∃ o₁ o₂, handleTurn (.v4 ⟨0x7F000001, 4000⟩) ⟨1, 32768, 0, 0⟩ plainBuffer = .ok o₁ ∧
        handleTurn (.v4 ⟨0x7F000001, 4000⟩) ⟨1, 32768, 0, 0⟩ (trailingBuffer 5) = .ok o₂ ∧
        o₁.observed.response = o₂.observed.response := by
  let _ := refreshDigests
  refine ⟨⟨by decide, by decide +kernel⟩, ⟨by decide, by decide +kernel⟩,
    by decide, by decide, by decide +kernel, refresh_same (.inl rfl),
    ⟨_, _, parseTurn_eq (by decide), refresh_verifies⟩, ?_⟩
  rintro ⟨o₁, o₂, ho₁, ho₂, hsame⟩
  have h₁ : handleTurn (.v4 ⟨0x7F000001, 4000⟩) ⟨1, 32768, 0, 0⟩ plainBuffer =
      .ok ⟨refreshResponse ++ plainBuffer.drop 52, [], true⟩ := by
    decide +kernel
  have h₂ : handleTurn (.v4 ⟨0x7F000001, 4000⟩) ⟨1, 32768, 0, 0⟩ (trailingBuffer 5) =
      .ok ⟨refreshTrailingResponse ++ (trailingBuffer 5).drop 52, [], true⟩ := by
    decide +kernel
  rw [← Except.ok.inj (h₁.symm.trans ho₁), ← Except.ok.inj (h₂.symm.trans ho₂)] at hsame
  exact absurd hsame (by decide +kernel)

theorem trailing_attributes_ignored_iff_default :
    letI := refreshDigests
    ∃ o₁ o₂, handleTurn (.v4 ⟨0x7F000001, 4000⟩) ⟨1, 32768, 0, 0⟩ plainBuffer = .ok o₁ ∧
      handleTurn (.v4 ⟨0x7F000001, 4000⟩) ⟨1, 32768, 0, 0⟩ (trailingBuffer 1000) = .ok o₂ ∧
      o₁.observed.response = o₂.observed.response := by
  let _ := refreshDigests
  have hdec₁ : Decodable plainBuffer 60 := ⟨by decide, by decide +kernel⟩
  have hdec₂ : Decodable (trailingBuffer 1000) 68 := ⟨by decide, by decide +kernel⟩
  refine (trailing_attributes_ignored_iff hdec₁ hdec₂ (by decide) (by decide) (by decide +kernel)
    (refresh_same (.inr rfl)) (parseTurn_eq (by decide)) refresh_verifies.1 refresh_verifies.2).mpr
    (.inr ⟨?_, ?_, ?_⟩)
  · decide +kernel
  · exact fun _ hallocate => absurd hallocate (by decide +kernel)
  · exact fun _ _ => .inr (by decide +kernel)

end Masquerade.Common
