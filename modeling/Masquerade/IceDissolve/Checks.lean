import Masquerade.Common.Credentials
import Masquerade.IceDissolve.Replies

/-! Which connectivity checks are answered, and how. -/

namespace Masquerade.IceDissolve

open Lib Stun Wire Common

section Reading

def isIce (typ : UInt16) : Bool :=
  typ ∈ [Typ.username, Typ.messageIntegrity, Typ.iceControlled, Typ.iceControlling, Typ.priority,
    Typ.useCandidate, Typ.fingerprint]

def unknownToIce (items : List Item) : List Item := items.filter fun item => !isIce item.typ

variable [Crypto]

def iceAttrs (items : List Item) : IceAttrs where
  username := (heard Typ.username mustPrecede items).bind Stun.username.read
  integrity := (heard Typ.messageIntegrity (fun t => t == Typ.fingerprint) items).bind
    Stun.messageIntegrity.read
  iceControlled := (heard Typ.iceControlled stopsLater items).bind Stun.iceControlled.read
  iceControlling := (heard Typ.iceControlling stopsLater items).bind Stun.iceControlling.read
  priority := (heard Typ.priority stopsLater items).bind Stun.priority.read
  useCandidate := (heard Typ.useCandidate stopsLater items).bind Stun.useCandidate.read
  fingerprint := (heard Typ.fingerprint (fun _ => false) items).bind Stun.fingerprint.read
  unknowns := collectUnknown 1 (unknownToIce items)

omit [Crypto] in
lemma unknownToIce_eq (items : List Item) : unknownToIce items = without Typ.fingerprint
    (without Typ.useCandidate (without Typ.priority (without Typ.iceControlling
      (without Typ.iceControlled
        (without Typ.messageIntegrity (without Typ.username items)))))) := by
  simp only [unknownToIce, without, List.filter_filter]
  congr 1
  funext item
  rw [Bool.eq_iff_iff]
  simp only [isIce, List.mem_cons, List.not_mem_nil, or_false, Bool.not_eq_true',
    decide_eq_false_iff_not, Bool.and_eq_true, bne_iff_ne]
  tauto

omit [Crypto] in
lemma behind_username {items : List Item} (h : AfterHeader items) :
    Behind [Typ.username, Typ.messageIntegrity] items
      (without Typ.messageIntegrity (without Typ.username items)) where
  afterHeader := (h.without _).without _
  heard typ ht := by
    simp only [List.mem_cons, List.not_mem_nil, or_false, not_or] at ht
    rw [heard_behind_mac (Ne.symm ht.2), heard_skip (Ne.symm ht.1) (by decide)]

lemma heard_fingerprint (items : List Item) :
    heard Stun.fingerprint.typ Stun.fingerprint.mustPrecede
      (without Stun.useCandidate.typ (without Stun.priority.typ (without Stun.iceControlling.typ
      (without Stun.iceControlled.typ
        (without Typ.messageIntegrity (without Typ.username items)))))) =
    heard Typ.fingerprint (fun _ => false) items := by
  have hskip : ∀ t xs, t ≠ Typ.fingerprint → heard Typ.fingerprint (fun _ => false) (without t xs) =
      heard Typ.fingerprint (fun _ => false) xs :=
    fun t xs ht => heard_skip ht rfl xs
  apply (hskip _ _ (by decide)).trans
  apply (hskip _ _ (by decide)).trans
  apply (hskip _ _ (by decide)).trans
  apply (hskip _ _ (by decide)).trans
  apply (hskip _ _ (by decide)).trans
  exact hskip _ _ (by decide)

lemma parseIce_eq {b : Bytes} (hb : 4 ≤ b.length) : parseIce b = .ok (iceAttrs (itemsOf b)) := by
  have h₀ := itemsOf_afterHeader hb
  simp only [parseIce, attrs_eq, ok_bind, iceAttrs, unknownToIce_eq]
  generalize itemsOf b = items at h₀
  have e₀ : parse Stun.username items = .ok (_, without Typ.username items) :=
    parse_eq (str_safe _) h₀
  have e₁ : parse Stun.messageIntegrity (without Typ.username items) = .ok ((heard
      Typ.messageIntegrity (fun t => t == Typ.fingerprint) items).bind Stun.messageIntegrity.read,
        without Typ.messageIntegrity (without Typ.username items)) := by
    rw [← heard_skip (t := Typ.username) (by decide) (by decide) items]
    exact parse_eq (integrity_safe _ _) (h₀.without _)
  obtain ⟨e₂, h₂⟩ := (behind_username h₀).parse Stun.iceControlled (numeric_safe _ _ _) rfl
    (by decide) (by decide)
  obtain ⟨e₃, h₃⟩ := h₂.parse Stun.iceControlling (numeric_safe _ _ _) rfl (by decide) (by decide)
  obtain ⟨e₄, h₄⟩ := h₃.parse Stun.priority (numeric_safe _ _ _) rfl (by decide) (by decide)
  obtain ⟨e₅, h₅⟩ := h₄.parse Stun.useCandidate (empty_safe _) rfl (by decide) (by decide)
  have e₆ := parse_eq fingerprint_safe h₅.afterHeader
  rw [heard_fingerprint] at e₆
  simp only [e₀, e₁, e₂, e₃, e₄, e₅, e₆, ok_bind]
  rfl

end Reading

section Reaching

lemma binding_typ {t : BitVec 16} (htop : t >>> 14 = 0)
    (hm : Method.ofCode (rawMethodOf t) = .binding) : t >>> 9 = 0 := by
  have hraw : rawMethodOf t = 0x001 := by
    simp only [Method.ofCode] at hm
    split_ifs at hm
    assumption
  apply BitVec.eq_of_getLsbD_eq
  intro i hi
  have hhigh := congrArg (BitVec.getLsbD · (i - 5)) htop
  have hlow := congrArg (BitVec.getLsbD · (i + 7)) hraw
  simp only [rawMethodOf] at hlow
  interval_cases i <;> simp at hhigh hlow ⊢ <;> assumption

lemma binding_head {b : Bytes} (hb : 2 ≤ b.length) (htop : typAt b >>> 14 = 0)
    (hm : method b = .ok .binding) :
    b.head?.any (· < 3) = true := by
  have hsmall :=
    congrArg BitVec.toNat (binding_typ htop (Except.ok.inj ((method_ok hb).symm.trans hm)))
  match b, hb with
  | x :: y :: rest, _ =>
    have hx := x.toNat_lt
    have hy := y.toNat_lt
    simp [typAt, slice, ofBE, Nat.shiftRight_eq_div_pow] at hsmall
    simp only [List.head?_cons, Option.any_some, decide_eq_true_eq, UInt8.lt_iff_toNat_lt]
    have h3 : (3 : UInt8).toNat = 3 := rfl
    omega

variable [Crypto] {packet : Bytes} {length : ℕ}

lemma intercept_check (hb : packet.length = 65536) (h : IsCheck packet length) : ∃ a,
    parseIce (payloadOf packet) = .ok a ∧ intercept length packet =
      match answerIce (.v6 ⟨(ipOf packet).src, (udpOf packet).srcPort, 0, 0⟩) a with
      | none => .ok (packet, length)
      | some (c, as) => turnAround (ipOf packet) (udpOf packet) c as (payloadOf packet) := by
  have hip : Ip6Header.fromPrefix packet = some (ipOf packet, packet.drop 40) := if_pos (by omega)
  have hudp : UdpHeader.fromPrefix (packet.drop 40) = some (udpOf packet, payloadOf packet) := by
    rw [UdpHeader.fromPrefix, if_pos (by rw [List.length_drop]; omega), List.drop_drop]
    rfl
  have hheader := Decodable.header ⟨le_of_decode h.message, h.message⟩
  have h20 := hheader.length
  have height : 8 ≤ (udpOf packet).length.toNat := by
    rw [h.udpLength.1]
    exact UInt16.le_iff_toNat_le.mp h.udpLength.2
  have hdata : (udpOf packet).length.toNat - 8 = length - 48 := by
    rw [h.udpLength.1, ← h.ipLength, Ip6Header.len]
    omega
  obtain ⟨a, ha, -⟩ := parseIce_ok (show 4 ≤ (payloadOf packet).length by omega)
  refine ⟨a, ha, ?_⟩
  simp only [intercept, hip, hudp]
  rw [if_neg (not_not.mpr h.version), if_neg (not_not.mpr h.ipLength), if_neg (not_not.mpr h.udp),
    if_neg (UInt16.not_lt.mpr h.udpLength.2), if_neg (not_not.mpr h.udpLength.1), subChecked_ok
    height, ok_bind, hdata, if_neg (not_not.mpr (binding_head (by omega) hheader.top h.binding)),
    h.message, ok_bind, h.request, ok_bind, h.binding, ok_bind, if_neg (by simp), ha, ok_bind]
  rfl

end Reaching

structure Holds (packet : Bytes) (length : ℕ) (payload : Bytes) : Prop where
  version : Ip6Flags.version (ipOf packet).flags = 6
  ipLength : (ipOf packet).len = length
  udp : (ipOf packet).nextHeader = IpProto.udp
  udpLength : (udpOf packet).length = (ipOf packet).payloadLength
  payload : (payloadOf packet).take (length - 48) = payload

structure Complete (front : List Attribute) : Prop where
  addressed : ∃ u fragment, front.findSome? Attribute.username? = some u ∧
    splitOnce 0x3A u.asBytes = some (dissolve, fragment)
  role : (front.findSome? Attribute.iceControlled?).isSome ≠
    (front.findSome? Attribute.iceControlling?).isSome
  priority : (front.findSome? Attribute.priority?).isSome

section Deciding

variable [Crypto]

structure CheckDecided (packet : Bytes) (length : ℕ) (front : List Attribute) (key : Option Bytes)
    (back : List Attribute) (sent : Bytes) : Prop where
  passed : ¬ Complete front ∨ key = none ∨ back = [] → sent = packet.take length
  answered : Complete front → back ≠ [] → key = some iceKey →
    front.findSome? Attribute.iceControlled? = none → Answers packet sent ∧
    Grants iceKey .success (payloadOf sent) ∧ parsed Stun.xorMappedAddress (payloadOf sent) =
      .ok (some (.v6 ⟨(ipOf packet).src, (udpOf packet).srcPort, 0, 0⟩))
  switchRole : Complete front → back ≠ [] → key = some iceKey →
    front.findSome? Attribute.iceControlled? ≠ none → Answers packet sent ∧
    Grants iceKey .error (payloadOf sent) ∧
      parsed Stun.errorCode (payloadOf sent) = .ok (some (487, emptyStr))
  wrongKey : ∀ k, Complete front → back ≠ [] → key = some k →
    Distinguishes ((payloadOf packet).take (length - 48)) k iceKey →
    Answers packet sent ∧ msgClass (payloadOf sent) = .ok .error ∧
      parsed Stun.errorCode (payloadOf sent) = .ok (some (441, emptyStr)) ∧
      parsed Stun.messageIntegrity (payloadOf sent) = .ok none

section Composing

variable {packet : Bytes} {length : ℕ} {a : IceAttrs} {c : Stun.Class}
  {as front back : List Attribute} {key : Option Bytes} {items : List Item}

omit [Crypto] in
lemma xorOption_isSome {A : Type} (x y : Option A) : (xorOption x y).isSome ↔
    x.isSome ≠ y.isSome := by
  cases x <;> cases y <;> simp [xorOption]

lemma forward_passed (hb : packet.length = 65536) (hl : length ≤ 65536) (h : IsCheck packet length)
    (ha : parseIce (payloadOf packet) = .ok a)
    (hanswer : answerIce (.v6 ⟨(ipOf packet).src, (udpOf packet).srcPort, 0, 0⟩) a = none) :
    forward length packet = .ok (packet.take length) := by
  obtain ⟨a', ha', hrun⟩ := intercept_check hb h
  obtain rfl : a' = a := Except.ok.inj (ha'.symm.trans ha)
  rw [hanswer] at hrun
  exact forward_of hrun (by omega)

lemma forward_answered (hb : packet.length = 65536) (h : IsCheck packet length)
    (ha : parseIce (payloadOf packet) = .ok a)
    (hanswer : answerIce (.v6 ⟨(ipOf packet).src, (udpOf packet).srcPort, 0, 0⟩) a = some (c, as)) :
    ∃ sent items, forward length packet = .ok sent ∧ Answers packet sent ∧
      Response (payloadOf packet) c as (payloadOf sent) items := by
  obtain ⟨a', ha', hrun⟩ := intercept_check hb h
  obtain rfl : a' = a := Except.ok.inj (ha'.symm.trans ha)
  rw [hanswer] at hrun
  have harm := answerIce_arm hanswer
  have hpayload : (payloadOf packet).length = 65488 := by rw [payloadOf, List.length_drop, hb]
  have hheader := Decodable.header ⟨le_of_decode h.message, h.message⟩
  obtain ⟨m, items, tail, checksum, hm, hsmall, hverifies, hturn⟩ :=
    turnAround_eq harm.fits hheader (show 76 ≤ (payloadOf packet).length by omega)
  have hanswers := answers_of_turned ha hheader.length harm hm hsmall h.binding hverifies
  refine ⟨_, items, ?_, hanswers, ?_⟩
  · rw [forward_of (hrun.trans hturn) (by simp; omega), ← List.append_assoc,
      List.take_left' (by simp; omega)]
  · rw [(packet_reads _ _ m).2.2]
    exact hm

structure Reads (front : List Attribute) (back : List Attribute) (a : IceAttrs) : Prop where
  username : a.username = front.findSome? Attribute.username?
  iceControlled : a.iceControlled = front.findSome? Attribute.iceControlled?
  iceControlling : a.iceControlling = front.findSome? Attribute.iceControlling?
  priority : a.priority = front.findSome? Attribute.priority?
  fingerprint : a.fingerprint = if back = [] then none else some ()
  unknowns : a.unknowns = none

lemma reads_requests (h : Requests isIce front key back items) :
    Reads front back (iceAttrs items) where
  username := h.reads picks_username (fun _ ha => ha.goes_on) (by decide)
  iceControlled := h.reads picks_iceControlled (fun _ ha => ha.goes_later) (by decide)
  iceControlling := h.reads picks_iceControlling (fun _ ha => ha.goes_later) (by decide)
  priority := h.reads picks_priority (fun _ ha => ha.goes_later) (by decide)
  unknowns := h.understood rfl (by norm_num)
  fingerprint := by
    have hunfinished : ∀ x ∈ front ++ signature key, x.typ ≠ Stun.fingerprint.typ := by
      intro x hx
      rcases List.mem_append.mp hx with hx | hx
      · exact (h.plainly x hx).unsigned.2
      · rw [typ_of_signature hx]
        exact typ_ne rfl
    have hwrote := h.wrote
    rw [← List.append_assoc] at hwrote
    rcases h.rest with rfl | rfl
    · rw [List.append_nil] at hwrote
      exact congrArg (Option.bind · _) (heard_none_of_wrote hwrote hunfinished)
    · obtain ⟨item, hheard, hitem⟩ : ∃ item,
          heard Typ.fingerprint (fun _ => false) items = some item ∧
          Attribute.fingerprint.Wrote item :=
          heard_wrote hwrote fun x hx => ⟨hunfinished x hx, rfl⟩
      exact (congrArg (Option.bind · _) hheard).trans (fingerprint_read hitem)

variable (sender : SocketAddr)

lemma complete_of_answer (hreads : Reads front back a) (h : answerIce sender a ≠ none) :
    Complete front ∧ a.integrity ≠ none ∧ back ≠ [] := by
  unfold answerIce at h
  split at h
  next username integrity role priority _ hu hi hrole hpriority hfingerprint =>
    rw [hreads.username] at hu
    rw [hreads.iceControlled, hreads.iceControlling] at hrole
    rw [hreads.priority] at hpriority
    rw [hreads.fingerprint] at hfingerprint
    have hsides := (xorOption_isSome _ _).mp (Option.isSome_of_mem hrole)
    split at h
    next => exact absurd rfl h
    next fragment rest hsplit =>
      by_cases haddressed : fragment = dissolve
      · rw [haddressed] at hsplit
        refine ⟨⟨⟨username, rest, hu, hsplit⟩, hsides, Option.isSome_of_mem hpriority⟩,
          by simp [hi], fun hback => ?_⟩
        rw [if_pos hback] at hfingerprint
        cases hfingerprint
      · rw [if_pos haddressed] at h
        exact absurd rfl h
  next => exact absurd rfl h

lemma answer_complete (hreads : Reads front back a) (h : Complete front) (hback : back ≠ [])
    {i : Integrity 20} (hi : a.integrity = some i) : answerIce sender a =
      if ¬ i.verify iceKey then some (.error, [.errorCode 441 emptyStr, .fingerprint])
      else if (front.findSome? Attribute.iceControlled?).isSome then
        some (.error, [.errorCode 487 emptyStr, .messageIntegrity iceKey, .fingerprint])
      else some (.success, [.xorMappedAddress sender, .messageIntegrity iceKey, .fingerprint]) := by
  obtain ⟨u, fragment, hu, hsplit⟩ := h.addressed
  obtain ⟨n, hn⟩ := Option.isSome_iff_exists.mp h.priority
  obtain ⟨r, hr⟩ := Option.isSome_iff_exists.mp ((xorOption_isSome _ _).mpr h.role)
  have hfingerprint : a.fingerprint = some () := hreads.fingerprint.trans (if_neg hback)
  simp only [answerIce, hreads.unknowns, hreads.username, hu, hi, hreads.iceControlled,
    hreads.iceControlling, hr, hreads.priority, hn, hfingerprint, hsplit, ne_eq,
    not_true_eq_false, if_false]

section Replying

variable {request m : Bytes}

lemma code_tells {code : UInt16} (hcode : code ≤ 799)
    (hm : Response request c (.errorCode code emptyStr :: as) m items) :
    parsed Stun.errorCode m = .ok (some (code, emptyStr)) := by
  rw [← List.append_nil m]
  exact hm.code hcode []

lemma success_tells {sender : SocketAddr} (hs : sender.Plain) (hm : Response request .success
    [.xorMappedAddress sender, .messageIntegrity iceKey, .fingerprint] m items) :
    Grants iceKey .success m ∧ parsed Stun.xorMappedAddress m = .ok (some sender) := by
  have hfront : ∀ x ∈ [Attribute.xorMappedAddress sender], Signable x := by
    simpa using signable_mapped hs
  have hsays : Response request .success
    ([.xorMappedAddress sender] ++ .messageIntegrity iceKey :: [.fingerprint]) m items := hm
  refine ⟨⟨hm.msgClass, hsays.signedBy hfront⟩,
    hsays.says picks_xorMappedAddress (sockaddr_safe _ _) rfl hfront ?_⟩
  simpa using ⟨typ_ne rfl, typ_ne rfl⟩

lemma switch_tells (hm : Response request .error [.errorCode 487 emptyStr, .messageIntegrity iceKey,
    .fingerprint] m items) :
    Grants iceKey .error m ∧ parsed Stun.errorCode m = .ok (some (487, emptyStr)) := by
  have hfront : ∀ x ∈ [Attribute.errorCode 487 emptyStr], Signable x := by
    simpa using signable_errorCode (by decide)
  have hsays : Response request .error
    ([.errorCode 487 emptyStr] ++ .messageIntegrity iceKey :: [.fingerprint]) m items := hm
  exact ⟨⟨hm.msgClass, hsays.signedBy hfront⟩, code_tells (by decide) hm⟩

lemma wrongKey_tells
    (hm : Response request .error [.errorCode 441 emptyStr, .fingerprint] m items) :
    msgClass m = .ok .error ∧ parsed Stun.errorCode m = .ok (some (441, emptyStr)) ∧
      parsed Stun.messageIntegrity m = .ok none :=
  ⟨hm.msgClass, code_tells (by decide) hm, hm.unsigned (by simpa using ⟨typ_ne rfl, typ_ne rfl⟩)⟩

end Replying

lemma decided (hb : packet.length = 65536) (hl : length ≤ 65536) (hcheck : IsCheck packet length)
    (hitems : itemsOf (payloadOf packet) = items) {m : Bytes} (hbuilt : Built m items)
    (hm : (payloadOf packet).take (length - 48) = m) (h : Requests isIce front key back items) :
    ∃ sent, forward length packet = .ok sent ∧ CheckDecided packet length front key back sent := by
  have hreads := reads_requests h
  have hheader := Decodable.header ⟨le_of_decode hcheck.message, hcheck.message⟩
  have hparse := parseIce_eq (show 4 ≤ (payloadOf packet).length from
    (by norm_num : 4 ≤ 20).trans hheader.length)
  rw [hitems] at hparse
  have hunsigned : key = none → (iceAttrs items).integrity = none := fun hkey =>
    congrArg (Option.bind · _) (h.unsigned hkey)
  have hsigned : ∀ k, key = some k → ∃ i, (iceAttrs items).integrity = some i ∧
      parsed Stun.messageIntegrity ((payloadOf packet).take (length - 48)) = .ok (some i) ∧
        (i.verify iceKey = true ↔ Crypto.hmacSha1 iceKey i.pre.all =
          Crypto.hmacSha1 k i.pre.all) := by
    intro k hk
    obtain ⟨i, hi, hverify⟩ := h.signed hk
    have hml := hbuilt.length
    have hread : parsed Stun.messageIntegrity ((payloadOf packet).take (length - 48)) =
        .ok (some i) := by
      have hmitems := hbuilt.itemsOf []
      rw [List.append_nil] at hmitems
      rw [hm, ← hi, ← hmitems]
      exact parsed_eq (integrity_safe _ _) (by omega)
    exact ⟨i, hi, hread, hverify _⟩
  by_cases hcomplete : Complete front ∧ key ≠ none ∧ back ≠ []
  · obtain ⟨hfront, hkey, hback⟩ := hcomplete
    obtain ⟨k, hk⟩ := Option.ne_none_iff_exists'.mp hkey
    obtain ⟨i, hi, hread, hverify⟩ := hsigned k hk
    have hanswer :=
      answer_complete (.v6 ⟨(ipOf packet).src, (udpOf packet).srcPort, 0, 0⟩) hreads hfront hback hi
    have hpassed : ¬ (¬ Complete front ∨ key = none ∨ back = []) := by simp [hfront, hkey, hback]
    by_cases hright : i.verify iceKey = true
    · have hwrong : ∀ k', key = some k' →
          ¬ Distinguishes ((payloadOf packet).take (length - 48)) k' iceKey := by
        intro k' hk' hdiffers
        obtain rfl : k = k' := Option.some.inj (hk.symm.trans hk')
        exact hdiffers i hread (hverify.mp hright).symm
      rw [if_neg (not_not.mpr hright)] at hanswer
      by_cases hrole : front.findSome? Attribute.iceControlled? = none
      · rw [hrole, if_neg (by simp)] at hanswer
        obtain ⟨sent, written, hsent, hanswers, hm⟩ := forward_answered hb hcheck hparse hanswer
        refine ⟨sent, hsent, fun hn => absurd hn hpassed,
          fun _ _ _ _ => ⟨hanswers, success_tells ⟨rfl, rfl⟩ hm⟩, fun _ _ _ hn => absurd hrole hn,
          fun k' _ _ hk' hn => absurd hn (hwrong k' hk')⟩
      · rw [if_pos (Option.isSome_iff_ne_none.mpr hrole)] at hanswer
        obtain ⟨sent, written, hsent, hanswers, hm⟩ := forward_answered hb hcheck hparse hanswer
        refine ⟨sent, hsent, fun hn => absurd hn hpassed,
          fun _ _ _ hn => absurd hn hrole, fun _ _ _ _ => ⟨hanswers, switch_tells hm⟩,
          fun k' _ _ hk' hn => absurd hn (hwrong k' hk')⟩
    · have hother : key ≠ some iceKey := by
        intro hsame
        obtain rfl : k = iceKey := Option.some.inj (hk.symm.trans hsame)
        exact hright (hverify.mpr rfl)
      rw [if_pos hright] at hanswer
      obtain ⟨sent, written, hsent, hanswers, hm⟩ := forward_answered hb hcheck hparse hanswer
      exact ⟨sent, hsent, fun hn => absurd hn hpassed, fun _ _ hn => absurd hn hother,
        fun _ _ hn => absurd hn hother, fun _ _ _ _ _ => ⟨hanswers, wrongKey_tells hm⟩⟩
  · have hanswer : answerIce (.v6 ⟨(ipOf packet).src, (udpOf packet).srcPort, 0, 0⟩)
        (iceAttrs items) = none := by
      by_contra hanswered
      obtain ⟨hfront, hintegrity, hback⟩ := complete_of_answer _ hreads hanswered
      exact hcomplete ⟨hfront, fun hkey => hintegrity (hunsigned hkey), hback⟩
    have hpassed : ∀ k, Complete front → back ≠ [] → key ≠ some k := by
      intro k hfront hback hk
      exact hcomplete ⟨hfront, by simp [hk], hback⟩
    exact ⟨packet.take length, forward_passed hb hl hcheck hparse hanswer, fun _ => rfl,
      fun hfront hback hk => absurd hk (hpassed _ hfront hback), fun hfront hback hk => absurd hk
      (hpassed _ hfront hback), fun k hfront hback hk => absurd hk (hpassed k hfront hback)⟩

end Composing

end Deciding

def checkName : Str := ⟨[0x64, 0x69, 0x73, 0x73, 0x6F, 0x6C, 0x76, 0x65, 0x3A, 0x78], by decide⟩

def checkAttributes : List Attribute := [.username checkName, .priority 1, .iceControlling 0]

def otherIceKey : Bytes := [0x6F, 0x74, 0x68, 0x65, 0x72]

def otherPacket : Bytes :=
  checkPacket.take 46 ++ [0x63, 0x85] ++ slice checkPacket 48 60 ++ [0xBA, 0x1F, 0x9D, 0x5C, 0x13,
    0x0E, 0xE4, 0xD3, 0x9D, 0x67, 0x76, 0x3B, 0x47, 0x55, 0xFB, 0x3B, 0xBE, 0xEB, 0x86, 0x94, 0x80,
    0x28, 0x00, 0x04, 0xF5, 0xE8, 0xBA, 0xE1]

lemma checkMac_length : (slice checkPacket 108 20).length = 20 := rfl

lemma answerMac_length : (slice answerPacket 96 20).length = 20 := rfl

@[reducible] def keyedDigests : Crypto :=
  .recorded [
    ((iceKey, withLength (slice checkPacket 48 56) 60),
      ⟨slice checkPacket 108 20, checkMac_length⟩),
    ((iceKey, withLength (slice answerPacket 48 44) 48),
      ⟨slice answerPacket 96 20, answerMac_length⟩),
    ((otherIceKey, withLength (slice checkPacket 48 56) 60), ⟨slice otherPacket 108 20, rfl⟩)] []
    [(slice checkPacket 48 80, 0x88D160CE), (slice answerPacket 48 68, 0x5EA26746),
      (slice otherPacket 48 80, 0xA6BCEFAF)]

lemma check_plainly [Crypto] : ∀ a ∈ checkAttributes, Plainly isIce a := by
  simp only [checkAttributes, List.forall_mem_cons, List.not_mem_nil, false_imp_iff,
    implies_true, and_true]
  have hshort : checkName.asBytes.length < 65536 := by decide
  exact ⟨⟨⟨hshort, typ_ne rfl, typ_ne rfl⟩, .inl rfl⟩,
    ⟨⟨trivial, typ_ne rfl, typ_ne rfl⟩, .inl rfl⟩, ⟨trivial, typ_ne rfl, typ_ne rfl⟩, .inl rfl⟩

lemma check_complete : Complete checkAttributes :=
  ⟨⟨checkName, [0x78], rfl, by decide⟩, by decide, by decide⟩

lemma payloadOf_fresh {received : Bytes} (h : received.length = 136) :
    (payloadOf (fresh received)).take 88 = received.drop 48 := by
  have htake : (fresh received).take (48 + 88) = received := List.take_left' h
  rw [payloadOf, List.take_drop, htake]

end Masquerade.IceDissolve
