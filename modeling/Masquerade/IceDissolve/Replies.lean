import Masquerade.Checksum
import Masquerade.Common.Auth
import Masquerade.IceDissolve.Intercept

/-! Every packet is passed on as it came, or answered by a packet that a connectivity check may rely
on. -/

namespace Masquerade.IceDissolve

open Lib Stun Wire Common

section Parsing

variable [Crypto] {b : Bytes}

omit [Crypto] in
lemma empty_safe (typ : UInt16) : (emptyAttr typ).Safe := fun _ _ _ => ⟨_, rfl⟩

lemma fingerprint_safe : Stun.fingerprint.Safe := fun _ _ _ => ⟨_, rfl⟩

lemma parseIce_ok (hb : 4 ≤ b.length) : ∃ a, parseIce b = .ok a ∧
    parsed Stun.messageIntegrity b = .ok a.integrity := by
  have h₀ := itemsOf_afterHeader hb
  have hmac : parsed Stun.messageIntegrity b = .ok ((heard Typ.messageIntegrity
      (fun t => t == Typ.fingerprint) (itemsOf b)).bind Stun.messageIntegrity.read) :=
    parsed_eq (integrity_safe _ _) hb
  rw [hmac, ← heard_skip (t := Typ.username) (by decide) (by decide)]
  simp only [parseIce, attrs_eq, ok_bind]
  generalize itemsOf b = items at h₀ ⊢
  have e₀ := parse_eq (show Stun.username.Safe from str_safe _) h₀
  have h₁ := h₀.without Stun.username.typ
  have e₁ := parse_eq (show Stun.messageIntegrity.Safe from integrity_safe _ _) h₁
  have h₂ := h₁.without Stun.messageIntegrity.typ
  have e₂ := parse_eq (show Stun.iceControlled.Safe from numeric_safe _ _ _) h₂
  have h₃ := h₂.without Stun.iceControlled.typ
  have e₃ := parse_eq (show Stun.iceControlling.Safe from numeric_safe _ _ _) h₃
  have h₄ := h₃.without Stun.iceControlling.typ
  have e₄ := parse_eq (show Stun.priority.Safe from numeric_safe _ _ _) h₄
  have h₅ := h₄.without Stun.priority.typ
  have e₅ := parse_eq (show Stun.useCandidate.Safe from empty_safe _) h₅
  have h₆ := h₅.without Stun.useCandidate.typ
  have e₆ := parse_eq fingerprint_safe h₆
  simp only [e₀, e₁, e₂, e₃, e₄, e₅, e₆, ok_bind]
  exact ⟨_, rfl, rfl⟩

end Parsing

section Answers

variable [Crypto] {sender : SocketAddr} {a : IceAttrs} {c : Stun.Class} {as : List Attribute}

inductive IceArm (sender : SocketAddr) (a : IceAttrs) : Stun.Class → List Attribute → Prop
  | wrongKey : IceArm sender a .error [.errorCode 441 emptyStr, .fingerprint]
  | switchRole {i : Integrity 20} : a.integrity = some i → i.verify iceKey = true →
      IceArm sender a .error [.errorCode 487 emptyStr, .messageIntegrity iceKey, .fingerprint]
  | success {i : Integrity 20} : a.integrity = some i →
      i.verify iceKey = true → a.iceControlled = none →
      IceArm sender a .success [.xorMappedAddress sender, .messageIntegrity iceKey, .fingerprint]

lemma answerIce_arm (h : answerIce sender a = some (c, as)) : IceArm sender a c as := by
  unfold answerIce at h
  split at h
  next username integrity role priority _ _ hi _ _ _ =>
    split at h
    next => cases h
    next =>
      split_ifs at h with hufrag hverify hrole
      · cases h
        exact .switchRole hi hverify
      · cases h
        exact .success hi hverify (by simpa using hrole)
      · cases h
        exact .wrongKey
  next => cases h

lemma small_fingerprint : Small 8 .fingerprint := .intro fingerprint_writes (by decide)

lemma IceArm.fits (h : IceArm sender a c as) : Fits 56 as := by
  have hmac := small_mac iceKey
  cases h with
  | wrongKey =>
    exact (Fits.cons (small_error (by decide)) (.one small_fingerprint)).mono (by norm_num)
  | switchRole =>
    exact (Fits.cons (small_error (by decide)) (.cons hmac (.one small_fingerprint))).mono
      (by norm_num)
  | success => exact Fits.cons (small_mapped sender) (.cons hmac (.one small_fingerprint))

lemma IceArm.class_ (h : IceArm sender a c as) : c = .success ∨ c = .error := by
  cases h <;> simp

lemma IceArm.fingerprint_last (h : IceArm sender a c as) :
    ∃ front, as = front ++ [.fingerprint] ∧ ∀ x ∈ front, x.typ ≠ Typ.fingerprint := by
  cases h with
  | wrongKey => exact ⟨[.errorCode 441 emptyStr], rfl, by simp; decide⟩
  | switchRole => exact ⟨[.errorCode 487 emptyStr, .messageIntegrity iceKey], rfl, by simp; decide⟩
  | success => exact ⟨[.xorMappedAddress sender, .messageIntegrity iceKey], rfl, by simp; decide⟩

lemma fingerprint_read {item : Item} (h : Attribute.fingerprint.Wrote item) :
    Stun.fingerprint.read item = some () := by
  rw [AttrDec.read, h.value _ _ fingerprint_writes, fingerprint_decode]

lemma read_xorMapped {addr : SocketAddr} (ha : addr.Plain) {item : Item}
    (h : (Attribute.xorMappedAddress addr).Wrote item) :
    Stun.xorMappedAddress.read item = some addr := by
  rw [AttrDec.read, h.value _ _ (sockaddr_writes _ _ addr)]
  simp only [Stun.xorMappedAddress, sockaddr_decode _ _ ha h.afterHeader]

end Answers

section Packets

def ipOf (packet : Bytes) : Ip6Header := Ip6Header.ofBytes packet

def udpOf (packet : Bytes) : UdpHeader := UdpHeader.ofBytes (packet.drop 40)

def payloadOf (packet : Bytes) : Bytes := packet.drop 48

structure IsCheck (packet : Bytes) (length : ℕ) : Prop where
  version : Ip6Flags.version (ipOf packet).flags = 6
  ipLength : (ipOf packet).len = length
  udp : (ipOf packet).nextHeader = IpProto.udp
  udpLength : (udpOf packet).length = (ipOf packet).payloadLength ∧ 8 ≤ (ipOf packet).payloadLength
  message : decode (payloadOf packet) (length - 48) = .ok (.ok ())
  request : msgClass (payloadOf packet) = .ok .request
  binding : method (payloadOf packet) = .ok .binding

variable [Crypto]

def Signed (message : Bytes) : Prop :=
  ∃ i, parsed Stun.messageIntegrity message = .ok (some i) ∧ i.verify iceKey = true

structure Answers (request reply : Bytes) : Prop where
  ip : ipOf reply = { ipOf request with
    src := (ipOf request).dst, dst := (ipOf request).src, payloadLength := (udpOf reply).length }
  ports : (udpOf reply).srcPort = (udpOf request).dstPort ∧
    (udpOf reply).dstPort = (udpOf request).srcPort
  lengths : ∃ l, len (payloadOf reply) = .ok l ∧ (udpOf reply).length.toNat = 8 + l ∧
    reply.length = 40 + (8 + l) ∧ decode (payloadOf reply) l = .ok (.ok ())
  checksum : Verifies (ipOf reply) (udpOf reply) (payloadOf reply)
  txid : txid (payloadOf reply) = Stun.txid (payloadOf request)
  method : method (payloadOf reply) = .ok .binding
  fingerprint : parsed Stun.fingerprint (payloadOf reply) = .ok (some ())
  class_ : msgClass (payloadOf reply) = .ok .success ∨ msgClass (payloadOf reply) = .ok .error
  authorised : msgClass (payloadOf reply) = .ok .success → Signed (payloadOf request) ∧
    (∃ a, parseIce (payloadOf request) = .ok a ∧ a.iceControlled = none) ∧
      parsed Stun.xorMappedAddress (payloadOf reply) =
        .ok (some (.v6 ⟨(ipOf request).src, (udpOf request).srcPort, 0, 0⟩))
  signed : msgClass (payloadOf reply) = .ok .success ∨
    (∃ reason, parsed Stun.errorCode (payloadOf reply) = .ok (some (487, reason))) →
    Signed (payloadOf reply)

variable {b : Bytes} {length : ℕ}

lemma intercept_cases (hb : b.length = 65536) (hl : length ≤ 65536) :
    intercept length b = .ok (b, length) ∨ IsCheck b length ∧
      ∃ a c as, parseIce (payloadOf b) = .ok a ∧
      answerIce (.v6 ⟨(ipOf b).src, (udpOf b).srcPort, 0, 0⟩) a = some (c, as) ∧
      intercept length b = turnAround (ipOf b) (udpOf b) c as (payloadOf b) := by
  have hip : Ip6Header.fromPrefix b = some (ipOf b, b.drop 40) := if_pos (by omega)
  have hudp : UdpHeader.fromPrefix (b.drop 40) = some (udpOf b, payloadOf b) := by
    rw [UdpHeader.fromPrefix, if_pos (by rw [List.length_drop]; omega), List.drop_drop]
    rfl
  have hpayload : (payloadOf b).length = 65488 := by rw [payloadOf, List.length_drop, hb]
  simp only [intercept, hip, hudp]
  by_cases hversion : Ip6Flags.version (ipOf b).flags ≠ 6
  · exact .inl (if_pos hversion)
  rw [if_neg hversion]
  by_cases hlen : (ipOf b).len ≠ length
  · exact .inl (if_pos hlen)
  rw [if_neg hlen]
  by_cases hnext : (ipOf b).nextHeader ≠ IpProto.udp
  · exact .inl (if_pos hnext)
  rw [if_neg hnext]
  by_cases hsmall : (ipOf b).payloadLength < 8
  · exact .inl (if_pos hsmall)
  rw [if_neg hsmall]
  by_cases hsame : (udpOf b).length ≠ (ipOf b).payloadLength
  · exact .inl (if_pos hsame)
  rw [if_neg hsame]
  rw [not_not] at hversion hlen hnext hsame
  have height : 8 ≤ (ipOf b).payloadLength := UInt16.not_lt.mp hsmall
  have hdata : (udpOf b).length.toNat - 8 = length - 48 ∧ 8 ≤ (udpOf b).length.toNat := by
    have h8 : (8 : UInt16).toNat ≤ (ipOf b).payloadLength.toNat := UInt16.le_iff_toNat_le.mp height
    rw [hsame, ← hlen, Ip6Header.len]
    exact ⟨by omega, h8⟩
  rw [subChecked_ok hdata.2, ok_bind, hdata.1]
  by_cases hfirst : ¬ (payloadOf b).head?.any (· < 3) = true
  · exact .inl (if_pos hfirst)
  rw [if_neg hfirst]
  have hdec := decode_eq (b := payloadOf b) (n := length - 48) (by omega)
  rw [hdec, ok_bind]
  cases hv : verdict ((payloadOf b).take (length - 48)) with
  | error e => exact .inl rfl
  | ok u =>
    rw [hv] at hdec
    have h20 := (Decodable.header ⟨by omega, hdec⟩).length
    rw [msgClass_ok (by omega), ok_bind, method_ok (by omega), ok_bind]
    by_cases hkind : classOf (typAt (payloadOf b)) ≠ .request ∨
      Method.ofCode (rawMethodOf (typAt (payloadOf b))) ≠ .binding
    · exact .inl (if_pos hkind)
    rw [if_neg hkind]
    rw [not_or, not_not, not_not] at hkind
    obtain ⟨a, ha, -⟩ := parseIce_ok (show 4 ≤ (payloadOf b).length by omega)
    rw [ha, ok_bind]
    cases hanswer : answerIce (.v6 ⟨(ipOf b).src, (udpOf b).srcPort, 0, 0⟩) a with
    | none => exact .inl rfl
    | some r =>
      obtain ⟨c, as⟩ := r
      refine .inr ⟨⟨hversion, hlen, hnext, ⟨hsame, height⟩, hdec, ?_, ?_⟩, a, c, as,
        rfl, hanswer, rfl⟩
      · rw [msgClass_ok (by omega), hkind.1]
      · rw [method_ok (by omega), hkind.2]

section Turned

def turnedIp (ip : Ip6Header) (n : ℕ) : Ip6Header :=
  { ip with src := ip.dst, dst := ip.src, payloadLength := UInt16.ofNat (8 + n) }

def turnedUdp (udp : UdpHeader) (n : ℕ) (checksum : UInt16) : UdpHeader :=
  ⟨udp.dstPort, udp.srcPort, UInt16.ofNat (8 + n), checksum⟩

variable {ip : Ip6Header} {udp : UdpHeader} {c : Stun.Class} {as : List Attribute} {inner : Bytes}

lemma turnAround_eq (hfits : Fits 56 as) (hinner : ValidHeader inner) (hroom : 76 ≤ inner.length) :
    ∃ m items tail checksum, Response inner c as m items ∧ m.length ≤ 76 ∧
      Verifies (turnedIp ip m.length) (turnedUdp udp m.length checksum) m ∧
      turnAround ip udp c as inner =
        .ok ((turnedIp ip m.length).asBytes ++ (turnedUdp udp m.length checksum).asBytes ++
          (m ++ tail), 48 + m.length) := by
  have hcost := hfits.cost
  obtain ⟨m, items, hbuilt, htyp, hfixed, hall, hmlen, hrun⟩ :=
    respond_grows c hfits.writable (by omega) hinner
  have hml := hbuilt.length
  have hrespond := hrun inner (by omega) rfl
  generalize inner.drop (20 + cost as) = tail at hrespond
  have htail : (m ++ tail).length = m.length + tail.length := List.length_append
  have hlength : Stun.length (m ++ tail) = .ok (lengthAt m) := by
    rw [length_ok (by omega), lengthAt_append tail (by omega)]
  have hread : readAt (m ++ tail) 0 m.length = .ok m := by
    rw [readAt_ok (by omega), slice_zero, List.take_left]
  obtain ⟨checksum, hfill⟩ := udpChecksumFill_ok (turnedIp ip m.length)
    (turnedUdp udp m.length udp.checksum) (show m.length ≤ 65535 by omega)
  refine ⟨m, items, tail, checksum, ⟨hbuilt, htyp, hfixed, hall⟩, by omega,
    udpChecksumFill_verifies (by omega) hfill, ?_⟩
  have hsum : 8 + 20 + lengthAt m = 8 + m.length := by omega
  have hpayload : (turnedIp ip m.length).len = 48 + m.length := by
    rw [Ip6Header.len, turnedIp, UInt16.toNat_ofNat', Nat.mod_eq_of_lt (by omega)]
    omega
  simp only [turnedIp, turnedUdp] at hfill hpayload ⊢
  simp only [turnAround, hrespond, ok_bind, hlength,
    addWithin_ok (show 8 + 20 + lengthAt m < 2 ^ 16 by omega), hbuilt.len tail, hread, hsum, hfill,
    hpayload, pure_eq_ok]

omit [Crypto] in
lemma packet_reads (ip : Ip6Header) (udp : UdpHeader) (m : Bytes) :
    ipOf (ip.asBytes ++ udp.asBytes ++ m) = ip ∧ udpOf (ip.asBytes ++ udp.asBytes ++ m) = udp ∧
      payloadOf (ip.asBytes ++ udp.asBytes ++ m) = m := by
  refine ⟨?_, ?_, ?_⟩
  · rw [ipOf, List.append_assoc, Ip6Header.ofBytes_asBytes]
  · rw [udpOf, List.append_assoc, List.drop_left' ip.asBytes_length, UdpHeader.ofBytes_asBytes]
  · rw [payloadOf, List.drop_left' (by simp)]

section Message

variable {sender : SocketAddr} {a : IceAttrs} {request m : Bytes} {items : List Item}

lemma IceArm.reads_fingerprint (h : IceArm sender a c as) (hm : Response request c as m items) :
    parsed Stun.fingerprint m = .ok (some ()) := by
  obtain ⟨front, rfl, hfront⟩ := h.fingerprint_last
  obtain ⟨item, hwrote, hparsed⟩ :=
    hm.reads fingerprint_safe rfl (fun x hx => ⟨hfront x hx, rfl⟩) []
  rw [← List.append_nil m, hparsed, fingerprint_read hwrote]

lemma signed_of_mac {front back : List Attribute}
    (hm : Response request c (front ++ .messageIntegrity iceKey :: back) m items)
    (hfront : ∀ x ∈ front, x.typ ≠ Typ.messageIntegrity ∧ x.typ ≠ Typ.fingerprint) : Signed m := by
  rw [← List.append_nil m]
  exact hm.carries_mac hfront []

lemma IceArm.signed (h : IceArm sender a c as) (hm : Response request c as m items)
    (hcase : c = .success ∨ ∃ reason, parsed Stun.errorCode m = .ok (some (487, reason))) :
    Signed m := by
  cases h with
  | wrongKey =>
    rcases hcase with hsuccess | ⟨reason, hreason⟩
    · cases hsuccess
    · have hcode := hm.code (by decide) []
      rw [List.append_nil, hreason] at hcode
      simp at hcode
  | switchRole =>
    refine signed_of_mac (show Response request .error ([.errorCode 487 emptyStr] ++ _ :: _) m
      items from hm) ?_
    simp only [List.forall_mem_singleton, Attribute.typ_errorCode]
    decide
  | success =>
    refine signed_of_mac (show Response request .success ([.xorMappedAddress sender] ++ _ :: _) m
      items from hm) ?_
    simp only [List.forall_mem_singleton, Attribute.typ_xorMappedAddress]
    decide

lemma IceArm.tells_sender (h : IceArm sender a .success as)
    (hm : Response request .success as m items) (hs : sender.Plain) :
    parsed Stun.xorMappedAddress m = .ok (some sender) := by
  cases h with
  | success =>
    have hsafe : Stun.xorMappedAddress.Safe := sockaddr_safe _ _
    obtain ⟨item, hwrote, hparsed⟩ := Response.reads hsafe rfl (show Response request .success
      ([] ++ .xorMappedAddress sender :: _) m items from hm) (by simp) []
    rw [← List.append_nil m, hparsed, read_xorMapped hs hwrote]

lemma IceArm.authorised (h : IceArm sender a .success as) (hb : 4 ≤ request.length)
    (ha : parseIce request = .ok a) :
    Signed request ∧ a.iceControlled = none := by
  obtain ⟨a', ha', hmac⟩ := parseIce_ok hb
  obtain rfl : a = a' := Except.ok.inj (ha.symm.trans ha')
  cases h with
  | success hi hverify hrole => exact ⟨⟨_, hmac.trans (congrArg Except.ok hi), hverify⟩, hrole⟩

end Message

lemma answers_of_turned {a : IceAttrs} {m : Bytes} {items : List Item} {checksum : UInt16}
    (ha : parseIce (payloadOf b) = .ok a) (hb : 20 ≤ (payloadOf b).length)
    (harm : IceArm (.v6 ⟨(ipOf b).src, (udpOf b).srcPort, 0, 0⟩) a c as)
    (hm : Response (payloadOf b) c as m items) (hsmall : m.length ≤ 76)
    (hbinding : Stun.method (payloadOf b) = .ok .binding)
    (hverifies : Verifies (turnedIp (ipOf b) m.length) (turnedUdp (udpOf b) m.length checksum) m) :
    Answers b ((turnedIp (ipOf b) m.length).asBytes ++
      (turnedUdp (udpOf b) m.length checksum).asBytes ++ m) := by
  have hml := hm.built.length
  obtain ⟨hip, hudp, hpayload⟩ :=
    packet_reads (turnedIp (ipOf b) m.length) (turnedUdp (udpOf b) m.length checksum) m
  have hclass : msgClass m = .ok c := by rw [msgClass_ok (by omega), hm.typ, classOf_withClass]
  have hlength : (turnedUdp (udpOf b) m.length checksum).length.toNat = 8 + m.length := by
    rw [turnedUdp, UInt16.toNat_ofNat', Nat.mod_eq_of_lt (by omega)]
  have hlen := hm.built.len []
  have hdecode := hm.built.decode []
  rw [List.append_nil] at hlen hdecode
  refine ⟨?_, ?_, ?_, ?_, ?_, ?_, ?_, ?_, ?_, ?_⟩
  · rw [hip, hudp]
    rfl
  · rw [hudp]
    exact ⟨rfl, rfl⟩
  · rw [hpayload, hudp]
    refine ⟨m.length, hlen, hlength, ?_, hdecode⟩
    simp only [List.length_append, Ip6Header.asBytes_length, UdpHeader.asBytes_length]
    omega
  · rw [hip, hudp, hpayload]
    exact hverifies
  · rw [hpayload, txid_ok (by omega), txid_ok (by omega), txidAt_eq hm.fixed]
  · rw [hpayload, method_ok (by omega), hm.typ, rawMethodOf_withClass, ← hbinding,
      method_ok (by omega)]
  · rw [hpayload]
    exact harm.reads_fingerprint hm
  · rw [hpayload, hclass]
    rcases harm.class_ with rfl | rfl
    · exact .inl rfl
    · exact .inr rfl
  · rw [hpayload, hclass, Except.ok.injEq]
    rintro rfl
    obtain ⟨hsigned, hrole⟩ := harm.authorised (by omega) ha
    exact ⟨hsigned, ⟨a, ha, hrole⟩, harm.tells_sender hm ⟨rfl, rfl⟩⟩
  · rw [hpayload, hclass, Except.ok.injEq]
    exact harm.signed hm

end Turned

lemma forward_of {b' : Bytes} {n : ℕ} (h : intercept length b = .ok (b', n)) (hn : n ≤ b'.length) :
    forward length b = .ok (b'.take n) := by
  simp only [forward, h, ok_bind, readAt_ok (show 0 + n ≤ b'.length by omega), slice_zero]

theorem forwarded_or_answered (hb : b.length = 65536) (hl : length ≤ 65536) :
    ∃ sent, forward length b = .ok sent ∧
      (sent = b.take length ∨ IsCheck b length ∧ Answers b sent) := by
  rcases intercept_cases hb hl with hpassed | ⟨hcheck, a, c, as, ha, hanswer, hrun⟩
  · exact ⟨b.take length, forward_of hpassed (by omega), .inl rfl⟩
  · have harm := answerIce_arm hanswer
    have hpayload : (payloadOf b).length = 65488 := by rw [payloadOf, List.length_drop, hb]
    have hheader := Decodable.header ⟨le_of_decode hcheck.message, hcheck.message⟩
    obtain ⟨m, items, tail, checksum, hm, hsmall, hverifies, hturn⟩ :=
      turnAround_eq harm.fits hheader (show 76 ≤ (payloadOf b).length by omega)
    refine ⟨_, ?_, .inr ⟨hcheck,
      answers_of_turned ha hheader.length harm hm hsmall hcheck.binding hverifies⟩⟩
    rw [forward_of (hrun.trans hturn) (by simp; omega), ← List.append_assoc,
      List.take_left' (by simp; omega)]

end Packets

def checkPacket : Bytes :=
  [0x60, 0x00, 0x00, 0x00, 0x00, 0x60, 0x11, 0x40, 0xFD, 0x00, 0x00, 0x00, 0x00, 0x00, 0x00, 0x00,
    0x00, 0x00, 0x00, 0x00, 0x00, 0x00, 0x00, 0x01, 0xFD, 0x00, 0x00, 0x00, 0x00, 0x00, 0x00, 0x00,
    0x00, 0x00, 0x00, 0x00, 0x00, 0x00, 0x00, 0x02, 0x0F, 0xA0, 0x13, 0x88, 0x00, 0x60, 0xA4, 0x11,
    0x00, 0x01, 0x00, 0x44, 0x21, 0x12, 0xA4, 0x42, 0x01, 0x02, 0x03, 0x04, 0x05, 0x06, 0x07, 0x08,
    0x09, 0x0A, 0x0B, 0x0C, 0x00, 0x06, 0x00, 0x0A, 0x64, 0x69, 0x73, 0x73, 0x6F, 0x6C, 0x76, 0x65,
    0x3A, 0x78, 0x00, 0x00, 0x00, 0x24, 0x00, 0x04, 0x00, 0x00, 0x00, 0x01, 0x80, 0x2A, 0x00, 0x08,
    0x00, 0x00, 0x00, 0x00, 0x00, 0x00, 0x00, 0x00, 0x00, 0x08, 0x00, 0x14, 0xE2, 0xFB, 0x92, 0x1C,
    0xE0, 0x85, 0x8E, 0x22, 0x48, 0x2C, 0x7A, 0x11, 0x78, 0x5D, 0x9F, 0x90, 0x1C, 0x71, 0x6F, 0xED,
    0x80, 0x28, 0x00, 0x04, 0xDB, 0x85, 0x35, 0x80]

def answerPacket : Bytes :=
  [0x60, 0x00, 0x00, 0x00, 0x00, 0x54, 0x11, 0x40, 0xFD, 0x00, 0x00, 0x00, 0x00, 0x00, 0x00, 0x00,
    0x00, 0x00, 0x00, 0x00, 0x00, 0x00, 0x00, 0x02, 0xFD, 0x00, 0x00, 0x00, 0x00, 0x00, 0x00, 0x00,
    0x00, 0x00, 0x00, 0x00, 0x00, 0x00, 0x00, 0x01, 0x13, 0x88, 0x0F, 0xA0, 0x00, 0x54, 0x1B, 0xFD,
    0x01, 0x01, 0x00, 0x38, 0x21, 0x12, 0xA4, 0x42, 0x01, 0x02, 0x03, 0x04, 0x05, 0x06, 0x07, 0x08,
    0x09, 0x0A, 0x0B, 0x0C, 0x00, 0x20, 0x00, 0x14, 0x00, 0x02, 0x2E, 0xB2, 0xDC, 0x12, 0xA4, 0x42,
    0x01, 0x02, 0x03, 0x04, 0x05, 0x06, 0x07, 0x08, 0x09, 0x0A, 0x0B, 0x0D, 0x00, 0x08, 0x00, 0x14,
    0x4B, 0x8F, 0xF6, 0xD7, 0x18, 0xEB, 0x8A, 0x99, 0xFA, 0xF7, 0xE5, 0x0D, 0x35, 0xD2, 0x08, 0xDD,
    0x19, 0x11, 0x2A, 0x03, 0x80, 0x28, 0x00, 0x04, 0x0D, 0xF6, 0x32, 0x08]

@[reducible] def checkDigests : Crypto :=
  .recorded [((iceKey, withLength (slice checkPacket 48 56) 60), ⟨slice checkPacket 108 20, rfl⟩),
    ((iceKey, withLength (slice answerPacket 48 44) 48), ⟨slice answerPacket 96 20, rfl⟩)] []
    [(slice checkPacket 48 80, 0x88D160CE), (slice answerPacket 48 68, 0x5EA26746)]

theorem forwarded_or_answered_check :
    letI := checkDigests
    forward 136 checkPacket = .ok answerPacket ∧
      ∃ b sent, b.length = 65536 ∧ b.take 136 = checkPacket ∧ forward 136 b = .ok sent ∧
        (sent = checkPacket ∨ IsCheck b 136 ∧ Answers b sent) := by
  let _ := checkDigests
  have hlen : (checkPacket ++ List.replicate 65400 0).length = 65536 := by
    rw [List.length_append, List.length_replicate]
    rfl
  have htake : (checkPacket ++ List.replicate 65400 0).take 136 = checkPacket := List.take_left' rfl
  generalize checkPacket ++ List.replicate 65400 0 = b at hlen htake
  obtain ⟨sent, hsent, hcase⟩ := forwarded_or_answered hlen (show 136 ≤ 65536 by norm_num)
  rw [htake] at hcase
  exact ⟨by decide +kernel, b, sent, hlen, htake, hsent, hcase⟩

end Masquerade.IceDissolve
