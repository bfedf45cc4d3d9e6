import Masquerade.Common.Datagram
import Masquerade.Common.TurnLaws

/-! The handler on a decodable message, independent of the bytes behind it. -/

namespace Masquerade.Common

open Lib Stun Wire

def Decodable (b : Bytes) (n : ℕ) : Prop := n ≤ b.length ∧ decode b n = .ok (.ok ())

lemma Decodable.verdict {b : Bytes} {n : ℕ} (h : Decodable b n) : 20 + lengthAt b ≤ n ∧
    typAt b >>> 14 = 0 ∧ 4 ∣ lengthAt b ∧ cookieAt b = magicCookie := by
  have hv := h.2
  rw [decode_eq h.1, Except.ok.injEq, verdict_ok_iff] at hv
  have hn : 20 ≤ n := by
    have := hv.1
    rw [List.length_take] at this
    omega
  rw [lengthAt_take (by omega), typAt_take (by omega), cookieAt_take (by omega), List.length_take,
    min_eq_left h.1] at hv
  exact hv

lemma Decodable.header {b : Bytes} {n : ℕ} (h : Decodable b n) : ValidHeader b :=
  have hv := h.verdict
  have hn := h.1
  ⟨by omega, hv.2.1, hv.2.2.2⟩

def classAt (b : Bytes) : Stun.Class := classOf (typAt b)

def methodAt (b : Bytes) : Method := Method.ofCode (rawMethodOf (typAt b))

lemma msgClass_eq {b : Bytes} {c : Stun.Class} (hb : 2 ≤ b.length) (h : msgClass b = .ok c) :
    classAt b = c :=
  Except.ok.inj ((msgClass_ok hb).symm.trans h)

lemma method_eq {b : Bytes} {m : Method} (hb : 2 ≤ b.length) (h : method b = .ok m) :
    methodAt b = m :=
  Except.ok.inj ((method_ok hb).symm.trans h)

structure Observed where
  response : Option Bytes
  sent : List Bytes
  deriving DecidableEq

def Outcome.observed (o : Outcome) : Observed where
  response := if o.reply then some (o.buffer.take (lengthAt o.buffer + 20)) else none
  sent := o.sent

section Slices

variable {b : Bytes} {item : Item}

lemma read_v6 {peer : SocketAddrV6} (h : Stun.xorPeerAddress.read item = some (.v6 peer)) :
    20 ≤ item.value.length ∧ peer.Plain := by
  simp only [AttrDec.read, Stun.xorPeerAddress, sockaddrAttr] at h
  split at h
  · rename_i a hdec
    cases h
    by_cases h4 : item.value.length < 4
    · simp [h4] at hdec
    · simp only [h4, if_false, bind_eq_ok] at hdec
      obtain ⟨family, -, port, -, port', -, hdec⟩ := hdec
      split_ifs at hdec with h8 h20
      · simp only [bind_eq_ok] at hdec
        obtain ⟨octets, -, octets', -, hdec⟩ := hdec
        cases hdec
      · simp only [bind_eq_ok] at hdec
        obtain ⟨octets, -, octets', -, hdec⟩ := hdec
        cases hdec
        exact ⟨h20.2, rfl, rfl⟩
      · cases hdec
      · cases hdec
  · cases h

end Slices

variable [Crypto] (canonical : SocketAddr) (relayed : SocketAddrV6)

def answerTo (b : Bytes) : Answer :=
  answer canonical relayed (classAt b) (methodAt b) (turnAttrs (itemsOf b))

lemma handleTurn_eq {b : Bytes} (hb : 20 ≤ b.length) : handleTurn canonical relayed b =
    if txidAt b = List.replicate 12 0 then .ok ⟨b, [], false⟩
    else match answerTo canonical relayed b with
      | .ignore => .ok ⟨b, [], false⟩
      | .respond class_ as => do
        let b ← respond class_ as b
        return ⟨b, [], true⟩
      | .relay peer data => send relayed peer data b := by
  simp only [handleTurn, txid_ok hb, ok_bind]
  split_ifs
  · rfl
  · rw [parseTurn_eq (by omega), ok_bind, method_ok (by omega), ok_bind,
      msgClass_ok (by omega), ok_bind]
    rfl

variable {canonical relayed}

section Relay

variable {class_ : Stun.Class} {method : Method} {a : TurnAttrs} {peer : SocketAddrV6}
  {data : Slice}

lemma answerVerified_request : answerVerified canonical relayed .request method a ≠
    .relay peer data := by
  intro h
  unfold answerVerified at h
  split_ifs at h with _ _ _ _ _ _ hsend
  exact absurd hsend.1 (by decide)

lemma answerKnown_request : answerKnown canonical relayed .request method a ≠ .relay peer data := by
  intro h
  unfold answerKnown at h
  split_ifs at h
  exact answerVerified_request h

lemma answer_request : answer canonical relayed .request method a ≠ .relay peer data := by
  intro h
  cases hu : a.unknownAttrs with
  | some u =>
    simp only [answer, hu, reduceCtorEq, or_self, if_false, true_and, if_true] at h
    split_ifs at h
  | none =>
    simp only [answer, hu, reduceCtorEq, or_self, if_false, true_and] at h
    split_ifs at h
    exact answerKnown_request h

lemma answerKnown_indication : answerKnown canonical relayed .indication method a =
    .relay peer data ↔ method = .send ∧ a.xorPeer = some (.v6 peer) ∧ a.data = some data := by
  simp only [answerKnown, answerVerified, reduceCtorEq, false_and, if_false, true_and]
  split_ifs with hm
  · split <;> simp_all
  · simp [hm]

lemma answer_relay_iff : answer canonical relayed class_ method a = .relay peer data ↔
    class_ = .indication ∧ method = .send ∧ a.unknownAttrs = none ∧ a.xorPeer = some (.v6 peer) ∧
    a.data = some data := by
  cases class_ with
  | error | success => simp [answer]
  | request => simp [answer_request]
  | indication =>
    cases hu : a.unknownAttrs with
    | some u => simp [answer, hu]
    | none => simp [answer, hu, answerKnown_indication]

end Relay

lemma relay_room {b : Bytes} {n : ℕ} (h : Decodable b n) {peer : SocketAddrV6} {data : Slice}
    (ha : answerTo canonical relayed b = .relay peer data) :
    4 ≤ data.start ∧ data.start + data.bytes.length ≤ n ∧ 48 + data.bytes.length ≤ n ∧
      data.bytes.length + 8 < 65536 ∧ data.bytes = slice b data.start data.bytes.length := by
  obtain ⟨-, -, -, hpeer, hdata⟩ := answer_relay_iff.mp ha
  obtain ⟨x, hx, hxr⟩ := Option.bind_eq_some_iff.mp hpeer
  obtain ⟨y, hy, hyr⟩ := Option.bind_eq_some_iff.mp hdata
  obtain ⟨hxm, hxt⟩ := heard_mem hx
  obtain ⟨hym, hyt⟩ := heard_mem hy
  have hb := h.header.length
  have hv := h.verdict
  have hlt := lengthAt_lt b
  have hsize := size_add_size_le (by omega) hxm hym (by rw [hxt, hyt]; decide)
  have h20 := (read_v6 hxr).1
  obtain ⟨offset, hat⟩ := itemsOf_mem (by omega) hym
  obtain rfl : (⟨4 + y.pre.bytes.length + 4, y.value⟩ : Slice) = data := Option.some.inj hyr
  have hstart : 4 + y.pre.bytes.length + 4 = 24 + offset := by rw [hat.bytes_length]; omega
  have hann := hat.announced
  simp only [Item.size] at hsize hann
  refine ⟨?_, ?_, ?_, ?_, ?_⟩
  · simp only; omega
  · simp only; omega
  · simp only; omega
  · simp only; omega
  · simp only [hstart]
    exact hat.value

structure Response (b : Bytes) (c : Stun.Class) (as : List Attribute) (m : Bytes)
    (items : List Item) : Prop where
  built : Built m items
  typ : typAt m = withClass (typAt b) c
  fixed : slice m 4 16 = slice b 4 16
  wrote : List.Forall₂ Attribute.Wrote as items

lemma Response.class_append {b m : Bytes} {c : Stun.Class} {as : List Attribute} {items : List Item}
    (h : Response b c as m items) (tail : Bytes) : classAt (m ++ tail) = c := by
  have hml := h.built.length
  rw [classAt, typAt_append tail (by omega), h.typ, classOf_withClass]

lemma Response.observed {b m : Bytes} {c : Stun.Class} {as : List Attribute}
    {items : List Item} (h : Response b c as m items) (tail : Bytes) :
    Outcome.observed ⟨m ++ tail, [], true⟩ = ⟨some m, []⟩ := by
  have hml := h.built.length
  have hl : lengthAt (m ++ tail) + 20 = m.length := by
    rw [lengthAt_append _ (by omega), hml, Nat.add_comm]
  simp only [Outcome.observed, if_true, hl, List.take_left]

omit [Crypto] in
lemma txidAt_eq {b b' : Bytes} (h : slice b' 4 16 = slice b 4 16) : txidAt b' = txidAt b := by
  have hx : ∀ b : Bytes, txidAt b = (slice b 4 16).drop 4 := by
    intro b
    rw [txidAt, slice, slice, List.drop_take, List.drop_drop]
  rw [hx, hx, h]

lemma handleTurn_respond {b : Bytes} {n : ℕ} (h : Decodable b n)
    (hzero : txidAt b ≠ List.replicate 12 0) {c : Stun.Class} {as : List Attribute}
    (ha : answerTo canonical relayed b = .respond c as) :
    ∃ m items, Response b c as m items ∧ ∀ b', 100 ≤ b'.length → typAt b' = typAt b →
      slice b' 4 16 = slice b 4 16 →
      answerTo canonical relayed b' = .respond c as →
      ∃ tail, handleTurn canonical relayed b' = .ok ⟨m ++ tail, [], true⟩ := by
  have hfits := (answer_respond ha).2.fits fun u hu => collectUnknown_zerosTrail hu
  have hcost := hfits.cost
  obtain ⟨m, items, hbuilt, htyp, hfixed, hall, -, hrun⟩ :=
    respond_grows c hfits.writable (by omega) h.header
  refine ⟨m, items, ⟨hbuilt, htyp, hfixed, hall⟩, fun b' h100 ht hf ha' =>
    ⟨b'.drop (20 + cost as), ?_⟩⟩
  have hheader : replyHeader c b' = replyHeader c b := by rw [replyHeader, replyHeader, ht, hf]
  rw [handleTurn_eq _ _ (by omega), txidAt_eq hf, if_neg hzero, ha']
  simp only [hrun b' (by omega) hheader, ok_bind, pure_eq_ok]

lemma handleTurn_observed (canonical : SocketAddr) (relayed : SocketAddrV6) {b : Bytes} {n : ℕ}
    (h : Decodable b n) :
    ∃ obs : Observed, ∀ b' : Bytes, b.take n = b'.take n → n ≤ b'.length → 100 ≤ b'.length →
      ∃ o, handleTurn canonical relayed b' = .ok o ∧ o.observed = obs := by
  have hv := h.verdict
  have hb := h.header.length
  have htyp : ∀ b' : Bytes, b.take n = b'.take n → typAt b' = typAt b := by
    intro b' hn
    rw [← typAt_take (b := b') (n := n) (by omega), ← hn, typAt_take (by omega)]
  have htxid : ∀ b' : Bytes, b.take n = b'.take n → txidAt b' = txidAt b := by
    intro b' hn
    rw [← txidAt_take (b := b') (n := n) (by omega), ← hn, txidAt_take (by omega)]
  have hanswer : ∀ b' : Bytes, b.take n = b'.take n → n ≤ b'.length →
      answerTo canonical relayed b' = answerTo canonical relayed b := by
    intro b' hn hb'
    rw [answerTo, answerTo, classAt, classAt, methodAt, methodAt, htyp b' hn,
      ← itemsOf_congr h.1 hb' (by omega) hn]
  by_cases hzero : txidAt b = List.replicate 12 0
  · refine ⟨⟨none, []⟩, fun b' hn hb' h100 => ⟨⟨b', [], false⟩, ?_, rfl⟩⟩
    rw [handleTurn_eq _ _ (by omega), htxid b' hn, if_pos hzero]
  cases ha : answerTo canonical relayed b with
  | ignore =>
    refine ⟨⟨none, []⟩, fun b' hn hb' h100 => ⟨⟨b', [], false⟩, ?_, rfl⟩⟩
    rw [handleTurn_eq _ _ (by omega), htxid b' hn, if_neg hzero, hanswer b' hn hb', ha]
  | respond class_ as =>
    obtain ⟨m, items, hm, hrun⟩ := handleTurn_respond h hzero ha
    refine ⟨⟨some m, []⟩, fun b' hn hb' h100 => ?_⟩
    obtain ⟨tail, htail⟩ := hrun b' h100 (htyp b' hn)
      (slice_congr hn (show 4 + 16 ≤ n by omega)).symm ((hanswer b' hn hb').trans ha)
    exact ⟨_, htail, hm.observed tail⟩
  | relay peer data =>
    obtain ⟨hs, hend, hroom, hsmall, hbytes⟩ := relay_room h ha
    obtain ⟨checksum, -, hsend⟩ := send_ok relayed peer hsmall hs
    refine ⟨⟨none, [datagram relayed peer data.bytes checksum]⟩, fun b' hn hb' h100 => ?_⟩
    obtain ⟨out, hout⟩ := hsend b' (by omega) (by omega) (hbytes.trans (slice_congr hn hend))
    refine ⟨⟨out, [datagram relayed peer data.bytes checksum], false⟩, ?_, rfl⟩
    rw [handleTurn_eq _ _ (by omega), htxid b' hn, if_neg hzero, hanswer b' hn hb', ha]
    exact hout

lemma handleTurn_reply {b : Bytes} {n : ℕ} (h : Decodable b n) (h100 : 100 ≤ b.length) {o : Outcome}
    (ho : handleTurn canonical relayed b = .ok o) (hreply : o.reply = true) :
    ∃ c as m items tail, txidAt b ≠ List.replicate 12 0 ∧ classAt b = .request ∧
      Arm canonical relayed (methodAt b) (turnAttrs (itemsOf b)) c as ∧ o = ⟨m ++ tail, [], true⟩ ∧
      Response b c as m items := by
  rw [handleTurn_eq _ _ h.header.length] at ho
  by_cases hzero : txidAt b = List.replicate 12 0
  · rw [if_pos hzero] at ho
    cases ho
    cases hreply
  rw [if_neg hzero] at ho
  cases ha : answerTo canonical relayed b with
  | ignore =>
    simp only [ha] at ho
    cases ho
    cases hreply
  | relay peer data =>
    simp only [ha] at ho
    obtain ⟨hs, hend, hroom, hsmall, hbytes⟩ := relay_room h ha
    obtain ⟨checksum, -, hsend⟩ := send_ok relayed peer hsmall hs
    have hn := h.1
    obtain ⟨out, hout⟩ := hsend b (by omega) (by omega) hbytes
    simp only [hout] at ho
    cases ho
    cases hreply
  | respond c as =>
    obtain ⟨hclass, harm⟩ := answer_respond ha
    obtain ⟨m, items, hm, hrun⟩ := handleTurn_respond h hzero ha
    obtain ⟨tail, htail⟩ := hrun b h100 rfl rfl ha
    rw [handleTurn_eq _ _ h.header.length, if_neg hzero] at htail
    exact ⟨c, as, m, items, tail, hzero, hclass, harm, Except.ok.inj (ho.symm.trans htail), hm⟩

lemma handleTurn_relay {b : Bytes} {n : ℕ} (h : Decodable b n)
    (hzero : txidAt b ≠ List.replicate 12 0) {peer : SocketAddrV6} {data : Slice}
    (ha : answerTo canonical relayed b = .relay peer data) :
    data.bytes.length + 8 < 65536 ∧ 48 + data.bytes.length ≤ n ∧ ∃ checksum out,
      udpChecksumFill (datagramIp relayed peer data.bytes.length)
        (datagramUdp relayed peer data.bytes.length 0)
        data.bytes = .ok (datagramUdp relayed peer data.bytes.length checksum) ∧
      handleTurn canonical relayed b =
        .ok ⟨out, [datagram relayed peer data.bytes checksum], false⟩ := by
  obtain ⟨hs, hend, hroom, hsmall, hbytes⟩ := relay_room h ha
  have hn := h.1
  obtain ⟨checksum, hfill, hsend⟩ := send_ok relayed peer hsmall hs
  obtain ⟨out, hout⟩ := hsend b (by omega) (by omega) hbytes
  refine ⟨hsmall, hroom, checksum, out, hfill, ?_⟩
  rw [handleTurn_eq _ _ h.header.length, if_neg hzero, ha]
  exact hout

end Masquerade.Common
