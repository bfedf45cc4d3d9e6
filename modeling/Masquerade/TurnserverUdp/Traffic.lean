import Masquerade.Common.Exchange
import Masquerade.Common.Growth
import Masquerade.TurnserverUdp.Stateless

/-! What leaves the UDP server: how much of it, and because of what. -/

namespace Masquerade.TurnserverUdp

open Lib Stun Common Wire

section Amount

def Action.size : Action → ℕ
  | .send packet => packet.length
  | .sendTo datagram _ => datagram.length

def Input.size : Input → ℕ
  | .recvFrom (some (data, _)) => data.val.length
  | .recv (some (packet, _)) => packet.val.length
  | _ => 0

variable [Crypto] (mappings : List Mapping)

lemma repliesTo_size {data : Bytes} (hle : data.length ≤ 65536) (sender : SocketAddr) :
    5 * ((repliesTo mappings data sender).map Action.size).sum ≤ 11 * data.length := by
  rw [repliesTo]
  split_ifs with hv
  · have hgrowth := turned_growth (canonicalOf sender) (relayedFor mappings sender) hv hle
    have hsum : ∀ o : Observed, ((o.sent.map Action.send ++ (o.response.map fun response =>
        Action.sendTo response sender).toList).map Action.size).sum = o.size := by
      rintro ⟨response, sent⟩
      have hsent : (sent.map Action.send).map Action.size = sent.map List.length := by
        rw [List.map_map]
        rfl
      rw [List.map_append, List.sum_append, hsent, Nat.add_comm]
      cases response <;> simp [Observed.size, Action.size]
    exact (hsum _).symm ▸ hgrowth
  · simp

lemma forwards_size {packet : Bytes} (hle : packet.length ≤ 65536) (random : List.Vector UInt8 12) :
    5 * ((forwards mappings packet random).map Action.size).sum ≤ 11 * packet.length := by
  rw [forwards]
  cases hnet : netted random packet with
  | none => simp
  | some target =>
    obtain ⟨receiver, m⟩ := target
    have hgrowth := netted_growth hle hnet
    have h48 : 48 ≤ packet.length := by
      rcases netted_cases random hle with ⟨-, hnone⟩ | ⟨_, _, _, hreceiver, -⟩
      · rw [hnone] at hnet
        cases hnet
      · cases hclass : classify packet with
        | drop =>
          rw [hclass] at hreceiver
          cases hreceiver
        | data => exact (data_bytes hclass).2
        | icmp => exact (by norm_num : 48 ≤ 96).trans (icmp_length hclass)
    simp only [Option.map_some, Option.toList_some, List.map_cons, List.map_nil, List.sum_cons,
      List.sum_nil, Action.size]
    omega

lemma effect_size (i : Input) : 5 * ((effect mappings i).map Action.size).sum ≤ 11 * i.size := by
  cases i with
  | tick => simp [effect]
  | poll outcome => simp [effect]
  | recvFrom outcome =>
    rcases outcome with _ | ⟨data, sender⟩
    · simp [effect]
    · exact repliesTo_size mappings data.property sender
  | recv outcome =>
    rcases outcome with _ | ⟨packet, random⟩
    · simp [effect]
    · exact forwards_size mappings packet.property random

lemma effect_oneDatagram (data : Datagram) (sender : SocketAddr) :
    (oneDatagram data sender).flatMap (effect mappings) = repliesTo mappings data sender := by
  simp [oneDatagram, effect]

lemma repliesTo_response {data m : Bytes} {sender : SocketAddr} (hv : verdict data = .ok ())
    (hm : turned (canonicalOf sender) (relayedFor mappings sender) data = ⟨some m, []⟩) :
    repliesTo mappings data sender = [.sendTo m sender] := by
  rw [repliesTo, if_pos hv, hm]
  rfl

lemma mapped_size (addr : SocketAddrV6) : (Attribute.xorMappedAddress (.v6 addr)).size = 24 := by
  rw [Attribute.size_eq (a := .xorMappedAddress (.v6 addr)) (sockaddr_writes _ _ (.v6 addr))]
  simp [sockaddrSize, padding]

omit [Crypto] in
lemma bindingRequest_verdict : verdict bindingRequest = .ok () := (verdict_ok_iff _).mpr (by decide)

lemma turned_binding (canonical : SocketAddr) (relayed : SocketAddrV6) :
    ∃ m, turned canonical relayed bindingRequest = ⟨some m, []⟩ ∧
      m.length = 20 + (Attribute.xorMappedAddress canonical).size := by
  have htyp : typAt bindingRequest = 0x0001#16 := by decide
  have ha : answerTo canonical relayed bindingRequest =
      .respond .success [.xorMappedAddress canonical] := by
    rw [answerTo, classAt, methodAt, htyp, show classOf 0x0001#16 = .request by decide,
      show Method.ofCode (rawMethodOf 0x0001#16) = .binding by decide]
    simp [answer]
  obtain ⟨m, items, hturned, hm⟩ :=
    turned_respond bindingRequest_verdict bindingRequest_length (by decide) ha
  refine ⟨m, hturned, ?_⟩
  rw [hm.length (by simpa using ⟨_, _, sockaddr_writes _ _ canonical⟩)]
  simp [cost]

lemma oneRequest_answered : ∃ t m, run (step mappings) initial oneRequest = some t ∧
    t.actions = [.sendTo m (.v6 ⟨1, 4000, 0, 0⟩)] ∧ m.length = 44 := by
  obtain ⟨t, ht⟩ := run_oneDatagram mappings ⟨bindingRequest, bindingRequest_length⟩
    (.v6 ⟨1, 4000, 0, 0⟩)
  have hcanonical : canonicalOf (.v6 ⟨1, 4000, 0, 0⟩) = .v6 ⟨1, 4000, 0, 0⟩ := by decide
  obtain ⟨m, hm, hlen⟩ :=
    turned_binding (canonicalOf (.v6 ⟨1, 4000, 0, 0⟩)) (relayedFor mappings (.v6 ⟨1, 4000, 0, 0⟩))
  rw [hcanonical, mapped_size] at hlen
  have hnone : initial.actions = [] := rfl
  refine ⟨t, m, ht, ?_, hlen⟩
  rw [(logs mappings).run sound_initial ht, effect_oneDatagram, hnone, List.nil_append]
  exact repliesTo_response mappings bindingRequest_verdict hm

theorem amplification_factor :
    (∀ is t, run (step mappings) initial is = some t →
      5 * (t.actions.map Action.size).sum ≤ 11 * (is.map Input.size).sum) ∧
    ∃ is t, run (step mappings) initial is = some t ∧ 0 < (is.map Input.size).sum ∧
      5 * (t.actions.map Action.size).sum = 11 * (is.map Input.size).sum := by
  constructor
  · intro is t h
    exact (logs mappings).weighed sound_initial rfl h (effect_size mappings)
  · obtain ⟨t, m, ht, hactions, hlen⟩ := oneRequest_answered mappings
    have hsize : (oneRequest.map Input.size).sum = 20 := rfl
    refine ⟨oneRequest, t, ht, by rw [hsize]; norm_num, ?_⟩
    rw [hactions, hsize, List.map_cons, List.map_nil, List.sum_cons, List.sum_nil,
      Action.size, hlen]
    norm_num

end Amount

section Cause

variable [Crypto] (mappings : List Mapping)

inductive Caused (is : List Input) : Action → Prop
  | relayed {data : Datagram} {sender : SocketAddr} {peer : SocketAddrV6} {bytes packet : Bytes} :
      .recvFrom (some (data, sender)) ∈ is → Asks data.val peer bytes →
      Carries packet (relayedFor mappings sender) peer bytes → Caused is (.send packet)
  | answered {data : Datagram} {sender : SocketAddr} {response : Bytes} :
      .recvFrom (some (data, sender)) ∈ is → Answers response data.val →
        Caused is (.sendTo response sender)
  | told {packet : Datagram} {random : List.Vector UInt8 12} {sender receiver : SocketAddrV6}
      {bytes m : Bytes} :
      .recv (some (packet, random)) ∈ is → classify packet.val = .data sender receiver bytes →
      Tells m sender bytes → Caused is (.sendTo m (mappedReceiver mappings receiver))
  | reported {packet : Datagram} {random : List.Vector UInt8 12} {peer receiver : SocketAddrV6}
      {typ code : UInt8} {arg : List.Vector UInt8 4} {m : Bytes} :
      .recv (some (packet, random)) ∈ is → classify packet.val = .icmp peer receiver typ code arg →
      ReportsIcmp m peer typ code arg → Caused is (.sendTo m (mappedReceiver mappings receiver))

omit [Crypto] in
lemma relayedFor_plain (sender : SocketAddr) : (relayedFor mappings sender).Plain := ⟨rfl, rfl⟩

variable {mappings} {is : List Input} {a : Action}

lemma caused_of_replies {data : Datagram} {sender : SocketAddr}
    (hi : .recvFrom (some (data, sender)) ∈ is) (ha : a ∈ repliesTo mappings data sender) :
    Caused mappings is a := by
  rw [repliesTo] at ha
  split_ifs at ha with hv
  · rcases turned_meaning (canonicalOf sender) (relayedFor_plain mappings sender) hv
      data.property with
      hnone | ⟨m, hm, hanswers⟩ | ⟨peer, bytes, packet, hpacket, hasks, hcarries, -⟩
    · rw [hnone] at ha
      cases ha
    · rw [hm] at ha
      obtain rfl : a = .sendTo m sender := by simpa using ha
      exact .answered hi hanswers
    · rw [hpacket] at ha
      obtain rfl : a = .send packet := by simpa using ha
      exact .relayed hi hasks hcarries
  · cases ha

lemma caused_of_forwards {packet : Datagram} {random : List.Vector UInt8 12}
    (hi : .recv (some (packet, random)) ∈ is) (ha : a ∈ forwards mappings packet random) :
    Caused mappings is a := by
  rw [forwards] at ha
  rcases netted_meaning random packet.property with hnone |
    ⟨sender, receiver, bytes, m, hclass, hm, htells⟩ |
    ⟨peer, receiver, typ, code, arg, m, hclass, hm, hreports⟩
  · rw [hnone] at ha
    cases ha
  · rw [hm] at ha
    obtain rfl : a = .sendTo m (mappedReceiver mappings receiver) := by simpa using ha
    exact .told hi hclass htells
  · rw [hm] at ha
    obtain rfl : a = .sendTo m (mappedReceiver mappings receiver) := by simpa using ha
    exact .reported hi hclass hreports

lemma caused_of_effect {i : Input} (hi : i ∈ is) (ha : a ∈ effect mappings i) :
    Caused mappings is a := by
  cases i with
  | tick => cases ha
  | poll outcome => cases ha
  | recvFrom outcome =>
    rcases outcome with _ | ⟨data, sender⟩
    · cases ha
    · exact caused_of_replies hi ha
  | recv outcome =>
    rcases outcome with _ | ⟨packet, random⟩
    · cases ha
    · exact caused_of_forwards hi ha

theorem actions_caused {t : State} (h : run (step mappings) initial is = some t)
    (ha : a ∈ t.actions) :
    Caused mappings is a := by
  obtain ⟨i, hi, hai⟩ := (logs mappings).source sound_initial rfl h ha
  exact caused_of_effect hi hai

end Cause

theorem actions_caused_binding :
    letI : Crypto := .recorded [] [] []
    ∃ t m, run (step []) initial oneRequest = some t ∧ .sendTo m (.v6 ⟨1, 4000, 0, 0⟩) ∈ t.actions ∧
      Caused [] oneRequest (.sendTo m (.v6 ⟨1, 4000, 0, 0⟩)) := by
  let _ : Crypto := .recorded [] [] []
  obtain ⟨t, m, ht, hactions, -⟩ := oneRequest_answered []
  have hm : .sendTo m (.v6 ⟨1, 4000, 0, 0⟩) ∈ t.actions := by
    rw [hactions]
    exact List.mem_singleton_self _
  exact ⟨t, m, ht, hm, actions_caused ht hm⟩

end Masquerade.TurnserverUdp
