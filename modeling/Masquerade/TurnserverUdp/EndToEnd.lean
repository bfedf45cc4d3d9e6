import Masquerade.Common.Icmp
import Masquerade.TurnserverUdp.Traffic

/-! From client to client through the UDP server, whatever else it does in between. -/

namespace Masquerade.TurnserverUdp

open Lib Stun Common Wire

def dualStack (addr : SocketAddr) : SocketAddr := .v6 ⟨mappedIp (ipOf addr), addr.port, 0, 0⟩

lemma mappedReceiver_relayedFor {mappings : List Mapping} {client : SocketAddr}
    (h : Separate mappings (mappedIp (ipOf client))) :
    mappedReceiver mappings (relayedFor mappings client) = dualStack client := by
  have hback := (firstMatchBack_firstMatch_iff _ _).mpr ((unambiguous_iff mappings _).mpr h)
  rw [firstMatchBack, List.map_map] at hback
  rw [mappedReceiver, relayedFor, relayedOf, dualStack, Mapping.applyFirst_eq Mapping.toNet_eq,
    Mapping.applyFirst_eq (e := fun m => m.translation.symm) Mapping.toUdp_eq]
  exact congrArg (fun ip => SocketAddr.v6 ⟨ip, client.port, 0, 0⟩) hback

section

variable [Crypto] {mappings : List Mapping}

def Reached (mappings : List Mapping) (s : State) : Prop :=
  ∃ is, run (step mappings) initial is = some s

lemma Reached.sound {s : State} (h : Reached mappings s) : Sound s := by
  obtain ⟨is, his⟩ := h
  exact run_invariant (logs mappings).keeps sound_initial his

lemma Reached.adds {s t : State} {i : Input} (h : Reached mappings s)
    (ht : step mappings s i = some t) :
    t.actions = s.actions ++ effect mappings i :=
  (step_sound mappings h.sound ht).2

lemma repliesTo_packet {data packet : Bytes} {sender : SocketAddr} (hv : verdict data = .ok ())
    (h : turned (canonicalOf sender) (relayedFor mappings sender) data = ⟨none, [packet]⟩) :
    repliesTo mappings data sender = [.send packet] := by
  rw [repliesTo, if_pos hv, h]
  rfl

lemma forwards_message {packet m : Bytes} {random : List.Vector UInt8 12} {receiver : SocketAddrV6}
    (h : netted random packet = some (receiver, m)) :
    forwards mappings packet random = [.sendTo m (mappedReceiver mappings receiver)] := by
  rw [forwards, h]
  rfl

lemma verdict_of_replies {data : Bytes} {sender : SocketAddr}
    (h : repliesTo mappings data sender ≠ []) :
    verdict data = .ok () := by
  by_contra hv
  exact h (if_neg hv)

lemma Response.reads {canonical : SocketAddr} {relayed : SocketAddrV6} (hr : relayed.Plain)
    {a : TurnAttrs} {message m : Bytes} {c : Stun.Class} {as : List Attribute}
    {items : List Item} (harm : Arm canonical relayed .allocate a c as)
    (hm : Response message c as m items) (hclass : msgClass m = .ok .success) :
    parsed Stun.xorRelayedAddress m = .ok (some (.v6 relayed)) := by
  have hml := hm.built.length
  obtain rfl : c = .success := by
    rw [← Except.ok.injEq, ← hclass, msgClass_ok (by omega), hm.typ, classOf_withClass]
  cases harm with
  | binding h => cases h
  | refresh _ h => cases h
  | createPermission _ h => cases h
  | allocate hv _ _ =>
    obtain ⟨i₁, i₂, i₃, i₄, rfl⟩ : ∃ i₁ i₂ i₃ i₄, items = [i₁, i₂, i₃, i₄] :=
      List.length_eq_four.mp hm.wrote.length_eq.symm
    obtain ⟨h₁, h₂, -⟩ : _ ∧ _ ∧ _ := by simpa using hm.wrote
    have t₁ : i₁.typ = Typ.xorMappedAddress := h₁.typ
    have t₂ : i₂.typ = Typ.xorRelayedAddress := h₂.typ
    have hitems := hm.built.itemsOf []
    rw [List.append_nil] at hitems
    have hheard : heard Typ.xorRelayedAddress mustPrecede (itemsOf m) = some i₂ := by
      rw [hitems, heard_cons, t₁, if_neg (by decide), if_neg (by decide), heard_cons, if_pos t₂]
    refine (parsed_eq (sockaddr_safe _ _) (by omega)).trans (congrArg Except.ok ?_)
    exact (congrArg (Option.bind · _) hheard).trans (read_xorRelayed (a := .v6 relayed) hr h₂)

lemma allocation_tells {client : SocketAddr} {request : Datagram} {response : Bytes}
    (hreplies : repliesTo mappings request client = [.sendTo response client])
    (hmethod : method request.val = .ok .allocate) (hclass : msgClass response = .ok .success) :
    parsed Stun.xorRelayedAddress response = .ok (some (.v6 (relayedFor mappings client))) := by
  have hv : verdict request.val = .ok () :=
    verdict_of_replies (by rw [hreplies]; exact List.cons_ne_nil _ _)
  have hlen := answerable_length hv
  have hcases := turned_cases (canonicalOf client) (relayedFor mappings client) hv request.property
  rw [repliesTo, if_pos hv] at hreplies
  generalize turned (canonicalOf client) (relayedFor mappings client) request.val =
    observed at hreplies hcases
  cases hcases with
  | ignored => cases hreplies
  | sent => cases hreplies
  | responded _ _ harm hm =>
    cases hreplies
    rw [method_eq (by omega) hmethod] at harm
    exact Response.reads (relayedFor_plain mappings client) harm hm hclass

/-- The three steps may be any steps of any runs, in any order: of one server with whatever else it
handles between them, or of servers that were stopped and started again. -/
theorem delivered_between_clients {A B : SocketAddr} (hB : Separate mappings (mappedIp (ipOf B)))
    {s₁ t₁ : State} {request : Datagram} {response : Bytes} (h₁ : Reached mappings s₁)
    (hstep₁ : step mappings s₁ (.recvFrom (some (request, B))) = some t₁)
    (hresponse : t₁.actions = s₁.actions ++ [.sendTo response B])
    (hmethod : method request.val = .ok .allocate) (hclass : msgClass response = .ok .success)
    {peer : SocketAddrV6} (hpeer : parsed Stun.xorRelayedAddress response = .ok (some (.v6 peer)))
    {s₂ t₂ : State} {indication : Datagram} {bytes : Bytes} (h₂ : Reached mappings s₂)
    (hstep₂ : step mappings s₂ (.recvFrom (some (indication, A))) = some t₂)
    (hasks : Asks indication.val peer bytes) :
    ∃ packet : Datagram, t₂.actions = s₂.actions ++ [.send packet] ∧
      ∀ s₃ t₃ random, Reached mappings s₃ →
        step mappings s₃ (.recv (some (packet, random))) = some t₃ →
        ∃ m, t₃.actions = s₃.actions ++ [.sendTo m (dualStack B)] ∧
          Tells m (relayedFor mappings A) bytes := by
  have hreplies : repliesTo mappings request B = [.sendTo response B] :=
    List.append_cancel_left ((h₁.adds hstep₁).symm.trans hresponse)
  obtain rfl : relayedFor mappings B = peer := by
    simpa [hpeer, eq_comm] using allocation_tells hreplies hmethod hclass
  obtain ⟨packet, hturned, hcarries, hle⟩ :=
    turned_asks (canonicalOf A) (relayedFor_plain mappings A) indication.property hasks
  have hpacket : packet.length ≤ 65536 := hle.trans indication.property
  refine ⟨⟨packet, hpacket⟩, ?_, ?_⟩
  · rw [h₂.adds hstep₂, effect, repliesTo_packet hasks.decodes hturned]
  · intro s₃ t₃ random h₃ hstep₃
    obtain ⟨m, hm, htells⟩ := netted_data random hpacket hcarries.fields
    refine ⟨m, ?_, htells⟩
    rw [h₃.adds hstep₃, effect, forwards_message hm, mappedReceiver_relayedFor hB]

theorem failures_reported {A : SocketAddr} (hA : Separate mappings (mappedIp (ipOf A)))
    {s₁ t₁ : State} {indication : Datagram} {peer : SocketAddrV6}
    {bytes : Bytes} (h₁ : Reached mappings s₁)
    (hstep₁ : step mappings s₁ (.recvFrom (some (indication, A))) = some t₁)
    (hasks : Asks indication.val peer bytes) :
    ∃ packet, t₁.actions = s₁.actions ++ [.send packet] ∧
      Carries packet (relayedFor mappings A) peer bytes ∧
      ∀ (error : Datagram) icmp body, IcmpPacket error.val (relayedFor mappings A).ip icmp body →
        1 ≤ icmp.typ ∧ icmp.typ ≤ 3 → 48 ≤ body.length → body <+: packet → ∀ s₂ t₂ random,
        Reached mappings s₂ → step mappings s₂ (.recv (some (error, random))) = some t₂ →
          ∃ m, t₂.actions = s₂.actions ++ [.sendTo m (dualStack A)] ∧
            ReportsIcmp m peer icmp.typ icmp.code icmp.arg := by
  have hv := hasks.decodes
  have hrelayed := relayedFor_plain mappings A
  obtain ⟨hzero, start, ha⟩ := (asks_iff (canonicalOf A) (relayedFor mappings A) hv).mp hasks
  obtain ⟨hsmall, hroom, checksum, hfill, hturned⟩ := turned_relay hv indication.property hzero ha
  refine ⟨_, ?_, carries_datagram hrelayed (plain_peer hasks) hsmall hfill, ?_⟩
  · rw [h₁.adds hstep₁, effect, repliesTo_packet hv hturned]
  · intro error icmp body hicmp htyp h48 hquoted s₂ t₂ random h₂ hstep₂
    have hclass := classify_icmp hicmp htyp hsmall h48 hquoted
    rw [← SocketAddrV6.eq_of_plain hrelayed,
      ← SocketAddrV6.eq_of_plain (plain_peer hasks)] at hclass
    obtain ⟨m, hm, hreports⟩ := netted_icmp random error.property hclass
    refine ⟨m, ?_, hreports⟩
    rw [h₂.adds hstep₂, effect, forwards_message hm, mappedReceiver_relayedFor hA]

variable (mappings)

lemma reached_udp : ∃ s, Reached mappings s ∧ s.pc = .udp :=
  ⟨_, ⟨[.tick, .poll (some [.udp]), .tick], rfl⟩, rfl⟩

lemma reached_tun : ∃ s, Reached mappings s ∧ s.pc = .tun :=
  ⟨_, ⟨[.tick, .poll (some [.tun]), .tick], rfl⟩, rfl⟩

lemma step_recvFrom {s : State} (hpc : s.pc = .udp) (data : Datagram) (sender : SocketAddr) :
    ∃ t, step mappings s (.recvFrom (some (data, sender))) = some t := ⟨_, if_pos hpc⟩

lemma step_recv {s : State} (hpc : s.pc = .tun) (packet : Datagram)
    (random : List.Vector UInt8 12) :
    ∃ t, step mappings s (.recv (some (packet, random))) = some t := ⟨_, if_pos hpc⟩

end

def alice : SocketAddr := .v6 ⟨0xFD000000000000000000000000000001, 32768, 0, 0⟩

def bob : SocketAddr := .v6 ⟨0xFD000000000000000000000000000002, 32769, 0, 0⟩

def bobsResponse : Bytes :=
  [0x01, 0x03, 0x00, 0x50, 0x21, 0x12, 0xA4, 0x42, 0x01, 0x02, 0x03, 0x04, 0x05, 0x06, 0x07, 0x08,
    0x09, 0x0A, 0x0B, 0x0C, 0x00, 0x20, 0x00, 0x14, 0x00, 0x02, 0xA1, 0x13, 0xDC, 0x12, 0xA4, 0x42,
    0x01, 0x02, 0x03, 0x04, 0x05, 0x06, 0x07, 0x08, 0x09, 0x0A, 0x0B, 0x0E, 0x00, 0x16, 0x00, 0x14,
    0x00, 0x02, 0xA1, 0x13, 0xDC, 0x12, 0xA4, 0x42, 0x01, 0x02, 0x03, 0x04, 0x05, 0x06, 0x07, 0x08,
    0x09, 0x0A, 0x0B, 0x0E, 0x00, 0x0D, 0x00, 0x04, 0x00, 0x00, 0x03, 0xE8, 0x00, 0x08, 0x00, 0x14,
    0x3F, 0xA3, 0x3F, 0x04, 0x21, 0x59, 0x8E, 0x2C, 0x53, 0x0E, 0x4A, 0x4B, 0x1C, 0x2C, 0x3D, 0x96,
    0x39, 0x1F, 0x7F, 0xBF]

@[reducible] def bobsDigests : Crypto :=
  .recorded [((userKey.toList, allocateRequest.take 52), ⟨allocateRequest.drop 56, rfl⟩),
    ((userKey.toList, bobsResponse.take 76), ⟨slice bobsResponse 80 20, rfl⟩)]
    [(userCredentials, userKey)] []

lemma bob_allocates :
    letI := bobsDigests
    repliesTo [] allocateRequest bob = [.sendTo bobsResponse bob] := by
  let _ := bobsDigests
  have hdec : Decodable (allocateRequest ++ List.replicate 24 0) 76 :=
    ⟨by decide, by decide +kernel⟩
  have hrun : handleTurn (canonicalOf bob) (relayedFor [] bob)
      (allocateRequest ++ List.replicate 24 0) = .ok ⟨bobsResponse, [], true⟩ := by
    decide +kernel
  have hturned := turned_eq _ _ hdec (by decide) (by norm_num) hrun
  have hobserved : Outcome.observed ⟨bobsResponse, [], true⟩ = ⟨some bobsResponse, []⟩ := by
    decide +kernel
  have htake : (allocateRequest ++ List.replicate 24 (0 : UInt8)).take 76 = allocateRequest := rfl
  rw [hobserved, htake] at hturned
  exact repliesTo_response [] ((verdict_ok_iff _).mpr (by decide)) hturned

def hello : Bytes := [0x68, 0x65, 0x6C, 0x6C, 0x6F]

lemma sendIndication_asks :
    Asks sendIndication ⟨0xFD000000000000000000000000000002, 32769, 0, 0⟩ hello where
  decodes := (verdict_ok_iff _).mpr (by decide)
  txid := by decide
  indication := by decide
  send := by decide
  attrs := ⟨_, 48, parseTurn_eq (by decide), by decide +kernel, by decide +kernel,
    by decide +kernel⟩

theorem delivered_between_clients_hello :
    letI := bobsDigests
    ∃ s₂ t₂ packet, Reached [] s₂ ∧
      step [] s₂ (.recvFrom (some (⟨sendIndication, by decide⟩, alice))) = some t₂ ∧
      t₂.actions = s₂.actions ++ [.send packet.val] ∧ ∃ s₃ t₃ m, Reached [] s₃ ∧
        step [] s₃ (.recv (some (packet, List.Vector.replicate 12 7))) = some t₃ ∧
        t₃.actions = s₃.actions ++ [.sendTo m bob] ∧ Tells m (relayedFor [] alice) hello := by
  let _ := bobsDigests
  obtain ⟨s, hs, hpc⟩ := reached_udp []
  obtain ⟨t₁, ht₁⟩ := step_recvFrom [] hpc ⟨allocateRequest, by decide⟩ bob
  obtain ⟨t₂, ht₂⟩ := step_recvFrom [] hpc ⟨sendIndication, by decide⟩ alice
  have hresponse : t₁.actions = s.actions ++ [.sendTo bobsResponse bob] := by
    rw [hs.adds ht₁, effect, bob_allocates]
  obtain ⟨packet, hpacket, hdelivered⟩ :=
    delivered_between_clients (.inl fun m hm => absurd hm List.not_mem_nil) hs ht₁ hresponse
    (by decide +kernel) (by decide +kernel) (by decide +kernel) hs ht₂ sendIndication_asks
  obtain ⟨s₃, hs₃, hpc₃⟩ := reached_tun []
  obtain ⟨t₃, ht₃⟩ := step_recv [] hpc₃ packet (List.Vector.replicate 12 7)
  obtain ⟨m, hm, htells⟩ := hdelivered s₃ t₃ _ hs₃ ht₃
  exact ⟨s, t₂, packet, hs, ht₂, hpacket, s₃, t₃, m, hs₃, ht₃, hm, htells⟩

def noRoute (packet : Bytes) : Bytes :=
  (⟨0x60000000#32, 56, IpProto.icmp6, 64, 9, 0xFD000000000000000000000000000001⟩ :
    Ip6Header).asBytes ++ [0x01, 0x04, 0x00, 0x00, 0x00, 0x00, 0x00, 0x00] ++ packet.take 48

theorem failures_reported_hello :
    letI := bobsDigests
    ∃ s₁ t₁ packet error, Reached [] s₁ ∧
      step [] s₁ (.recvFrom (some (⟨sendIndication, by decide⟩, alice))) = some t₁ ∧
      t₁.actions = s₁.actions ++ [.send packet] ∧ error.val = noRoute packet ∧
        ∃ s₂ t₂ m, Reached [] s₂ ∧
        step [] s₂ (.recv (some (error, List.Vector.replicate 12 7))) = some t₂ ∧
        t₂.actions = s₂.actions ++ [.sendTo m alice] ∧
          ReportsIcmp m ⟨0xFD000000000000000000000000000002, 32769, 0, 0⟩ 1 4
            (List.Vector.replicate 4 0) := by
  let _ := bobsDigests
  obtain ⟨s₁, hs₁, hpc₁⟩ := reached_udp []
  obtain ⟨t₁, ht₁⟩ := step_recvFrom [] hpc₁ ⟨sendIndication, by decide⟩ alice
  obtain ⟨packet, hpacket, hcarries, hreported⟩ :=
    failures_reported (.inl fun m hm => absurd hm List.not_mem_nil) hs₁ ht₁ sendIndication_asks
  have h48 : 48 ≤ packet.length := (data_bytes hcarries.fields).2
  have hlen : (noRoute packet).length = 96 := by simp [noRoute, h48]
  obtain ⟨s₂, hs₂, hpc₂⟩ := reached_tun []
  obtain ⟨t₂, ht₂⟩ := step_recv [] hpc₂ ⟨noRoute packet, by omega⟩ (List.Vector.replicate 12 7)
  have hip : Ip6Header.ofBytes (noRoute packet) =
      ⟨0x60000000#32, 56, IpProto.icmp6, 64, 9, 0xFD000000000000000000000000000001⟩ := by
    rw [noRoute, List.append_assoc, Ip6Header.ofBytes_asBytes]
  have hicmp : IcmpPacket (noRoute packet) (relayedFor [] alice).ip
      ⟨1, 4, 0, List.Vector.replicate 4 0⟩ (packet.take 48) := by
    refine ⟨by rw [hip]; decide, by rw [hip, hlen]; decide, by rw [hip],
      by rw [hip]; decide, ?_, ?_⟩
    · rw [noRoute, List.append_assoc, List.drop_left' (Ip6Header.asBytes_length _),
        ← Icmp6Header.ofBytes_take (show 8 ≤ 8 from le_rfl),
        List.take_append_of_le_length (by decide)]
      decide
    · exact List.drop_left' (by simp)
  obtain ⟨m, hm, hreports⟩ := hreported ⟨noRoute packet, by omega⟩ _ _ hicmp (by decide)
    (by simp [h48]) (List.take_prefix 48 packet) s₂ t₂ _ hs₂ ht₂
  exact ⟨s₁, t₁, packet, _, hs₁, ht₁, hpacket, rfl, s₂, t₂, m, hs₂, ht₂, hm, hreports⟩

end Masquerade.TurnserverUdp
