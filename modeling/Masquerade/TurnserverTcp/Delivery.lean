import Masquerade.Common.Relay
import Masquerade.TurnserverTcp.Invariant

/-! Which connection a packet from the network is delivered to. -/

namespace Masquerade.TurnserverTcp

open Lib Stun Common

lemma Mapping.subnet_of_new {subnet : Ipv6Net} {m : Mapping} (h : Mapping.new subnet = .ok m) :
    m.subnet = subnet := by
  unfold Mapping.new at h
  split_ifs at h
  cases h
  rfl

section Lookup

variable {m : Mapping} {streams : Slab Conn}

lemma Routed.ofNat_toNat (h : Routed m streams) {k : ℕ} {c : Conn} (hc : streams.get k = some c) :
    (BitVec.ofNat 64 k).toNat = k := by
  have hlt := (h k c hc).1
  simp only [maxSlots] at hlt
  rw [BitVec.toNat_ofNat, Nat.mod_eq_of_lt (by omega)]

lemma Routed.lookup (h : Routed m streams) (hroom : m.HostRoom) {k : ℕ} {c : Conn}
    (hc : streams.get k = some c) :
    m.toIndex c.relayed = some (BitVec.ofNat 64 k) :=
  m.toIndex_of_fromIndex hroom (h k c hc).2

lemma Routed.inj (h : Routed m streams) (hroom : m.HostRoom) {k k' : ℕ}
    {c c' : Conn} (hc : streams.get k = some c) (hc' : streams.get k' = some c')
    (he : c'.relayed = c.relayed) : k' = k := by
  have hindex := (h.lookup hroom hc').symm.trans (he ▸ h.lookup hroom hc)
  rw [← h.ofNat_toNat hc', ← h.ofNat_toNat hc, Option.some.inj hindex]

lemma Routed.relayed_of_toIndex (h : Routed m streams) {addr : SocketAddrV6} {index : Usize}
    {c : Conn} (hindex : m.toIndex addr = some index) (hc : streams.get index.toNat = some c) :
    c.relayed = ⟨addr.ip, addr.port ||| 0x8000, 0, 0⟩ := by
  have hfrom := (h _ c hc).2
  rw [BitVec.ofNat_toNat, BitVec.setWidth_eq, m.fromIndex_of_toIndex hindex] at hfrom
  exact (Option.some.inj hfrom).symm

end Lookup

lemma high_port_iff {addr : SocketAddrV6} (hplain : addr.Plain) :
    (⟨addr.ip, addr.port ||| 0x8000, 0, 0⟩ : SocketAddrV6) = addr ↔ 0x8000 ≤ addr.port := by
  rw [← Mapping.port_or_high]
  constructor
  · intro h
    exact congrArg SocketAddrV6.port h
  · intro h
    rw [h]
    exact (SocketAddrV6.eq_of_plain hplain).symm

section

variable [Crypto]

theorem relayed_addresses_unique_iff {subnet : Ipv6Net} {m : Mapping}
    (hm : Mapping.new subnet = .ok m) :
    ((∀ index addr, m.fromIndex index = some addr → m.toIndex addr = some index) ∧
      ∀ s, Reachable m s → ∀ k c, s.streams.get k = some c →
        (∀ k' c', s.streams.get k' = some c' → c'.relayed = c.relayed → k' = k) ∧
        ∃ index, m.toIndex c.relayed = some index ∧ s.streams.get index.toNat = some c) ↔
      subnet.network.setWidth 49 = 0#49 := by
  obtain rfl := Mapping.subnet_of_new hm
  constructor
  · rintro ⟨hround, -⟩
    exact m.hostRoom_of_round_trip hround
  · intro hroom
    refine ⟨fun index addr h => m.toIndex_of_fromIndex hroom h, ?_⟩
    intro s hs k c hc
    have hslots := hs.inv.slots
    refine ⟨fun k' c' hc' he => hslots.inj hroom hc hc' he, _, hslots.lookup hroom hc, ?_⟩
    rw [hslots.ofNat_toNat hc, hc]

end

def defaultNet : Ipv6Net := ⟨0xFD010000000000000000000000000000#128, 79, by decide⟩

def defaultMapping : Mapping := ⟨defaultNet, by decide⟩

theorem relayed_addresses_unique_iff_default :
    letI : Crypto := .recorded [] [] []
    (∀ index addr, defaultMapping.fromIndex index = some addr →
      defaultMapping.toIndex addr = some index) ∧
      ∀ s, Reachable defaultMapping s → ∀ k c, s.streams.get k = some c →
        (∀ k' c', s.streams.get k' = some c' → c'.relayed = c.relayed → k' = k) ∧
        ∃ index, defaultMapping.toIndex c.relayed = some index ∧
          s.streams.get index.toNat = some c := by
  let _ : Crypto := .recorded [] [] []
  have hnew : Mapping.new defaultNet = .ok defaultMapping := rfl
  exact (relayed_addresses_unique_iff hnew).mpr (by decide)

def oddNet : Ipv6Net := ⟨0xFD010000000000000000000000000001#128, 128, by decide⟩

theorem relayed_address_of_two_indexes : ∃ m addr, Mapping.new oddNet = .ok m ∧
    m.fromIndex 32768 = some addr ∧ m.toIndex addr = some 0 ∧ m.fromIndex 0 = some addr :=
  ⟨⟨oddNet, by decide⟩, ⟨0xFD010000000000000000000000000001#128, 0x8000, 0, 0⟩, rfl,
    by decide +kernel, by decide +kernel, by decide +kernel⟩

section

variable [Crypto]

section Routing

variable {m : Mapping} {s s' : State} {packet msg : Bytes} {random : List.Vector UInt8 12}
  {receiver : SocketAddrV6}

lemma step_recv_net (hs : Inv m s) (hpc : s.pc = .tun) (hlen : packet.length ≤ 65536) (hnet :
    handleNet packet.length random (splice s.buffer 0 packet) = .ok (some (receiver, msg))) :
    step m s (.recv (some (packet, random))) =
      some (route m { s with buffer := msg } receiver) := by
  have hbuffer := hs.buffer
  rw [step_recv hpc, recv]
  simp only [if_neg (show ¬ s.buffer.length < packet.length by omega), hnet]

lemma step_recv_routed (hs : Inv m s) (hpc : s.pc = .tun) (hlen : packet.length ≤ 65536)
    (hnet : handleNet packet.length random (splice s.buffer 0 packet) = .ok (some (receiver, msg)))
    {index : Usize} {c : Conn} (hindex : m.toIndex receiver = some index)
    (hc : s.streams.get index.toNat = some c) (hkept : c.partialFrame = none) :
    ∃ frame, step m s (.recv (some (packet, random))) =
      some ({ s with buffer := msg }.goto (.tunWrite index.toNat frame)) := by
  obtain ⟨frame, hframe, -⟩ := frame_of_net hs.buffer hlen hnet
  refine ⟨frame, ?_⟩
  rw [step_recv_net hs hpc hlen hnet, route]
  simp [hindex, hc, hkept, hframe]

lemma target_of_tunWrite (hs : Inv m s) (hpc : s.pc = .tun) (hlen : packet.length ≤ 65536)
    (hnet : handleNet packet.length random (splice s.buffer 0 packet) = .ok (some (receiver, msg)))
    (hstep : step m s (.recv (some (packet, random))) = some s') {k : ℕ} {frame : Bytes}
    (hk : s'.pc = .tunWrite k frame) : ∃ index c, m.toIndex receiver = some index ∧
    index.toNat = k ∧
      s.streams.get index.toNat = some c ∧ c.partialFrame = none := by
  rw [step_recv_net hs hpc hlen hnet, Option.some.injEq] at hstep
  rw [← hstep, route] at hk
  cases hindex : m.toIndex receiver with
  | none => simp [hindex, hpc] at hk
  | some index =>
    cases hc : s.streams.get index.toNat with
    | none => simp [hindex, hc, hpc] at hk
    | some c =>
      obtain ⟨f, hframe, -⟩ := frame_of_net hs.buffer hlen hnet
      cases hkept : c.partialFrame with
      | some rest => simp [hindex, hc, hkept, hpc] at hk
      | none =>
        simp only [hindex, hc, hkept, hframe, Option.isSome_none, Bool.false_eq_true, if_false,
          State.goto_pc, Pc.tunWrite.injEq] at hk
        exact ⟨index, c, rfl, hk.1, hc, hkept⟩

end Routing

theorem delivered_to_receiver_iff {m : Mapping} {s : State} (hs : Reachable m s)
    (hpc : s.pc = .tun) {packet : Bytes} (hlen : packet.length ≤ 65536)
    {random : List.Vector UInt8 12} {receiver : SocketAddrV6} {msg : Bytes}
    (hnet : handleNet packet.length random (splice s.buffer 0 packet) = .ok (some (receiver, msg)))
    {s' : State} (hstep : step m s (.recv (some (packet, random))) = some s') :
    ((∀ k frame, s'.pc = .tunWrite k frame → ∃ c, s.streams.get k = some c ∧ c.relayed = receiver) ↔
      (0x8000 ≤ receiver.port ∨ ¬ ∃ index c, m.toIndex receiver = some index ∧
        s.streams.get index.toNat = some c ∧ c.partialFrame = none)) ∧
    ∀ addr index, addr.Plain → m.toIndex addr = some index →
      (m.fromIndex index = some addr ↔ 0x8000 ≤ addr.port) := by
  have hinv := hs.inv
  have hplain := (handleNet_result hnet).2
  refine ⟨?_, ?_⟩
  · constructor
    · intro hdelivered
      by_contra hnot
      rw [not_or, not_not] at hnot
      obtain ⟨hport, index, c, hindex, hc, hkept⟩ := hnot
      obtain ⟨frame, hwrite⟩ := step_recv_routed hinv hpc hlen hnet hindex hc hkept
      obtain rfl := Option.some.inj (hstep.symm.trans hwrite)
      obtain ⟨c', hc', hrelayed⟩ := hdelivered _ frame rfl
      obtain rfl := Option.some.inj (hc.symm.trans hc')
      rw [hinv.slots.relayed_of_toIndex hindex hc, high_port_iff hplain] at hrelayed
      exact hport hrelayed
    · intro hcond k frame hwrite
      obtain ⟨index, c, hindex, rfl, hc, hkept⟩ :=
        target_of_tunWrite hinv hpc hlen hnet hstep hwrite
      refine ⟨c, hc, ?_⟩
      rw [hinv.slots.relayed_of_toIndex hindex hc, high_port_iff hplain]
      exact hcond.resolve_right fun hnone => hnone ⟨index, c, hindex, hc, hkept⟩
  · intro addr index haddr hindex
    rw [m.fromIndex_of_toIndex hindex, Option.some.injEq, high_port_iff haddr]

lemma recv_exists (m : Mapping) {s : State} (hpc : s.pc = .tun) (packet : Bytes)
    (hlen : packet.length ≤ s.buffer.length) (random : List.Vector UInt8 12) :
    ∃ s', step m s (.recv (some (packet, random))) = some s' := by
  rw [step_recv hpc, recv, if_neg (Nat.not_lt.mpr hlen)]
  exact ⟨_, rfl⟩

omit [Crypto] in
lemma datagram_nil_length (src dst : SocketAddrV6) : (datagram src dst [] 0).length = 48 := by
  rw [datagram_length]
  rfl

lemma handleNet_datagram {b : Bytes} (hb : b.length = 65536) (random : List.Vector UInt8 12)
    (src dst : SocketAddrV6) :
    ∃ msg, handleNet (datagram src dst [] 0).length random (splice b 0 (datagram src dst [] 0)) =
      .ok (some (⟨dst.ip, dst.port, 0, 0⟩, msg)) := by
  have hlen := datagram_nil_length src dst
  have hclassify := classify_datagram src dst [] 0 (by norm_num)
  rcases handleNet_message random (datagram src dst [] 0) (by omega) with ⟨hdrop, -⟩ |
    ⟨receiver, m, items, hreceiver, -, -, -, hrun⟩
  · rw [hclassify] at hdrop
    cases hdrop
  · rw [hclassify] at hreceiver
    obtain ⟨tail, htail⟩ := hrun _ (received_splice hb (by omega))
    exact ⟨_, htail.trans (by rw [← Option.some.inj hreceiver])⟩

lemma reachable_tun {m : Mapping} {relayed : SocketAddrV6}
    (hrelayed : m.fromIndex 0#64 = some relayed) (es : List Event)
    (hes : ∀ e ∈ es, e.token = .tcp ∨ e.token = .conn 0) :
    ∃ s, Reachable m s ∧ s.pc = .tun ∧ s.events = es ∧ s.accepts = 1 ∧ s.raised 0 = some 0 ∧
      s.streams = Slab.empty.insert (.fresh relayed 0) := by
  obtain ⟨s, hs, hpc, haccepts, hstreams⟩ : ∃ s, Reachable m s ∧ _ :=
    run_firstClient (fun _ _ _ _ => trivial) hrelayed
  have hget : s.streams.get 0 = some (.fresh relayed 0) := by
    rw [hstreams]
    rfl
  have hregistered : ∀ e ∈ (⟨.tun, true, false, false, false⟩ : Event) :: es, s.Registered e := by
    intro e he
    rcases List.mem_cons.mp he with rfl | he
    · trivial
    · rcases hes e he with ht | ht <;> simp [State.Registered, ht, hget]
  exact ⟨_, Run.event (fun _ _ _ _ => trivial) hs hpc _ es hregistered, rfl, rfl, haccepts,
    by simp [dispatch, State.idAt, hget, Conn.fresh], hstreams⟩

end

def outsider : SocketAddrV6 := ⟨0xFD020000000000000000000000000001#128, 4000, 0, 0⟩

def firstRelayed : SocketAddrV6 := ⟨0xFD010000000000000000000000000000#128, 0x8000, 0, 0⟩

lemma firstRelayed_eq : defaultMapping.fromIndex 0#64 = some firstRelayed := by decide +kernel

theorem delivered_to_receiver_iff_first :
    letI : Crypto := .recorded [] [] []
    ∃ s s', Reachable defaultMapping s ∧
      step defaultMapping s (.recv (some (datagram outsider firstRelayed [] 0,
      List.Vector.replicate 12 0))) = some s' ∧ ∀ k frame, s'.pc = .tunWrite k frame →
      ∃ c, s.streams.get k = some c ∧ c.relayed = firstRelayed := by
  let _ : Crypto := .recorded [] [] []
  obtain ⟨s, hs, hpc, -⟩ := reachable_tun firstRelayed_eq [] (by simp)
  have hbuffer := hs.inv.buffer
  have hlen := datagram_nil_length outsider firstRelayed
  obtain ⟨msg, hnet⟩ :=
    handleNet_datagram hbuffer (List.Vector.replicate 12 0) outsider firstRelayed
  obtain ⟨s', hs'⟩ := recv_exists defaultMapping hpc (datagram outsider firstRelayed [] 0)
    (by omega) (List.Vector.replicate 12 0)
  exact ⟨s, s', hs, hs', (delivered_to_receiver_iff hs hpc (by omega) hnet hs').1.mpr
    (.inl (by decide))⟩

theorem low_port_delivered :
    letI : Crypto := .recorded [] [] []
    ∃ s s' c frame, Reachable defaultMapping s ∧
      step defaultMapping s (.recv (some (datagram outsider ⟨firstRelayed.ip, 0, 0, 0⟩ [] 0,
        List.Vector.replicate 12 0))) =
        some s' ∧
      (∃ msg, handleNet (datagram outsider ⟨firstRelayed.ip, 0, 0, 0⟩ [] 0).length
        (List.Vector.replicate 12 0)
        (splice s.buffer 0 (datagram outsider ⟨firstRelayed.ip, 0, 0, 0⟩ [] 0)) =
          .ok (some (⟨firstRelayed.ip, 0, 0, 0⟩, msg))) ∧
      s'.pc = .tunWrite 0 frame ∧ s.streams.get 0 = some c ∧
        c.relayed ≠ ⟨firstRelayed.ip, 0, 0, 0⟩ := by
  let _ : Crypto := .recorded [] [] []
  obtain ⟨s, hs, hpc, -, -, -, hstreams⟩ := reachable_tun firstRelayed_eq [] (by simp)
  have hbuffer := hs.inv.buffer
  have hlen := datagram_nil_length outsider ⟨firstRelayed.ip, 0, 0, 0⟩
  have hget : s.streams.get 0 = some (.fresh firstRelayed 0) := by
    rw [hstreams]
    rfl
  obtain ⟨msg, hnet⟩ := handleNet_datagram hbuffer (List.Vector.replicate 12 0) outsider
    ⟨firstRelayed.ip, 0, 0, 0⟩
  have hindex : defaultMapping.toIndex ⟨firstRelayed.ip, 0, 0, 0⟩ = some 0#64 := by decide +kernel
  obtain ⟨frame, hs'⟩ := step_recv_routed hs.inv hpc (by omega) hnet hindex hget rfl
  exact ⟨s, _, _, frame, hs, hs', ⟨msg, hnet⟩, rfl, hget, by decide⟩

end Masquerade.TurnserverTcp
