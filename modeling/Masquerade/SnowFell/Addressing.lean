import Masquerade.SnowFell.Machine

/-! The addresses that stand for associations: announced, routed to and filtered by. -/

namespace Masquerade.SnowFell

open Lib Wire

lemma Mac.exists_bytes : (mac : Mac) → ∃ a b c d e f, mac = ⟨[a, b, c, d, e, f], rfl⟩
  | ⟨[a, b, c, d, e, f], _⟩ => ⟨a, b, c, d, e, f, rfl⟩

section Addresses

variable (oui : Oui) (a b : AssocId)

lemma announcedMac_toList : (announcedMac oui a).toList = oui.mac.toList.take 3 ++
    toBE 3 a.toNat := by
  have hs : (AssocId.toBeBytes a).drop 1 = toBE 3 a.toNat := rfl
  simp [announcedMac, splice, hs]

lemma expectedMac_eq : expectedMac oui a = announcedMac oui a := by
  have hs : (AssocId.toBeBytes a).drop 1 = toBE 3 a.toNat := rfl
  apply List.Vector.toList_injective
  rw [announcedMac_toList]
  simp [expectedMac, splice, hs]

lemma toBE_three (n : ℕ) : toBE 3 n = toBE 3 (n % 2 ^ 24) := by
  conv_lhs => rw [show n = n / 2 ^ 24 * 256 ^ 3 + n % 2 ^ 24 by omega]
  exact toBE_mul_add 3 _ _

lemma announcedMac_eq_iff : announcedMac oui a = announcedMac oui b ↔
    a.toNat % 2 ^ 24 = b.toNat % 2 ^ 24 := by
  rw [← List.Vector.toList_injective.eq_iff, announcedMac_toList, announcedMac_toList,
    List.append_cancel_left_eq]
  constructor
  · intro h
    simpa using congrArg ofBE h
  · intro h
    rw [toBE_three a.toNat, h, ← toBE_three]

def routedId : AssocId := BitVec.ofNat 32 (a.toNat % 2 ^ 24)

lemma routedId_eq_iff : routedId a = a ↔ a.toNat < 2 ^ 24 := by
  have ha := a.isLt
  rw [routedId, ← BitVec.toNat_inj, BitVec.toNat_ofNat]
  omega

lemma announcedMac_bytes : ∃ o₀ o₁ o₂ s₀ s₁ s₂, o₀ &&& 0b01 = 0 ∧
    oui.mac.toList.take 3 = [o₀, o₁, o₂] ∧ toBE 3 a.toNat = [s₀, s₁, s₂] ∧
    announcedMac oui a = ⟨[o₀, o₁, o₂, s₀, s₁, s₂], rfl⟩ := by
  obtain ⟨o₀, o₁, o₂, _, _, _, hmac⟩ := Mac.exists_bytes oui.mac
  have hu : o₀ &&& 0b01 = 0 := by simpa [hmac, List.Vector.head] using oui.unicast
  have ho : oui.mac.toList.take 3 = [o₀, o₁, o₂] := by rw [hmac]; rfl
  refine ⟨o₀, o₁, o₂, _, _, _, hu, ho, rfl, ?_⟩
  apply List.Vector.toList_injective
  rw [announcedMac_toList, ho]
  rfl

lemma destination_announcedMac : destination oui (announcedMac oui a) =
    some (routedId a, Sctp.unordered) := by
  obtain ⟨o₀, o₁, o₂, s₀, s₁, s₂, hu, ho, hs, hm⟩ := announcedMac_bytes oui a
  have hid : AssocId.fromBeBytes [0, s₀, s₁, s₂] = routedId a := by
    have hbe : ofBE [0, s₀, s₁, s₂] = a.toNat % 2 ^ 24 := by
      rw [ofBE, ← hs]
      simp
    rw [AssocId.fromBeBytes, hbe, routedId]
  calc destination oui (announcedMac oui a)
    _ = if o₀ &&& 0b01 ≠ 0 then some (AssocId.all, Sctp.unordered ||| Sctp.sendAll)
        else if [o₀, o₁, o₂] = oui.mac.toList.take 3 then some
          (AssocId.fromBeBytes [0, s₀, s₁, s₂], Sctp.unordered)
        else none := by rw [hm]; rfl
    _ = some (routedId a, Sctp.unordered) := by rw [if_neg (not_not.mpr hu), if_pos ho.symm, hid]

end Addresses

section Labels

lemma hexDigit_inj : ∀ m < 16, ∀ n < 16, hexDigit m = hexDigit n → m = n := by decide

lemma hexByte_inj {a b : UInt8} (h : hexByte a = hexByte b) : a = b := by
  have ha := a.toNat_lt
  have hb := b.toNat_lt
  simp only [hexByte, List.cons.injEq, and_true] at h
  have hhigh := hexDigit_inj _ (by omega) _ (by omega) h.1
  have hlow := hexDigit_inj _ (by omega) _ (by omega) h.2
  apply UInt8.toNat_inj.mp
  omega

lemma fmtMac_injective : Function.Injective fmtMac := by
  intro a b h
  obtain ⟨a₀, a₁, a₂, a₃, a₄, a₅, rfl⟩ := Mac.exists_bytes a
  obtain ⟨b₀, b₁, b₂, b₃, b₄, b₅, rfl⟩ := Mac.exists_bytes b
  have hh : [hexByte a₀, hexByte a₁, hexByte a₂, hexByte a₃, hexByte a₄, hexByte a₅] =
      [hexByte b₀, hexByte b₁, hexByte b₂, hexByte b₃, hexByte b₄, hexByte b₅] := by
    simpa [fmtMac, List.intercalate, hexByte, and_assoc] using h
  exact Subtype.ext (List.map_injective_iff.mpr (fun _ _ => hexByte_inj) hh)

lemma opened_data_eq_iff (oui : Oui) (a b : AssocId) :
    (opened oui a).data = (opened oui b).data ↔ announcedMac oui a = announcedMac oui b := by
  constructor
  · intro h
    have hl := List.append_cancel_right h
    exact fmtMac_injective (List.append_inj_right hl (by simp))
  · intro h
    simp only [opened, h]

end Labels

section Headers

def destinationMac (frame : Bytes) : Option Mac := (EtherHeader.fromPrefix frame).map (·.1.dst)

def sourceMac (frame : Bytes) : Option Mac := (EtherHeader.fromPrefix frame).map (·.1.src)

variable (buffer : Buffer) {data : Bytes}

lemma Buffer.fill_take (h : data.length ≤ 65535) :
    (buffer.fill data).toList.take data.length = data := by
  simp [Buffer.fill, splice, List.take_of_length_le h]

lemma destinationMac_take {n : ℕ} (h₁ : 14 ≤ n) (h₂ : n ≤ 65535) :
    destinationMac (buffer.toList.take n) = some (EtherHeader.ofBytes buffer.toList).dst := by
  have hlen : 14 ≤ (buffer.toList.take n).length := by
    rw [List.length_take, List.Vector.toList_length]
    omega
  rw [destinationMac, EtherHeader.fromPrefix, if_pos hlen, EtherHeader.ofBytes_take h₁,
    Option.map_some]

lemma destinationMac_length {mac : Mac} (h : destinationMac data = some mac) :
    14 ≤ data.length := by
  unfold destinationMac EtherHeader.fromPrefix at h
  split_ifs at h with hlen
  · exact hlen
  · cases h

end Headers

section Tunnel

variable (oui : Oui) (buffer : Buffer) {n : ℕ}

def tunnelled (data : Bytes) (target : AssocId × UInt16) : Action :=
  .send ⟨⟨1, target.2, Ppid.vpn, 0, target.1⟩, some ⟨Sctp.prRtx, 0⟩, data⟩

lemma tunnel_eq (h₁ : 14 ≤ n) (h₂ : n ≤ 65535) :
    tunnel oui buffer n =
      .ok ((destination oui (EtherHeader.ofBytes buffer.toList).dst).map
        (tunnelled (buffer.toList.take n))) := by
  have hlen : buffer.toList.length = 65535 := List.Vector.toList_length buffer
  have heth : EtherHeader.fromPrefix buffer.toList =
      some (EtherHeader.ofBytes buffer.toList, buffer.toList.drop 14) := by
    rw [EtherHeader.fromPrefix, if_pos (by omega)]
  have hread : readAt buffer.toList 0 n = .ok (buffer.toList.take n) := by
    rw [readAt_ok (by omega), slice_zero]
  rw [tunnel, require_ok h₁, ok_bind, heth, unwrapSome_some, ok_bind]
  simp only [hread, ok_bind]
  cases destination oui (EtherHeader.ofBytes buffer.toList).dst <;> rfl

lemma tunnel_announced {frame : Bytes} {a : AssocId} (hle : frame.length ≤ 65535)
    (h : destinationMac frame = some (announcedMac oui a)) :
    tunnel oui (buffer.fill frame) frame.length =
      .ok (some (tunnelled frame (routedId a, Sctp.unordered))) := by
  have hlen := destinationMac_length h
  have hdst := destinationMac_take (buffer.fill frame) hlen hle
  rw [buffer.fill_take hle, h] at hdst
  rw [tunnel_eq oui _ hlen hle, buffer.fill_take hle, ← Option.some.inj hdst,
    destination_announcedMac]
  rfl

end Tunnel

def Action.Lawful (oui : Oui) : Action → Prop
  | .send m =>
    m.info.ppid = Ppid.vpn → ∃ mac, destinationMac m.data = some mac ∧
      destination oui mac = some (m.info.assocId, m.info.flags)
  | .inject sender frame => sourceMac frame = some (announcedMac oui sender)

section Lawful

variable {oui : Oui} {buffer : Buffer} {action : Action}

lemma tunnel_lawful {n : ℕ} (hn : n ≤ 65535) (h : tunnel oui buffer n = .ok (some action)) :
    action.Lawful oui := by
  by_cases hmin : 14 ≤ n
  · rw [tunnel_eq oui buffer hmin hn] at h
    obtain ⟨target, htarget, rfl⟩ := Option.map_eq_some_iff.mp (Except.ok.inj h)
    intro _
    exact ⟨_, destinationMac_take buffer hmin hn, htarget⟩
  · rw [tunnel, require, if_neg hmin] at h
    cases h

lemma notification_lawful {data : Bytes} (h : notification oui data = .ok (some action)) :
    action.Lawful oui := by
  obtain ⟨_, -, h⟩ := bind_eq_ok.mp h
  split_ifs at h
  · obtain ⟨_, -, h⟩ := bind_eq_ok.mp h
    cases h
  · obtain ⟨_, -, h⟩ := bind_eq_ok.mp h
    cases h
    exact fun hppid => absurd hppid (show Ppid.dcep ≠ Ppid.vpn by decide)
  · obtain ⟨_, -, h⟩ := bind_eq_ok.mp h
    cases h
  · cases h

lemma message_lawful {r : Received} {data : Bytes} (h : message oui r data = .ok (some action)) :
    action.Lawful oui := by
  unfold message at h
  split at h
  · split_ifs at h
    · cases h
    · split at h
      · cases h
      · obtain ⟨_, -, h⟩ := bind_eq_ok.mp h
        cases h
    · split at h
      · cases h
      · rename_i eth _ heth
        split_ifs at h with hsrc
        · cases h
        · cases h
          rw [not_not, expectedMac_eq] at hsrc
          simp [Action.Lawful, sourceMac, heth, hsrc]
    · cases h
  · cases h

lemma receive_lawful {r : Received} (h : receive oui buffer r = .ok (some action)) :
    action.Lawful oui := by
  unfold receive at h
  split_ifs at h
  · cases h
  · cases h
  · exact notification_lawful h
  · exact message_lawful h
  · cases h

end Lawful

abbrev Reached (oui : Oui) (s : State) : Prop := Reaches (step oui) (fun _ _ => True) initial s

section Runs

variable {oui : Oui} {s t : State}

lemma State.act_lawful {outcome : Exec (Option Action)}
    (hs : ∀ action ∈ s.actions, action.Lawful oui)
    (h : ∀ action, outcome = .ok (some action) → action.Lawful oui) :
    ∀ action ∈ (s.act outcome).actions, action.Lawful oui := by
  match outcome with
  | .error _ => exact hs
  | .ok none => exact hs
  | .ok (some new) =>
    intro action hmem
    rcases List.mem_append.mp hmem with hold | hnew
    · exact hs action hold
    · rw [List.mem_singleton.mp hnew]
      exact h new rfl

lemma next_actions (s : State) : (next s).actions = s.actions := by
  unfold next
  split <;> rfl

lemma step_lawful {i : Input} (h : step oui s i = some t)
    (hs : ∀ action ∈ s.actions, action.Lawful oui) :
    ∀ action ∈ t.actions, action.Lawful oui := by
  cases i with
  | tick =>
    obtain ⟨-, h⟩ := Option.ite_none_right_eq_some.mp h
    rw [← Option.some.inj h, next_actions]
    exact hs
  | poll outcome =>
    obtain ⟨-, h⟩ := Option.ite_none_right_eq_some.mp h
    cases outcome <;> cases h <;> exact hs
  | recv outcome =>
    obtain ⟨-, h⟩ := Option.ite_none_right_eq_some.mp h
    cases outcome with
    | none =>
      cases h
      exact hs
    | some frame =>
      cases h
      exact State.act_lawful hs fun _ => tunnel_lawful frame.property
  | recvmsg outcome =>
    obtain ⟨-, h⟩ := Option.ite_none_right_eq_some.mp h
    cases outcome with
    | wouldBlock =>
      cases h
      exact hs
    | failed =>
      cases h
      exact hs
    | received r =>
      cases h
      exact State.act_lawful hs fun _ => receive_lawful

lemma run_lawful (h : Reached oui t) : ∀ action ∈ t.actions, action.Lawful oui := by
  apply h.invariant
  · intro action hmem
    cases hmem
  · intro s i t hs _ ht
    exact step_lawful ht hs

end Runs

namespace Received

structure Whole (r : Received) : Prop where
  trunc : r.trunc = false
  eor : r.eor = true
  fits : r.data.length ≤ 65535

structure CommUp (r : Received) (a : AssocId) : Prop extends r.Whole where
  notified : r.notification = true
  sized : 20 ≤ r.data.length
  change : snType r.data = Sctp.assocChange
  state : sacState r.data = Sctp.commUp
  assocId : sacAssocId r.data = a

structure Vpn (r : Received) (a : AssocId) : Prop extends r.Whole where
  ordinary : r.notification = false
  addressed : r.addr6.isSome
  info : r.info = some ⟨1, Ppid.vpn, a⟩

end Received

section Receive

variable (oui : Oui) (buffer : Buffer) {r : Received} {a : AssocId}

lemma receive_whole (h : r.Whole) : receive oui (buffer.fill r.data) r =
    if r.notification then notification oui r.data else message oui r r.data := by
  have hfits := h.fits
  simp [receive, h.trunc, h.eor, buffer.fill_take hfits, Nat.not_lt.mpr hfits]

lemma receive_commUp (h : r.CommUp a) :
    receive oui (buffer.fill r.data) r = .ok (some (.send (opened oui a))) := by
  have hsized := h.sized
  rw [receive_whole oui buffer h.toWhole, if_pos h.notified, notification, require_ok (by omega),
    ok_bind, if_pos h.change, require_ok hsized, ok_bind, if_neg (not_not.mpr h.state), h.assocId]
  rfl

lemma receive_vpn (h : r.Vpn a) : receive oui (buffer.fill r.data) r =
    .ok (if sourceMac r.data = some (announcedMac oui a) then some (.inject a r.data)
      else none) := by
  obtain ⟨addr, haddr⟩ := Option.isSome_iff_exists.mp h.addressed
  rw [receive_whole oui buffer h.toWhole, h.ordinary, if_neg Bool.false_ne_true, message,
    haddr, h.info]
  simp only [if_neg (show Ppid.vpn ≠ Ppid.dcep by decide),
    if_neg (show Ppid.vpn ≠ Ppid.string by decide), and_self, if_true, expectedMac_eq]
  rcases heth : EtherHeader.fromPrefix r.data with _ | ⟨eth, rest⟩
  · simp [sourceMac, heth]
  · by_cases hsrc : eth.src = announcedMac oui a <;> simp [sourceMac, heth, hsrc]

end Receive

section Steps

variable (oui : Oui) {s : State} {a : AssocId}

lemma step_announced {frame : Frame} (hpc : s.pc = .tap)
    (h : destinationMac frame = some (announcedMac oui a)) :
    step oui s (.recv (some frame)) =
      some ((s.fill frame).act (.ok (some (tunnelled frame (routedId a, Sctp.unordered))))) := by
  rw [← tunnel_announced oui s.buffer frame.property h, step, if_pos hpc]
  rfl

lemma step_received (hpc : s.pc = .sctp) (r : Received) : step oui s (.recvmsg (.received r)) =
    some ((s.fill r.data).act (receive oui (s.buffer.fill r.data) r)) := by
  rw [step, if_pos hpc]
  rfl

end Steps

section Faithful

variable (oui : Oui) (live : Set AssocId)

def Action.Isolated : Action → Prop
  | .send m => m.info.ppid = Ppid.vpn →
    ∀ a ∈ live, destinationMac m.data = some (announcedMac oui a) → m.info.assocId = a
  | .inject sender frame =>
    sender ∈ live → ∀ a ∈ live, sourceMac frame = some (announcedMac oui a) → sender = a

structure Faithful : Prop where
  announced : ∀ s r a, Reached oui s → s.pc = .sctp → a ∈ live → r.CommUp a → step oui s
    (.recvmsg (.received r)) = some ((s.fill r.data).act (.ok (some (.send (opened oui a)))))
  distinct : Set.InjOn (announcedMac oui) live
  labels : Set.InjOn (fun a => (opened oui a).data) live
  routed : ∀ s (frame : Frame) a, Reached oui s → s.pc = .tap → a ∈ live →
    destinationMac frame = some (announcedMac oui a) →
    ∃ m, step oui s (.recv (some frame)) = some ((s.fill frame).act (.ok (some (.send m)))) ∧
      m.info.assocId = a ∧ m.data = frame
  filtered : ∀ s r a, Reached oui s → s.pc = .sctp → a ∈ live → r.Vpn a →
    step oui s (.recvmsg (.received r)) = some ((s.fill r.data).act
      (.ok (if sourceMac r.data = some (announcedMac oui a) then some
        (.inject a r.data) else none)))
  isolated : ∀ s, Reached oui s → ∀ action ∈ s.actions, action.Isolated oui live

variable {oui live}

lemma announcedMac_injOn (h : ∀ a ∈ live, a.toNat < 2 ^ 24) :
    Set.InjOn (announcedMac oui) live := by
  intro a ha b hb heq
  have hlow := (announcedMac_eq_iff oui a b).mp heq
  rw [Nat.mod_eq_of_lt (h a ha), Nat.mod_eq_of_lt (h b hb)] at hlow
  exact BitVec.toNat_inj.mp hlow

lemma Action.Lawful.isolated {action : Action} (h : ∀ a ∈ live, a.toNat < 2 ^ 24)
    (hl : action.Lawful oui) :
    action.Isolated oui live := by
  cases action with
  | send m =>
    intro hppid a ha hdst
    obtain ⟨mac, hmac, hto⟩ := hl hppid
    obtain rfl : announcedMac oui a = mac := Option.some.inj (hdst.symm.trans hmac)
    rw [destination_announcedMac] at hto
    have hid : routedId a = m.info.assocId := (Prod.mk.inj (Option.some.inj hto)).1
    rw [← hid, (routedId_eq_iff a).mpr (h a ha)]
  | inject sender frame =>
    intro hsender a ha hsrc
    have heq : announcedMac oui sender = announcedMac oui a := Option.some.inj (hl.symm.trans hsrc)
    exact announcedMac_injOn h hsender ha heq

def frameTo (mac : Mac) : Frame := ⟨mac.toList ++ List.replicate 8 0, by simp⟩

lemma destinationMac_frameTo (mac : Mac) : destinationMac (frameTo mac) = some mac := by
  obtain ⟨a, b, c, d, e, f, rfl⟩ := Mac.exists_bytes mac
  rfl

lemma reached_tap (oui : Oui) : Reached oui (initial.goto .tap) := by
  have hpoll : Reached oui (initial.goto .poll) := Reaches.refl.next .tick trivial rfl
  have hnext : Reached oui { initial with events := [.tap] } :=
    hpoll.next (.poll (some [.tap])) trivial rfl
  exact hnext.next .tick trivial rfl

lemma Faithful.lt (h : Faithful oui live) {a : AssocId} (ha : a ∈ live) : a.toNat < 2 ^ 24 := by
  have hdst := destinationMac_frameTo (announcedMac oui a)
  obtain ⟨m, hm, hid, -⟩ := h.routed (initial.goto .tap) _ a (reached_tap oui) rfl ha hdst
  rw [step_announced oui rfl hdst] at hm
  have hactions := congrArg State.actions (Option.some.inj hm)
  cases hactions
  exact (routedId_eq_iff a).mp hid

theorem addressing_faithful_iff (oui : Oui) (live : Set AssocId) :
    Faithful oui live ↔ ∀ a ∈ live, a.toNat < 2 ^ 24 := by
  constructor
  · intro h a ha
    exact h.lt ha
  · intro h
    have hinj : Set.InjOn (announcedMac oui) live := announcedMac_injOn h
    refine ⟨?_, hinj, ?_, ?_, ?_, ?_⟩
    · intro s r a _ hpc _ hr
      rw [step_received oui hpc, receive_commUp oui s.buffer hr]
    · intro a ha b hb heq
      exact hinj ha hb ((opened_data_eq_iff oui a b).mp heq)
    · intro s frame a _ hpc ha hdst
      exact ⟨_, step_announced oui hpc hdst, (routedId_eq_iff a).mpr (h a ha), rfl⟩
    · intro s r a _ hpc _ hr
      rw [step_received oui hpc, receive_vpn oui s.buffer hr]
    · intro s hs action hmem
      exact (run_lawful hs action hmem).isolated h

/-- Association 3 and the one allocated `2 ^ 24` later are announced the same address; frames for it
go to the first, and those of the second pass for frames of the first. -/
theorem wrapped_id_shares_address :
    let oui := Oui.fromRandom ⟨[0x5c, 0x10, 0x20], rfl⟩
    let live : Set AssocId := {0x3, 0x1000003}
    (∀ a ∈ live, AssocId.all.toInt < a.toInt) ∧ announcedMac oui 0x1000003 = announcedMac oui 0x3 ∧
      fmtMac (announcedMac oui 0x1000003) =
        [0x35, 0x65, 0x3a, 0x31, 0x30, 0x3a, 0x32, 0x30, 0x3a, 0x30, 0x30, 0x3a, 0x30, 0x30,
          0x3a, 0x30, 0x33] ∧
      destination oui (announcedMac oui 0x1000003) = some (0x3, Sctp.unordered) ∧
      ¬ Faithful oui live := by
  refine ⟨?_, by decide, by decide, by decide, ?_⟩
  · rintro a (rfl | rfl) <;> decide
  · intro h
    have hlt := h.lt (a := 0x1000003) (Or.inr rfl)
    revert hlt
    decide

end Faithful

end Masquerade.SnowFell
