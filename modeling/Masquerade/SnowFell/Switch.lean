import Masquerade.Lib.Trace
import Masquerade.SnowFell.Addressing

/-! What goes through the switch in a whole run, and the inputs that end it. -/

namespace Masquerade.SnowFell

open Lib Wire

def Short (data : Bytes) : Prop :=
  data.length ≤ 8 ∨ (snType data = Sctp.assocChange ∧ data.length < 20) ∨
    (snType data = Sctp.shutdownEvent ∧ data.length < 12)

namespace Received

structure Unaskable (r : Received) : Prop where
  addressed : r.addr6.isSome
  string : ∃ info, r.info = some info ∧ info.ppid = Ppid.string
  text : (fromUtf8 r.data).isSome
  refused : r.encaps = false

def vpnOf (r : Received) : Option AssocId :=
  if r.addr6.isSome then (r.info.filter fun info => info.ppid = Ppid.vpn ∧ info.sid = 1).map
    RcvInfo.assocId else none

end Received

def Input.Fatal : Input → Prop
  | .recv (some frame) => frame.val.length < 14
  | .recvmsg (.received r) => r.Whole ∧ if r.notification then Short r.data else r.Unaskable
  | _ => False

instance (r : Received) : Decidable r.Whole :=
  decidable_of_iff (r.trunc = false ∧ r.eor = true ∧ r.data.length ≤ 65535)
    ⟨fun ⟨h₁, h₂, h₃⟩ => ⟨h₁, h₂, h₃⟩, fun h => ⟨h.trunc, h.eor, h.fits⟩⟩

variable (oui : Oui)

def outbound (frame : Bytes) : Option Action :=
  ((destinationMac frame).bind (destination oui)).map (tunnelled frame)

def announced (data : Bytes) : Option Action :=
  if snType data = Sctp.assocChange ∧ sacState data = Sctp.commUp ∧ 20 ≤ data.length then
    some (.send (opened oui (sacAssocId data)))
  else none

def inbound (r : Received) : Option Action :=
  (r.vpnOf.filter fun id => sourceMac r.data = some (announcedMac oui id)).map fun id =>
    .inject id r.data

def effect : Input → List Action
  | .recv (some frame) => (outbound oui frame).toList
  | .recvmsg (.received r) =>
    if r.Whole then (if r.notification then announced oui r.data else inbound oui r).toList else []
  | _ => []

section Calls

variable (buffer : Buffer)

def Comes (outcome : Exec (Option Action)) (fatal : Prop) (made : Option Action) : Prop :=
  (fatal ∧ made = none ∧ outcome = .error .assertion) ∨ (¬ fatal ∧ outcome = .ok made)

lemma tunnel_comes (frame : Frame) :
    Comes (tunnel oui (buffer.fill frame) frame.val.length) (frame.val.length < 14)
      (outbound oui frame) := by
  have hle := frame.property
  by_cases hlen : frame.val.length < 14
  · refine .inl ⟨hlen, ?_, ?_⟩
    · rw [outbound, destinationMac, EtherHeader.fromPrefix, if_neg (by omega)]
      rfl
    · rw [tunnel, require_error (by omega)]
      rfl
  · refine .inr ⟨hlen, ?_⟩
    have hdst := destinationMac_take (buffer.fill frame) (Nat.not_lt.mp hlen) hle
    rw [buffer.fill_take hle] at hdst
    rw [tunnel_eq oui _ (Nat.not_lt.mp hlen) hle, buffer.fill_take hle, outbound, hdst]
    rfl

lemma notification_comes (data : Bytes) :
    Comes (notification oui data) (Short data) (announced oui data) := by
  have hkinds : Sctp.shutdownEvent ≠ Sctp.assocChange := by decide
  rw [notification]
  by_cases h8 : 8 < data.length
  swap
  · refine .inl ⟨.inl (by omega), if_neg (by omega), ?_⟩
    rw [require_error h8]
    rfl
  rw [require_ok h8, ok_bind]
  by_cases hchange : snType data = Sctp.assocChange
  · rw [if_pos hchange]
    by_cases h20 : 20 ≤ data.length
    · refine .inr ⟨by simp [Short, hchange, hkinds.symm]; omega, ?_⟩
      rw [require_ok h20, ok_bind, announced]
      by_cases hup : sacState data = Sctp.commUp <;> simp [hchange, hup, h20]
    · refine .inl ⟨.inr (.inl ⟨hchange, by omega⟩), by simp [announced, h20], ?_⟩
      rw [require_error h20]
      rfl
  rw [if_neg hchange]
  have hnone : announced oui data = none := if_neg fun h => hchange h.1
  by_cases hshut : snType data = Sctp.shutdownEvent
  · rw [if_pos hshut]
    by_cases h12 : 12 ≤ data.length
    · refine .inr ⟨by simp [Short, hshut, hkinds]; omega, ?_⟩
      rw [require_ok h12, hnone]
      rfl
    · refine .inl ⟨.inr (.inr ⟨hshut, by omega⟩), hnone, ?_⟩
      rw [require_error h12]
      rfl
  · refine .inr ⟨by simp [Short, hchange, hshut]; omega, ?_⟩
    rw [if_neg hshut, hnone]
    rfl

lemma message_comes (r : Received) : Comes (message oui r r.data) r.Unaskable (inbound oui r) := by
  have hkinds : Ppid.string ≠ Ppid.dcep ∧ Ppid.vpn ≠ Ppid.dcep ∧ Ppid.vpn ≠ Ppid.string := by decide
  have hnone : r.vpnOf = none → inbound oui r = none := by
    intro h
    rw [inbound, h]
    rfl
  rcases haddr : r.addr6 with _ | addr
  · refine .inr ⟨fun h => by simpa [haddr] using h.addressed, ?_⟩
    rw [hnone (by simp [Received.vpnOf, haddr]), message, haddr]
  rcases hinfo : r.info with _ | info
  · refine .inr ⟨fun h => by simpa [hinfo] using h.string, ?_⟩
    rw [hnone (by simp [Received.vpnOf, hinfo]), message, haddr, hinfo]
  simp only [message, haddr, hinfo]
  by_cases hstring : info.ppid = Ppid.string
  · rw [if_neg (by rw [hstring]; exact hkinds.1), if_pos hstring,
      hnone (by simp [Received.vpnOf, hinfo, hstring, hkinds.2.2.symm])]
    rcases htext : fromUtf8 r.data with _ | text
    · exact .inr ⟨fun h => by simpa [htext] using h.text, rfl⟩
    · by_cases hencaps : r.encaps = true
      · refine .inr ⟨fun h => by simpa [hencaps] using h.refused, ?_⟩
        simp only [require_ok hencaps, ok_bind, pure_eq_ok]
      · refine .inl ⟨⟨by simp [haddr], ⟨info, hinfo, hstring⟩, by simp [htext],
          by simpa using hencaps⟩, rfl, ?_⟩
        simp only [require_error hencaps, error_bind]
  · have haskable : ¬ r.Unaskable := by
      rintro ⟨-, ⟨info', hinfo', hstring'⟩, -, -⟩
      obtain rfl := Option.some.inj (hinfo.symm.trans hinfo')
      exact hstring hstring'
    refine .inr ⟨haskable, ?_⟩
    by_cases hvpn : info.ppid = Ppid.vpn ∧ info.sid = 1
    · have hof : r.vpnOf = some info.assocId := by simp [Received.vpnOf, haddr, hinfo, hvpn]
      rw [if_neg (by rw [hvpn.1]; exact hkinds.2.1), if_neg hstring, if_pos hvpn, inbound, hof,
        expectedMac_eq]
      rcases heth : EtherHeader.fromPrefix r.data with _ | ⟨eth, rest⟩
      · simp [sourceMac, heth]
      · by_cases hsrc : eth.src = announcedMac oui info.assocId <;> simp [sourceMac, heth, hsrc]
    · have hof : r.vpnOf = none := by
        rw [Received.vpnOf, hinfo]
        simp only [Option.filter_some, hvpn, decide_false, Bool.false_eq_true, if_false,
          Option.map_none, ite_self]
      rw [hnone hof, if_neg hstring, if_neg hvpn, ite_self]

lemma receive_comes (r : Received) : Comes (receive oui (buffer.fill r.data) r)
    (r.Whole ∧ if r.notification then Short r.data else r.Unaskable)
    (if r.Whole then if r.notification then announced oui r.data else inbound oui r else none) := by
  by_cases hwhole : r.Whole
  · rw [receive_whole oui buffer hwhole, if_pos hwhole]
    cases hn : r.notification with
    | true => simpa [Comes, hwhole] using notification_comes oui r.data
    | false => simpa [Comes, hwhole] using message_comes oui r
  · refine .inr ⟨fun h => hwhole h.1, ?_⟩
    rw [if_neg hwhole, receive]
    by_cases htrunc : r.trunc = true
    · exact if_pos htrunc
    by_cases heor : r.eor = true
    · by_cases hfits : 65535 < r.data.length
      · simp [htrunc, heor, hfits]
      · exact absurd ⟨by simpa using htrunc, heor, Nat.not_lt.mp hfits⟩ hwhole
    · simp [htrunc, heor]

end Calls

section Runs

variable {oui} {s t : State} {i : Input}

lemma act_comes {outcome : Exec (Option Action)} {fatal : Prop} {made : Option Action}
    (hs : s.pc ≠ .panicked) (h : Comes outcome fatal made) :
    (s.act outcome).actions = s.actions ++ made.toList ∧
      ((s.act outcome).pc = .panicked ↔ fatal) := by
  rcases h with ⟨hfatal, rfl, rfl⟩ | ⟨hfatal, rfl⟩
  · exact ⟨(List.append_nil _).symm, iff_of_true rfl hfatal⟩
  · cases made with
    | none => exact ⟨(List.append_nil _).symm, iff_of_false hs hfatal⟩
    | some action => exact ⟨rfl, iff_of_false hs hfatal⟩

lemma next_pc (s : State) : (next s).pc ≠ .panicked := by
  unfold next
  split <;> simp [State.goto]

lemma step_effect (h : step oui s i = some t) :
    t.actions = s.actions ++ effect oui i ∧ (t.pc = .panicked ↔ i.Fatal) := by
  cases i with
  | tick =>
    obtain ⟨-, h⟩ := Option.ite_none_right_eq_some.mp h
    obtain rfl := Option.some.inj h
    exact ⟨by simp [next_actions, effect], iff_of_false (next_pc s) id⟩
  | poll outcome =>
    obtain ⟨-, h⟩ := Option.ite_none_right_eq_some.mp h
    cases outcome <;> cases h <;>
      exact ⟨(List.append_nil _).symm, by simp [State.goto, Input.Fatal]⟩
  | recv outcome =>
    obtain ⟨hpc, h⟩ := Option.ite_none_right_eq_some.mp h
    cases outcome with
    | none =>
      cases h
      exact ⟨(List.append_nil _).symm, by simp [State.goto, Input.Fatal]⟩
    | some frame =>
      cases h
      exact act_comes (s := s.fill frame) (by simp [State.fill, hpc])
        (tunnel_comes oui s.buffer frame)
  | recvmsg outcome =>
    obtain ⟨hpc, h⟩ := Option.ite_none_right_eq_some.mp h
    cases outcome with
    | wouldBlock =>
      cases h
      exact ⟨(List.append_nil _).symm, by simp [State.goto, Input.Fatal]⟩
    | failed =>
      cases h
      exact ⟨(List.append_nil _).symm, by simp [hpc, Input.Fatal]⟩
    | received r =>
      cases h
      have hact := act_comes (s := s.fill r.data) (by simp [State.fill, hpc])
        (receive_comes oui s.buffer r)
      refine ⟨hact.1.trans (congrArg (s.actions ++ ·) ?_), hact.2⟩
      rw [effect]
      split_ifs <;> rfl

lemma stuck_of_panicked (hs : s.pc = .panicked) : step oui s i = none := by
  cases i <;> simp [step, hs]

theorem runs_switch {is : List Input} (h : run (step oui) initial is = some t) :
    t.actions = is.flatMap (effect oui) ∧ (t.pc = .panicked ↔ ∃ i ∈ is, i.Fatal) := by
  have hlogs : Logs (step oui) (fun _ => True) State.actions (effect oui) :=
    ⟨fun _ _ _ _ _ => trivial, fun _ _ _ _ hstep => (step_effect hstep).1⟩
  constructor
  · exact hlogs.run trivial h
  · have hstep : ∀ s i t, True → step oui s i = some t →
        (t.pc = .panicked ↔ s.pc = .panicked ∨ i.Fatal) := by
      intro s i t _ hst
      have hrunning : s.pc ≠ .panicked := fun hpc => by rw [stuck_of_panicked hpc] at hst; cases hst
      simp [(step_effect hst).2, hrunning]
    rw [run_reaches_iff (fun _ _ _ _ _ => trivial) hstep trivial h, occurs_mem h]
    exact or_iff_right (show initial.pc ≠ .panicked by decide)

lemma run_oneFrame (oui : Oui) (frame : Frame) :
    ∃ t, run (step oui) initial [.tick, .poll (some [.tap]), .tick, .recv (some frame)] = some t :=
      ⟨_, rfl⟩

theorem runs_switch_oneFrame :
    let oui := Oui.fromRandom ⟨[0x5c, 0x10, 0x20], rfl⟩
    let frame := frameTo (announcedMac oui 3)
    ∃ t, run (step oui) initial [.tick, .poll (some [.tap]), .tick, .recv (some frame)] = some t ∧
      t.pc ≠ .panicked ∧ t.actions = [tunnelled frame.val (3, Sctp.unordered)] := by
  intro oui frame
  obtain ⟨t, ht⟩ := run_oneFrame oui frame
  obtain ⟨hactions, hstopped⟩ := runs_switch ht
  refine ⟨t, ht, ?_, hactions.trans (by decide)⟩
  rw [Ne, hstopped]
  simp [Input.Fatal, frame, frameTo]

end Runs

end Masquerade.SnowFell
