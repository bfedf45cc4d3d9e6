import Masquerade.Common.Fresh
import Masquerade.Common.InPlace
import Masquerade.TurnserverUdp.Machine

/-! Nothing that the UDP server has seen before changes what it does. -/

namespace Masquerade.TurnserverUdp

open Lib Stun Common

structure Sound (s : State) : Prop where
  buffer : s.buffer.length = 65536
  running : s.pc ≠ .panicked

lemma sound_initial : Sound initial := ⟨List.length_replicate, by decide⟩

lemma Sound.fill {s : State} (h : Sound s) (data : Datagram) :
    Received (s.fill data).buffer data.val :=
  Received.splice h.buffer data.property

def Input.isTraffic : Input → Bool
  | .recvFrom (some _) => true
  | .recv (some _) => true
  | _ => false

section

variable [Crypto] (mappings : List Mapping)

def repliesTo (data : Bytes) (sender : SocketAddr) : List Action :=
  if verdict data = .ok () then
    let o := turned (canonicalOf sender) (relayedFor mappings sender) data
    o.sent.map .send ++ (o.response.map fun response => .sendTo response sender).toList
  else []

def forwards (packet : Bytes) (random : List.Vector UInt8 12) : List Action :=
  ((netted random packet).map fun (receiver, indication) =>
    .sendTo indication (mappedReceiver mappings receiver)).toList

def effect : Input → List Action
  | .recvFrom (some (data, sender)) => repliesTo mappings data sender
  | .recv (some (packet, random)) => forwards mappings packet random
  | _ => []

section Handlers

variable {s : State} {data : Bytes}

lemma received_eq (sender : SocketAddr) (h : Received s.buffer data) : ∃ b, b.length = 65536 ∧
    received mappings sender data.length s =
      .ok { s with buffer := b, actions := s.actions ++ repliesTo mappings data sender } := by
  have hb := h.length
  have hle := h.le
  rw [received, decode_eq (by omega), h.front, ok_bind, repliesTo]
  cases hv : verdict data with
  | error e => exact ⟨s.buffer, hb, by simp⟩
  | ok _ =>
    obtain ⟨o, ho, hobs⟩ := handleTurn_turned (canonicalOf sender) (relayedFor mappings sender) h hv
    refine ⟨o.buffer, by rw [handleTurn_length ho, hb], ?_⟩
    simp only [ho, ok_bind, reply, if_true]
    by_cases hreply : o.reply = true
    · obtain ⟨m, items, tail, rfl, hbuilt, hturned⟩ := turned_reply _ _ h hv ho hreply
      rw [hturned, if_pos rfl, hbuilt.len, ok_bind, readAt_ok (by simp), ok_bind, slice_zero,
        List.take_left]
      simp [State.act]
    · rw [← hobs, if_neg hreply]
      simp [State.act, Outcome.observed, hreply]

lemma tunnelled_eq (random : List.Vector UInt8 12) (h : Received s.buffer data) :
    ∃ b, b.length = 65536 ∧ tunnelled mappings data.length random s =
      .ok { s with buffer := b, actions := s.actions ++ forwards mappings data random } := by
  have hb := h.length
  obtain ⟨r, hr, hshown⟩ := handleNet_netted random h
  rw [tunnelled, hr, ok_bind, forwards]
  cases r with
  | none => exact ⟨s.buffer, hb, by simp [← hshown, shown]⟩
  | some target =>
    obtain ⟨receiver, msg⟩ := target
    obtain ⟨m, items, tail, rfl, hbuilt, hnetted⟩ := netted_message random h hr
    refine ⟨m ++ tail, by rw [(handleNet_result hr).1, hb], ?_⟩
    simp only [hnetted, hbuilt.len, ok_bind]
    rw [readAt_ok (by simp), ok_bind, slice_zero, List.take_left]
    rfl

end Handlers

lemma step_sound {s t : State} {i : Input} (hs : Sound s) (h : step mappings s i = some t) :
    Sound t ∧ t.actions = s.actions ++ effect mappings i := by
  cases i with
  | tick =>
    simp only [step] at h
    split_ifs at h with hpc
    obtain rfl := Option.some.inj h
    refine ⟨⟨?_, ?_⟩, ?_⟩ <;> unfold next <;> split <;> simp [State.goto, effect, hs.buffer]
  | poll outcome =>
    simp only [step] at h
    split_ifs at h with hpc
    cases outcome <;> obtain rfl := Option.some.inj h <;>
      exact ⟨⟨hs.buffer, by simp [State.goto]⟩, by simp [State.goto, effect]⟩
  | recvFrom outcome =>
    simp only [step] at h
    split_ifs at h with hpc
    rcases outcome with _ | ⟨data, sender⟩
    · obtain rfl := Option.some.inj h
      exact ⟨⟨hs.buffer, by simp [State.goto]⟩, by simp [State.goto, effect]⟩
    · obtain ⟨b, hb, heq⟩ := received_eq mappings sender (hs.fill data)
      simp only [heq, settle, Option.some.injEq] at h
      subst h
      exact ⟨⟨hb, hs.running⟩, rfl⟩
  | recv outcome =>
    simp only [step] at h
    split_ifs at h with hpc
    rcases outcome with _ | ⟨packet, random⟩
    · obtain rfl := Option.some.inj h
      exact ⟨⟨hs.buffer, by simp [State.goto]⟩, by simp [State.goto, effect]⟩
    · obtain ⟨b, hb, heq⟩ := tunnelled_eq mappings random (hs.fill packet)
      simp only [heq, settle, Option.some.injEq] at h
      subst h
      exact ⟨⟨hb, hs.running⟩, rfl⟩

lemma logs : Logs (step mappings) Sound State.actions (effect mappings) where
  keeps _ _ _ hs h := (step_sound mappings hs h).1
  adds _ _ _ hs h := (step_sound mappings hs h).2

def alone (i : Input) : List Action :=
  let pc := match i with
    | .poll _ => Pc.poll
    | .tick => .next
    | .recvFrom _ => .udp
    | .recv _ => .tun
  ((step mappings (initial.goto pc) i).map State.actions).getD []

lemma alone_eq (i : Input) : alone mappings i = effect mappings i := by
  have hsound : ∀ pc, pc ≠ .panicked → Sound (initial.goto pc) :=
    fun pc hpc => ⟨sound_initial.buffer, hpc⟩
  have hstep : ∀ pc t, pc ≠ .panicked → step mappings (initial.goto pc) i = some t →
      t.actions = effect mappings i :=
    fun pc t hpc ht => (step_sound mappings (hsound pc hpc) ht).2
  cases i with
  | tick => exact hstep .next _ (by decide) rfl
  | poll outcome => cases outcome <;> exact hstep .poll _ (by decide) rfl
  | recvFrom outcome => cases outcome <;> exact hstep .udp _ (by decide) rfl
  | recv outcome => cases outcome <;> exact hstep .tun _ (by decide) rfl

lemma flatMap_effect (is : List Input) :
    is.flatMap (effect mappings) = (is.filter Input.isTraffic).flatMap (effect mappings) := by
  induction is with
  | nil => rfl
  | cons i is ih =>
    rw [List.flatMap_cons, ih, List.filter_cons]
    split_ifs with hi
    · rw [List.flatMap_cons]
    · have hnone : effect mappings i = [] := by
        unfold Input.isTraffic at hi
        unfold effect
        split at hi <;> simp_all
      rw [hnone, List.nil_append]

theorem runs_do_as_fresh_servers {is : List Input} {t : State}
    (h : run (step mappings) initial is = some t) :
    t.pc ≠ .panicked ∧ t.actions = is.flatMap (alone mappings) ∧
      ∀ is' t', run (step mappings) initial is' = some t' →
        (is.filter Input.isTraffic).Perm (is'.filter Input.isTraffic) →
          t.actions.Perm t'.actions := by
  have hactions : ∀ is t, run (step mappings) initial is = some t →
      t.actions = is.flatMap (effect mappings) :=
    fun is t ht => (logs mappings).run sound_initial ht
  refine ⟨(run_invariant (logs mappings).keeps sound_initial h).running, ?_, ?_⟩
  · rw [hactions is t h]
    congr 1
    funext i
    exact (alone_eq mappings i).symm
  · intro is' t' h' hperm
    rw [hactions is t h, hactions is' t' h', flatMap_effect, flatMap_effect mappings is']
    exact hperm.flatMap_right _

end

lemma bindingRequest_length : bindingRequest.length ≤ 65536 := by decide

def oneDatagram (data : Datagram) (sender : SocketAddr) : List Input :=
  [.tick, .poll (some [.udp]), .tick, .recvFrom (some (data, sender))]

lemma run_oneDatagram [Crypto] (mappings : List Mapping) (data : Datagram) (sender : SocketAddr) :
    ∃ t, run (step mappings) initial (oneDatagram data sender) = some t := ⟨_, rfl⟩

def oneRequest : List Input :=
  oneDatagram ⟨bindingRequest, bindingRequest_length⟩ (.v6 ⟨1, 4000, 0, 0⟩)

theorem runs_do_as_fresh_servers_binding :
    letI : Crypto := .recorded [] [] []
    ∃ t, run (step []) initial oneRequest = some t ∧ t.pc ≠ .panicked ∧
      t.actions = oneRequest.flatMap (alone []) := by
  let _ : Crypto := .recorded [] [] []
  obtain ⟨t, ht⟩ := run_oneDatagram [] ⟨bindingRequest, bindingRequest_length⟩ (.v6 ⟨1, 4000, 0, 0⟩)
  have hfresh := runs_do_as_fresh_servers [] ht
  exact ⟨t, ht, hfresh.1, hfresh.2.1⟩

end Masquerade.TurnserverUdp
