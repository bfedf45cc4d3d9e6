import Masquerade.Common.Datagram
import Masquerade.DtlsProxy.Sessions

/-! Datagrams as they arrive, and a handshake of the server. -/

namespace Masquerade.DtlsProxy

open Lib Wire

variable {E : Engine} {cfg : Config} {s s' : State E} {d : Datagram}

structure Datagram.Fits (d : Datagram) : Prop where
  src : d.src.Plain
  dst : d.dst.Plain
  payload : d.payload.length ≤ 4096

def Datagram.bytes (d : Datagram) : Bytes := Common.datagram d.src d.dst d.payload 0

lemma Datagram.bytes_length (d : Datagram) : d.bytes.length = 48 + d.payload.length :=
  Common.datagram_length _ _ _ _

lemma recv_datagram (p : Udp6Packet) (hd : d.Fits) (h : d.bytes.length ≤ 4144) :
    (p.recv d.bytes h).datagram d.bytes.length = .ok (some d) := by
  have hpayload := hd.payload
  have hlength : (Common.datagramIp d.src d.dst d.payload.length).payloadLength.toNat =
      8 + d.payload.length :=
    (Common.toNat_ofNat16 (by omega)).trans (Nat.add_comm _ _)
  have hrecv := p.datagram_recv (Common.datagramIp d.src d.dst d.payload.length)
    (Common.datagramUdp d.src d.dst d.payload.length 0) d.payload
    (show Ip6Flags.version 0x60000000#32 = 6 by decide) rfl rfl hlength h
  have hdst := SocketAddrV6.eq_of_plain hd.dst
  have hsrc := SocketAddrV6.eq_of_plain hd.src
  simp only [Common.datagramIp, Common.datagramUdp, ← hdst, ← hsrc] at hrecv
  exact hrecv

lemma Datagram.Fits.receives (hd : d.Fits) (s : State E) (created : Bool) :
    s.receives (.recv (some d.bytes) created) = some d := by
  have hlen := d.bytes_length
  have hpayload := hd.payload
  exact receives_recv (by omega) (recv_datagram s.packet hd (by omega))

section Arrives

variable (cfg) {outcome : Option Bytes} {created : Bool} {stream : SslStream E} {r : Request}

lemma receives_cases (hd : s.receives (.recv outcome created) = some d) : ∃ received h,
    outcome = some received ∧ (s.packet.recv received h).datagram received.length = .ok (some d) ∧
    (s.packet.recv received h).Holds d ∧
      d.Fits := by
  cases outcome with
  | none => cases hd
  | some received =>
    rw [State.receives] at hd
    split_ifs at hd with h
    obtain hnone | ⟨d', hsome, hholds, hsrc, hdst, hpayload⟩ :=
      (s.packet.recv received h).datagram_cases h
    · rw [hnone] at hd
      cases hd
    · simp only [hsome, Option.some.injEq] at hd
      subst hd
      exact ⟨received, h, rfl, hsome, hholds, hsrc, hdst, hpayload⟩

lemma step_receives (hd : s.receives (.recv outcome created) = some d) (hpc : s.pc = .recv) :
    ∃ p : Udp6Packet, p.Holds d ∧
      step cfg s (.recv outcome created) =
        some (accepted cfg { s with packet := p } d created) := by
  obtain ⟨received, h, rfl, hdatagram, hholds, -⟩ := receives_cases hd
  refine ⟨_, hholds, ?_⟩
  unfold step
  simp only [hpc, recv, dif_pos h, hdatagram]

lemma arrives_new (hd : s.receives (.recv outcome true) = some d) (hpc : s.pc = .recv)
    (hvacant : s.streams.lookup d.dst = none) (hsrc : d.src ≠ cfg.endpoint) :
    ∃ s', step cfg s (.recv outcome true) = some s' ∧
      Calling s' d (.new E d) .doHandshake [] (E.start .doHandshake E.accept) ∧
        s'.packet.Holds d := by
  obtain ⟨p, hp, hstep⟩ := step_receives cfg hd hpc
  refine ⟨_, hstep, ?_⟩
  simp only [accepted, hvacant, if_neg hsrc, not_true_eq_false, if_false,
    dispatch_request (fate_new d)]
  exact ⟨⟨rfl, AList.lookup_insert s.streams, rfl, .start, by simp, .inl hp⟩, hp⟩

lemma arrives_known (hd : s.receives (.recv outcome created) = some d) (hpc : s.pc = .recv)
    (hstream : s.streams.lookup d.dst = some stream) (hfrom : stream.bio.sendFrom = d.dst)
    (hfate : fate cfg stream d = .request r) :
    ∃ s', step cfg s (.recv outcome created) = some s' ∧
      Calling s' d stream r [] (E.start r stream.ssl) ∧
      s'.packet.Holds d := by
  obtain ⟨p, hp, hstep⟩ := step_receives cfg hd hpc
  refine ⟨_, hstep, ?_⟩
  simp only [accepted, hstream, dispatch_request hfate]
  exact ⟨⟨rfl, hstream, hfrom, .start, by simp, .inl hp⟩, hp⟩

end Arrives

def From (src : SocketAddrV6) (s : State E) (i : Input) : Prop :=
  ∀ d, s.receives i = some d → d.src = src

lemma from_tick (src : SocketAddrV6) (s : State E) (old : SocketAddrV6 → Bool) :
    From src s (.tick old) :=
  fun _ hd => by cases hd

lemma from_recv (hd : d.Fits) (s : State E) (created : Bool) :
    From d.src s (.recv (some d.bytes) created) := by
  intro d' hd'
  rw [hd.receives] at hd'
  exact congrArg Datagram.src (Option.some.inj hd').symm

lemma Calling.ends (cfg : Config) {stream : SslStream E} {r : Request} {reads : List Bytes}
    {c : E.Call} {ssl : E.Ssl} {result : Except ErrorCode Unit} (h : Calling s d stream r reads c)
    (hnext : E.next c = .ret ssl result) (hresult : Waiting result) (hpending : E.pending ssl = 0) :
    ∃ s', Reaches (DtlsProxy.step cfg) (From d.src) s s' ∧ s'.pc = .recv ∧
      s'.streams.lookup d.dst = some ⟨ssl, { stream.bio with
        sessions := if r = .doHandshake && E.isInitFinished ssl then E.sessionPair ssl
          else stream.bio.sessions }⟩ := by
  generalize hsessions :
    (if r = .doHandshake && E.isInitFinished ssl then E.sessionPair ssl else stream.bio.sessions) =
      sessions
  have hret := h.ret cfg (fun _ => false) hnext
  rw [returned_waiting hresult, hsessions] at hret
  generalize hs₁ : (s.put d.dst ⟨ssl, { stream.bio with sessions := sessions }⟩).goto
    (.pull d.dst d.src) = s₁ at hret
  have hlookup : s₁.streams.lookup d.dst =
      some ⟨ssl, { stream.bio with sessions := sessions }⟩ := by
    rw [← hs₁]
    exact AList.lookup_insert s.streams
  have hpull : s₁.pc = .pull d.dst d.src := by rw [← hs₁]; rfl
  have hdone := pull_done cfg (fun _ => false) hpull hlookup hpending
  refine ⟨_, (Reaches.refl.next _ (from_tick _ _ _) hret).next _ (from_tick _ _ _) hdone,
    cleanup_pc _, ?_⟩
  rw [lookup_cleanup rfl]
  exact hlookup

section Handshake

variable {s : State server} (cfg)

lemma server_hello (hd : d.Fits) (hpayload : d.payload ≠ []) (hpc : s.pc = .recv)
    (hvacant : s.streams.lookup d.dst = none) (hsrc : d.src ≠ cfg.endpoint) :
    ∃ s', Reaches (step cfg) (From d.src) s s' ∧ s'.pc = .recv ∧
      s'.streams.lookup d.dst = some ⟨⟨.hello, []⟩, ⟨d.dst, d.src, none⟩⟩ := by
  have hfits := hd.payload
  have hflight : server.wasRead (server.start .doHandshake server.accept) (.ok d.payload) =
      .write [22, 2] (.read ⟨.hello, []⟩) := by
    obtain ⟨first, rest, hcons⟩ := List.exists_cons_of_ne_nil hpayload
    rw [hcons]
    rfl
  obtain ⟨s₁, h₁, hcall, hholds⟩ := arrives_new cfg (hd.receives s true) hpc hvacant hsrc
  obtain ⟨s₂, h₂, hcall, hburned⟩ := hcall.read_first cfg (fun _ => false) hholds
    (show server.next _ = .read 16384 from rfl) (by omega)
  rw [hflight] at hcall
  obtain ⟨s₃, _, h₃, hcall, hburned⟩ := hcall.write cfg (fun _ => false) (.inl hburned) rfl
  obtain ⟨s₄, h₄, hcall, hburned⟩ := hcall.read_again cfg (fun _ => false) hburned
    (show server.next _ = .read 16384 from rfl)
  obtain ⟨s₅, h₅, hrecv, hlookup⟩ :=
    hcall.ends cfg (show server.next _ = .ret _ (.error .wantRead) from rfl) (by simp [Waiting]) rfl
  refine ⟨s₅, Reaches.append ?_ h₅, hrecv, hlookup⟩
  have hflown := ((Reaches.refl.next _ (from_recv hd s true) h₁).next _ (from_tick _ _ _) h₂).next _
    (from_tick _ _ _) h₃
  exact hflown.next _ (from_tick _ _ _) h₄

lemma server_finish {bio : Bio server} (hd : d.Fits) (hpayload : d.payload ≠ [])
    (hpc : s.pc = .recv) (hstream : s.streams.lookup d.dst = some ⟨⟨.hello, []⟩, bio⟩)
    (hfrom : bio.sendFrom = d.dst) :
    ∃ s', Reaches (step cfg) (From d.src) s s' ∧ s'.pc = .recv ∧
      s'.streams.lookup d.dst = some ⟨⟨.finished, []⟩, { bio with sessions := some ((), ()) }⟩ := by
  have hfits := hd.payload
  have hflight : server.wasRead (server.start .doHandshake ⟨.hello, []⟩) (.ok d.payload) =
      .write [22, 20] (.ended ⟨.finished, []⟩ (.ok ())) := by
    obtain ⟨first, rest, hcons⟩ := List.exists_cons_of_ne_nil hpayload
    rw [hcons]
    rfl
  obtain ⟨s₁, h₁, hcall, hholds⟩ :=
    arrives_known cfg (r := .doHandshake) (hd.receives s true) hpc hstream hfrom rfl
  obtain ⟨s₂, h₂, hcall, hburned⟩ := hcall.read_first cfg (fun _ => false) hholds
    (show server.next _ = .read 16384 from rfl) (by omega)
  rw [hflight] at hcall
  obtain ⟨s₃, _, h₃, hcall, hburned⟩ := hcall.write cfg (fun _ => false) (.inl hburned) rfl
  obtain ⟨s₄, h₄, hrecv, hlookup⟩ := hcall.ends cfg (show server.next _ = .ret _ (.ok ()) from rfl)
    (by simp [Waiting]) rfl
  refine ⟨s₄, Reaches.append ?_ h₄, hrecv, hlookup⟩
  exact ((Reaches.refl.next _ (from_recv hd s true) h₁).next _ (from_tick _ _ _) h₂).next _
    (from_tick _ _ _) h₃

lemma server_session (k peer : SocketAddrV6) (hk : k.Plain) (hpeer : peer.Plain)
    (hsrc : peer ≠ cfg.endpoint) :
    ∃ s : State server, Reaches (step cfg) (From peer) (initial server) s ∧ s.pc = .recv ∧
      s.streams.lookup k = some ⟨⟨.finished, []⟩, ⟨k, peer, some ((), ())⟩⟩ := by
  obtain ⟨s₁, h₁, hpc, hstream⟩ := server_hello cfg (s := initial server) (d := ⟨k, peer, [22, 1]⟩)
    ⟨hpeer, hk, by simp⟩ (by simp) rfl rfl hsrc
  obtain ⟨s₂, h₂, hpc, hstream⟩ :=
    server_finish cfg (d := ⟨k, peer, [22, 20]⟩) ⟨hpeer, hk, by simp⟩ (by simp) hpc hstream rfl
  exact ⟨s₂, h₁.append h₂, hpc, hstream⟩

end Handshake

end Masquerade.DtlsProxy
