import Masquerade.DtlsProxy.Packet

/-! The buffer between two packets received: any reads and writes, by any of the streams that share
it. -/

namespace Masquerade.DtlsProxy

open Lib Wire

inductive Call
  | read (sendFrom : SocketAddrV6) (size : ℕ)
  | write (sendFrom sendTo : SocketAddrV6) (buf : Bytes)
  deriving DecidableEq

inductive Returned
  | read (result : Except ErrorKind Bytes)
  | written (result : Except ErrorKind ℕ)

def Call.run (p : Udp6Packet) : Call → Exec (Udp6Packet × Returned)
  | .read sendFrom size => do
    let (p, result) ← p.read sendFrom size
    return (p, .read result)
  | .write sendFrom sendTo buf => do
    let (p, _, result) ← p.write sendFrom sendTo buf
    return (p, .written result)

def runCalls : Udp6Packet → List Call → Exec (Udp6Packet × List (Call × Returned))
  | p, [] => .ok (p, [])
  | p, c :: cs => do
    let (p, r) ← c.run p
    let (p, history) ← runCalls p cs
    return (p, (c, r) :: history)

def Call.ReadBy (addr : SocketAddrV6) : Call → Prop
  | .read sendFrom _ => sendFrom.ip = addr.ip ∧ sendFrom.port = addr.port
  | .write _ _ _ => False

def Returned.Got : Returned → Prop
  | .read (.ok _) => True
  | _ => False

def Returned.Wrote : Returned → Prop
  | .written (.ok _) => True
  | _ => False

def Readable (d : Datagram) (p : Udp6Packet) : Prop :=
  ∀ sendFrom size, (Call.read sendFrom size).ReadBy d.dst → d.payload.length ≤ size →
    ∃ q, (Call.read sendFrom size).run p = .ok (q, .read (.ok d.payload))

structure Shared (d : Datagram) (p : Udp6Packet) (history : List (Call × Returned)) : Prop where
  once : history.Pairwise fun a b => a.2.Got → ¬ b.2.Got
  notBehindWrite : history.Pairwise fun a b => a.2.Wrote → ¬ b.2.Got
  payload : ∀ c bytes, (c, .read (.ok bytes)) ∈ history → c.ReadBy d.dst ∧ bytes = d.payload
  pending : (∀ e ∈ history, ¬ e.2.Wrote ∧ ¬ e.1.ReadBy d.dst) → Readable d p

section Runs

variable {p p' : Udp6Packet} {d : Datagram} {c : Call} {r : Returned}
  {history : List (Call × Returned)}

structure Burned (p : Udp6Packet) : Prop where
  unread : p.unread = none
  whole : p.Whole

lemma burn_burned (p : Udp6Packet) : Burned p.burn := ⟨p.burn_unread, p.burn_whole⟩

lemma runCalls_cons {cs : List Call} (hc : c.run p = .ok (p', r)) :
    runCalls p (c :: cs) = runCalls p' cs >>= fun (q, history) => .ok (q, (c, r) :: history) := by
  rw [runCalls, hc]
  rfl

lemma write_long (p : Udp6Packet) (sendFrom sendTo : SocketAddrV6) {buf : Bytes}
    (h : 4096 < buf.length) :
    (Call.write sendFrom sendTo buf).run p = .ok (p, .written (.error .outOfMemory)) := by
  rw [Call.run, Udp6Packet.write, dif_neg (by omega)]
  rfl

lemma write_fits (p : Udp6Packet) (sendFrom sendTo : SocketAddrV6) {buf : Bytes}
    (h : buf.length ≤ 4096) :
    ∃ q, (Call.write sendFrom sendTo buf).run p = .ok (q, .written (.ok buf.length)) ∧
      Burned q := by
  obtain ⟨q, hq⟩ := { p with buffer := p.buffer.fill buf h }.address_ok sendFrom sendTo h
  obtain ⟨packet, hpacket⟩ := q.sent_ok h
  rw [Call.run, Udp6Packet.write, dif_pos h, hq, ok_bind, hpacket]
  exact ⟨q.burn, rfl, burn_burned q⟩

lemma Burned.run (h : Burned p) (c : Call) : ∃ q r, c.run p = .ok (q, r) ∧ Burned q ∧ ¬ r.Got := by
  cases c with
  | read sendFrom size =>
    refine ⟨p, .read (.error .wouldBlock), ?_, h, id⟩
    rw [Call.run, Udp6Packet.read_burned h.unread]
    rfl
  | write sendFrom sendTo buf =>
    by_cases hfits : buf.length ≤ 4096
    · obtain ⟨q, hq, hburned⟩ := write_fits p sendFrom sendTo hfits
      exact ⟨q, _, hq, hburned, id⟩
    · exact ⟨p, _, write_long p sendFrom sendTo (by omega), h, id⟩

lemma Burned.runCalls (h : Burned p) (cs : List Call) :
    ∃ q history, runCalls p cs = .ok (q, history) ∧ history.map Prod.fst = cs ∧
      ∀ e ∈ history, ¬ e.2.Got := by
  induction cs generalizing p with
  | nil => exact ⟨p, [], rfl, rfl, by simp⟩
  | cons c cs ih =>
    obtain ⟨p', r, hrun, hburned, hgot⟩ := h.run c
    obtain ⟨q, history, hrest, hcalls, hnone⟩ := ih hburned
    refine ⟨q, (c, r) :: history, by rw [runCalls_cons hrun, hrest]; rfl, by simp [hcalls], ?_⟩
    simp only [List.mem_cons, forall_eq_or_imp]
    exact ⟨hgot, hnone⟩

inductive Used (d : Datagram) (p : Udp6Packet) (c : Call) : Udp6Packet × Returned → Prop
  | kept {r : Returned} : ¬ r.Got → ¬ r.Wrote → Used d p c (p, r)
  | taken {q : Udp6Packet} {r : Returned} : Burned q → c.ReadBy d.dst →
      (∀ bytes, r = .read (.ok bytes) → bytes = d.payload) → ¬ r.Wrote → Used d p c (q, r)
  | overwritten {q : Udp6Packet} {n : ℕ} : Burned q → Used d p c (q, .written (.ok n))

lemma Udp6Packet.Holds.run (h : p.Holds d) (c : Call) : ∃ o, c.run p = .ok o ∧ Used d p c o := by
  cases c with
  | read sendFrom size =>
    by_cases hmine : p.ip.dst = sendFrom.ip ∧ p.udp.dstPort = sendFrom.port
    · have hread : p.read sendFrom size =
          .ok (p.burn, if size < d.payload.length then .error .outOfMemory else .ok d.payload) :=
        Udp6Packet.read_unread h.whole h.unread hmine.1 hmine.2
      refine ⟨_, by rw [Call.run, hread, ok_bind]; rfl, .taken (burn_burned p) ?_ ?_ id⟩
      · exact ⟨hmine.1.symm.trans h.ip, hmine.2.symm.trans h.port⟩
      · intro bytes hbytes
        split_ifs at hbytes
        · cases hbytes
        · cases hbytes
          rfl
    · refine ⟨_, by rw [Call.run, Udp6Packet.read_foreign hmine, ok_bind]; rfl, .kept id id⟩
  | write sendFrom sendTo buf =>
    by_cases hfits : buf.length ≤ 4096
    · obtain ⟨q, hq, hburned⟩ := write_fits p sendFrom sendTo hfits
      exact ⟨_, hq, .overwritten hburned⟩
    · exact ⟨_, write_long p sendFrom sendTo (by omega), .kept id id⟩

lemma Udp6Packet.Holds.readable (h : p.Holds d) : Readable d p := by
  intro sendFrom size hmine hsize
  have hread : p.read sendFrom size =
      .ok (p.burn, if size < d.payload.length then .error .outOfMemory else .ok d.payload) :=
    Udp6Packet.read_unread h.whole h.unread (h.ip.trans hmine.1.symm) (h.port.trans hmine.2.symm)
  rw [if_neg (by omega)] at hread
  exact ⟨p.burn, by rw [Call.run, hread]; rfl⟩

lemma Shared.of_burned {c : Call} {r : Returned}
    (hpayload : ∀ bytes, r = .read (.ok bytes) → c.ReadBy d.dst ∧ bytes = d.payload)
    (hfirst : r.Wrote ∨ c.ReadBy d.dst) (hnone : ∀ e ∈ history, ¬ e.2.Got) :
    Shared d p ((c, r) :: history) where
  once := List.pairwise_cons.mpr ⟨fun e he _ => hnone e he,
    List.pairwise_of_forall_mem_list fun _ _ e he _ => hnone e he⟩
  notBehindWrite := List.pairwise_cons.mpr ⟨fun e he _ => hnone e he,
    List.pairwise_of_forall_mem_list fun _ _ e he _ => hnone e he⟩
  payload c' bytes hmem := by
    rcases List.mem_cons.mp hmem with heq | htail
    · cases heq
      exact hpayload bytes rfl
    · exact absurd trivial (hnone _ htail)
  pending hidle := by
    obtain ⟨hwrote, hread⟩ := hidle (c, r) List.mem_cons_self
    exact hfirst.elim (fun h => absurd h hwrote) fun h => absurd h hread

lemma Shared.cons {c : Call} {r : Returned} (h : Shared d p history) (hgot : ¬ r.Got)
    (hwrote : ¬ r.Wrote) :
    Shared d p ((c, r) :: history) where
  once := List.pairwise_cons.mpr ⟨fun _ _ hr => absurd hr hgot, h.once⟩
  notBehindWrite := List.pairwise_cons.mpr ⟨fun _ _ hr => absurd hr hwrote, h.notBehindWrite⟩
  payload c' bytes hmem := by
    rcases List.mem_cons.mp hmem with heq | htail
    · cases heq
      exact absurd trivial hgot
    · exact h.payload c' bytes htail
  pending hidle := h.pending fun e he => hidle e (List.mem_cons_of_mem _ he)

lemma Udp6Packet.Holds.runCalls (h : p.Holds d) (cs : List Call) :
    ∃ q history, runCalls p cs = .ok (q, history) ∧ history.map Prod.fst = cs ∧
      Shared d q history := by
  induction cs with
  | nil => exact ⟨p, [], rfl, rfl, .nil, .nil, by simp, fun _ => h.readable⟩
  | cons c cs ih =>
    obtain ⟨⟨p', r⟩, hrun, hused⟩ := h.run c
    rw [runCalls_cons hrun]
    cases hused with
    | kept hgot hwrote =>
      obtain ⟨q, history, hrest, hcalls, hshared⟩ := ih
      exact ⟨q, (c, r) :: history, by rw [hrest]; rfl, by simp [hcalls], hshared.cons hgot hwrote⟩
    | taken hburned hmine hpayload hwrote =>
      obtain ⟨q, history, hrest, hcalls, hnone⟩ := hburned.runCalls cs
      exact ⟨q, (c, r) :: history, by rw [hrest]; rfl, by simp [hcalls],
        .of_burned (fun bytes hr => ⟨hmine, hpayload bytes hr⟩) (.inr hmine) hnone⟩
    | @overwritten _ n hburned =>
      obtain ⟨q, history, hrest, hcalls, hnone⟩ := hburned.runCalls cs
      exact ⟨q, (c, .written (.ok n)) :: history, by rw [hrest]; rfl, by simp [hcalls],
        .of_burned nofun (.inl trivial) hnone⟩

theorem shared_buffer_protocol (p : Udp6Packet) {received : Bytes} (h : received.length ≤ 4144)
    (hd : (p.recv received h).datagram received.length = .ok (some d)) :
    d.payload = received.drop 48 ∧
    (∀ calls, ∃ q history, runCalls (p.recv received h) calls = .ok (q, history) ∧
      history.map Prod.fst = calls ∧ Shared d q history) ∧
    ∀ q sendFrom sendTo buf, 4096 < buf.length →
      (Call.write sendFrom sendTo buf).run q = .ok (q, .written (.error .outOfMemory)) := by
  have hholds : (p.recv received h).Holds d := by
    obtain hnone | ⟨d', hsome, hholds, -⟩ := (p.recv received h).datagram_cases h
    · rw [hnone] at hd
      cases hd
    · rw [hsome] at hd
      cases hd
      exact hholds
  exact ⟨p.datagram_payload h hd, hholds.runCalls,
    fun q sendFrom sendTo _ hlong => write_long q sendFrom sendTo hlong⟩

end Runs

def helloPacket : Bytes :=
  Ip6Header.asBytes ⟨0x60000000#32, 9, IpProto.udp, 64, 9, 2⟩ ++
    UdpHeader.asBytes ⟨9, 443, 9, 0⟩ ++ [0x16]

theorem shared_buffer_protocol_hello :
    ∃ (h : helloPacket.length ≤ 4144) (q : Udp6Packet) (history : List (Call × Returned)),
      runCalls (Udp6Packet.newZeroed.recv helloPacket h)
        [.read ⟨3, 443, 0, 0⟩ 16384, .read ⟨2, 443, 0, 0⟩ 16384,
          .write ⟨2, 443, 0, 0⟩ ⟨9, 9, 0, 0⟩ [0x16, 0x02]] =
          .ok (q, history) ∧
      Shared ⟨⟨2, 443, 0, 0⟩, ⟨9, 9, 0, 0⟩, [0x16]⟩ q history := by
  have h : helloPacket.length ≤ 4144 := by decide
  have hd := Udp6Packet.newZeroed.datagram_recv ⟨0x60000000#32, 9, IpProto.udp, 64, 9, 2⟩
    ⟨9, 443, 9, 0⟩ [0x16] (by decide) rfl rfl rfl h
  obtain ⟨q, history, hrun, -, hshared⟩ :=
    (shared_buffer_protocol Udp6Packet.newZeroed h hd).2.1 [.read ⟨3, 443, 0, 0⟩ 16384,
    .read ⟨2, 443, 0, 0⟩ 16384, .write ⟨2, 443, 0, 0⟩ ⟨9, 9, 0, 0⟩ [0x16, 0x02]]
  exact ⟨h, q, history, hrun, hshared⟩

end Masquerade.DtlsProxy
