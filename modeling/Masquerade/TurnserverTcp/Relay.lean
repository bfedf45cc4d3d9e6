import Masquerade.Common.Exchange
import Masquerade.TurnserverTcp.Frame
import Masquerade.TurnserverTcp.Machine

/-! What the TCP server is for: a relay of whole messages between clients and a network. Something
is lost in it only where a client is behind, where a stream does not take what it is offered, or
where nobody has the address. -/

namespace Masquerade.TurnserverTcp

open Lib Stun Common

/-- A client has sent `received`, of which the messages `asked` are taken off; it is given the
messages `told`, and its stream has accepted the bytes `taken` of them. -/
structure Client where
  relayed : SocketAddrV6
  received : Bytes
  asked : List Bytes
  told : List Bytes
  taken : Bytes

def Client.Behind (c : Client) : Prop := c.taken ≠ c.told.flatten

structure Relay where
  clients : ℕ → Option Client
  offer : Option (ℕ × Bytes)
  closing : Option ℕ
  network : List Bytes

inductive World
  | joins
  | sends (k : ℕ) (bytes : Bytes)
  | takes (k n : ℕ)
  | blocks (k : ℕ)
  | fails (k : ℕ)
  | arrives (packet : Bytes) (random : List.Vector UInt8 12)

namespace Relay

def empty : Relay := ⟨fun _ => none, none, none, []⟩

def set (r : Relay) (k : ℕ) (c : Option Client) : Relay :=
  { r with clients := Function.update r.clients k c }

structure Next (c : Client) (message : Bytes) : Prop where
  whole : IsFrame message
  short : message.length ≤ 65536
  follows : c.asked.flatten ++ message <+: c.received

def Malformed (bytes : Bytes) : Prop :=
  verdict bytes = .error .notStun ∨ ∃ size, verdict bytes = .error (.tooShort size) ∧ 65536 < size

def OffersOnly (r : Relay) (k : ℕ) : Prop := ∀ j message, r.offer = some (j, message) → j = k

variable [Crypto] (m : Mapping)

inductive Step (r : Relay) : Option World → Relay → Prop
  | join {k : ℕ} {relayed : SocketAddrV6} : r.clients k = none →
      m.fromIndex (BitVec.ofNat 64 k) = some relayed →
      Step r (some .joins) (r.set k (some ⟨relayed, [], [], [], []⟩))
  | full {k : ℕ} : r.clients k = none → m.fromIndex (BitVec.ofNat 64 k) = none ∨ maxSlots ≤ k →
      Step r (some .joins) r
  | feed (k : ℕ) (bytes : Bytes) : Step r (some (.sends k bytes))
      (r.set k ((r.clients k).map fun c => { c with received := c.received ++ bytes }))
  | handle {k : ℕ} {c : Client} {message : Bytes} {o : Observed} : r.clients k = some c →
      Next c message → ¬ c.Behind → turned (.v6 c.relayed) c.relayed message = o →
      Step r none { r.set k (some { c with
          asked := c.asked ++ [message], told := c.told ++ o.response.toList }) with
        network := r.network ++ o.sent }
  | skip {k : ℕ} {c : Client} {message : Bytes} : r.clients k = some c → Next c message → c.Behind →
      Step r none (r.set k (some { c with asked := c.asked ++ [message] }))
  | drop {packet : Bytes} {random : List.Vector UInt8 12} :
      (∀ receiver message, netted random packet = some (receiver, message) →
        ∀ k c, r.clients k = some c → c.relayed = receiver → c.Behind) →
      Step r (some (.arrives packet random)) r
  | offer {k : ℕ} {c : Client} {packet message : Bytes} {random : List.Vector UInt8 12} :
      r.offer = none → netted random packet = some (c.relayed, message) → r.clients k = some c →
      ¬ c.Behind → Step r (some (.arrives packet random)) { r with offer := some (k, message) }
  | deliver {k n : ℕ} {c : Client} {message : Bytes} : r.offer = some (k, message) →
      r.clients k = some c → ¬ c.Behind → n ≤ message.length →
      Step r (some (.takes k n)) { r.set k (some { c with
          told := c.told ++ [message], taken := c.taken ++ message.take n }) with
        offer := none }
  | take {k n : ℕ} {c : Client} {rest : Bytes} : r.offer = none → r.clients k = some c →
      c.taken ++ rest = c.told.flatten → n ≤ rest.length →
      Step r (some (.takes k n)) (r.set k (some { c with taken := c.taken ++ rest.take n }))
  | block {k : ℕ} : r.OffersOnly k → Step r (some (.blocks k)) { r with offer := none }
  | fail {k : ℕ} : r.OffersOnly k → Step r (some (.fails k)) { r with
      offer := none
      closing := if (r.clients k).isSome then some k else r.closing }
  | refuse {k : ℕ} {c : Client} {bytes : Bytes} : r.clients k = some c → Malformed bytes →
      c.asked.flatten ++ bytes <+: c.received → Step r none { r with closing := some k }
  | leave {k : ℕ} : r.closing = some k → Step r none { r.set k none with closing := none }

end Relay

end Masquerade.TurnserverTcp
