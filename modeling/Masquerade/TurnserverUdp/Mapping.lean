import Masquerade.Lib.FirstMatch
import Masquerade.TurnserverTcp.Mapping

/-! The subnet mappings of the UDP server, between the addresses of its clients and those they are
relayed as. -/

namespace Masquerade.TurnserverUdp

open Lib
open TurnserverTcp (Ipv6Net)

inductive IpAddr
  | v4 (ip : Ipv4Addr)
  | v6 (ip : Ipv6Addr)
  deriving DecidableEq, Repr

def toIpv6Mapped (ip : Ipv4Addr) : Ipv6Addr := 0xFFFF00000000#128 ||| ip.setWidth 128

structure Mapping where
  udp : Ipv6Net
  tun : Ipv6Net
  sameSize : udp.prefixLen = tun.prefixLen

def splitOnce (separator : List Char) : List Char → Option (List Char × List Char)
  | [] => if separator = [] then some ([], []) else none
  | c :: s =>
    if separator.isPrefixOf (c :: s) then some ([], (c :: s).drop separator.length)
    else (splitOnce separator s).map fun (before, after) => (c :: before, after)

namespace Mapping

/-- `parseNet` is the `FromStr` of `Ipv6Net`. -/
def fromStr (parseNet : List Char → Except String Ipv6Net) (s : List Char) :
    Except String Mapping := do
  let some (udp, tun) := splitOnce "<->".toList s | throw "stuff"
  let udp ← parseNet udp
  let tun ← parseNet tun
  if h : udp.prefixLen = tun.prefixLen then return ⟨udp, tun, h⟩
  else throw "subnets need to have the same size"

variable (m : Mapping)

def toNet (addr : Ipv6Addr) : Ipv6Addr × Bool :=
  if m.udp.contains addr then (m.tun.network ||| (m.udp.hostmask &&& addr), true) else (addr, false)

def toUdp (addr : Ipv6Addr) : Ipv6Addr × Bool :=
  if m.tun.contains addr then (m.udp.network ||| (m.tun.hostmask &&& addr), true) else (addr, false)

end Mapping

def parseMappings (parseNet : List Char → Except String Ipv6Net) (mappings : List Char) :
    Except String (List Mapping) :=
  ((mappings.splitOn ',').filter (· ≠ [])).mapM (Mapping.fromStr parseNet)

def applyFirst (f : Mapping → Ipv6Addr → Ipv6Addr × Bool) : List Mapping → Ipv6Addr → Ipv6Addr
  | [], mapped => mapped
  | m :: ms, mapped =>
    match f m mapped with
    | (mapped, true) => mapped
    | (mapped, false) => applyFirst f ms mapped

def mappedIp : IpAddr → Ipv6Addr
  | .v4 ip => toIpv6Mapped ip
  | .v6 ip => ip

def relayedOf (mappings : List Mapping) (ip : IpAddr) (port : UInt16) : SocketAddrV6 :=
  ⟨applyFirst Mapping.toNet mappings (mappedIp ip), port, 0, 0⟩

def mappedReceiver (mappings : List Mapping) (receiver : SocketAddrV6) : SocketAddr :=
  .v6 ⟨applyFirst Mapping.toUdp mappings receiver.ip, receiver.port, 0, 0⟩

section Moved

def moved (source target : Ipv6Net) (addr : Ipv6Addr) : Ipv6Addr :=
  target.network ||| (source.hostmask &&& addr)

variable {source target : Ipv6Net} (h : source.prefixLen = target.prefixLen)

include h

lemma getLsbD_moved (addr : Ipv6Addr) (k : ℕ) : (moved source target addr).getLsbD k =
    if k < 128 - source.prefixLen then addr.getLsbD k else target.network.getLsbD k := by
  rw [moved, BitVec.getLsbD_or, BitVec.getLsbD_and, TurnserverTcp.getLsbD_hostmask]
  split_ifs with hk
  · simp [hk, TurnserverTcp.getLsbD_network_of_lt target (h ▸ hk)]
  · simp [hk]

lemma contains_moved (addr : Ipv6Addr) : target.contains (moved source target addr) = true := by
  rw [TurnserverTcp.contains_iff]
  intro k hk _
  rw [getLsbD_moved h, if_neg (by omega)]

lemma moved_moved {addr : Ipv6Addr} (hin : source.contains addr = true) :
    moved target source (moved source target addr) = addr := by
  apply BitVec.eq_of_getLsbD_eq
  intro k hk
  rw [getLsbD_moved h.symm, getLsbD_moved h]
  split_ifs with hlow hhigh
  · rfl
  · omega
  · exact ((TurnserverTcp.contains_iff source addr).mp hin k (by omega) hk).symm

end Moved

namespace Mapping

variable (m : Mapping)

def translation : Ipv6Addr ≃. Ipv6Addr where
  toFun addr := if m.udp.contains addr then some (moved m.udp m.tun addr) else none
  invFun addr := if m.tun.contains addr then some (moved m.tun m.udp addr) else none
  inv a b := by
    simp only [Option.ite_none_right_eq_some, Option.some.injEq]
    constructor
    · rintro ⟨hin, rfl⟩
      exact ⟨contains_moved m.sameSize.symm b, moved_moved m.sameSize.symm hin⟩
    · rintro ⟨hin, rfl⟩
      exact ⟨contains_moved m.sameSize a, moved_moved m.sameSize hin⟩

lemma applyFirst_eq {f : Mapping → Ipv6Addr → Ipv6Addr × Bool} {e : Mapping → Ipv6Addr ≃. Ipv6Addr}
    (hf : ∀ m a, f m a = ((e m a).getD a, (e m a).isSome)) (ms : List Mapping) (a : Ipv6Addr) :
    applyFirst f ms a = firstMatch (ms.map e) a := by
  induction ms with
  | nil => rfl
  | cons m ms ih =>
    rw [applyFirst, hf, List.map_cons, firstMatch]
    cases e m a with
    | none => exact ih
    | some b => rfl

lemma toNet_eq (addr : Ipv6Addr) :
    m.toNet addr = ((m.translation addr).getD addr, (m.translation addr).isSome) := by
  have happly : m.translation addr = if m.udp.contains addr then some
    (moved m.udp m.tun addr) else none := rfl
  rw [toNet, happly]
  split_ifs <;> rfl

lemma toUdp_eq (addr : Ipv6Addr) :
    m.toUdp addr = ((m.translation.symm addr).getD addr, (m.translation.symm addr).isSome) := by
  have happly : m.translation.symm addr = if m.tun.contains addr then some
    (moved m.tun m.udp addr) else none := rfl
  rw [toUdp, happly]
  split_ifs <;> rfl

end Mapping

/-- Either no subnet of any mapping contains the address, or the first mapping whose UDP side
contains it comes before every other whose TUN side contains the address that it is mapped to. -/
def Separate (mappings : List Mapping) (ip : Ipv6Addr) : Prop :=
  (∀ m ∈ mappings, ¬ m.udp.contains ip ∧ ¬ m.tun.contains ip) ∨
    ∃ before m after, mappings = before ++ m :: after ∧ m.udp.contains ip ∧
      ∀ m' ∈ before, ¬ m'.udp.contains ip ∧ ¬ m'.tun.contains (m.toNet ip).1

lemma translation_eq_none {m : Mapping} {a : Ipv6Addr} : m.translation a = none ↔
    ¬ m.udp.contains a := by
  have happly : m.translation a = if m.udp.contains a then some (moved m.udp m.tun a) else none :=
    rfl
  rw [happly]
  split_ifs with h <;> simp [h]

lemma translation_symm_eq_none {m : Mapping} {a : Ipv6Addr} : m.translation.symm a = none ↔
    ¬ m.tun.contains a := by
  have happly : m.translation.symm a = if m.tun.contains a then some
    (moved m.tun m.udp a) else none := rfl
  rw [happly]
  split_ifs with h <;> simp [h]

lemma translation_of_contains {m : Mapping} {a : Ipv6Addr} (h : m.udp.contains a = true) :
    m.translation a = some (m.toNet a).1 := by
  have happly : m.translation a = if m.udp.contains a then some (moved m.udp m.tun a) else none :=
    rfl
  rw [happly, if_pos h, Mapping.toNet, if_pos h, moved]

lemma unambiguous_iff (ms : List Mapping) (a : Ipv6Addr) :
    Unambiguous (ms.map Mapping.translation) a ↔ Separate ms a := by
  constructor
  · rintro (hall | ⟨before, e, after, b, hsplit, he, hbefore⟩)
    · left
      intro m hm
      obtain ⟨hudp, htun⟩ := hall _ (List.mem_map_of_mem hm)
      exact ⟨translation_eq_none.mp hudp, translation_symm_eq_none.mp htun⟩
    · obtain ⟨xs, ys, rfl, rfl, hys⟩ := List.map_eq_append_iff.mp hsplit
      obtain ⟨m, zs, rfl, rfl, -⟩ := List.map_eq_cons_iff.mp hys
      have hin : m.udp.contains a = true := by
        by_contra hout
        rw [translation_eq_none.mpr hout] at he
        cases he
      obtain rfl : (m.toNet a).1 = b :=
        Option.some.inj ((translation_of_contains hin).symm.trans he)
      refine .inr ⟨xs, m, zs, rfl, hin, fun m' hm' => ?_⟩
      obtain ⟨hudp, htun⟩ := hbefore _ (List.mem_map_of_mem hm')
      exact ⟨translation_eq_none.mp hudp, translation_symm_eq_none.mp htun⟩
  · rintro (hall | ⟨before, m, after, rfl, hin, hbefore⟩)
    · left
      intro e he
      obtain ⟨m, hm, rfl⟩ := List.mem_map.mp he
      exact ⟨translation_eq_none.mpr (hall m hm).1, translation_symm_eq_none.mpr (hall m hm).2⟩
    · refine .inr ⟨before.map Mapping.translation, m.translation, after.map Mapping.translation, _,
        by simp, translation_of_contains hin, fun e he => ?_⟩
      obtain ⟨m', hm', rfl⟩ := List.mem_map.mp he
      exact ⟨translation_eq_none.mpr (hbefore m' hm').1,
        translation_symm_eq_none.mpr (hbefore m' hm').2⟩

theorem mappings_one_to_one_iff (mappings : List Mapping) :
    (∀ ip port, mappedReceiver mappings (relayedOf mappings ip port) =
      .v6 ⟨mappedIp ip, port, 0, 0⟩ ↔ Separate mappings (mappedIp ip)) ∧
    ∀ ip₁ port₁ ip₂ port₂, Separate mappings (mappedIp ip₁) → Separate mappings (mappedIp ip₂) →
      relayedOf mappings ip₁ port₁ = relayedOf mappings ip₂ port₂ →
        mappedIp ip₁ = mappedIp ip₂ ∧ port₁ = port₂ := by
  have hback : ∀ a, applyFirst Mapping.toUdp mappings (applyFirst Mapping.toNet mappings a) = a ↔
      Separate mappings a := by
    intro a
    rw [Mapping.applyFirst_eq Mapping.toNet_eq,
      Mapping.applyFirst_eq (e := fun m => m.translation.symm) Mapping.toUdp_eq, ← unambiguous_iff,
      ← firstMatchBack_firstMatch_iff, firstMatchBack, List.map_map]
    rfl
  constructor
  · intro ip port
    rw [← hback, mappedReceiver, relayedOf]
    simp
  · intro ip₁ port₁ ip₂ port₂ h₁ h₂ he
    obtain ⟨hip, hport⟩ : _ ∧ _ := by simpa [relayedOf] using he
    exact ⟨by rw [← (hback _).mpr h₁, hip, (hback _).mpr h₂], hport⟩

def mappedV4 : Mapping where
  udp := ⟨0xFFFF00000000#128, 96, by norm_num⟩
  tun := ⟨0xFD000000000000000000000000000000#128, 96, by norm_num⟩
  sameSize := rfl

theorem mappings_one_to_one_iff_localhost :
    mappedReceiver [mappedV4] (relayedOf [mappedV4] (.v4 0x7F000001#32) 4000) =
      .v6 ⟨0xFFFF7F000001#128, 4000, 0, 0⟩ ∧
      (relayedOf [mappedV4] (.v4 0x7F000001#32) 4000 = relayedOf [mappedV4] (.v6 1#128) 4000 →
        0xFFFF7F000001#128 = 1#128 ∧ (4000 : UInt16) = 4000) := by
  have hlocalhost : Separate [mappedV4] (mappedIp (.v4 0x7F000001#32)) :=
    .inr ⟨[], mappedV4, [], rfl, by decide, fun m' hm' => absurd hm' List.not_mem_nil⟩
  have hother : Separate [mappedV4] (mappedIp (.v6 1#128)) := by
    left
    intro m hm
    obtain rfl := List.mem_singleton.mp hm
    decide
  have hmappings := mappings_one_to_one_iff [mappedV4]
  exact ⟨(hmappings.1 (.v4 0x7F000001#32) 4000).mpr hlocalhost,
    hmappings.2 _ _ _ _ hlocalhost hother⟩

def globalUnicast : Mapping where
  udp := ⟨0x20000000000000000000000000000000#128, 3, by norm_num⟩
  tun := ⟨0xA0000000000000000000000000000000#128, 3, by norm_num⟩
  sameSize := rfl

/-- A client whose own address is in the subnet that another's is mapped to. -/
theorem two_clients_relayed_as_one :
    relayedOf [globalUnicast] (.v6 0xA0000000000000000000000000000001#128) 4000 =
        relayedOf [globalUnicast] (.v6 0x20000000000000000000000000000001#128) 4000 ∧
      mappedReceiver [globalUnicast]
        (relayedOf [globalUnicast] (.v6 0xA0000000000000000000000000000001#128) 4000) =
        .v6 ⟨0x20000000000000000000000000000001#128, 4000, 0, 0⟩ ∧
      SocketAddr.v6 ⟨0x20000000000000000000000000000001#128, 4000, 0, 0⟩ ≠
        .v6 ⟨0xA0000000000000000000000000000001#128, 4000, 0, 0⟩ := by
  decide

end Masquerade.TurnserverUdp
