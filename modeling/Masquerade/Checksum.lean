import Masquerade.Lib.OnesComplement
import Masquerade.Wire

/-! The UDP checksum as its receiver checks it. -/

namespace Masquerade.Wire

open Lib

section Fold

lemma carry_mod (accum : ℕ) : ((accum >>> 16) + (accum &&& 0xffff)) % 65535 = accum % 65535 := by
  have hs : accum >>> 16 = accum / 65536 := Nat.shiftRight_eq_div_pow accum 16
  have ha : accum &&& 0xffff = accum % 65536 := Nat.and_two_pow_sub_one_eq_mod accum 16
  omega

lemma carry_pos {accum : ℕ} (h : 0 < accum) : 0 < (accum >>> 16) + (accum &&& 0xffff) := by
  have hs : accum >>> 16 = accum / 65536 := Nat.shiftRight_eq_div_pow accum 16
  have ha : accum &&& 0xffff = accum % 65536 := Nat.and_two_pow_sub_one_eq_mod accum 16
  omega

lemma checksumFold_spec (accum : ℕ) : checksumFold accum ≤ 65535 ∧
    checksumFold accum % 65535 = accum % 65535 ∧ (0 < accum → 0 < checksumFold accum) := by
  induction accum using Nat.strong_induction_on with
  | _ accum ih =>
    rw [checksumFold]
    split_ifs with h
    · obtain ⟨hle, hmod, hpos⟩ := ih _ (carry_lt h)
      exact ⟨hle, hmod.trans (carry_mod accum), fun _ => hpos (carry_pos (by omega))⟩
    · exact ⟨by omega, rfl, id⟩

end Fold

lemma wordSum_parity (offset : ℕ) (bs : Bytes) : wordSum (offset + 2) bs = wordSum offset bs := by
  induction bs generalizing offset with
  | nil => rfl
  | cons b bs ih =>
    rw [wordSum, wordSum, Nat.add_mod_right, Nat.add_right_comm, ih]

lemma wordSum_append (offset : ℕ) (xs ys : Bytes) :
    wordSum offset (xs ++ ys) = wordSum offset xs + wordSum (offset + xs.length) ys := by
  induction xs generalizing offset with
  | nil => simp [wordSum]
  | cons x xs ih =>
    rw [List.cons_append, wordSum, wordSum, ih, List.length_cons, Nat.add_right_comm offset 1,
      Nat.add_assoc offset, Nat.add_assoc]

lemma wordSum_even {offset : ℕ} (h : offset % 2 = 0) (bs : Bytes) :
    wordSum offset bs = wordSum 0 bs := by
  obtain ⟨k, rfl⟩ : ∃ k, offset = k + k := ⟨offset / 2, by omega⟩
  clear h
  induction k with
  | zero => rfl
  | succ k ih => rw [show k + 1 + (k + 1) = k + k + 2 by omega, wordSum_parity, ih]

lemma wordSum_u16 (w : UInt16) : wordSum 0 (u16Bytes w) = w.toNat := by
  have hw := w.toNat_lt
  simp only [u16Bytes, toBE, wordSum]
  simp [UInt8.toNat_ofNat', Nat.shiftLeft_eq]
  omega

def covered (ip : Ip6Header) (udp : UdpHeader) (data : Bytes) : List Bytes :=
  [Ipv6Addr.octets ip.src, Ipv6Addr.octets ip.dst, [0, ip.nextHeader], u16Bytes ip.payloadLength,
    udp.asBytes, data]

def Verifies (ip : Ip6Header) (udp : UdpHeader) (data : Bytes) : Prop :=
  udp.checksum ≠ 0 ∧ checksumFold (wordSum 0 (covered ip udp data).flatten) = 0xffff

instance (ip : Ip6Header) (udp : UdpHeader) (data : Bytes) : Decidable (Verifies ip udp data) :=
  inferInstanceAs (Decidable (_ ∧ _))

lemma wordSum_word {p : Bytes} (hp : p.length % 2 = 0) (w : UInt16) (data : Bytes) :
    wordSum 0 (p ++ (u16Bytes w ++ data)) = wordSum 0 p + (w.toNat + wordSum 0 data) := by
  rw [wordSum_append, wordSum_even (show (0 + p.length) % 2 = 0 by omega), wordSum_append,
    wordSum_u16, wordSum_even (show (0 + (u16Bytes w).length) % 2 = 0 by simp)]

lemma covered_sum (ip : Ip6Header) (udp : UdpHeader) (data : Bytes) (c : UInt16) :
    wordSum 0 (covered ip { udp with checksum := c } data).flatten =
      wordSum 0 (covered ip { udp with checksum := 0 } data).flatten + c.toNat := by
  obtain ⟨p, hp, hflat⟩ : ∃ p : Bytes, p.length % 2 = 0 ∧ ∀ c : UInt16,
      (covered ip { udp with checksum := c } data).flatten = p ++ (u16Bytes c ++ data) := by
    refine ⟨Ipv6Addr.octets ip.src ++
      (Ipv6Addr.octets ip.dst ++ ([0, ip.nextHeader] ++ (u16Bytes ip.payloadLength ++
      (u16Bytes udp.srcPort ++ (u16Bytes udp.dstPort ++ u16Bytes udp.length))))),
      by simp, fun c => ?_⟩
    simp only [covered, UdpHeader.asBytes, List.flatten_cons, List.flatten_nil, List.append_nil,
      List.append_assoc]
  rw [hflat c, hflat 0, wordSum_word hp, wordSum_word hp, UInt16.toNat_zero]
  omega

lemma complement_toNat {x : ℕ} (hx : x ≤ 65535) :
    (if ~~~(UInt16.ofNat x) = 0 then 0xffff else ~~~(UInt16.ofNat x) : UInt16).toNat =
      if x = 65535 then 65535 else 65535 - x := by
  have hn : (~~~(UInt16.ofNat x)).toNat = 65535 - x := by
    rw [UInt16.toNat_not, UInt16.toNat_ofNat', Nat.mod_eq_of_lt (by omega)]
    rfl
  have hzero : ~~~(UInt16.ofNat x) = 0 ↔ x = 65535 := by
    rw [← UInt16.toNat_inj, hn, UInt16.toNat_zero]
    omega
  by_cases h : x = 65535
  · rw [if_pos (hzero.mpr h), if_pos h]
    rfl
  · rw [if_neg (mt hzero.mp h), if_neg h, hn]

lemma udpChecksumFill_verifies {ip : Ip6Header} {udp udp' : UdpHeader} {data : Bytes}
    (h : data.length ≤ 65535) (hfill : udpChecksumFill ip udp data = .ok udp') :
    Verifies ip udp' data := by
  have hc := ipChecksum_eq (covered ip { udp with checksum := 0 } data) (by simp [covered]; omega)
  have hrun : udpChecksumFill ip udp data =
    ipChecksum (covered ip { udp with checksum := 0 } data) >>= fun c =>
      .ok { udp with checksum := if c = 0 then 0xffff else c } := rfl
  rw [hrun, hc, ok_bind, Except.ok.injEq] at hfill
  have hsum := covered_sum ip udp data udp'.checksum
  have hudp : { udp with checksum := udp'.checksum : UdpHeader } = udp' := by rw [← hfill]
  rw [hudp] at hsum
  generalize hS : wordSum 0 (covered ip { udp with checksum := 0 } data).flatten = S at hfill hsum
  obtain ⟨hle, hmod, -⟩ := checksumFold_spec S
  have hchecksum := congrArg (fun u : UdpHeader => u.checksum.toNat) hfill
  simp only [complement_toNat hle] at hchecksum
  obtain ⟨hle', hmod', hpos'⟩ := checksumFold_spec (wordSum 0 (covered ip udp' data).flatten)
  have hpos : 0 < udp'.checksum.toNat := by
    rw [← hchecksum]
    split_ifs <;> omega
  refine ⟨fun hzero => by simp [hzero] at hpos, ?_⟩
  have hnonzero := hpos' (by omega)
  split_ifs at hchecksum <;> omega

section Rfc1071

def words : Bytes → List ℕ
  | [] => []
  | [b] => [b.toNat * 256]
  | high :: low :: bs => (high.toNat * 256 + low.toNat) :: words bs

lemma words_le (bs : Bytes) : ∀ w ∈ words bs, w ≤ 65535 := by
  induction bs using words.induct with
  | case1 => simp [words]
  | case2 b =>
    have hb := b.toNat_lt
    simp only [words, List.mem_singleton, forall_eq]
    omega
  | case3 high low bs ih =>
    have hh := high.toNat_lt
    have hl := low.toNat_lt
    simp only [words, List.mem_cons, forall_eq_or_imp]
    exact ⟨by omega, ih⟩

lemma wordSum_words (bs : Bytes) : wordSum 0 bs = (words bs).sum := by
  induction bs using words.induct with
  | case1 => rfl
  | case2 b => simp [wordSum, words, Nat.shiftLeft_eq]
  | case3 high low bs ih =>
    have hrest : wordSum (0 + 1 + 1) bs = wordSum 0 bs := wordSum_parity 0 bs
    rw [words, List.sum_cons, ← ih, wordSum, wordSum, hrest]
    simp [Nat.shiftLeft_eq]
    omega

lemma checksumFold_wordSum (bs : Bytes) :
    checksumFold (wordSum 0 bs) = onesSum 65535 (words bs) := by
  obtain ⟨hle, hmod, hpos⟩ := checksumFold_spec (wordSum 0 bs)
  apply eq_onesSum (words_le bs) hle (by rw [hmod, wordSum_words])
  rw [← wordSum_words]
  constructor
  · intro h
    omega
  · intro h
    rw [h, checksumFold]
    rfl

end Rfc1071

lemma ipChecksum_covered {ip : Ip6Header} {udp : UdpHeader} {data : Bytes}
    (hlen : data.length ≤ 65535) (h : Verifies ip udp data) :
    ipChecksum (covered ip udp data) = .ok 0 := by
  rw [ipChecksum_eq _ (by simp [covered]; omega), h.2]
  rfl

theorem checksum_end_around :
    (∀ (ip : Ip6Header) (udp : UdpHeader) (data : Bytes), data.length ≤ 65527 →
      ∃ c : UInt16, c ≠ 0 ∧
      (∀ old, udpChecksumFill ip { udp with checksum := old } data =
      .ok { udp with checksum := c }) ∧ ipChecksum [Ipv6Addr.octets ip.src, Ipv6Addr.octets ip.dst,
      [0, ip.nextHeader], u16Bytes ip.payloadLength,
        { udp with checksum := c : UdpHeader }.asBytes, data] = .ok 0) ∧
    ∀ slices : List Bytes, slices.flatten.length ≤ 131072 →
      ipChecksum slices = .ok (~~~(UInt16.ofNat (onesSum 65535 (words slices.flatten)))) := by
  constructor
  · intro ip udp data hlen
    obtain ⟨c, hfill⟩ := udpChecksumFill_ok ip udp (show data.length ≤ 65535 by omega)
    have hverifies := udpChecksumFill_verifies (show data.length ≤ 65535 by omega) hfill
    -- the old checksum is overwritten before the sum is taken
    exact ⟨c, hverifies.1, fun old => hfill, ipChecksum_covered (by omega) hverifies⟩
  · intro slices hlen
    rw [ipChecksum_eq slices hlen, checksumFold_wordSum]

theorem checksum_end_around_odd :
    (∃ c : UInt16, c ≠ 0 ∧ udpChecksumFill ⟨0x60000000#32, 9, IpProto.udp, 64, 1, 1⟩
      ⟨1, 1, 9, 7⟩ [0x48] =
      .ok ⟨1, 1, 9, c⟩) ∧
    ipChecksum [[127, 0, 0, 1, 127], [0, 0, 1], [0, 17, 0, 19, 0, 1, 0, 1, 0, 19],
      [72, 101, 108, 108, 111, 32, 87, 111, 114, 108, 100]] = .ok 0xaff5 := by
  obtain ⟨hfill, hsum⟩ := checksum_end_around
  obtain ⟨c, hc, hudp, -⟩ :=
    hfill ⟨0x60000000#32, 9, IpProto.udp, 64, 1, 1⟩ ⟨1, 1, 9, 7⟩ [0x48] (by decide)
  exact ⟨⟨c, hc, hudp 7⟩, (hsum _ (by decide)).trans (by decide)⟩

end Masquerade.Wire
