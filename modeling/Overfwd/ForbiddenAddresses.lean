import Overfwd.Endpoint
import Overfwd.Lib.Cidr

namespace Overfwd

open Text Outcome Net Dialogue Cidr

/-- The block that starts at an IPv4 address. -/
def block4 (ip : Ipv4Addr) (len : ℕ) (hlen : len ≤ 32 := by decide)
    (haligned : 2^(32-len) ∣ ip.bits.toNat := by decide) : Block 32 :=
  ⟨ip.bits, len, hlen, haligned⟩

def block6 (ip : Ipv6Addr) (len : ℕ) (hlen : len ≤ 128 := by decide)
    (haligned : 2^(128-len) ∣ ip.bits.toNat := by decide) : Block 128 :=
  ⟨ip.bits, len, hlen, haligned⟩

/-- This network, private use, shared space, loopback, link local, documentation,
multicast and broadcast. -/
def forbiddenV4 : List (Block 32) :=
  [block4 ⟨0, 0, 0, 0⟩ 8, block4 ⟨10, 0, 0, 0⟩ 8, block4 ⟨100, 64, 0, 0⟩ 10,
    block4 ⟨127, 0, 0, 0⟩ 8, block4 ⟨169, 254, 0, 0⟩ 16, block4 ⟨172, 16, 0, 0⟩ 12,
    block4 ⟨192, 168, 0, 0⟩ 16, block4 ⟨192, 0, 2, 0⟩ 24, block4 ⟨198, 51, 100, 0⟩ 24,
    block4 ⟨203, 0, 113, 0⟩ 24, block4 ⟨224, 0, 0, 0⟩ 4, block4 ⟨255, 255, 255, 255⟩ 32]

/-- Unspecified, loopback, unique local, link local and multicast. -/
def forbiddenV6 : List (Block 128) :=
  [block6 ⟨0, 0, 0, 0, 0, 0, 0, 0⟩ 128, block6 ⟨0, 0, 0, 0, 0, 0, 0, 1⟩ 128,
    block6 ⟨0xfc00, 0, 0, 0, 0, 0, 0, 0⟩ 7, block6 ⟨0xfe80, 0, 0, 0, 0, 0, 0, 0⟩ 10,
    block6 ⟨0xff00, 0, 0, 0, 0, 0, 0, 0⟩ 8]

section Rules

variable (ip : Ipv4Addr)

theorem octets_lt :
    ip.a.toNat < 256 ∧ ip.b.toNat < 256 ∧ ip.c.toNat < 256 ∧ ip.d.toNat < 256 :=
  ⟨ip.a.isLt, ip.b.isLt, ip.c.isLt, ip.d.isLt⟩

theorem contains_block4 (base : Ipv4Addr) (len : ℕ) (hlen : len ≤ 32)
    (haligned : 2^(32-len) ∣ base.bits.toNat) :
    (block4 base len hlen haligned).Contains ip.bits ↔
      base.bits.toNat ≤ ip.a.toNat * 2^24 + ip.b.toNat * 2^16 + ip.c.toNat * 2^8 + ip.d.toNat ∧
        ip.a.toNat * 2^24 + ip.b.toNat * 2^16 + ip.c.toNat * 2^8 + ip.d.toNat <
          base.bits.toNat + 2^(32-len) := by
  rw [← Ipv4Addr.toNat_bits]
  exact contains_iff_range _ _

theorem isLoopback_iff : ip.isLoopback = true ↔ (block4 ⟨127, 0, 0, 0⟩ 8).Contains ip.bits := by
  have hbase : (⟨127, 0, 0, 0⟩ : Ipv4Addr).bits.toNat = 127 * 2^24 := rfl
  have hrule : ip.isLoopback = true ↔ ip.a.toNat = 127 := by
    simp [Ipv4Addr.isLoopback, ← BitVec.toNat_inj]
  have hlt := octets_lt ip
  rw [contains_block4, hbase, hrule]
  omega

theorem isLinkLocal_iff :
    ip.isLinkLocal = true ↔ (block4 ⟨169, 254, 0, 0⟩ 16).Contains ip.bits := by
  have hbase : (⟨169, 254, 0, 0⟩ : Ipv4Addr).bits.toNat = 169 * 2^24 + 254 * 2^16 := rfl
  have hlt := octets_lt ip
  have hrule : ip.isLinkLocal = true ↔ ip.a.toNat = 169 ∧ ip.b.toNat = 254 := by
    simp [Ipv4Addr.isLinkLocal, ← BitVec.toNat_inj]
  rw [contains_block4, hbase, hrule]
  omega

theorem isPrivate_iff :
    ip.isPrivate = true ↔ (block4 ⟨10, 0, 0, 0⟩ 8).Contains ip.bits ∨
      (block4 ⟨172, 16, 0, 0⟩ 12).Contains ip.bits ∨
      (block4 ⟨192, 168, 0, 0⟩ 16).Contains ip.bits := by
  have h10 : (⟨10, 0, 0, 0⟩ : Ipv4Addr).bits.toNat = 10 * 2^24 := rfl
  have h172 : (⟨172, 16, 0, 0⟩ : Ipv4Addr).bits.toNat = 172 * 2^24 + 16 * 2^16 := rfl
  have h192 : (⟨192, 168, 0, 0⟩ : Ipv4Addr).bits.toNat = 192 * 2^24 + 168 * 2^16 := rfl
  have hlt := octets_lt ip
  have hrule : ip.isPrivate = true ↔ ip.a.toNat = 10 ∨
      ip.a.toNat = 172 ∧ 16 ≤ ip.b.toNat ∧ ip.b.toNat ≤ 31 ∨
      ip.a.toNat = 192 ∧ ip.b.toNat = 168 := by
    simp [Ipv4Addr.isPrivate, ← BitVec.toNat_inj, BitVec.le_def, or_assoc, and_assoc]
  rw [contains_block4, contains_block4, contains_block4, h10, h172, h192, hrule]
  omega

theorem isBroadcast_iff :
    ip.isBroadcast = true ↔ (block4 ⟨255, 255, 255, 255⟩ 32).Contains ip.bits := by
  have hbase : (⟨255, 255, 255, 255⟩ : Ipv4Addr).bits.toNat = 2^32 - 1 := rfl
  have hrule : ip.isBroadcast = true ↔ ip.a.toNat = 255 ∧ ip.b.toNat = 255 ∧ ip.c.toNat = 255 ∧
      ip.d.toNat = 255 := by
    cases ip
    simp [Ipv4Addr.isBroadcast, ← BitVec.toNat_inj]
  have hlt := octets_lt ip
  rw [contains_block4, hbase, hrule]
  omega

theorem isMulticast_iff : ip.isMulticast = true ↔ (block4 ⟨224, 0, 0, 0⟩ 4).Contains ip.bits := by
  have hbase : (⟨224, 0, 0, 0⟩ : Ipv4Addr).bits.toNat = 224 * 2^24 := rfl
  have hrule : ip.isMulticast = true ↔ 224 ≤ ip.a.toNat ∧ ip.a.toNat ≤ 239 := by
    simp [Ipv4Addr.isMulticast, BitVec.le_def]
  have hlt := octets_lt ip
  rw [contains_block4, hbase, hrule]
  omega

theorem isDocumentation_iff :
    ip.isDocumentation = true ↔ (block4 ⟨192, 0, 2, 0⟩ 24).Contains ip.bits ∨
      (block4 ⟨198, 51, 100, 0⟩ 24).Contains ip.bits ∨
      (block4 ⟨203, 0, 113, 0⟩ 24).Contains ip.bits := by
  have h192 : (⟨192, 0, 2, 0⟩ : Ipv4Addr).bits.toNat = 192 * 2^24 + 2 * 2^8 := rfl
  have h198 : (⟨198, 51, 100, 0⟩ : Ipv4Addr).bits.toNat = 198 * 2^24 + 51 * 2^16 + 100 * 2^8 := rfl
  have h203 : (⟨203, 0, 113, 0⟩ : Ipv4Addr).bits.toNat = 203 * 2^24 + 113 * 2^8 := rfl
  have hrule : ip.isDocumentation = true ↔
      ip.a.toNat = 192 ∧ ip.b.toNat = 0 ∧ ip.c.toNat = 2 ∨
      ip.a.toNat = 198 ∧ ip.b.toNat = 51 ∧ ip.c.toNat = 100 ∨
      ip.a.toNat = 203 ∧ ip.b.toNat = 0 ∧ ip.c.toNat = 113 := by
    simp [Ipv4Addr.isDocumentation, ← BitVec.toNat_inj, or_assoc, and_assoc]
  have hlt := octets_lt ip
  rw [contains_block4, contains_block4, contains_block4, h192, h198, h203, hrule]
  omega

/-- The two upper bits of the second octet are all that the mask looks at. -/
theorem sharedSpace_iff :
    (ip.a == 100 && ip.b &&& 0xc0 == 0x40) = true ↔
      (block4 ⟨100, 64, 0, 0⟩ 10).Contains ip.bits := by
  have hbase : (⟨100, 64, 0, 0⟩ : Ipv4Addr).bits.toNat = 100 * 2^24 + 64 * 2^16 := rfl
  have hmask := masked_iff_range (⟨0x40, 2, by decide, by decide⟩ : Block 8) ip.b 0xc0 (by decide)
  have hrule : (ip.a == 100 && ip.b &&& 0xc0 == 0x40) = true ↔ ip.a.toNat = 100 ∧
      64 ≤ ip.b.toNat ∧ ip.b.toNat < 128 := by
    rw [Bool.and_eq_true, hmask, beq_iff_eq, ← BitVec.toNat_inj]
    rfl
  have hlt := octets_lt ip
  rw [contains_block4, hbase, hrule]
  omega

/-- The unspecified address is one of this network. -/
theorem thisNetwork_iff :
    (ip.isUnspecified = true ∨ (ip.a == 0) = true) ↔ (block4 ⟨0, 0, 0, 0⟩ 8).Contains ip.bits := by
  have hbase : (⟨0, 0, 0, 0⟩ : Ipv4Addr).bits.toNat = 0 := rfl
  have hrule : (ip.isUnspecified = true ∨ (ip.a == 0) = true) ↔ ip.a.toNat = 0 := by
    cases ip
    simp only [Ipv4Addr.isUnspecified, beq_iff_eq, Ipv4Addr.mk.injEq, ← BitVec.toNat_inj,
      BitVec.ofNat_eq_ofNat, BitVec.toNat_ofNat]
    omega
  have hlt := octets_lt ip
  rw [contains_block4, hbase, hrule]
  omega

/-- Every rule is a block and every block has its rule. -/
theorem isForbiddenV4_iff : isForbiddenV4 ip = true ↔ ∃ b ∈ forbiddenV4, b.Contains ip.bits := by
  simp only [isForbiddenV4, Bool.or_eq_true, isLoopback_iff, isPrivate_iff, isLinkLocal_iff,
    isBroadcast_iff, isMulticast_iff, isDocumentation_iff, sharedSpace_iff]
  simp only [forbiddenV4, List.mem_cons, List.not_mem_nil, or_false, exists_eq_or_imp,
    exists_eq_left, ← thisNetwork_iff]
  tauto

end Rules

section Segments

variable (ip : Ipv6Addr)

theorem segments_lt :
    ip.s0.toNat < 65536 ∧ ip.s1.toNat < 65536 ∧ ip.s2.toNat < 65536 ∧ ip.s3.toNat < 65536 ∧
      ip.s4.toNat < 65536 ∧ ip.s5.toNat < 65536 ∧ ip.s6.toNat < 65536 ∧ ip.s7.toNat < 65536 :=
  ⟨ip.s0.isLt, ip.s1.isLt, ip.s2.isLt, ip.s3.isLt, ip.s4.isLt, ip.s5.isLt, ip.s6.isLt, ip.s7.isLt⟩

/-- All that follows the first segment is less than one step of it. -/
theorem toNat_bits_range :
    ip.s0.toNat * 2^112 ≤ ip.bits.toNat ∧ ip.bits.toNat < (ip.s0.toNat + 1) * 2^112 := by
  have hlt := segments_lt ip
  rw [Ipv6Addr.toNat_bits]
  omega

/-- A mask on the first segment is a block of addresses. -/
theorem masked_segment_iff (base : Ipv6Addr) (b : Block 16) (m : BitVec 16)
    (hm : m = mask 16 b.len) (hbase : base.bits.toNat = b.base.toNat * 2^112) (len : ℕ)
    (hlen : len ≤ 128) (haligned : 2^(128-len) ∣ base.bits.toNat) (hsame : len = b.len) :
    (ip.s0 &&& m == b.base) = true ↔ (block6 base len hlen haligned).Contains ip.bits := by
  have hrange := toNat_bits_range ip
  have hle := b.len_le
  have hpow : 2^(128-len) = 2^(16-b.len) * 2^112 := by
    rw [← Nat.pow_add]
    congr 1
    omega
  -- Both sides are ranges: of the first segment, and of the whole address in steps of 2^112.
  rw [masked_iff_range b ip.s0 m hm, contains_iff_range]
  change _ ↔ base.bits.toNat ≤ _ ∧ _ < base.bits.toNat + 2^(128-len)
  rw [hbase, hpow]
  generalize 2^(16-b.len) = size
  omega

theorem uniqueLocal_iff :
    (ip.s0 &&& 0xfe00 == 0xfc00) = true ↔
      (block6 ⟨0xfc00, 0, 0, 0, 0, 0, 0, 0⟩ 7).Contains ip.bits :=
  masked_segment_iff ip _ ⟨0xfc00, 7, by decide, by decide⟩ _ (by decide) rfl 7 _ _ rfl

theorem linkLocal_iff :
    (ip.s0 &&& 0xffc0 == 0xfe80) = true ↔
      (block6 ⟨0xfe80, 0, 0, 0, 0, 0, 0, 0⟩ 10).Contains ip.bits :=
  masked_segment_iff ip _ ⟨0xfe80, 10, by decide, by decide⟩ _ (by decide) rfl 10 _ _ rfl

theorem isMulticastV6_iff :
    ip.isMulticast = true ↔ (block6 ⟨0xff00, 0, 0, 0, 0, 0, 0, 0⟩ 8).Contains ip.bits :=
  masked_segment_iff ip _ ⟨0xff00, 8, by decide, by decide⟩ _ (by decide) rfl 8 _ _ rfl

theorem contains_one_iff (base : Ipv6Addr) (haligned : 2^(128-128) ∣ base.bits.toNat) :
    (block6 base 128 (Nat.le_refl _) haligned).Contains ip.bits ↔ ip = base := by
  constructor
  · intro h
    exact ip.bits_injective base ((contains_single ip.bits base.bits).mp h)
  · intro h
    exact (contains_single ip.bits base.bits).mpr (congrArg Ipv6Addr.bits h)

/-- No IPv6 block reaches the addresses that embed an IPv4 one. -/
theorem mapped_outside (v4 : Ipv4Addr) : ∀ b ∈ forbiddenV6, ¬b.Contains v4.mapped.bits := by
  have hlt := segments_lt v4.mapped
  have hbits : v4.mapped.bits.toNat = 65535 * 2^32 + v4.mapped.s6.toNat * 2^16 +
      v4.mapped.s7.toNat := by
    rw [Ipv6Addr.toNat_bits]
    simp only [Ipv4Addr.mapped, BitVec.ofNat_eq_ofNat, BitVec.toNat_ofNat]
    omega
  have hbase : ∀ b ∈ forbiddenV6, b.base.toNat + 2^(128-b.len) ≤ 2^32 ∨ 2^48 ≤ b.base.toNat := by
    decide
  intro b hb hcontains
  have hrange := (contains_iff_range _ _).mp hcontains
  have houtside := hbase b hb
  omega

theorem isForbiddenIp_mapped (v4 : Ipv4Addr) :
    isForbiddenIp (.v6 v4.mapped) = isForbiddenIp (.v4 v4) := by
  have hmapped := (toIpv4Mapped_eq_some_iff v4.mapped v4).mpr rfl
  simp only [isForbiddenIp, hmapped]

/-- The rules of an address that embeds none are the blocks. -/
theorem isForbiddenIp_plain (h : ip.toIpv4Mapped = none) :
    isForbiddenIp (.v6 ip) = true ↔ ∃ b ∈ forbiddenV6, b.Contains ip.bits := by
  have hloopback : ip.isLoopback = true ↔ ip = ⟨0, 0, 0, 0, 0, 0, 0, 1⟩ := beq_iff_eq
  have hunspecified : ip.isUnspecified = true ↔ ip = ⟨0, 0, 0, 0, 0, 0, 0, 0⟩ := beq_iff_eq
  simp only [isForbiddenIp, h, Bool.or_eq_true, hloopback, hunspecified, isMulticastV6_iff,
    uniqueLocal_iff, linkLocal_iff, forbiddenV6, List.mem_cons, List.not_mem_nil, or_false,
    exists_eq_or_imp, exists_eq_left, contains_one_iff]
  tauto

/-- The early return for embedded addresses hides no block. -/
theorem isForbiddenV6_iff :
    isForbiddenIp (.v6 ip) = true ↔
      (∃ b ∈ forbiddenV6, b.Contains ip.bits) ∨
        ∃ v4 : Ipv4Addr, ip = v4.mapped ∧ isForbiddenIp (.v4 v4) = true := by
  cases hmapped : ip.toIpv4Mapped with
  | some v4 =>
    -- The early return: the rules for IPv6 are skipped, and none of them would have held.
    obtain rfl := (toIpv4Mapped_eq_some_iff ip v4).mp hmapped
    rw [isForbiddenIp_mapped]
    constructor
    · intro h
      exact Or.inr ⟨v4, rfl, h⟩
    · rintro (⟨b, hb, hcontains⟩ | ⟨w4, hsame, h⟩)
      · exact absurd hcontains (mapped_outside v4 b hb)
      · rw [(toIpv4Mapped_eq_some_iff _ w4).mpr hsame] at hmapped
        cases hmapped
        exact h
  | none =>
    have hnone : ¬∃ v4 : Ipv4Addr, ip = v4.mapped ∧ isForbiddenIp (.v4 v4) = true := by
      rintro ⟨v4, hv4, -⟩
      rw [(toIpv4Mapped_eq_some_iff ip v4).mpr hv4] at hmapped
      cases hmapped
    rw [isForbiddenIp_plain ip hmapped, or_iff_left hnone]

end Segments

section Guard

/-- What the guard makes of the answers for a name. -/
def answersVerdict (source host : String) (addrs : List IpAddr) : Except GatewayError Unit :=
  if addrs.isEmpty then
    .error (.hostUnreachable (source ++ " host '" ++ host ++ "' has no addresses"))
  else if addrs.any isForbiddenIp then .error (blocked source host)
  else .ok ()

/-- Either the guard asks for no answers, or they alone decide. -/
theorem endpointCheck_cases (enabled : Bool) (source : String) (target : HostPort) :
    (∃ verdict, ∀ net : FixedNetwork,
      runE net.answer (endpointCheck enabled source target) = verdict) ∨
    ∀ (net : FixedNetwork) (addrs : List IpAddr), net.lookup (bareHost target.host) = .ok addrs →
      runE net.answer (endpointCheck enabled source target) =
        answersVerdict source (shownHost target.host) addrs := by
  unfold endpointCheck
  cases enabled with
  | false => exact Or.inl ⟨.ok (), fun net => rfl⟩
  | true =>
    cases hliteral : parseIp (bareHost target.host) with
    | some ip =>
      by_cases hforbidden : isForbiddenIp ip = true
      · refine Or.inl ⟨.error (blocked source (shownHost target.host)), fun net => ?_⟩
        simp [hliteral, hforbidden]
      · exact Or.inl ⟨.ok (), fun net => by simp [hliteral, hforbidden]⟩
    | none =>
      by_cases hreserved : isReservedName (toAsciiLowercase (bareHost target.host)) = true
      · refine Or.inl ⟨.error (blocked source (shownHost target.host)), fun net => ?_⟩
        simp [hliteral, hreserved]
      · refine Or.inr fun net addrs h => ?_
        simp only [hliteral, hreserved, h, Bool.not_true, Bool.false_eq_true, if_false, runE_bind,
          runE_lookupAddrs, ok_bind, answersVerdict]
        split_ifs
        · rfl
        · rfl
        · rfl

variable (source host : String) (addrs addrs' : List IpAddr)

/-- Of the answers it only matters which ones there are, not how often or in what order. -/
theorem answersVerdict_congr (hsame : ∀ ip, ip ∈ addrs ↔ ip ∈ addrs') :
    answersVerdict source host addrs = answersVerdict source host addrs' := by
  have hempty : addrs.isEmpty = addrs'.isEmpty := by
    rw [Bool.eq_iff_iff, List.isEmpty_iff, List.isEmpty_iff, List.eq_nil_iff_forall_not_mem,
      List.eq_nil_iff_forall_not_mem]
    exact forall_congr' fun ip => not_congr (hsame ip)
  have hany : addrs.any isForbiddenIp = addrs'.any isForbiddenIp := by
    rw [Bool.eq_iff_iff, List.any_eq_true, List.any_eq_true]
    exact exists_congr fun ip => and_congr_left' (hsame ip)
  rw [answersVerdict, answersVerdict, hempty, hany]

/-- With more answers the verdict stays, or an accepted name is refused. -/
theorem answersVerdict_grows (hne : addrs ≠ []) (hsub : ∀ ip ∈ addrs, ip ∈ addrs') :
    answersVerdict source host addrs' = answersVerdict source host addrs ∨
      (answersVerdict source host addrs = .ok () ∧
        answersVerdict source host addrs' = .error (blocked source host)) := by
  have hne' : addrs' ≠ [] := by
    obtain ⟨ip, hip⟩ := List.exists_mem_of_ne_nil _ hne
    exact List.ne_nil_of_mem (hsub ip hip)
  have hempty : ¬addrs.isEmpty = true := by rwa [List.isEmpty_iff]
  have hempty' : ¬addrs'.isEmpty = true := by rwa [List.isEmpty_iff]
  rw [answersVerdict, answersVerdict, if_neg hempty, if_neg hempty']
  by_cases hany : addrs.any isForbiddenIp = true
  · have hany' : addrs'.any isForbiddenIp = true := by
      obtain ⟨ip, hip, hforbidden⟩ := List.any_eq_true.mp hany
      exact List.any_eq_true.mpr ⟨ip, hsub ip hip, hforbidden⟩
    rw [if_pos hany, if_pos hany']
    exact Or.inl rfl
  · rw [if_neg hany]
    by_cases hany' : addrs'.any isForbiddenIp = true
    · rw [if_pos hany']
      exact Or.inr ⟨rfl, rfl⟩
    · rw [if_neg hany']
      exact Or.inl rfl

end Guard

section Resolver

/-- `SafeDnsResolver::resolve`, given the answer of the system's resolver: the addresses or
the text of the failure. -/
def safeResolve (answer : Except String (List IpAddr)) : Except String (List IpAddr) :=
  match answer with
  | .error e => .error e
  | .ok addrs =>
    let kept := addrs.filter fun ip => !isForbiddenIp ip
    if !kept.isEmpty then .ok kept else .error "refusing to connect to a non-public address"

/-- The fetcher is given some public addresses of the name, and no other ones. -/
theorem safeResolve_eq_ok_iff (addrs kept : List IpAddr) :
    safeResolve (.ok addrs) = .ok kept ↔
      kept ≠ [] ∧ kept = addrs.filter fun ip => !isForbiddenIp ip := by
  unfold safeResolve
  dsimp only
  by_cases hempty : (addrs.filter fun ip => !isForbiddenIp ip).isEmpty = true
  · rw [hempty]
    rw [List.isEmpty_iff] at hempty
    rw [hempty]
    constructor
    · intro h
      cases h
    · intro h
      exact absurd h.2 h.1
  · simp only [hempty]
    rw [List.isEmpty_iff] at hempty
    constructor
    · intro h
      cases h
      exact ⟨hempty, rfl⟩
    · rintro ⟨-, rfl⟩
      rfl

/-- Both guards agree on a name: where the endpoint check accepts its answers, the fetcher
is given all of them. -/
theorem safeResolve_of_accepted (source host : String) (addrs : List IpAddr)
    (h : answersVerdict source host addrs = .ok ()) : safeResolve (.ok addrs) = .ok addrs := by
  unfold answersVerdict at h
  split_ifs at h with hempty hany
  have hpublic : ∀ ip ∈ addrs, (!isForbiddenIp ip) = true := by
    intro ip hip
    have hnot : ¬isForbiddenIp ip = true := fun hforbidden =>
      hany (List.any_eq_true.mpr ⟨ip, hip, hforbidden⟩)
    simpa using hnot
  apply (safeResolve_eq_ok_iff addrs addrs).mpr
  refine ⟨fun hnil => hempty (List.isEmpty_iff.mpr hnil), ?_⟩
  exact (List.filter_eq_self.mpr hpublic).symm

end Resolver

/-- The address predicate is the union of the documented blocks, mapped spellings included.
Hence the verdict on a resolved name depends only on which answers it has, and one more
answer can only turn acceptance into refusal. -/
theorem forbidden_blocks :
    (∀ ip : Ipv4Addr, isForbiddenIp (.v4 ip) = true ↔ ∃ b ∈ forbiddenV4, b.Contains ip.bits) ∧
      (∀ ip : Ipv6Addr, isForbiddenIp (.v6 ip) = true ↔
        (∃ b ∈ forbiddenV6, b.Contains ip.bits) ∨
          ∃ v4 : Ipv4Addr, ip = v4.mapped ∧ isForbiddenIp (.v4 v4) = true) ∧
      (∀ v4 : Ipv4Addr, isForbiddenIp (.v6 v4.mapped) = isForbiddenIp (.v4 v4)) ∧
      ∀ (net net' : FixedNetwork) (enabled : Bool) (source : String) (target : HostPort)
        (addrs addrs' : List IpAddr), net.lookup (bareHost target.host) = .ok addrs →
          net'.lookup (bareHost target.host) = .ok addrs' →
          ((∀ ip, ip ∈ addrs ↔ ip ∈ addrs') →
            runE net.answer (endpointCheck enabled source target) =
              runE net'.answer (endpointCheck enabled source target)) ∧
          (addrs ≠ [] → (∀ ip ∈ addrs, ip ∈ addrs') →
            runE net'.answer (endpointCheck enabled source target) =
                runE net.answer (endpointCheck enabled source target) ∨
              (runE net.answer (endpointCheck enabled source target) = .ok () ∧
                runE net'.answer (endpointCheck enabled source target) =
                  .error (blocked source (shownHost target.host)))) := by
  refine ⟨isForbiddenV4_iff, isForbiddenV6_iff, isForbiddenIp_mapped, ?_⟩
  intro net net' enabled source target addrs addrs' h h'
  rcases endpointCheck_cases enabled source target with ⟨verdict, hverdict⟩ | hverdict
  · rw [hverdict net, hverdict net']
    exact ⟨fun _ => rfl, fun _ _ => Or.inl rfl⟩
  · rw [hverdict net addrs h, hverdict net' addrs' h']
    exact ⟨answersVerdict_congr source _ addrs addrs', answersVerdict_grows source _ addrs addrs'⟩

end Overfwd
