import WebhookIdp.Subscription.HostGuard

/-!
# The addresses the host guard rejects

For IPv4 the guard rejects exactly the reserved blocks, in both notations. For IPv6 it compares the start of
the text: that tells `fe80::/16` from the rest of `fe80::/10`, and takes groups that are shorter than they
look for unique-local ones.
-/

namespace WebhookIdp.Subscription

open IPAddress

/-! ### IPv4 -/

/-- 0.0.0.0/8, 10.0.0.0/8, 127.0.0.0/8, 169.254.0.0/16, 172.16.0.0/12 and 192.168.0.0/16. -/
def reservedIPv4 : List (Block 32) :=
  [.ofOctets 0 0 0 0 8, .ofOctets 10 0 0 0 8, .ofOctets 127 0 0 0 8, .ofOctets 169 254 0 0 16,
    .ofOctets 172 16 0 0 12, .ofOctets 192 168 0 0 16]

theorem isPrivateIPv4_dottedDecimal (address : BitVec 32) :
    isPrivateIPv4 (dottedDecimal address) = true ↔ ∃ block ∈ reservedIPv4, block.Contains address := by
  rw [dottedDecimal, octets, isPrivateIPv4_writeOctets octets_lt]
  have hlt := address.isLt
  simp only [reservedIPv4, List.mem_cons, List.not_mem_nil, or_false, exists_eq_or_imp, exists_eq_left,
    Block.Contains, Block.ofOctets, BitVec.toNat_ofNat]
  omega

theorem mapped_injective {a b : BitVec 32} (h : mapped a = mapped b) : a = b := by
  have htoNat := congrArg BitVec.toNat h
  rw [toNat_mapped, toNat_mapped] at htoNat
  apply BitVec.eq_of_toNat_eq
  omega

/-- An IPv4 address is rejected exactly when it lies in a reserved block, whether it is written in dotted
decimal form or as the IPv6 address it is mapped to. -/
theorem ipv4_guard (address : BitVec 32) :
    (isPrivateOrReservedHost (String.ofList (dottedDecimal address)) = true ↔
        ∃ block ∈ reservedIPv4, block.Contains address) ∧
      isPrivateOrReservedHost (String.ofList (bracketed (mapped address))) =
        isPrivateOrReservedHost (String.ofList (dottedDecimal address)) ∧
      bracketed (mapped address) = "[::ffff:".toList ++ Nat.toDigits 16 (address.toNat / 2 ^ 16) ++
        ':' :: Nat.toDigits 16 (address.toNat % 2 ^ 16) ++ "]".toList := by
  rw [isPrivateOrReservedHost_dottedDecimal, isPrivateOrReservedHost_bracketed]
  refine ⟨isPrivateIPv4_dottedDecimal address, ?_, ?_⟩
  · have hfirst : firstGroup (mapped address) = 0 := by
      have hlt := address.isLt
      rw [firstGroup, toNat_mapped]
      omega
    have hne : ∀ n : BitVec 128, n.toNat < 2 ^ 32 → mapped address ≠ n := by
      rintro _ hsmall rfl
      rw [toNat_mapped] at hsmall
      omega
    rw [Bool.eq_iff_iff, isPrivateIPv6_serialise, hfirst]
    simp only [not_exists_zero_div 0xfc (by decide), not_exists_zero_div 0xfd (by decide), hne 0 (by decide), hne 1 (by decide), false_or,
      show (0 : Nat) ≠ 0xfe80 by decide]
    refine ⟨fun h => ?_, fun h => ⟨address, rfl, h⟩⟩
    obtain ⟨address', hmapped, hprivate⟩ := h
    rw [mapped_injective hmapped]
    exact hprivate
  · have hleft := firstLeftOut_mapped address
    have hdigits : Nat.toDigits 16 0xffff = "ffff".toList := by decide
    rw [bracketed, serialise_of_first_left_out hleft.1 hleft.2, afterZeros_mapped,
      writeGroups_cons_of_ne_nil (List.cons_ne_nil _ _), writeGroups_cons_of_ne_nil (List.cons_ne_nil _ _), hdigits]
    simp [writeGroups]

/-! ### IPv6 -/

def linkLocal : Block 128 := { base := BitVec.ofNat 128 (0xfe80 * 2 ^ 112), length := 10 }

def uniqueLocal : Block 128 := { base := BitVec.ofNat 128 (0xfc00 * 2 ^ 112), length := 7 }

/-- `::ffff:0:0/96` -/
def mappedBlock : Block 128 := { base := BitVec.ofNat 128 (0xffff * 2 ^ 32), length := 96 }

/-- Unspecified, loopback, link-local `fe80::/10` or unique-local `fc00::/7`. -/
def ReservedIPv6 (address : BitVec 128) : Prop :=
  address = 0 ∨ address = 1 ∨ linkLocal.Contains address ∨ uniqueLocal.Contains address

instance (address : BitVec 128) : Decidable (ReservedIPv6 address) := inferInstanceAs (Decidable (_ ∨ _))

/-- A first group that starts, as a text, with the two digits of `n`. -/
theorem exists_div_pow_iff {group n : Nat} (hgroup : group < 2 ^ 16) (hn : 16 ≤ n) :
    (∃ k, group / 16 ^ k = n) ↔ group = n ∨ group / 16 = n ∨ group / 256 = n := by
  constructor
  · rintro ⟨k, hk⟩
    rcases k with _ | _ | _ | k
    · exact Or.inl (by simpa using hk)
    · exact Or.inr (Or.inl (by simpa using hk))
    · exact Or.inr (Or.inr (by simpa using hk))
    · rw [show k + 1 + 1 + 1 = 3 + k from by omega, Nat.pow_add, ← Nat.div_div_eq_div_mul] at hk
      have hle := Nat.div_le_self (group / 16 ^ 3) (16 ^ k)
      omega
  · rintro (h | h | h)
    · exact ⟨0, by simpa using h⟩
    · exact ⟨1, by simpa using h⟩
    · exact ⟨2, by simpa using h⟩

theorem firstGroup_lt (address : BitVec 128) : firstGroup address < 2 ^ 16 := by
  have hlt := address.isLt
  rw [firstGroup]
  omega

theorem linkLocal_contains_iff {address : BitVec 128} :
    linkLocal.Contains address ↔ 0xfe80 ≤ firstGroup address ∧ firstGroup address ≤ 0xfebf := by
  have hsplit : address.toNat / 2 ^ 118 = firstGroup address / 2 ^ 6 := by
    rw [firstGroup, Nat.div_div_eq_div_mul, ← Nat.pow_add]
  have hbase : linkLocal.base.toNat / 2 ^ 118 = 0xfe80 / 2 ^ 6 := by decide
  show address.toNat / 2 ^ 118 = linkLocal.base.toNat / 2 ^ 118 ↔ _
  rw [hsplit, hbase]
  omega

theorem uniqueLocal_contains_iff {address : BitVec 128} :
    uniqueLocal.Contains address ↔ 0xfc00 ≤ firstGroup address ∧ firstGroup address ≤ 0xfdff := by
  have hsplit : address.toNat / 2 ^ 121 = firstGroup address / 2 ^ 9 := by
    rw [firstGroup, Nat.div_div_eq_div_mul, ← Nat.pow_add]
  have hbase : uniqueLocal.base.toNat / 2 ^ 121 = 0xfc00 / 2 ^ 9 := by decide
  show address.toNat / 2 ^ 121 = uniqueLocal.base.toNat / 2 ^ 121 ↔ _
  rw [hsplit, hbase]
  omega

theorem mappedBlock_contains_mapped (address : BitVec 32) : mappedBlock.Contains (mapped address) := by
  have hlt := address.isLt
  have hbase : mappedBlock.base.toNat / 2 ^ 32 = 0xffff := by decide
  show (mapped address).toNat / 2 ^ 32 = mappedBlock.base.toNat / 2 ^ 32
  rw [hbase, toNat_mapped]
  omega

/-- Outside `::ffff:0:0/96` an IPv6 literal gets the verdict of its address exactly when its first group is
not one of those the text tests misjudge: the rest of `fe80::/10` after `fe80::/16`, which passes, and the
groups below `fc00` that start with the digits `fc` or `fd`, which are rejected. -/
theorem ipv6_guard_iff (address : BitVec 128) (hmapped : ¬ mappedBlock.Contains address) :
    (isPrivateOrReservedHost (String.ofList (bracketed address)) = true ↔ ReservedIPv6 address) ↔
      ¬ (0xfe81 ≤ firstGroup address ∧ firstGroup address ≤ 0xfebf) ∧ firstGroup address ≠ 0xfc ∧
        firstGroup address ≠ 0xfd ∧ ¬ (0xfc0 ≤ firstGroup address ∧ firstGroup address ≤ 0xfdf) := by
  have hnot : ¬ ∃ address', address = mapped address' ∧ isPrivateIPv4 (dottedDecimal address') = true := by
    rintro ⟨address', rfl, -⟩
    exact hmapped (mappedBlock_contains_mapped address')
  have hlt := firstGroup_lt address
  have hzero : address = 0 → firstGroup address = 0 := by
    rintro rfl
    decide
  have hone : address = 1 → firstGroup address = 0 := by
    rintro rfl
    decide
  rw [isPrivateOrReservedHost_bracketed, isPrivateIPv6_serialise, ReservedIPv6, linkLocal_contains_iff,
    uniqueLocal_contains_iff, exists_div_pow_iff hlt (by decide), exists_div_pow_iff hlt (by decide)]
  simp only [hnot, or_false]
  by_cases h : address = 0 ∨ address = 1
  · have hfirst : firstGroup address = 0 := h.elim hzero hone
    rw [hfirst]
    refine iff_of_true (iff_of_true ?_ ?_) (by decide) <;> tauto
  · rw [not_or] at h
    simp only [h.1, h.2, false_or]
    omega

/-- A public address gets the right verdict. -/
theorem public_ipv6_accepted :
    isPrivateOrReservedHost (String.ofList (bracketed (BitVec.ofNat 128 (0x20010db8 * 2 ^ 96 + 1)))) = true ↔
      ReservedIPv6 (BitVec.ofNat 128 (0x20010db8 * 2 ^ 96 + 1)) :=
  (ipv6_guard_iff (BitVec.ofNat 128 (0x20010db8 * 2 ^ 96 + 1)) (by decide)).mpr (by decide)

/-- The link-local address `fe81::` is accepted. -/
theorem linkLocal_accepted :
    ¬ mappedBlock.Contains (BitVec.ofNat 128 (0xfe81 * 2 ^ 112)) ∧
      String.ofList (bracketed (BitVec.ofNat 128 (0xfe81 * 2 ^ 112))) = "[fe81::]" ∧
      ¬ (isPrivateOrReservedHost (String.ofList (bracketed (BitVec.ofNat 128 (0xfe81 * 2 ^ 112)))) = true ↔
        ReservedIPv6 (BitVec.ofNat 128 (0xfe81 * 2 ^ 112))) := by
  refine ⟨by decide, by decide, ?_⟩
  decide

end WebhookIdp.Subscription
