import WebhookIdp.Base.IPAddress
import WebhookIdp.Subscription.ValueObjects

/-!
# The host guard on IP literals

`isPrivateOrReservedHost` decides from the text of a host whether its address is one that a webhook must not
be sent to. The host of a parsed URL is an address as the URL serialiser writes it.
-/

namespace WebhookIdp.Subscription

open IPAddress

/-! ### Numbers the guard reads -/

theorem toNumber_toDigits (n : Nat) : toNumber (Nat.toDigits 10 n) = some n := by
  have hdigits : (Nat.toDigits 10 n).all Char.isDigit = true :=
    List.all_eq_true.mpr fun c hc => Nat.isDigit_of_mem_toDigits (by decide) (by decide) hc
  rw [toNumber, if_pos hdigits]
  exact congrArg some Nat.ofDigitChars_ten_toDigits

theorem parseHex_toDigits (n : Nat) : parseHex (Nat.toDigits 16 n) = n :=
  Digits.ofChars_toDigits (by decide) (by decide) n

theorem isHexDigit_digitChar {d : Nat} (h : d < 16) : isHexDigit d.digitChar = true := by
  interval_cases d <;> rfl

theorem toLower_digitChar {d : Nat} (h : d < 16) : d.digitChar.toLower = d.digitChar := by
  interval_cases d <;> rfl

theorem isHexGroup_toDigits {group : Nat} (h : group < 2 ^ 16) : isHexGroup (Nat.toDigits 16 group) = true := by
  have hdigits : (Nat.toDigits 16 group).all isHexDigit = true := by
    rw [List.all_eq_true]
    intro c hc
    obtain ⟨d, hd, rfl⟩ := Digits.exists_digit_of_mem (by decide) hc
    exact isHexDigit_digitChar hd
  have hlength := (Nat.length_toDigits_le_iff (b := 16) (n := group) (by decide) (k := 4) (by decide)).mpr h
  have hpos : 1 ≤ (Nat.toDigits 16 group).length := Nat.length_toDigits_pos
  simp [isHexGroup, hdigits, hlength, hpos]

/-! ### Dotted addresses -/

theorem splitOn_writeOctets {octets : List Nat} (h : octets ≠ []) :
    (writeOctets octets).splitOn '.' = octets.map (Nat.toDigits 10) := by
  rw [writeOctets, List.splitOn_intercalate]
  · intro text htext hdot
    obtain ⟨octet, -, rfl⟩ := List.mem_map.mp htext
    have hdigit := Nat.isDigit_of_mem_toDigits (by decide) (by decide) hdot
    cases hdigit
  · simpa using h

theorem isIPv4_writeOctets {a b c d : Nat} (h : ∀ octet ∈ [a, b, c, d], octet < 256) :
    isIPv4 (writeOctets [a, b, c, d]) = true := by
  rw [isIPv4, splitOn_writeOctets (List.cons_ne_nil _ _)]
  show ([a, b, c, d].map (Nat.toDigits 10)).all _ = true
  rw [List.all_map, List.all_eq_true]
  intro octet hoctet
  have hdigits : (Nat.toDigits 10 octet).all Char.isDigit = true :=
    List.all_eq_true.mpr fun c hc => Nat.isDigit_of_mem_toDigits (by decide) (by decide) hc
  have hlt := h octet hoctet
  have hlength := (Nat.length_toDigits_le_iff (b := 10) (n := octet) (by decide) (k := 3) (by decide)).mpr (by omega)
  have hpos : 1 ≤ (Nat.toDigits 10 octet).length := Nat.length_toDigits_pos
  simp [hdigits, hlength, hpos]

theorem isPrivateIPv4_writeOctets {a b c d : Nat} (h : ∀ octet ∈ [a, b, c, d], octet < 256) :
    isPrivateIPv4 (writeOctets [a, b, c, d]) = true ↔
      a = 0 ∨ a = 10 ∨ a = 127 ∨ (a = 169 ∧ b = 254) ∨ (a = 172 ∧ 16 ≤ b ∧ b ≤ 31) ∨ (a = 192 ∧ b = 168) := by
  have hoctets : ((writeOctets [a, b, c, d]).splitOn '.').map toNumber = [some a, some b, some c, some d] := by
    rw [splitOn_writeOctets (List.cons_ne_nil _ _)]
    simp [toNumber_toDigits]
  simp only [List.forall_mem_cons] at h
  have hsmall : ([some a, some b, some c, some d].any fun n => n.elim true fun n => decide (255 < n)) = false := by
    simp
    omega
  rw [isPrivateIPv4, hoctets]
  simp only [hsmall, Bool.false_eq_true, if_false, List.head?_cons, Option.join_some, Option.any_some]
  simp only [Bool.or_eq_true, Bool.and_eq_true, beq_iff_eq, Option.some.injEq, decide_eq_true_eq, or_assoc]

/-! ### IPv6 texts -/

theorem map_toLower_of_hex {text : List Char} (h : ∀ c ∈ text, c = ':' ∨ ∃ d : Nat, d < 16 ∧ c = d.digitChar) :
    text.map Char.toLower = text := by
  refine (List.map_congr_left fun c hc => ?_).trans (List.map_id text)
  rcases h c hc with rfl | ⟨d, hd, rfl⟩
  · rfl
  · exact toLower_digitChar hd

theorem toDigits_eq_cons (group : Nat) : ∃ c digits, Nat.toDigits 16 group = c :: digits ∧ c ≠ ':' := by
  obtain ⟨c, digits, hdigits⟩ := List.exists_cons_of_ne_nil (Nat.toDigits_ne_nil (b := 16) (n := group))
  refine ⟨c, digits, hdigits, ?_⟩
  rintro rfl
  exact colon_notMem_toDigits group (hdigits ▸ List.mem_cons_self)

theorem isPrefixOf_group_iff {word text : List Char} {group n : Nat} (hword : word = Nat.toDigits 16 n)
    (hn : 0 < n) :
    word.isPrefixOf (Nat.toDigits 16 group ++ ':' :: text) = true ↔ ∃ k, group / 16 ^ k = n := by
  rw [List.isPrefixOf_iff_prefix, hword, Digits.prefix_append_separator_iff (colon_notMem_toDigits n),
    Digits.toDigits_prefix_iff (by decide) (by decide) hn]

theorem isPrefixOf_group_colon_iff {word text : List Char} {group n : Nat}
    (hword : word = Nat.toDigits 16 n ++ [':']) :
    word.isPrefixOf (Nat.toDigits 16 group ++ ':' :: text) = true ↔ group = n := by
  rw [List.isPrefixOf_iff_prefix, hword,
    Digits.append_separator_prefix_iff (colon_notMem_toDigits group) (colon_notMem_toDigits n)]
  refine ⟨fun h => ?_, fun h => by rw [h]⟩
  exact (Digits.toDigits_injective (by decide) (by decide) h).symm

theorem isPrivateIPv6_of_first_written {group : Nat} {text : List Char}
    (hlower : (Nat.toDigits 16 group ++ ':' :: text).map Char.toLower = Nat.toDigits 16 group ++ ':' :: text) :
    isPrivateIPv6 (Nat.toDigits 16 group ++ ':' :: text) = true ↔
      group = 0xfe80 ∨ (∃ k, group / 16 ^ k = 0xfc) ∨ ∃ k, group / 16 ^ k = 0xfd := by
  have hlinkLocal : "fe80:".toList.isPrefixOf (Nat.toDigits 16 group ++ ':' :: text) = true ↔ group = 0xfe80 :=
    isPrefixOf_group_colon_iff (by decide)
  have hfc : "fc".toList.isPrefixOf (Nat.toDigits 16 group ++ ':' :: text) = true ↔
      ∃ k, group / 16 ^ k = 0xfc := isPrefixOf_group_iff (by decide) (by decide)
  have hfd : "fd".toList.isPrefixOf (Nat.toDigits 16 group ++ ':' :: text) = true ↔
      ∃ k, group / 16 ^ k = 0xfd := isPrefixOf_group_iff (by decide) (by decide)
  obtain ⟨c, digits, hdigits, hc⟩ := toDigits_eq_cons group
  have hloopback : (Nat.toDigits 16 group ++ ':' :: text == "::1".toList) = false := by
    simp [hdigits, hc]
  have hunspecified : (Nat.toDigits 16 group ++ ':' :: text == "::".toList) = false := by
    simp [hdigits, hc]
  have hmapped : ("::ffff:".toList.isPrefixOf (Nat.toDigits 16 group ++ ':' :: text)) = false := by
    rw [hdigits, Bool.eq_false_iff, Ne, List.isPrefixOf_iff_prefix]
    intro hstarts
    exact hc (List.cons_prefix_cons.mp hstarts).1.symm
  rw [isPrivateIPv6, hlower]
  simp only [hloopback, hunspecified, hmapped, Bool.or_self, Bool.false_eq_true, if_false]
  rw [← hlinkLocal, ← hfc, ← hfd]
  generalize "fe80:".toList.isPrefixOf _ = linkLocal
  generalize "fc".toList.isPrefixOf _ = fc
  generalize "fd".toList.isPrefixOf _ = fd
  simp

theorem dot_notMem_writeGroups (groups : List Nat) : '.' ∉ writeGroups groups := by
  intro h
  rcases mem_writeGroups h with hcolon | ⟨d, -, hdigit⟩
  · cases hcolon
  · exact Nat.digitChar_ne '.' (by decide) hdigit.symm

theorem isIPv4_writeGroups (groups : List Nat) : isIPv4 (writeGroups groups) = false := by
  rw [isIPv4, List.splitOn_eq_singleton (dot_notMem_writeGroups groups)]

theorem writeGroups_eq_nil_iff {groups : List Nat} : writeGroups groups = [] ↔ groups = [] := by
  refine ⟨fun h => ?_, fun h => by rw [h]; rfl⟩
  by_contra hne
  have hsplit := splitOn_writeGroups hne
  rw [h, List.splitOn_nil] at hsplit
  cases groups with
  | nil => exact hne rfl
  | cons group rest => exact Nat.toDigits_ne_nil (List.cons.inj hsplit).1.symm

theorem writeGroups_eq_one_iff {groups : List Nat} : writeGroups groups = ['1'] ↔ groups = [1] := by
  refine ⟨fun h => writeGroups_injective (fun hnil => ?_) (List.cons_ne_nil _ _) h, fun h => by rw [h]; rfl⟩
  rw [hnil] at h
  cases h

theorem isPrivateMapped {rest : List Nat} (hlt : ∀ group ∈ rest, group < 2 ^ 16) (hrest : rest ≠ []) :
    (match (writeGroups rest).splitOn ':' with
      | [hi, lo] =>
          if isHexGroup hi && isHexGroup lo then isPrivateIPv4 (dottedOctets (parseHex hi) (parseHex lo)) else false
      | _ => false) = true ↔
      ∃ hi lo, rest = [hi, lo] ∧ isPrivateIPv4 (dottedOctets hi lo) = true := by
  rw [splitOn_writeGroups hrest]
  rcases rest with _ | ⟨hi, _ | ⟨lo, _ | ⟨third, rest⟩⟩⟩
  · exact absurd rfl hrest
  · simp
  · simp only [List.forall_mem_cons] at hlt
    simp [isHexGroup_toDigits hlt.1, isHexGroup_toDigits hlt.2.1, parseHex_toDigits]
  · simp

theorem colons_isPrefixOf_group {text : List Char} {c : Char} (hc : c ≠ ':') {word : List Char} :
    (c :: word).isPrefixOf (':' :: text) = false := by
  rw [Bool.eq_false_iff, Ne, List.isPrefixOf_iff_prefix]
  intro hstarts
  exact hc (List.cons_prefix_cons.mp hstarts).1

theorem isPrefixOf_mapped_iff {groups : List Nat} :
    "::ffff:".toList.isPrefixOf (':' :: ':' :: writeGroups groups) = true ↔
      ∃ rest, rest ≠ [] ∧ groups = 0xffff :: rest := by
  have hword : "::ffff:".toList = ':' :: ':' :: "ffff:".toList := by decide
  rw [List.isPrefixOf_iff_prefix, hword, List.cons_prefix_cons, List.cons_prefix_cons, ← List.isPrefixOf_iff_prefix]
  simp only [true_and]
  rcases groups with _ | ⟨group, rest⟩
  · simp [writeGroups]
  by_cases hrest : rest = []
  · subst hrest
    refine iff_of_false (fun hstarts => ?_) fun hex => ?_
    · rw [writeGroups, List.map_singleton, List.intercalate_singleton, List.isPrefixOf_iff_prefix] at hstarts
      exact colon_notMem_toDigits group (hstarts.subset (by decide))
    · obtain ⟨rest, hne, heq⟩ := hex
      exact hne (List.cons.inj heq).2.symm
  · rw [writeGroups_cons_of_ne_nil hrest, isPrefixOf_group_colon_iff (n := 0xffff) (by decide)]
    refine ⟨fun h => ⟨rest, hrest, by rw [h]⟩, fun hex => ?_⟩
    obtain ⟨_, -, heq⟩ := hex
    exact (List.cons.inj heq).1

theorem drop_mapped {rest : List Nat} (h : rest ≠ []) :
    (':' :: ':' :: writeGroups (0xffff :: rest)).drop "::ffff:".length = writeGroups rest := by
  have hdigits : Nat.toDigits 16 0xffff = "ffff".toList := by decide
  rw [writeGroups_cons_of_ne_nil h, hdigits]
  rfl

/-- What follows a left-out run decides a text that starts with it. -/
theorem isPrivateIPv6_of_first_left_out {groups : List Nat} (hlt : ∀ group ∈ groups, group < 2 ^ 16) :
    isPrivateIPv6 (':' :: ':' :: writeGroups groups) = true ↔ groups = [] ∨ groups = [1] ∨
      ∃ hi lo, groups = [0xffff, hi, lo] ∧ isPrivateIPv4 (dottedOctets hi lo) = true := by
  have hlower : (':' :: ':' :: writeGroups groups).map Char.toLower = ':' :: ':' :: writeGroups groups := by
    refine map_toLower_of_hex fun c hc => ?_
    rcases List.mem_cons.mp hc with rfl | hc
    · exact Or.inl rfl
    rcases List.mem_cons.mp hc with rfl | hc
    · exact Or.inl rfl
    exact mem_writeGroups hc
  have hloopback : (':' :: ':' :: writeGroups groups == "::1".toList) = decide (groups = [1]) := by
    rw [Bool.eq_iff_iff, beq_iff_eq, decide_eq_true_iff, ← writeGroups_eq_one_iff]
    exact ⟨fun h => (List.cons.inj (List.cons.inj h).2).2, fun h => by rw [h]; rfl⟩
  have hunspecified : (':' :: ':' :: writeGroups groups == "::".toList) = decide (groups = []) := by
    rw [Bool.eq_iff_iff, beq_iff_eq, decide_eq_true_iff, ← writeGroups_eq_nil_iff]
    exact ⟨fun h => (List.cons.inj (List.cons.inj h).2).2, fun h => by rw [h]; rfl⟩
  have hlinkLocal : "fe80:".toList.isPrefixOf (':' :: ':' :: writeGroups groups) = false :=
    colons_isPrefixOf_group (by decide)
  have hfc : "fc".toList.isPrefixOf (':' :: ':' :: writeGroups groups) = false :=
    colons_isPrefixOf_group (by decide)
  have hfd : "fd".toList.isPrefixOf (':' :: ':' :: writeGroups groups) = false :=
    colons_isPrefixOf_group (by decide)
  rw [isPrivateIPv6, hlower]
  simp only [hloopback, hunspecified, hlinkLocal, hfc, hfd, Bool.or_self, Bool.false_eq_true, if_false]
  by_cases hshort : groups = [1] ∨ groups = []
  · rw [if_pos (by simpa using hshort)]
    exact iff_of_true rfl (by tauto)
  rw [if_neg (by simpa using hshort)]
  rw [not_or] at hshort
  simp only [hshort.1, hshort.2, false_or]
  by_cases hmapped : ∃ rest, rest ≠ [] ∧ groups = 0xffff :: rest
  · rw [if_pos (isPrefixOf_mapped_iff.mpr hmapped)]
    obtain ⟨rest, hrest, rfl⟩ := hmapped
    rw [drop_mapped hrest]
    simp only [isIPv4_writeGroups, Bool.false_eq_true, if_false]
    refine (isPrivateMapped (fun group hgroup => hlt group (List.mem_cons_of_mem _ hgroup)) hrest).trans ?_
    simp only [List.cons.injEq, true_and]
  · rw [if_neg (fun h => hmapped (isPrefixOf_mapped_iff.mp h))]
    refine iff_of_false nofun fun hex => ?_
    obtain ⟨hi, lo, rfl, -⟩ := hex
    exact hmapped ⟨_, List.cons_ne_nil _ _, rfl⟩

/-! ### Literals -/

theorem dottedOctets_eq (address : BitVec 32) :
    dottedOctets (address.toNat / 2 ^ 16) (address.toNat % 2 ^ 16) = dottedDecimal address := by
  have hlt := address.isLt
  have hmask : ∀ n : Nat, n &&& 0xff = n % 2 ^ 8 := fun n => Nat.and_two_pow_sub_one_eq_mod n 8
  have hoctets : [((address.toNat / 2 ^ 16) >>> 8) &&& 0xff, (address.toNat / 2 ^ 16) &&& 0xff,
      ((address.toNat % 2 ^ 16) >>> 8) &&& 0xff, (address.toNat % 2 ^ 16) &&& 0xff] = octets address := by
    simp only [hmask, Nat.shiftRight_eq_div_pow, octets, List.cons.injEq, and_true, true_and]
    omega
  rw [dottedOctets, hoctets]
  rfl

/-- The first group of an address. -/
abbrev firstGroup (address : BitVec 128) : Nat := address.toNat / 2 ^ 112

theorem groups_eq_cons (address : BitVec 128) :
    ∃ rest, groups address = firstGroup address :: rest ∧ rest ≠ [] := by
  have hlt := address.isLt
  refine ⟨(groups address).tail, ?_, List.cons_ne_nil _ _⟩
  have hfirst : firstGroup address % 2 ^ 16 = firstGroup address := by
    apply Nat.mod_eq_of_lt
    unfold firstGroup
    omega
  calc groups address = firstGroup address % 2 ^ 16 :: (groups address).tail := rfl
    _ = firstGroup address :: (groups address).tail := by rw [hfirst]

/-- Every address whose first group is left out of its text. -/
def FirstLeftOut (address : BitVec 128) : Prop :=
  (longestRun (groups address)).1 = 0 ∧ 2 ≤ (longestRun (groups address)).2

theorem firstLeftOut_mapped (address : BitVec 32) : FirstLeftOut (mapped address) := by
  rw [FirstLeftOut, groups_mapped, longestRun_mapped]
  decide

theorem afterZeros_mapped (address : BitVec 32) :
    afterZeros (groups (mapped address)) = [0xffff, address.toNat / 2 ^ 16, address.toNat % 2 ^ 16] := by
  rw [groups_mapped]
  rfl

theorem groups_of_afterZeros {address : BitVec 128} {last : List Nat} (h : afterZeros (groups address) = last) :
    groups address = List.replicate (8 - last.length) 0 ++ last := by
  have hsplit := eq_replicate_append_afterZeros (groups address)
  rw [h] at hsplit
  have hlength := congrArg List.length hsplit
  rw [length_groups, List.length_append, List.length_replicate] at hlength
  rw [hsplit]
  congr 2
  omega

theorem not_exists_zero_div (n : Nat) (hn : 0 < n) : ¬ ∃ k, 0 / 16 ^ k = n := by
  rintro ⟨k, hk⟩
  rw [Nat.zero_div] at hk
  omega

/-- What the guard says of every IPv6 address. -/
theorem isPrivateIPv6_serialise (address : BitVec 128) :
    isPrivateIPv6 (serialise (groups address)) = true ↔
      address = 0 ∨ address = 1 ∨ firstGroup address = 0xfe80 ∨
        (∃ k, firstGroup address / 16 ^ k = 0xfc) ∨ (∃ k, firstGroup address / 16 ^ k = 0xfd) ∨
        ∃ address', address = mapped address' ∧ isPrivateIPv4 (dottedDecimal address') = true := by
  obtain ⟨rest, hgroups, hrest⟩ := groups_eq_cons address
  by_cases hleft : FirstLeftOut address
  · -- The text starts with two colons, so what the address starts with does not count.
    have hfirst : firstGroup address = 0 := by
      by_contra hne
      have hzeros := longestRun_snd_of_fst_eq_zero hleft.1
      have htwo := hleft.2
      rw [hzeros, hgroups, zerosAhead_cons_of_ne hne] at htwo
      omega
    have hlt : ∀ group ∈ afterZeros (groups address), group < 2 ^ 16 := fun group hgroup =>
      groups_lt group ((List.dropWhile_sublist _).subset hgroup)
    rw [serialise_of_first_left_out hleft.1 hleft.2, isPrivateIPv6_of_first_left_out hlt, hfirst]
    simp only [not_exists_zero_div 0xfc (by decide), not_exists_zero_div 0xfd (by decide), false_or,
      show (0 : Nat) ≠ 0xfe80 by decide]
    refine or_congr ?_ (or_congr ?_ ?_)
    · refine ⟨fun h => groups_injective ?_, fun h => by rw [h]; decide⟩
      rw [groups_of_afterZeros h]
      decide
    · refine ⟨fun h => groups_injective ?_, fun h => by rw [h]; decide⟩
      rw [groups_of_afterZeros h]
      decide
    · constructor
      · rintro ⟨hi, lo, h, hprivate⟩
        obtain ⟨address', rfl⟩ := eq_mapped_of_groups (groups_of_afterZeros h)
        rw [afterZeros_mapped, List.cons.injEq, List.cons.injEq, List.cons.injEq] at h
        obtain ⟨-, rfl, rfl, -⟩ := h
        rw [dottedOctets_eq] at hprivate
        exact ⟨address', rfl, hprivate⟩
      · rintro ⟨address', rfl, hprivate⟩
        rw [← dottedOctets_eq] at hprivate
        exact ⟨_, _, afterZeros_mapped address', hprivate⟩
  · -- The text starts with the first group; the other addresses of the list start with two colons.
    have hzero : address ≠ 0 := by
      rintro rfl
      exact hleft (by rw [FirstLeftOut]; decide)
    have hone : address ≠ 1 := by
      rintro rfl
      exact hleft (by rw [FirstLeftOut]; decide)
    have hmapped : ¬ ∃ address', address = mapped address' ∧ isPrivateIPv4 (dottedDecimal address') = true := by
      rintro ⟨address', rfl, -⟩
      exact hleft (firstLeftOut_mapped address')
    rw [FirstLeftOut, hgroups] at hleft
    obtain ⟨text, htext⟩ := serialise_of_first_written hrest hleft
    have hlower : (serialise (groups address)).map Char.toLower = serialise (groups address) :=
      map_toLower_of_hex fun c hc => mem_serialise hc
    rw [hgroups, htext] at hlower
    rw [hgroups, htext, isPrivateIPv6_of_first_written hlower]
    simp only [hzero, hone, hmapped, false_or, or_false]

/-! ### Hosts -/

theorem isPrivateOrReservedHost_bracketed (address : BitVec 128) :
    isPrivateOrReservedHost (String.ofList (bracketed address)) = isPrivateIPv6 (serialise (groups address)) := by
  have hlower : (serialise (groups address)).map Char.toLower = serialise (groups address) :=
    map_toLower_of_hex fun c hc => mem_serialise hc
  have hhost : (bracketed address).map Char.toLower = bracketed address := by
    simp only [bracketed, List.map_append, List.map_cons, List.map_nil, hlower]
    congr 1
  have hlocalhost : (bracketed address == "localhost".toList) = false := by
    rw [bracketed, List.cons_append]
    simp
  have hopen : "[".toList.isPrefixOf (bracketed address) = true := by
    rw [bracketed, List.cons_append]
    simp
  have hclose : "]".toList.isSuffixOf (bracketed address) = true := by
    rw [List.isSuffixOf_iff_suffix, bracketed]
    exact List.suffix_append _ _
  have hinside : ((bracketed address).drop 1).dropLast = serialise (groups address) := by
    rw [bracketed, List.cons_append, List.drop_succ_cons, List.drop_zero, List.dropLast_concat]
  rw [isPrivateOrReservedHost, String.toList_ofList, hhost]
  simp only [hlocalhost, hopen, hclose, hinside, Bool.and_self, Bool.false_eq_true, if_false, if_true]

theorem mem_writeOctets {c : Char} {octets : List Nat} (h : c ∈ writeOctets octets) :
    c = '.' ∨ ∃ d < 10, c = d.digitChar := by
  refine (Text.mem_intercalate h).imp_right fun ⟨digits, hdigits, hc⟩ => ?_
  obtain ⟨octet, -, rfl⟩ := List.mem_map.mp hdigits
  exact Digits.exists_digit_of_mem (by decide) hc

theorem isPrivateOrReservedHost_dottedDecimal (address : BitVec 32) :
    isPrivateOrReservedHost (String.ofList (dottedDecimal address)) = isPrivateIPv4 (dottedDecimal address) := by
  have hIPv4 : isIPv4 (dottedDecimal address) = true := isIPv4_writeOctets octets_lt
  have hhost : (dottedDecimal address).map Char.toLower = dottedDecimal address := by
    refine (List.map_congr_left fun c hc => ?_).trans (List.map_id _)
    rcases mem_writeOctets hc with rfl | ⟨d, hd, rfl⟩
    · rfl
    · exact toLower_digitChar (by omega)
  have hlocalhost : (dottedDecimal address == "localhost".toList) = false := by
    rw [beq_eq_false_iff_ne]
    intro h
    rw [h] at hIPv4
    revert hIPv4
    decide
  have hopen : "[".toList.isPrefixOf (dottedDecimal address) = false := by
    rw [Bool.eq_false_iff, Ne, List.isPrefixOf_iff_prefix]
    intro hstarts
    rcases mem_writeOctets (hstarts.subset (List.mem_singleton_self '[')) with h | ⟨d, -, h⟩
    · cases h
    · exact Nat.digitChar_ne '[' (by decide) h.symm
  rw [isPrivateOrReservedHost, String.toList_ofList, hhost]
  simp only [hlocalhost, hopen, hIPv4, Bool.false_and, Bool.false_eq_true, if_false, if_true]

end WebhookIdp.Subscription
