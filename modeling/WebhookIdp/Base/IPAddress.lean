import WebhookIdp.Base.Digits
import WebhookIdp.Base.Text
import Mathlib.Data.List.Basic
import Mathlib.Data.List.TakeWhile

/-!
# IP addresses and how they are written

Addresses are bit vectors and blocks are their prefixes. An IPv4 address is written as four decimal octets.
An IPv6 address is written as the WHATWG serialiser writes it: eight hexadecimal groups, of which the first
longest run of two or more zero groups is left out.
-/

namespace IPAddress

/-- The addresses that share the first `length` bits of `base`. -/
structure Block (w : Nat) where
  base : BitVec w
  length : Nat

def Block.Contains {w : Nat} (block : Block w) (address : BitVec w) : Prop :=
  address.toNat / 2 ^ (w - block.length) = block.base.toNat / 2 ^ (w - block.length)

instance {w : Nat} (block : Block w) (address : BitVec w) : Decidable (block.Contains address) :=
  inferInstanceAs (Decidable (_ = _))

/-! ### IPv4 -/

def octets (address : BitVec 32) : List Nat :=
  [address.toNat / 2 ^ 24, address.toNat / 2 ^ 16 % 2 ^ 8, address.toNat / 2 ^ 8 % 2 ^ 8, address.toNat % 2 ^ 8]

/-- The block `a.b.c.d/length`. -/
def Block.ofOctets (a b c d length : Nat) : Block 32 :=
  { base := BitVec.ofNat 32 (a * 2 ^ 24 + b * 2 ^ 16 + c * 2 ^ 8 + d), length }

def writeOctets (octets : List Nat) : List Char := List.intercalate ['.'] (octets.map (Nat.toDigits 10))

def dottedDecimal (address : BitVec 32) : List Char := writeOctets (octets address)

theorem octets_lt {address : BitVec 32} : ∀ octet ∈ octets address, octet < 256 := by
  have hlt := address.isLt
  simp only [octets, List.mem_cons, List.not_mem_nil, or_false]
  rintro octet (rfl | rfl | rfl | rfl) <;> omega

/-! ### IPv6 -/

def groups (address : BitVec 128) : List Nat :=
  [7, 6, 5, 4, 3, 2, 1, 0].map fun i => address.toNat / 2 ^ (16 * i) % 2 ^ 16

def zerosAhead (groups : List Nat) : Nat := (groups.takeWhile fun group => group == 0).length

/-- The start and the length of the first longest run of zero groups. -/
def longestRun : List Nat → Nat × Nat
  | [] => (0, 0)
  | group :: rest =>
      let run := longestRun rest
      let zeros := zerosAhead (group :: rest)
      if run.2 ≤ zeros then (0, zeros) else (run.1 + 1, run.2)

def writeGroups (groups : List Nat) : List Char := List.intercalate [':'] (groups.map (Nat.toDigits 16))

/-- The text of eight groups. -/
def serialise (groups : List Nat) : List Char :=
  let run := longestRun groups
  if run.2 < 2 then writeGroups groups
  else writeGroups (groups.take run.1) ++ "::".toList ++ writeGroups (groups.drop (run.1 + run.2))

def bracketed (address : BitVec 128) : List Char := '[' :: serialise (groups address) ++ [']']

/-- The IPv6 address an IPv4 address is mapped to. -/
def mapped (address : BitVec 32) : BitVec 128 := BitVec.ofNat 128 (0xffff * 2 ^ 32 + address.toNat)

theorem length_groups (address : BitVec 128) : (groups address).length = 8 := rfl

theorem groups_lt {address : BitVec 128} : ∀ group ∈ groups address, group < 2 ^ 16 := by
  intro group hgroup
  obtain ⟨i, -, rfl⟩ := List.mem_map.mp hgroup
  exact Nat.mod_lt _ (by decide)

/-! ### What the text starts with -/

variable {first : Nat} {rest : List Nat}

theorem zerosAhead_cons_of_ne (h : first ≠ 0) : zerosAhead (first :: rest) = 0 := by
  simp [zerosAhead, h]

theorem longestRun_snd_of_fst_eq_zero {groups : List Nat} (h : (longestRun groups).1 = 0) :
    (longestRun groups).2 = zerosAhead groups := by
  cases groups with
  | nil => rfl
  | cons group rest =>
      rw [longestRun] at h ⊢
      split at h
      · rw [if_pos (by assumption)]
      · cases h

theorem writeGroups_cons_of_ne_nil (h : rest ≠ []) :
    writeGroups (first :: rest) = Nat.toDigits 16 first ++ ':' :: writeGroups rest := by
  rw [writeGroups, List.map_cons, List.intercalate_cons_of_ne_nil (by simpa using h)]
  simp [writeGroups]

/-- Unless it starts with the left-out run, the text starts with the first group and a colon. -/
theorem serialise_of_first_written (hrest : rest ≠ [])
    (h : ¬ ((longestRun (first :: rest)).1 = 0 ∧ 2 ≤ (longestRun (first :: rest)).2)) :
    ∃ text, serialise (first :: rest) = Nat.toDigits 16 first ++ ':' :: text := by
  rw [serialise]
  split
  · exact ⟨_, writeGroups_cons_of_ne_nil hrest⟩
  · obtain ⟨start, hstart⟩ : ∃ start, (longestRun (first :: rest)).1 = start + 1 :=
      Nat.exists_eq_succ_of_ne_zero fun hzero => h ⟨hzero, by omega⟩
    rw [hstart, List.take_succ_cons]
    rcases htake : rest.take start with _ | ⟨second, more⟩
    · exact ⟨_, by simp [writeGroups]; rfl⟩
    · rw [writeGroups_cons_of_ne_nil (List.cons_ne_nil _ _)]
      exact ⟨_, by simp only [List.append_assoc, List.cons_append]; rfl⟩

/-- The groups from the first that is not zero. -/
def afterZeros (groups : List Nat) : List Nat := groups.dropWhile fun group => group == 0

theorem eq_replicate_append_afterZeros (groups : List Nat) :
    groups = List.replicate (zerosAhead groups) 0 ++ afterZeros groups := by
  have hzeros : (groups.takeWhile fun group => group == 0) = List.replicate (zerosAhead groups) 0 := by
    rw [zerosAhead, List.eq_replicate_iff]
    refine ⟨rfl, fun group hgroup => ?_⟩
    simpa using List.mem_takeWhile_imp hgroup
  rw [← hzeros]
  exact List.takeWhile_append_dropWhile.symm

theorem afterZeros_eq_drop (groups : List Nat) : groups.drop (zerosAhead groups) = afterZeros groups := by
  calc groups.drop (zerosAhead groups)
      = (List.replicate (zerosAhead groups) 0 ++ afterZeros groups).drop (zerosAhead groups) :=
        congrArg _ (eq_replicate_append_afterZeros groups)
    _ = afterZeros groups := List.drop_left' List.length_replicate

/-- A text that starts with the left-out run goes on with the groups after it. -/
theorem serialise_of_first_left_out {groups : List Nat} (h : (longestRun groups).1 = 0)
    (hlength : 2 ≤ (longestRun groups).2) : serialise groups = ':' :: ':' :: writeGroups (afterZeros groups) := by
  rw [serialise, if_neg (by omega), h, Nat.zero_add, longestRun_snd_of_fst_eq_zero h, afterZeros_eq_drop]
  rfl

/-! ### Reading the groups back -/

theorem mem_writeGroups {c : Char} {groups : List Nat} (h : c ∈ writeGroups groups) :
    c = ':' ∨ ∃ d < 16, c = d.digitChar := by
  refine (Text.mem_intercalate h).imp_right fun ⟨digits, hdigits, hc⟩ => ?_
  obtain ⟨group, -, rfl⟩ := List.mem_map.mp hdigits
  exact Digits.exists_digit_of_mem (by decide) hc

theorem mem_serialise {c : Char} {groups : List Nat} (h : c ∈ serialise groups) :
    c = ':' ∨ ∃ d < 16, c = d.digitChar := by
  rw [serialise] at h
  split at h
  · exact mem_writeGroups h
  · rw [List.mem_append, List.mem_append] at h
    rcases h with (h | h) | h
    · exact mem_writeGroups h
    · left
      simpa using h
    · exact mem_writeGroups h

theorem colon_notMem_toDigits (group : Nat) : ':' ∉ Nat.toDigits 16 group := by
  intro h
  obtain ⟨d, hd, hcolon⟩ := Digits.exists_digit_of_mem (by decide) h
  exact Nat.digitChar_ne ':' (by decide) hcolon.symm

theorem splitOn_writeGroups {groups : List Nat} (h : groups ≠ []) :
    (writeGroups groups).splitOn ':' = groups.map (Nat.toDigits 16) := by
  rw [writeGroups, List.splitOn_intercalate]
  · intro text htext
    obtain ⟨group, -, rfl⟩ := List.mem_map.mp htext
    exact colon_notMem_toDigits group
  · simpa using h

theorem writeGroups_injective {groups groups' : List Nat} (h : groups ≠ []) (h' : groups' ≠ [])
    (heq : writeGroups groups = writeGroups groups') : groups = groups' := by
  have hmap := congrArg (List.splitOn ':') heq
  rw [splitOn_writeGroups h, splitOn_writeGroups h'] at hmap
  refine List.map_injective_iff.mpr (fun m n hmn => ?_) hmap
  exact Digits.toDigits_injective (by decide) (by decide) hmn

/-- The number the groups stand for. -/
def ofGroups (groups : List Nat) : Nat := groups.foldl (fun n group => 2 ^ 16 * n + group) 0

theorem ofGroups_groups (address : BitVec 128) : ofGroups (groups address) = address.toNat := by
  have hlt := address.isLt
  have hsplit : ∀ i, 2 ^ 16 * (address.toNat / 2 ^ (16 * (i + 1))) + address.toNat / 2 ^ (16 * i) % 2 ^ 16 =
      address.toNat / 2 ^ (16 * i) := by
    intro i
    rw [Nat.mul_succ, Nat.pow_add, ← Nat.div_div_eq_div_mul]
    exact Nat.div_add_mod _ _
  have hfirst : address.toNat / 2 ^ (16 * 8) = 0 := Nat.div_eq_of_lt hlt
  calc ofGroups (groups address)
      = [7, 6, 5, 4, 3, 2, 1, 0].foldl (fun n i => 2 ^ 16 * n + address.toNat / 2 ^ (16 * i) % 2 ^ 16)
          (address.toNat / 2 ^ (16 * 8)) := by
        rw [ofGroups, groups, List.foldl_map, hfirst]
    _ = address.toNat / 2 ^ (16 * 0) := by
        simp only [List.foldl_cons, List.foldl_nil, hsplit]
    _ = address.toNat := by
        rw [Nat.mul_zero, pow_zero, Nat.div_one]

theorem groups_injective : Function.Injective groups := by
  intro a b h
  apply BitVec.eq_of_toNat_eq
  rw [← ofGroups_groups a, h, ofGroups_groups b]

/-! ### Mapped addresses -/

theorem toNat_mapped (address : BitVec 32) : (mapped address).toNat = 0xffff * 2 ^ 32 + address.toNat := by
  have hlt := address.isLt
  rw [mapped, BitVec.toNat_ofNat, Nat.mod_eq_of_lt (by omega)]

theorem groups_mapped (address : BitVec 32) :
    groups (mapped address) =
      [0, 0, 0, 0, 0, 0xffff, address.toNat / 2 ^ 16, address.toNat % 2 ^ 16] := by
  have hlt := address.isLt
  simp only [groups, List.map_cons, List.map_nil, toNat_mapped, List.cons.injEq, and_true]
  omega

theorem eq_mapped_of_groups {address : BitVec 128} {hi lo : Nat}
    (h : groups address = [0, 0, 0, 0, 0, 0xffff, hi, lo]) : ∃ address', address = mapped address' := by
  have hlt := address.isLt
  refine ⟨BitVec.ofNat 32 address.toNat, BitVec.eq_of_toNat_eq ?_⟩
  simp only [groups, List.map_cons, List.map_nil, List.cons.injEq, and_true] at h
  rw [toNat_mapped, BitVec.toNat_ofNat]
  omega

theorem longestRun_mapped (hi lo : Nat) : longestRun [0, 0, 0, 0, 0, 0xffff, hi, lo] = (0, 5) := by
  by_cases hhi : hi = 0 <;> by_cases hlo : lo = 0 <;> simp [longestRun, zerosAhead, hhi, hlo]

end IPAddress
