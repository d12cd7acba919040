import Mathlib.Algebra.BigOperators.Group.List.Basic
import Mathlib.Algebra.GroupWithZero.Nat
import Mathlib.Data.List.TakeWhile

/-!
# Text as the language computes on it

Strings are sequences of Unicode characters; their `length` counts UTF-16 code units, as a script
counts them, and `trim` removes the white space and line terminators of the language at both ends.
-/

namespace Text

/-- The UTF-16 code units of one character. -/
def codeUnits (c : Char) : Nat := if c.toNat < 0x10000 then 1 else 2

/-- `s.length` -/
def length (s : String) : Nat := (s.toList.map codeUnits).sum

/-- White space and line terminators. -/
def isSpace (c : Char) : Bool :=
  c.toNat ∈ [0x09, 0x0A, 0x0B, 0x0C, 0x0D, 0x20, 0xA0, 0x1680, 0x2028, 0x2029, 0x202F, 0x205F, 0x3000, 0xFEFF]
    || (0x2000 ≤ c.toNat && c.toNat ≤ 0x200A)

/-- `s.trim()` -/
def trim (s : String) : String :=
  String.ofList ((s.toList.dropWhile isSpace).reverse.dropWhile isSpace).reverse

/-- `!s || s.trim().length === 0` -/
def isBlank (s : String) : Bool := s.isEmpty || length (trim s) == 0

theorem codeUnits_pos (c : Char) : 0 < codeUnits c := by
  unfold codeUnits
  split <;> decide

theorem length_append (s t : String) : length (s ++ t) = length s + length t := by
  simp only [length, String.toList_append, List.map_append, List.sum_append]

theorem length_ofList (l : List Char) : length (String.ofList l) = (l.map codeUnits).sum := by
  rw [length, String.toList_ofList]

theorem length_replicate (n : Nat) (c : Char) :
    length (String.ofList (List.replicate n c)) = n * codeUnits c := by
  rw [length_ofList, List.map_replicate, List.sum_replicate_nat]

theorem length_toList_le (s : String) : s.toList.length ≤ length s := by
  rw [length, ← List.length_map codeUnits]
  apply List.length_le_sum_of_one_le
  intro n hn
  obtain ⟨c, -, rfl⟩ := List.mem_map.mp hn
  exact codeUnits_pos c

theorem length_eq_zero_iff {s : String} : length s = 0 ↔ s = "" := by
  constructor
  · intro h
    rw [length, List.sum_eq_zero_iff_forall_eq_nat] at h
    rw [← String.toList_eq_nil_iff, List.eq_nil_iff_forall_not_mem]
    intro c hc
    have hpos := codeUnits_pos c
    have hzero := h (codeUnits c) (List.mem_map_of_mem hc)
    omega
  · rintro rfl
    rfl

theorem trim_eq_empty_iff {s : String} : trim s = "" ↔ ∀ c ∈ s.toList, isSpace c = true := by
  rw [trim, ← String.toList_eq_nil_iff, String.toList_ofList, List.reverse_eq_nil_iff,
    List.dropWhile_eq_nil_iff]
  simp only [List.mem_reverse]
  constructor
  · intro h c hc
    rw [← List.takeWhile_append_dropWhile (p := isSpace) (l := s.toList), List.mem_append] at hc
    rcases hc with hc | hc
    · exact List.mem_takeWhile_imp hc
    · exact h c hc
  · intro h c hc
    exact h c (List.dropWhile_sublist isSpace |>.subset hc)

theorem isBlank_iff {s : String} : isBlank s = true ↔ ∀ c ∈ s.toList, isSpace c = true := by
  rw [isBlank, Bool.or_eq_true, beq_iff_eq, length_eq_zero_iff, trim_eq_empty_iff]
  constructor
  · rintro (h | h)
    · rw [String.isEmpty_iff] at h
      subst h
      simp
    · exact h
  · exact Or.inr

theorem isBlank_eq_false_iff {s : String} : isBlank s = false ↔ ∃ c ∈ s.toList, isSpace c = false := by
  rw [← Bool.not_eq_true, isBlank_iff]
  simp

/-- A string with a character that `trim` keeps. -/
structure NonBlank where
  value : String
  nonBlank : isBlank value = false
  deriving DecidableEq

namespace NonBlank

theorem value_injective : Function.Injective value := by
  intro a b h
  obtain ⟨_, _⟩ := a
  obtain ⟨_, _⟩ := b
  subst h
  rfl

theorem ne_empty (v : NonBlank) : v.value ≠ "" := by
  intro h
  have hblank := v.nonBlank
  rw [h] at hblank
  cases hblank

variable {Error : Type} {error e : Error} {s : String} {v : NonBlank}

/-- The check every identifier makes of its text: `error` when it is blank. -/
def fromString (error : Error) (value : String) : Except Error NonBlank :=
  if h : isBlank value = true then .error error
  else .ok ⟨value, Bool.eq_false_iff.mpr h⟩

theorem fromString_eq_ok_iff : fromString error s = .ok v ↔ v.value = s := by
  rw [fromString]
  refine ⟨fun h => ?_, fun h => ?_⟩
  · split at h
    · cases h
    · cases h
      rfl
  · subst h
    rw [dif_neg (by simp [v.nonBlank])]

@[simp] theorem fromString_value (v : NonBlank) : fromString error v.value = .ok v :=
  fromString_eq_ok_iff.mpr rfl

end NonBlank

/-! ### Pieces between separators -/

section Pieces

variable {α : Type} {sep x : α}

theorem mem_intercalate {pieces : List (List α)} (h : x ∈ List.intercalate [sep] pieces) :
    x = sep ∨ ∃ piece ∈ pieces, x ∈ piece := by
  induction pieces with
  | nil => cases h
  | cons first rest ih =>
      by_cases hrest : rest = []
      · subst hrest
        rw [List.intercalate_singleton] at h
        exact Or.inr ⟨first, List.mem_cons_self, h⟩
      · rw [List.intercalate_cons_of_ne_nil hrest, List.append_assoc, List.mem_append, List.singleton_append,
          List.mem_cons] at h
        rcases h with h | h | h
        · exact Or.inr ⟨first, List.mem_cons_self, h⟩
        · exact Or.inl h
        · refine (ih h).imp_right fun ⟨piece, hpiece, hx⟩ => ?_
          exact ⟨piece, List.mem_cons_of_mem _ hpiece, hx⟩

theorem mem_intercalate_of_mem {pieces : List (List α)} {piece : List α} (h : piece ∈ pieces) (hx : x ∈ piece) :
    x ∈ List.intercalate [sep] pieces := by
  induction pieces with
  | nil => cases h
  | cons first rest ih =>
      by_cases hrest : rest = []
      · subst hrest
        rw [List.mem_singleton] at h
        rwa [List.intercalate_singleton, ← h]
      · rw [List.intercalate_cons_of_ne_nil hrest, List.mem_append, List.mem_append]
        rcases List.mem_cons.mp h with rfl | h
        · exact Or.inl (Or.inl hx)
        · exact Or.inr (ih h)

theorem map_intercalate (f : α → α) (pieces : List (List α)) :
    (List.intercalate [sep] pieces).map f = List.intercalate [f sep] (pieces.map (List.map f)) := by
  induction pieces with
  | nil => rfl
  | cons first rest ih =>
      by_cases hrest : rest = []
      · subst hrest
        simp
      · rw [List.map_cons, List.intercalate_cons_of_ne_nil hrest, List.intercalate_cons_of_ne_nil (by simpa using hrest),
          List.map_append, List.map_append, ih]
        rfl

theorem suffix_intercalate_concat (pieces : List (List α)) (last : List α) :
    last <:+ List.intercalate [sep] (pieces ++ [last]) := by
  induction pieces with
  | nil => simp [List.intercalate_singleton]
  | cons first rest ih =>
      rw [List.cons_append, List.intercalate_cons_of_ne_nil (List.append_ne_nil_of_right_ne_nil _ (List.cons_ne_nil _ _))]
      exact ih.trans (List.suffix_append _ _)

variable [DecidableEq α]

theorem separator_notMem_of_mem_splitOn {text piece : List α} (h : piece ∈ text.splitOn sep) : sep ∉ piece := by
  induction text generalizing piece with
  | nil =>
      rw [List.splitOn_nil, List.mem_singleton] at h
      rw [h]
      exact List.not_mem_nil
  | cons first rest ih =>
      obtain ⟨head, tail, hrest⟩ := List.exists_cons_of_ne_nil (List.splitOn_ne_nil sep rest)
      rw [List.splitOn_cons_eq_if_modifyHead, hrest] at h
      rw [hrest] at ih
      split at h
      · rcases List.mem_cons.mp h with rfl | h
        · exact List.not_mem_nil
        · exact ih h
      · rename_i hfirst
        rw [List.modifyHead_cons] at h
        rcases List.mem_cons.mp h with rfl | h
        · rw [List.mem_cons, not_or]
          exact ⟨fun heq => hfirst (beq_iff_eq.mpr heq.symm), ih List.mem_cons_self⟩
        · exact ih (List.mem_cons_of_mem _ h)

theorem mem_of_mem_splitOn {text piece : List α} (h : piece ∈ text.splitOn sep) (hx : x ∈ piece) : x ∈ text := by
  have hmem : x ∈ List.intercalate [sep] (text.splitOn sep) := mem_intercalate_of_mem h hx
  rwa [List.intercalate_splitOn] at hmem

end Pieces

end Text
