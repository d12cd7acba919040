import Mathlib.Data.List.Infix
import Mathlib.Tactic.IntervalCases

/-!
# Numbers written in digits

What `Nat.toDigits` writes in a base up to 16 can be read back, and one number is a text prefix of another
exactly when it is what is left of it after dropping digits at the end.
-/

namespace Digits

/-- The value of a decimal or lower-case hexadecimal digit. -/
def value (c : Char) : Nat := if c.isDigit then c.toNat - '0'.toNat else c.toNat - 'a'.toNat + 10

/-- The number a text of digits stands for. -/
def ofChars (b : Nat) (text : List Char) : Nat := text.foldl (fun n c => b * n + value c) 0

variable {b m n d : Nat} {c : Char}

theorem value_digitChar (h : d < 16) : value d.digitChar = d := by
  interval_cases d <;> rfl

theorem ofChars_append_singleton (text : List Char) : ofChars b (text ++ [c]) = b * ofChars b text + value c := by
  simp [ofChars]

theorem exists_digit_of_mem (hb : 1 < b) (h : c ∈ Nat.toDigits b n) : ∃ d < b, c = d.digitChar := by
  induction n using Nat.strong_induction_on with
  | _ n ih =>
    rw [Nat.toDigits_eq_if hb] at h
    split at h
    · exact ⟨n, by assumption, List.mem_singleton.mp h⟩
    · rw [List.mem_append, List.mem_singleton] at h
      rcases h with h | h
      · exact ih (n / b) (Nat.div_lt_self (by omega) hb) h
      · exact ⟨n % b, Nat.mod_lt _ (by omega), h⟩

theorem ofChars_toDigits (hb : 1 < b) (hb' : b ≤ 16) (n : Nat) : ofChars b (Nat.toDigits b n) = n := by
  induction n using Nat.strong_induction_on with
  | _ n ih =>
    rw [Nat.toDigits_eq_if hb]
    split
    · simp only [ofChars, List.foldl_cons, List.foldl_nil, Nat.mul_zero, Nat.zero_add]
      exact value_digitChar (by omega)
    · have hmod : n % b < b := Nat.mod_lt _ (by omega)
      rw [ofChars_append_singleton, ih (n / b) (Nat.div_lt_self (by omega) hb), value_digitChar (by omega)]
      exact Nat.div_add_mod n b

theorem toDigits_injective (hb : 1 < b) (hb' : b ≤ 16) (h : Nat.toDigits b m = Nat.toDigits b n) : m = n := by
  rw [← ofChars_toDigits hb hb' m, h, ofChars_toDigits hb hb' n]

/-- The text of `m` starts the text of `n` exactly when `m` is `n` without its last digits. -/
theorem toDigits_prefix_iff (hb : 1 < b) (hb' : b ≤ 16) (hm : 0 < m) :
    Nat.toDigits b m <+: Nat.toDigits b n ↔ ∃ k, n / b ^ k = m := by
  constructor
  · intro h
    induction n using Nat.strong_induction_on with
    | _ n ih =>
      by_cases hn : n < b
      · have heq : Nat.toDigits b m = Nat.toDigits b n := by
          apply h.eq_of_length_le
          rw [Nat.toDigits_of_lt_base hn]
          exact Nat.length_toDigits_pos
        exact ⟨0, by rw [pow_zero, Nat.div_one, toDigits_injective hb hb' heq]⟩
      · have hsplit := Nat.toDigits_of_base_le hb (Nat.le_of_not_lt hn)
        rw [hsplit, List.prefix_concat_iff] at h
        rcases h with h | h
        · rw [← hsplit] at h
          exact ⟨0, by rw [pow_zero, Nat.div_one, toDigits_injective hb hb' h]⟩
        · obtain ⟨k, hk⟩ := ih (n / b) (Nat.div_lt_self (by omega) hb) h
          refine ⟨k + 1, ?_⟩
          rw [Nat.pow_succ', ← Nat.div_div_eq_div_mul, hk]
  · rintro ⟨k, hk⟩
    induction k generalizing n with
    | zero =>
        rw [pow_zero, Nat.div_one] at hk
        rw [hk]
    | succ k ih =>
        rw [Nat.pow_succ', ← Nat.div_div_eq_div_mul] at hk
        have hn : b ≤ n := by
          by_contra hlt
          have hzero : n / b = 0 := Nat.div_eq_of_lt (by omega)
          rw [hzero, Nat.zero_div] at hk
          omega
        rw [Nat.toDigits_of_base_le hb hn]
        exact (ih hk).trans (List.prefix_append _ _)

/-! ### Texts up to a separator -/

variable {Symbol : Type} {separator : Symbol} {text word rest : List Symbol}

theorem append_separator_prefix_iff (htext : separator ∉ text) (hword : separator ∉ word) :
    word ++ [separator] <+: text ++ separator :: rest ↔ word = text := by
  induction word generalizing text with
  | nil =>
      cases text with
      | nil => simp
      | cons c text => simp at htext; simp [htext.1]
  | cons c word ih =>
      cases text with
      | nil => simp at hword; simp [Ne.symm hword.1]
      | cons c' text =>
          rw [List.mem_cons, not_or] at htext hword
          simp [List.cons_prefix_cons, ih htext.2 hword.2]

theorem prefix_append_separator_iff (hword : separator ∉ word) :
    word <+: text ++ separator :: rest ↔ word <+: text := by
  induction word generalizing text with
  | nil => simp
  | cons c word ih =>
      rw [List.mem_cons, not_or] at hword
      cases text with
      | nil => simp [Ne.symm hword.1]
      | cons c' text => simp [List.cons_prefix_cons, ih hword.2]

end Digits
