import Mathlib.Data.Bool.Basic
import Mathlib.Data.List.Count
import Mathlib.Data.List.Induction
import Mathlib.Logic.Function.Basic
import Mathlib.Tactic.SplitIfs

/-!
# A register that clients read, modify and write back

Each client reads the register once, computes a new value from its copy, and writes it back whatever the
register holds by then. For two clients the final value is decided by one question: whether the first to
write had written when the other one read.
-/

namespace ReadModifyWrite

variable {ι V : Type}

/-- How far a client is, with the value it read. -/
inductive Phase (V : Type) where
  | idle
  | holding (copy : V)
  | written (copy : V)

structure Register (ι V : Type) where
  value : V
  phase : ι → Phase V

/-- The register with the given value, before any client has read. -/
def start (v : V) : Register ι V := { value := v, phase := fun _ => .idle }

section Step

variable [DecidableEq ι] (modify : ι → V → V)

def step (r : Register ι V) (i : ι) : Register ι V :=
  match r.phase i with
  | .idle => { r with phase := Function.update r.phase i (.holding r.value) }
  | .holding copy => { value := modify i copy, phase := Function.update r.phase i (.written copy) }
  | .written _ => r

def run (r : Register ι V) (schedule : List ι) : Register ι V := schedule.foldl (step modify) r

theorem run_concat (r : Register ι V) (schedule : List ι) (i : ι) :
    run modify r (schedule ++ [i]) = step modify (run modify r schedule) i :=
  List.foldl_append

variable {modify} {r : Register ι V} {i : ι}

theorem step_of_idle (h : r.phase i = .idle) :
    step modify r i = { r with phase := Function.update r.phase i (.holding r.value) } := by
  rw [step, h]

theorem step_of_holding {copy : V} (h : r.phase i = .holding copy) :
    step modify r i = { value := modify i copy, phase := Function.update r.phase i (.written copy) } := by
  rw [step, h]

theorem step_of_written {copy : V} (h : r.phase i = .written copy) : step modify r i = r := by
  rw [step, h]

theorem value_step_of_idle (h : r.phase i = .idle) : (step modify r i).value = r.value := by
  rw [step_of_idle h]

theorem phase_step_of_idle (h : r.phase i = .idle) : (step modify r i).phase i = .holding r.value := by
  rw [step_of_idle h]
  exact Function.update_self _ _ _

theorem value_step_of_holding {copy : V} (h : r.phase i = .holding copy) :
    (step modify r i).value = modify i copy := by
  rw [step_of_holding h]

theorem phase_step_of_holding {copy : V} (h : r.phase i = .holding copy) :
    (step modify r i).phase i = .written copy := by
  rw [step_of_holding h]
  exact Function.update_self _ _ _

theorem phase_step_of_ne {j : ι} (hne : j ≠ i) : (step modify r i).phase j = r.phase j := by
  rw [step]
  split
  · exact Function.update_of_ne hne _ _
  · exact Function.update_of_ne hne _ _
  · rfl

end Step

/-! ### The order of reads and writes -/

section Order

variable [DecidableEq ι]

/-- Client `i` has written when client `j` makes its move number `n`: its read is move 0, its write move 1. -/
def WrittenBefore (i : ι) (n : Nat) (j : ι) (schedule : List ι) : Prop :=
  ∃ before after, schedule = before ++ j :: after ∧ before.count j = n ∧ 2 ≤ before.count i

variable {i j m : ι} {n : Nat} {schedule : List ι}

theorem not_writtenBefore_nil : ¬ WrittenBefore i n j [] := by
  intro h
  obtain ⟨before, after, hsplit, -⟩ := h
  exact absurd hsplit.symm (by simp)

theorem writtenBefore_concat :
    WrittenBefore i n j (schedule ++ [m]) ↔
      WrittenBefore i n j schedule ∨ (m = j ∧ schedule.count j = n ∧ 2 ≤ schedule.count i) := by
  refine ⟨fun h => ?_, fun h => ?_⟩
  · obtain ⟨before, after, hsplit, hcount⟩ := h
    rcases List.eq_nil_or_concat after with rfl | ⟨rest, last, rfl⟩
    · obtain ⟨rfl, hm⟩ := List.append_inj' hsplit rfl
      exact Or.inr ⟨List.singleton_inj.mp hm, hcount⟩
    · rw [List.concat_eq_append, ← List.cons_append, ← List.append_assoc] at hsplit
      obtain ⟨rfl, -⟩ := List.append_inj' hsplit rfl
      exact Or.inl ⟨before, rest, rfl, hcount⟩
  · rcases h with ⟨before, after, rfl, hcount⟩ | ⟨rfl, hcount⟩
    · exact ⟨before, after ++ [m], by rw [List.append_assoc, List.cons_append], hcount⟩
    · exact ⟨schedule, [], rfl, hcount⟩

theorem WrittenBefore.lt_count (h : WrittenBefore i n j schedule) :
    n < schedule.count j ∧ 2 ≤ schedule.count i := by
  obtain ⟨before, after, rfl, hj, hi⟩ := h
  rw [List.count_append, List.count_append, List.count_cons_self]
  omega

/-- If `i` had written by one of the two moves of `j`, then `j` had not written when `i` read. -/
theorem WrittenBefore.not_written_back (h : WrittenBefore i n j schedule) (hn : n < 2) :
    ¬ WrittenBefore j 0 i schedule := by
  intro hback
  obtain ⟨before, after, hsplit, hj, hi⟩ := h
  obtain ⟨before', after', rfl, hi', hj'⟩ := hback
  rcases List.append_eq_append_iff.mp hsplit with ⟨rest, rfl, -⟩ | ⟨rest, rfl, -⟩
  · rw [List.count_append] at hj
    omega
  · rw [List.count_append] at hi'
    omega

theorem count_concat (i m : ι) (schedule : List ι) :
    (schedule ++ [m]).count i = schedule.count i + if m = i then 1 else 0 := by
  rw [List.count_append, List.count_singleton]
  simp only [beq_iff_eq]

end Order

/-! ### Two clients -/

section Two

open Classical in
/-- What client `b` reads, when the register starts with `v`. -/
noncomputable def copyOf (modify : Bool → V → V) (v : V) (b : Bool) (schedule : List Bool) : V :=
  if WrittenBefore (!b) 0 b schedule then modify (!b) v else v

variable {modify : Bool → V → V} {v : V}

/-- The register after a schedule, told from the order of the moves. -/
structure Explained (modify : Bool → V → V) (v : V) (schedule : List Bool) (r : Register Bool V) : Prop where
  idle : ∀ b, schedule.count b = 0 → r.phase b = .idle
  holding : ∀ b, schedule.count b = 1 → r.phase b = .holding (copyOf modify v b schedule)
  written : ∀ b, 2 ≤ schedule.count b → r.phase b = .written (copyOf modify v b schedule)
  value_none : (∀ b, schedule.count b < 2) → r.value = v
  value_one : ∀ b, 2 ≤ schedule.count b → schedule.count (!b) < 2 → r.value = modify b v
  value_both : ∀ b, WrittenBefore (!b) 1 b schedule → r.value = modify b (copyOf modify v b schedule)
  order : (∀ b, 2 ≤ schedule.count b) → ∃ b, WrittenBefore (!b) 1 b schedule

theorem copyOf_of_not_written {b : Bool} {schedule : List Bool} (h : schedule.count (!b) < 2) :
    copyOf modify v b schedule = v := by
  refine if_neg fun hwritten => ?_
  have hcount := hwritten.lt_count.2
  omega

theorem explained_nil : Explained modify v [] (start v) where
  idle _ _ := rfl
  holding b h := absurd h (by simp)
  written b h := absurd h (by simp)
  value_none _ := rfl
  value_one b h := absurd h (by simp)
  value_both b h := absurd h not_writtenBefore_nil
  order h := absurd (h true) (by simp)

theorem copyOf_concat {b m : Bool} {schedule : List Bool} (h : m ≠ b ∨ schedule.count b ≠ 0) :
    copyOf modify v b (schedule ++ [m]) = copyOf modify v b schedule := by
  have hiff : WrittenBefore (!b) 0 b (schedule ++ [m]) ↔ WrittenBefore (!b) 0 b schedule := by
    rw [writtenBefore_concat]
    refine ⟨fun hor => hor.resolve_right fun hlast => ?_, Or.inl⟩
    rcases h with h | h
    · exact h hlast.1
    · exact h hlast.2.1
  rw [copyOf, copyOf, hiff]

theorem copyOf_concat_of_idle {m : Bool} {schedule : List Bool} (h : schedule.count m = 0) {r : Register Bool V}
    (hr : Explained modify v schedule r) : copyOf modify v m (schedule ++ [m]) = r.value := by
  have hiff : WrittenBefore (!m) 0 m (schedule ++ [m]) ↔ 2 ≤ schedule.count (!m) := by
    rw [writtenBefore_concat]
    refine ⟨fun hor => ?_, fun hcount => Or.inr ⟨rfl, h, hcount⟩⟩
    rcases hor with hor | hor
    · exact hor.lt_count.2
    · exact hor.2.2
  rw [copyOf, hiff]
  split_ifs with hcount
  · rw [hr.value_one (!m) hcount]
    rw [Bool.not_not]
    omega
  · rw [hr.value_none]
    intro b
    rcases Bool.eq_or_eq_not b m with rfl | rfl <;> omega

theorem Explained.phase_step_of_ne {m b : Bool} {schedule : List Bool} {r : Register Bool V}
    (hr : Explained modify v schedule r) (hne : b ≠ m) :
    ((schedule ++ [m]).count b = 0 → (step modify r m).phase b = .idle) ∧
      ((schedule ++ [m]).count b = 1 →
        (step modify r m).phase b = .holding (copyOf modify v b (schedule ++ [m]))) ∧
      (2 ≤ (schedule ++ [m]).count b →
        (step modify r m).phase b = .written (copyOf modify v b (schedule ++ [m]))) := by
  rw [ReadModifyWrite.phase_step_of_ne hne, copyOf_concat (Or.inl (Ne.symm hne)), count_concat,
    if_neg (Ne.symm hne), Nat.add_zero]
  exact ⟨hr.idle b, hr.holding b, hr.written b⟩

theorem Explained.step_idle {m : Bool} {schedule : List Bool} {r : Register Bool V}
    (hr : Explained modify v schedule r) (h : schedule.count m = 0) :
    Explained modify v (schedule ++ [m]) (step modify r m) := by
  have hidle := hr.idle m h
  have hself : (schedule ++ [m]).count m = 1 := by
    rw [count_concat, if_pos rfl, h]
  have hother : (schedule ++ [m]).count (!m) = schedule.count (!m) := by
    rw [count_concat, if_neg (by simp), Nat.add_zero]
  refine ⟨fun b hb => ?_, fun b hb => ?_, fun b hb => ?_, fun hb => ?_, fun b hb hnot => ?_, fun b hb => ?_,
    fun hb => ?_⟩
  · by_cases hbm : b = m
    · subst hbm
      omega
    · exact (hr.phase_step_of_ne hbm).1 hb
  · by_cases hbm : b = m
    · subst hbm
      rw [copyOf_concat_of_idle h hr, phase_step_of_idle hidle]
    · exact (hr.phase_step_of_ne hbm).2.1 hb
  · by_cases hbm : b = m
    · subst hbm
      omega
    · exact (hr.phase_step_of_ne hbm).2.2 hb
  · rw [value_step_of_idle hidle]
    apply hr.value_none
    intro b
    rcases Bool.eq_or_eq_not b m with rfl | rfl
    · omega
    · have hlt := hb (!m)
      omega
  · rcases Bool.eq_or_eq_not b m with rfl | rfl
    · omega
    · rw [value_step_of_idle hidle]
      apply hr.value_one _ (by omega)
      rw [Bool.not_not]
      omega
  · have hcount := hb.lt_count
    rcases Bool.eq_or_eq_not b m with rfl | rfl
    · omega
    · rw [Bool.not_not] at hcount
      omega
  · have hcount := hb m
    omega

theorem Explained.step_holding {m : Bool} {schedule : List Bool} {r : Register Bool V}
    (hr : Explained modify v schedule r) (h : schedule.count m = 1) :
    Explained modify v (schedule ++ [m]) (step modify r m) := by
  have hholding := hr.holding m h
  have hself : (schedule ++ [m]).count m = 2 := by
    rw [count_concat, if_pos rfl, h]
  have hother : (schedule ++ [m]).count (!m) = schedule.count (!m) := by
    rw [count_concat, if_neg (by simp), Nat.add_zero]
  have hcopy : copyOf modify v m (schedule ++ [m]) = copyOf modify v m schedule :=
    copyOf_concat (Or.inr (by omega))
  refine ⟨fun b hb => ?_, fun b hb => ?_, fun b hb => ?_, fun hb => ?_, fun b hb hnot => ?_, fun b hb => ?_,
    fun hb => ?_⟩
  · by_cases hbm : b = m
    · subst hbm
      omega
    · exact (hr.phase_step_of_ne hbm).1 hb
  · by_cases hbm : b = m
    · subst hbm
      omega
    · exact (hr.phase_step_of_ne hbm).2.1 hb
  · by_cases hbm : b = m
    · subst hbm
      rw [hcopy, phase_step_of_holding hholding]
    · exact (hr.phase_step_of_ne hbm).2.2 hb
  · have hlt := hb m
    omega
  · rcases Bool.eq_or_eq_not b m with rfl | rfl
    · rw [value_step_of_holding hholding, copyOf_of_not_written (by omega)]
    · rw [Bool.not_not] at hnot
      omega
  · rw [writtenBefore_concat] at hb
    rcases hb with hb | ⟨rfl, -⟩
    · have hcount := hb.lt_count
      rcases Bool.eq_or_eq_not b m with rfl | rfl
      · omega
      · rw [Bool.not_not] at hcount
        omega
    · rw [hcopy, value_step_of_holding hholding]
  · have hcount := hb (!m)
    exact ⟨m, writtenBefore_concat.mpr (Or.inr ⟨rfl, h, by omega⟩)⟩

theorem Explained.step_written {m : Bool} {schedule : List Bool} {r : Register Bool V}
    (hr : Explained modify v schedule r) (h : 2 ≤ schedule.count m) :
    Explained modify v (schedule ++ [m]) (step modify r m) := by
  rw [step_of_written (hr.written m h)]
  have hself : (schedule ++ [m]).count m = schedule.count m + 1 := by
    rw [count_concat, if_pos rfl]
  have hother : (schedule ++ [m]).count (!m) = schedule.count (!m) := by
    rw [count_concat, if_neg (by simp), Nat.add_zero]
  have hsame : ∀ b, schedule.count b ≤ (schedule ++ [m]).count b := by
    intro b
    rcases Bool.eq_or_eq_not b m with rfl | rfl <;> omega
  have hcopy : ∀ b, copyOf modify v b (schedule ++ [m]) = copyOf modify v b schedule := by
    intro b
    rcases Bool.eq_or_eq_not b m with rfl | rfl
    · exact copyOf_concat (Or.inr (by omega))
    · exact copyOf_concat (Or.inl (by simp))
  refine ⟨fun b hb => ?_, fun b hb => ?_, fun b hb => ?_, fun hb => ?_, fun b hb hnot => ?_, fun b hb => ?_,
    fun hb => ?_⟩
  · have hle := hsame b
    exact hr.idle b (by omega)
  · rw [hcopy]
    rcases Bool.eq_or_eq_not b m with rfl | rfl
    · omega
    · exact hr.holding _ (by omega)
  · rw [hcopy]
    rcases Bool.eq_or_eq_not b m with rfl | rfl
    · exact hr.written _ h
    · exact hr.written _ (by omega)
  · have hlt := hb m
    omega
  · have hle := hsame (!b)
    rcases Bool.eq_or_eq_not b m with rfl | rfl
    · exact hr.value_one _ h (by omega)
    · exact hr.value_one _ (by omega) (by omega)
  · rw [hcopy]
    rw [writtenBefore_concat] at hb
    rcases hb with hb | ⟨rfl, hone, -⟩
    · exact hr.value_both b hb
    · omega
  · have hcount := hb (!m)
    obtain ⟨b, hwritten⟩ := hr.order fun b => by
      rcases Bool.eq_or_eq_not b m with rfl | rfl <;> omega
    exact ⟨b, writtenBefore_concat.mpr (Or.inl hwritten)⟩

theorem explained_run (modify : Bool → V → V) (v : V) (schedule : List Bool) :
    Explained modify v schedule (run modify (start v) schedule) := by
  induction schedule using List.reverseRecOn with
  | nil => exact explained_nil
  | append_singleton schedule m ih =>
      rw [run_concat]
      rcases Nat.lt_trichotomy (schedule.count m) 1 with h | h | h
      · exact ih.step_idle (by omega)
      · exact ih.step_holding h
      · exact ih.step_written h

end Two

end ReadModifyWrite
