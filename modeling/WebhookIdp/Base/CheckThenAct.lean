import Mathlib.Data.Fintype.Card
import WebhookIdp.Base.ReadModifyWrite

/-!
# Checking a flag, then acting

Each client checks a flag, raises it, and then reports that it did, unless the flag was up already when it
checked. Nothing happens between the steps of a client but the steps of the others, so every client that
checked before any of them had raised the flag reports.
-/

namespace CheckThenAct

open ReadModifyWrite (WrittenBefore writtenBefore_concat count_concat)

/-- How far a client is, and whether the flag was up when it checked. -/
inductive Phase where
  | idle
  | checked (up : Bool)
  | raised (up : Bool)
  | reported (up : Bool)
  deriving DecidableEq

structure State (ι : Type) where
  flag : Bool
  reports : Nat
  phase : ι → Phase

variable {ι : Type}

def start : State ι := { flag := false, reports := 0, phase := fun _ => .idle }

variable [DecidableEq ι]

def step (s : State ι) (i : ι) : State ι :=
  match s.phase i with
  | .idle => { s with phase := Function.update s.phase i (.checked s.flag) }
  | .checked up => { s with flag := true, phase := Function.update s.phase i (.raised up) }
  | .raised up =>
      { s with
        reports := s.reports + if up then 0 else 1
        phase := Function.update s.phase i (.reported up) }
  | .reported _ => s

def run (s : State ι) (schedule : List ι) : State ι := schedule.foldl step s

/-- Client `i` checks before any client has raised the flag; its moves are the check, the raising and the
report. -/
def ChecksFirst (schedule : List ι) (i : ι) : Prop := ∀ j, ¬ WrittenBefore j 0 i schedule

variable {s : State ι} {i j m : ι} {schedule : List ι}

theorem run_concat : run s (schedule ++ [m]) = step (run s schedule) m := List.foldl_append

theorem phase_step_of_ne (hne : i ≠ m) : (step s m).phase i = s.phase i := by
  rw [step]
  split
  · exact Function.update_of_ne hne _ _
  · exact Function.update_of_ne hne _ _
  · exact Function.update_of_ne hne _ _
  · rfl

theorem step_self (s : State ι) (i : ι) :
    (s.phase i = .idle → (step s i).phase i = .checked s.flag ∧ (step s i).flag = s.flag ∧
        (step s i).reports = s.reports) ∧
      (∀ up, s.phase i = .checked up → (step s i).phase i = .raised up ∧ (step s i).flag = true ∧
        (step s i).reports = s.reports) ∧
      (∀ up, s.phase i = .raised up → (step s i).phase i = .reported up ∧ (step s i).flag = s.flag ∧
        (step s i).reports = s.reports + if up then 0 else 1) ∧
      ∀ up, s.phase i = .reported up → step s i = s := by
  refine ⟨fun h => ?_, fun up h => ?_, fun up h => ?_, fun up h => ?_⟩
  · rw [step, h]
    exact ⟨Function.update_self _ _ _, rfl, rfl⟩
  · rw [step, h]
    exact ⟨Function.update_self _ _ _, rfl, rfl⟩
  · rw [step, h]
    exact ⟨Function.update_self _ _ _, rfl, rfl⟩
  · rw [step, h]

/-! ### The state after a schedule -/

/-- The phase after `n` moves. -/
def phaseAfter (up : Bool) : Nat → Phase
  | 0 => .idle
  | 1 => .checked up
  | 2 => .raised up
  | _ + 3 => .reported up

theorem checksFirst_concat :
    ChecksFirst (schedule ++ [m]) i ↔
      ChecksFirst schedule i ∧ (m = i → schedule.count i = 0 → ∀ j, schedule.count j < 2) := by
  simp only [ChecksFirst, writtenBefore_concat, not_or, not_and, not_le, forall_and]
  refine and_congr_right fun _ => ⟨fun h hm hzero j => h j hm hzero, fun h j hm hzero => h hm hzero j⟩

open Classical in
/-- Whether the flag is up when client `i` checks. -/
noncomputable def upFor (schedule : List ι) (i : ι) : Bool := decide (¬ ChecksFirst schedule i)

open Classical in
theorem upFor_eq_true_iff : upFor schedule i = true ↔ ¬ ChecksFirst schedule i := decide_eq_true_iff

theorem upFor_concat (h : m = i → schedule.count i ≠ 0) : upFor (schedule ++ [m]) i = upFor schedule i := by
  have hiff : ChecksFirst (schedule ++ [m]) i ↔ ChecksFirst schedule i := by
    rw [checksFirst_concat]
    exact ⟨And.left, fun hfirst => ⟨hfirst, fun hm hzero => absurd hzero (h hm)⟩⟩
  rw [Bool.eq_iff_iff, upFor_eq_true_iff, upFor_eq_true_iff, hiff]

/-- The state after a schedule, told from the order of the moves. -/
structure Explained (schedule : List ι) (s : State ι) : Prop where
  phase : ∀ i, s.phase i = phaseAfter (upFor schedule i) (schedule.count i)
  flag : s.flag = true ↔ ∃ i, 2 ≤ schedule.count i

theorem explained_nil : Explained [] (start : State ι) where
  phase _ := rfl
  flag := by simp [start]

theorem Explained.phase_of_ne (h : Explained schedule s) (hne : i ≠ m) :
    (step s m).phase i = phaseAfter (upFor (schedule ++ [m]) i) ((schedule ++ [m]).count i) := by
  rw [phase_step_of_ne hne, upFor_concat fun hm => absurd hm.symm hne, count_concat, if_neg (Ne.symm hne)]
  exact h.phase i

/-- A client that has not moved checks what the schedule says. -/
theorem upFor_concat_self (h : Explained schedule s) (hzero : schedule.count m = 0) :
    upFor (schedule ++ [m]) m = s.flag := by
  have hfirst : ChecksFirst schedule m := fun j hwritten => by
    have hpos := hwritten.lt_count.1
    omega
  have hiff : ¬ ChecksFirst (schedule ++ [m]) m ↔ s.flag = true := by
    rw [checksFirst_concat, h.flag]
    constructor
    · intro hnot
      by_contra hnone
      refine hnot ⟨hfirst, fun _ _ j => Nat.lt_of_not_le fun hle => hnone ⟨j, hle⟩⟩
    · rintro ⟨j, hj⟩ hboth
      have hlt := hboth.2 rfl hzero j
      omega
  rw [Bool.eq_iff_iff, upFor_eq_true_iff, hiff]

theorem flag_concat_iff (h : Explained schedule s) :
    (∃ i, 2 ≤ (schedule ++ [m]).count i) ↔ s.flag = true ∨ schedule.count m = 1 := by
  rw [h.flag]
  simp only [count_concat]
  constructor
  · rintro ⟨i, hi⟩
    by_cases him : m = i
    · subst him
      rw [if_pos rfl] at hi
      rcases Nat.lt_or_ge (schedule.count m) 2 with hlt | hge
      · right
        omega
      · exact Or.inl ⟨m, hge⟩
    · rw [if_neg him] at hi
      exact Or.inl ⟨i, hi⟩
  · rintro (⟨i, hi⟩ | hone)
    · exact ⟨i, by omega⟩
    · exact ⟨m, by rw [if_pos rfl]; omega⟩

theorem Explained.step (h : Explained schedule s) (m : ι) : Explained (schedule ++ [m]) (step s m) := by
  obtain ⟨hidle, hchecked, hraised, hreported⟩ := step_self s m
  have hphase := h.phase m
  have hcount : (schedule ++ [m]).count m = schedule.count m + 1 := by
    rw [count_concat, if_pos rfl]
  suffices hself : (CheckThenAct.step s m).phase m = phaseAfter (upFor (schedule ++ [m]) m) (schedule.count m + 1) ∧
      ((CheckThenAct.step s m).flag = true ↔ s.flag = true ∨ schedule.count m = 1) by
    refine ⟨fun i => ?_, by rw [flag_concat_iff h, hself.2]⟩
    by_cases hi : i = m
    · subst hi
      rw [hcount]
      exact hself.1
    · exact h.phase_of_ne hi
  have hraisedFlag : 2 ≤ schedule.count m → s.flag = true := fun hle => h.flag.mpr ⟨m, hle⟩
  rcases hmoves : schedule.count m with _ | _ | _ | n
  · rw [hmoves] at hphase
    obtain ⟨hnew, hflag, -⟩ := hidle hphase
    rw [hnew, hflag, upFor_concat_self h hmoves]
    simp [phaseAfter]
  · rw [hmoves] at hphase
    obtain ⟨hnew, hflag, -⟩ := hchecked _ hphase
    rw [hnew, hflag, upFor_concat fun _ => by omega]
    simp [phaseAfter]
  · rw [hmoves] at hphase
    obtain ⟨hnew, hflag, -⟩ := hraised _ hphase
    rw [hnew, hflag, upFor_concat fun _ => by omega]
    simp [phaseAfter]
  · rw [hmoves] at hphase
    rw [hreported _ hphase, hphase, upFor_concat fun _ => by omega]
    simp [phaseAfter]

theorem explained_run (schedule : List ι) : Explained schedule (run start schedule) := by
  induction schedule using List.reverseRecOn with
  | nil => exact explained_nil
  | append_singleton schedule m ih =>
      rw [run_concat]
      exact ih.step m

/-- A client that has reported has told whether it checked first. -/
theorem checksFirst_iff_of_reported {up : Bool} (h : (run start schedule).phase i = .reported up) :
    ChecksFirst schedule i ↔ up = false := by
  have hphase := (explained_run schedule).phase i
  rw [h] at hphase
  have hsame : up = upFor schedule i := by
    generalize schedule.count i = n at hphase
    rcases n with _ | _ | _ | n <;> simp_all [phaseAfter]
  rw [← not_iff_not, ← upFor_eq_true_iff, ← hsame, Bool.not_eq_false]

/-! ### How many clients report -/

section Count

variable [Fintype ι]

/-- The clients that have reported that they raised the flag. -/
def reporters (s : State ι) : Finset ι := Finset.univ.filter fun i => s.phase i = .reported false

omit [DecidableEq ι] in
theorem mem_reporters : i ∈ reporters s ↔ s.phase i = .reported false := by
  simp [reporters]

theorem reporters_step_of_iff (h : (step s m).phase m = .reported false ↔ s.phase m = .reported false) :
    reporters (step s m) = reporters s := by
  ext i
  rw [mem_reporters, mem_reporters]
  by_cases hi : i = m
  · subst hi
    exact h
  · rw [phase_step_of_ne hi]

theorem reporters_step_of_raised (h : s.phase m = .raised false) :
    reporters (step s m) = insert m (reporters s) := by
  have hnew := ((step_self s m).2.2.1 false h).1
  ext i
  rw [Finset.mem_insert, mem_reporters, mem_reporters]
  by_cases hi : i = m
  · subst hi
    simp [hnew]
  · rw [phase_step_of_ne hi]
    simp [hi]

theorem reports_step (h : s.reports = (reporters s).card) (m : ι) :
    (step s m).reports = (reporters (step s m)).card := by
  obtain ⟨hidle, hchecked, hraised, hreported⟩ := step_self s m
  rcases hphase : s.phase m with _ | up | up | up
  · obtain ⟨hnew, -, hreports⟩ := hidle hphase
    rw [hreports, h, reporters_step_of_iff (by simp [hnew, hphase])]
  · obtain ⟨hnew, -, hreports⟩ := hchecked up hphase
    rw [hreports, h, reporters_step_of_iff (by simp [hnew, hphase])]
  · obtain ⟨hnew, -, hreports⟩ := hraised up hphase
    cases up with
    | true => rw [hreports, h, reporters_step_of_iff (by simp [hnew, hphase]), if_pos rfl, Nat.add_zero]
    | false =>
        have hout : m ∉ reporters s := by
          simp [mem_reporters, hphase]
        rw [hreports, h, reporters_step_of_raised hphase, Finset.card_insert_of_notMem hout]
        rfl
  · rw [hreported up hphase, h]

theorem reports_run (schedule : List ι) :
    (run (start : State ι) schedule).reports = (reporters (run start schedule)).card := by
  induction schedule using List.reverseRecOn with
  | nil => simp [run, start, reporters]
  | append_singleton schedule m ih =>
      rw [run_concat]
      exact reports_step ih m

/-- When every client has reported, or had nothing to report, the reports are one exactly when one client
checked first. -/
theorem reports_eq_one_iff (hdone : ∀ i, ∃ up, (run start schedule).phase i = .reported up) :
    (run start schedule).reports = 1 ↔ ∃ i, ChecksFirst schedule i ∧ ∀ j, ChecksFirst schedule j → j = i := by
  have hmem : ∀ i, i ∈ reporters (run start schedule) ↔ ChecksFirst schedule i := by
    intro i
    obtain ⟨up, hup⟩ := hdone i
    rw [mem_reporters, checksFirst_iff_of_reported hup, hup]
    simp
  rw [reports_run, Finset.card_eq_one]
  simp only [Finset.eq_singleton_iff_unique_mem, hmem]

end Count

end CheckThenAct
