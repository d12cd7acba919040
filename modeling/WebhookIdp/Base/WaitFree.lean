import WebhookIdp.Base.Alike

/-!
# Programs that end after a number of calls

A program that ends within `n` calls ends whatever it is answered, so in a system its client is done once it has moved
`n` times, however often others move in between.
-/

namespace Concurrent

variable {ι State Op : Type} {Answer : Op → Type} {Error α β Choice : Type}

/-- The program makes at most `n` calls. -/
def Program.Within : Program Op Answer Error α → Nat → Prop
  | .done _, _ => True
  | .call _ _, 0 => False
  | .call _ next, n + 1 => ∀ answer, (next answer).Within n

namespace Program

variable {program : Program Op Answer Error α} {n : Nat}

theorem Alike.within {R : Except Error α → Except Error β → Prop} {program' : Program Op Answer Error β}
    (h : program.Alike R program') (hwithin : program.Within n) : program'.Within n := by
  induction h generalizing n with
  | done _ => trivial
  | call _ ih =>
      cases n with
      | zero => exact absurd hwithin id
      | succ n => exact fun answer => ih answer (hwithin answer)

end Program

variable [DecidableEq ι] {perform : Interface Op Answer Error Choice State} {s : System ι State Op Answer Error α} {i : ι}

theorem System.within_run {n : Nat} (h : (s.client i).Within n) (schedule : List (ι × Choice)) :
    ((s.run perform schedule).client i).Within (n - (schedule.map Prod.fst).count i) := by
  induction schedule generalizing s n with
  | nil => exact h
  | cons move rest ih =>
      by_cases hmove : move.1 = i
      · subst hmove
        have hnext : ((s.step perform move).client move.1).Within (n - 1) := by
          cases hclient : s.client move.1 with
          | done result =>
              rw [step_of_done hclient, hclient]
              trivial
          | call op next =>
              rw [hclient] at h
              rw [client_step_of_call hclient]
              cases n with
              | zero => exact absurd h id
              | succ n => exact h _
        have hcount : n - ((move :: rest).map Prod.fst).count move.1 = n - 1 - (rest.map Prod.fst).count move.1 := by
          rw [List.map_cons, List.count_cons_self]
          omega
        rw [hcount]
        exact ih hnext
      · rw [List.map_cons, List.count_cons_of_ne hmove]
        refine ih ?_
        rw [client_step_of_ne (Ne.symm hmove)]
        exact h

/-- A client that has moved as often as it can is done. -/
theorem System.done_of_within {n : Nat} (h : (s.client i).Within n) {schedule : List (ι × Choice)}
    (hcount : n ≤ (schedule.map Prod.fst).count i) : ∃ result, (s.run perform schedule).client i = .done result := by
  have hrun : ((s.run perform schedule).client i).Within _ := within_run h schedule
  rw [Nat.sub_eq_zero_of_le hcount] at hrun
  cases hclient : (s.run perform schedule).client i with
  | done result => exact ⟨result, rfl⟩
  | call op next =>
      rw [hclient] at hrun
      exact absurd hrun id

end Concurrent
