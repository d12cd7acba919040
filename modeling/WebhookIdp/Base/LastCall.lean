import WebhookIdp.Base.Alike

/-!
# What a program ends with

How a program ends may depend on the call it has made last and on the state it has made that call in. Where each of
its calls leaves it bound to end in one way, a client of a system that is done has ended in the way of its last call,
however the calls of other clients fell in between.
-/

namespace Concurrent

variable {ι State Op : Type} {Answer : Op → Type} {Error α β Choice : Type}

/-- Whatever it is answered, the program ends as `ends` says of its last call; up to now that is `last`. -/
def Program.Ends (perform : Interface Op Answer Error Choice State)
    (ends : Option (Op × State) → Except Error α → Prop) :
    Option (Op × State) → Program Op Answer Error α → Prop
  | last, .done result => ends last result
  | _, .call op next => ∀ choice s, Ends perform ends (some (op, s)) (next (perform op choice s).1)

theorem Program.Alike.ends {perform : Interface Op Answer Error Choice State}
    {R : Except Error α → Except Error β → Prop} {ends : Option (Op × State) → Except Error α → Prop}
    {ends' : Option (Op × State) → Except Error β → Prop} {program : Program Op Answer Error α}
    {program' : Program Op Answer Error β} {last : Option (Op × State)} (h : program.Alike R program')
    (hresult : ∀ last a b, R a b → ends last a → ends' last b) (hends : program.Ends perform ends last) :
    program'.Ends perform ends' last := by
  induction h generalizing last with
  | done h => exact hresult last _ _ h hends
  | call h ih => exact fun choice s => ih _ (hends choice s)

namespace System

variable [DecidableEq ι] (perform : Interface Op Answer Error Choice State)

/-- The last call that client `i` makes along a schedule, with the state it makes it in. -/
def lastCall (i : ι) : System ι State Op Answer Error α → List (ι × Choice) → Option (Op × State)
  | _, [] => none
  | s, move :: rest =>
      (lastCall i (s.step perform move) rest).or
        (if move.1 = i then (s.nextCall i).map fun op => (op, s.state) else none)

variable {perform} {s : System ι State Op Answer Error α} {i : ι}
  {ends : Option (Op × State) → Except Error α → Prop}

theorem lastCall_eq_some {schedule : List (ι × Choice)} {op : Op} {state : State}
    (h : lastCall perform i s schedule = some (op, state)) :
    ∃ before choice after, schedule = before ++ (i, choice) :: after ∧ (s.run perform before).state = state := by
  induction schedule generalizing s with
  | nil => cases h
  | cons move rest ih =>
      rw [lastCall, Option.or_eq_some_iff] at h
      obtain hlater | ⟨-, hnow⟩ := h
      · obtain ⟨before, choice, after, rfl, hstate⟩ := ih hlater
        exact ⟨move :: before, choice, after, rfl, hstate⟩
      · split at hnow
        · rename_i hmove
          obtain ⟨op', -, hcall⟩ := Option.map_eq_some_iff.mp hnow
          cases hcall
          exact ⟨[], move.2, rest, by rw [← hmove, List.nil_append], rfl⟩
        · cases hnow

theorem ends_run {last : Option (Op × State)} (h : (s.client i).Ends perform ends last)
    (schedule : List (ι × Choice)) :
    ((s.run perform schedule).client i).Ends perform ends ((lastCall perform i s schedule).or last) := by
  induction schedule generalizing s last with
  | nil => exact h
  | cons move rest ih =>
      rw [run_cons, lastCall, Option.or_assoc]
      refine ih ?_
      by_cases hmove : move.1 = i
      · subst hmove
        rw [if_pos rfl, nextCall]
        cases hclient : s.client move.1 with
        | done result =>
            rw [step_of_done hclient]
            exact h
        | call op next =>
            rw [hclient] at h
            rw [client_step_of_call hclient]
            exact h move.2 s.state
      · rw [if_neg hmove, client_step_of_ne (Ne.symm hmove)]
        exact h

/-- A client that is done has ended as its last call says. -/
theorem ends_of_done (h : (s.client i).Ends perform ends none) {schedule : List (ι × Choice)} {result : Except Error α}
    (hdone : (s.run perform schedule).client i = .done result) : ends (lastCall perform i s schedule) result := by
  have hrun : ((s.run perform schedule).client i).Ends perform ends _ := ends_run h schedule
  rw [hdone, Option.or_none] at hrun
  exact hrun

end System

end Concurrent
