import Mathlib.Logic.Function.Basic

/-!
# Client programs over shared state

A `Program` is what one client does. It reaches the state it shares with other clients only through
calls, each of them atomic, and a call may be refused, which the client sees as an exception. A
`System` holds the shared state and what is left of every client's program; a schedule says who
moves next and what the environment decides about that one call. A fact about every schedule is a
fact about every interleaving of the clients' calls.
-/

namespace Concurrent

/-- What is left of a client: its result, or the next call and what it does with the answer. -/
inductive Program (Op : Type) (Answer : Op → Type) (Error α : Type) where
  | done (result : Except Error α)
  | call (op : Op) (next : Except Error (Answer op) → Program Op Answer Error α)

namespace Program

variable {Op : Type} {Answer : Op → Type} {Error α β : Type}

def bind : Program Op Answer Error α → (α → Program Op Answer Error β) → Program Op Answer Error β
  | .done (.ok a), f => f a
  | .done (.error e), _ => .done (.error e)
  | .call op next, f => .call op fun answer => (next answer).bind f

/-- The `catch` block of a program: it also catches what the calls of the program throw. -/
def catching : Program Op Answer Error α → (Error → Program Op Answer Error α) →
    Program Op Answer Error α
  | .done (.ok a), _ => .done (.ok a)
  | .done (.error e), handler => handler e
  | .call op next, handler => .call op fun answer => (next answer).catching handler

instance : Monad (Program Op Answer Error) where
  pure a := .done (.ok a)
  bind := bind

instance : MonadExcept Error (Program Op Answer Error) where
  throw e := .done (.error e)
  tryCatch := catching

def request (op : Op) : Program Op Answer Error (Answer op) := .call op .done

theorem call_congr {op : Op} {next next' : Except Error (Answer op) → Program Op Answer Error α}
    (h : ∀ answer, next answer = next' answer) : call op next = call op next' :=
  congrArg (call op) (funext h)

theorem bind_assoc {γ : Type} (program : Program Op Answer Error α) (f : α → Program Op Answer Error β)
    (g : β → Program Op Answer Error γ) : (program >>= f) >>= g = program >>= fun a => f a >>= g := by
  induction program with
  | done result => cases result <;> rfl
  | call op next ih => exact call_congr ih

/-- The same program among programs that make more kinds of calls. -/
def embed {Op' : Type} {Answer' : Op' → Type} (f : Op → Op') :
    Program Op (fun op => Answer' (f op)) Error α → Program Op' Answer' Error α
  | .done result => .done result
  | .call op next => .call (f op) fun answer => (next answer).embed f

/-- Every call the program can come to satisfies `p`. -/
def OnlyCalls (p : Op → Prop) : Program Op Answer Error α → Prop
  | .done _ => True
  | .call op next => p op ∧ ∀ answer, (next answer).OnlyCalls p

theorem OnlyCalls.bind {p : Op → Prop} {program : Program Op Answer Error α}
    {f : α → Program Op Answer Error β} (h : program.OnlyCalls p) (hf : ∀ a, (f a).OnlyCalls p) :
    (program >>= f).OnlyCalls p := by
  induction program with
  | done result =>
      cases result with
      | ok a => exact hf a
      | error e => trivial
  | call op next ih => exact ⟨h.1, fun answer => ih answer (h.2 answer)⟩

/-- Run a program alone, each call acting on the state as `perform` says. -/
def eval {State : Type} (perform : (op : Op) → State → Except Error (Answer op) × State) :
    Program Op Answer Error α → State → Except Error α × State
  | .done result, s => (result, s)
  | .call op next, s => (next (perform op s).1).eval perform (perform op s).2

section Eval

variable {State : Type} {perform : (op : Op) → State → Except Error (Answer op) × State}
  {program : Program Op Answer Error α} {f : α → Program Op Answer Error β} {s s' : State}

theorem eval_bind_of_ok {a : α} (h : program.eval perform s = (.ok a, s')) :
    (program >>= f).eval perform s = (f a).eval perform s' := by
  induction program generalizing s with
  | done result =>
      cases h
      rfl
  | call op next ih => exact ih _ h

theorem eval_bind_of_error {e : Error} (h : program.eval perform s = (.error e, s')) :
    (program >>= f).eval perform s = (.error e, s') := by
  induction program generalizing s with
  | done result =>
      cases h
      rfl
  | call op next ih => exact ih _ h

end Eval

end Program

/-- How calls act on the shared state. A `Choice` is what the environment decides about one call. -/
abbrev Interface (Op : Type) (Answer : Op → Type) (Error Choice State : Type) :=
  (op : Op) → Choice → State → Except Error (Answer op) × State

/-- The shared state and what is left of each client. -/
structure System (ι State Op : Type) (Answer : Op → Type) (Error α : Type) where
  state : State
  client : ι → Program Op Answer Error α

namespace System

variable {ι State Op : Type} {Answer : Op → Type} {Error α Choice : Type} [DecidableEq ι]
variable (perform : Interface Op Answer Error Choice State)

/-- Client `move.1` makes its next call; a client that is done does nothing. -/
def step (s : System ι State Op Answer Error α) (move : ι × Choice) :
    System ι State Op Answer Error α :=
  match s.client move.1 with
  | .done _ => s
  | .call op next =>
      { state := (perform op move.2 s.state).2
        client := Function.update s.client move.1 (next (perform op move.2 s.state).1) }

def run (s : System ι State Op Answer Error α) (schedule : List (ι × Choice)) :
    System ι State Op Answer Error α :=
  schedule.foldl (step perform) s

/-- The call a client makes next, if it is not done. -/
def nextCall (s : System ι State Op Answer Error α) (i : ι) : Option Op :=
  match s.client i with
  | .done _ => none
  | .call op _ => some op

/-- The state client `i` makes its first call in, if it moves at all. -/
def stateAtFirstMove (i : ι) : System ι State Op Answer Error α → List (ι × Choice) → Option State
  | _, [] => none
  | s, move :: rest => if move.1 = i then some s.state else stateAtFirstMove i (s.step perform move) rest

/-- The calls client `i` makes along a schedule, in order. -/
def calls (i : ι) : System ι State Op Answer Error α → List (ι × Choice) → List Op
  | _, [] => []
  | s, move :: rest =>
      (if move.1 = i then (s.nextCall i).toList else []) ++ calls i (s.step perform move) rest

variable {perform} {s : System ι State Op Answer Error α} {move : ι × Choice} {i : ι}

@[simp] theorem run_nil : s.run perform [] = s := rfl

@[simp] theorem run_cons (rest : List (ι × Choice)) :
    s.run perform (move :: rest) = (s.step perform move).run perform rest := rfl

theorem run_append (first rest : List (ι × Choice)) :
    s.run perform (first ++ rest) = (s.run perform first).run perform rest :=
  List.foldl_append

theorem run_concat (first : List (ι × Choice)) :
    s.run perform (first ++ [move]) = (s.run perform first).step perform move := by
  rw [run_append, run_cons, run_nil]

theorem step_of_done {result : Except Error α} (h : s.client move.1 = .done result) :
    s.step perform move = s := by
  rw [step, h]

theorem step_of_call {op : Op} {next : Except Error (Answer op) → Program Op Answer Error α}
    (h : s.client move.1 = .call op next) :
    s.step perform move =
      { state := (perform op move.2 s.state).2
        client := Function.update s.client move.1 (next (perform op move.2 s.state).1) } := by
  rw [step, h]

theorem client_step_of_ne (hne : i ≠ move.1) : (s.step perform move).client i = s.client i := by
  unfold step
  split
  · rfl
  · exact Function.update_of_ne hne _ _

theorem client_step_of_call {op : Op} {next : Except Error (Answer op) → Program Op Answer Error α}
    (h : s.client move.1 = .call op next) :
    (s.step perform move).client move.1 = next (perform op move.2 s.state).1 := by
  rw [step_of_call h]
  exact Function.update_self _ _ _

theorem state_step_of_call {op : Op} {next : Except Error (Answer op) → Program Op Answer Error α}
    (h : s.client move.1 = .call op next) :
    (s.step perform move).state = (perform op move.2 s.state).2 := by
  rw [step_of_call h]

theorem client_run_of_not_mem {schedule : List (ι × Choice)} (h : i ∉ schedule.map Prod.fst) :
    (s.run perform schedule).client i = s.client i := by
  induction schedule generalizing s with
  | nil => rfl
  | cons move rest ih =>
      rw [List.map_cons, List.mem_cons, not_or] at h
      exact (ih h.2).trans (client_step_of_ne h.1)

theorem stateAtFirstMove_of_first {before : List (ι × Choice)} (h : i ∉ before.map Prod.fst)
    (choice : Choice) (after : List (ι × Choice)) :
    stateAtFirstMove perform i s (before ++ (i, choice) :: after) = some (s.run perform before).state := by
  induction before generalizing s with
  | nil => exact if_pos rfl
  | cons move before ih =>
      rw [List.map_cons, List.mem_cons, not_or] at h
      rw [List.cons_append, stateAtFirstMove, if_neg (Ne.symm h.1), ih h.2, run_cons]

/-- A client about to make a call either has not moved, or its first move made that call. -/
theorem run_of_call {op : Op} {next : Except Error (Answer op) → Program Op Answer Error α}
    (h : s.client i = .call op next) (schedule : List (ι × Choice)) :
    (i ∉ schedule.map Prod.fst ∧ (s.run perform schedule).client i = .call op next) ∨
      ∃ before choice after, schedule = before ++ (i, choice) :: after ∧ i ∉ before.map Prod.fst ∧
        (s.run perform (before ++ [(i, choice)])).client i =
          next (perform op choice (s.run perform before).state).1 := by
  induction schedule generalizing s with
  | nil => exact Or.inl ⟨List.not_mem_nil, h⟩
  | cons move rest ih =>
      by_cases hi : move.1 = i
      · subst hi
        exact Or.inr ⟨[], move.2, rest, rfl, List.not_mem_nil, client_step_of_call h⟩
      · have hnext : (s.step perform move).client i = .call op next := by
          rw [client_step_of_ne (Ne.symm hi), h]
        rcases ih hnext with ⟨hrest, hclient⟩ | ⟨before, choice, after, hsplit, hbefore, hclient⟩
        · refine Or.inl ⟨?_, hclient⟩
          rw [List.map_cons, List.mem_cons, not_or]
          exact ⟨Ne.symm hi, hrest⟩
        · refine Or.inr ⟨move :: before, choice, after, congrArg (move :: ·) hsplit, ?_, hclient⟩
          rw [List.map_cons, List.mem_cons, not_or]
          exact ⟨Ne.symm hi, hbefore⟩

theorem run_invariant {p : System ι State Op Answer Error α → Prop}
    (hstep : ∀ s move, p s → p (s.step perform move)) (h : p s) (schedule : List (ι × Choice)) :
    p (s.run perform schedule) := by
  induction schedule generalizing s with
  | nil => exact h
  | cons move rest ih => exact ih (hstep s move h)

/-- What no answer to a client's calls takes away, no step takes away. -/
theorem client_step_invariant {p : Program Op Answer Error α → Prop}
    (hanswer : ∀ op next, p (.call op next) → ∀ answer, p (next answer)) (h : p (s.client i)) (move : ι × Choice) :
    p ((s.step perform move).client i) := by
  by_cases hi : i = move.1
  · subst hi
    rcases hclient : s.client move.1 with result | ⟨op, next⟩
    · rw [step_of_done hclient]
      exact h
    · rw [client_step_of_call hclient]
      exact hanswer op next (hclient ▸ h) _
  · rw [client_step_of_ne hi]
    exact h

theorem client_run_invariant {p : Program Op Answer Error α → Prop}
    (hanswer : ∀ op next, p (.call op next) → ∀ answer, p (next answer)) (h : p (s.client i))
    (schedule : List (ι × Choice)) : p ((s.run perform schedule).client i) :=
  run_invariant (p := fun s => p (s.client i)) (fun _ move hs => client_step_invariant hanswer hs move) h schedule

theorem client_run_of_done {result : Except Error α} (schedule : List (ι × Choice))
    (h : s.client i = .done result) : (s.run perform schedule).client i = .done result := by
  refine client_run_invariant (p := fun program => program = .done result) (fun op next hcall => ?_) h schedule
  cases hcall

theorem nextCall_run_of_done {result : Except Error α} (schedule : List (ι × Choice))
    (h : s.client i = .done result) : (s.run perform schedule).nextCall i = none := by
  rw [nextCall, client_run_of_done schedule h]

theorem calls_append (first rest : List (ι × Choice)) :
    calls perform i s (first ++ rest) = calls perform i s first ++ calls perform i (s.run perform first) rest := by
  induction first generalizing s with
  | nil => rfl
  | cons move first ih =>
      rw [List.cons_append, calls, calls, ih, run_cons, List.append_assoc]

theorem calls_of_done {result : Except Error α} (schedule : List (ι × Choice))
    (h : s.client i = .done result) : calls perform i s schedule = [] := by
  induction schedule generalizing s with
  | nil => rfl
  | cons move rest ih =>
      have hnext : s.nextCall i = none := by
        rw [nextCall, h]
      have hrest : (s.step perform move).client i = .done result :=
        client_run_of_done [move] h
      rw [calls, ih hrest, hnext]
      simp

end System

end Concurrent
