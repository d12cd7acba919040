import Mathlib.Data.List.Forall2
import WebhookIdp.Base.Collection

/-!
# Simulations between machines that answer commands

Two machines answer a sequence of commands alike when their states are related from the start and stay so under
every command that is allowed where it is given.
-/

namespace Simulation

variable {State State' Command Answer : Type}

/-- What a state answers to a command, and the state it leaves. -/
abbrev Machine (State Command Answer : Type) := State → Command → Answer × State

/-- The answers to a sequence of commands. -/
def answers (machine : Machine State Command Answer) : State → List Command → List Answer
  | _, [] => []
  | s, command :: rest => (machine s command).1 :: answers machine (machine s command).2 rest

/-- Each command of a sequence is allowed in the state that it meets. -/
def AllAllowed (machine : Machine State Command Answer) (allowed : State → Command → Prop) :
    State → List Command → Prop
  | _, [] => True
  | s, command :: rest => allowed s command ∧ AllAllowed machine allowed (machine s command).2 rest

variable {machine : Machine State Command Answer} {machine' : Machine State' Command Answer}
  {allowed : State → Command → Prop} {related : State → State' → Prop} {s : State} {t : State'}

theorem AllAllowed.of_step {command : Command} {rest : List Command} {answer : Answer} {s' : State}
    (hstep : machine s command = (answer, s')) (hfirst : allowed s command)
    (hrest : AllAllowed machine allowed s' rest) : AllAllowed machine allowed s (command :: rest) := by
  refine ⟨hfirst, ?_⟩
  rw [hstep]
  exact hrest

theorem answers_eq (hstep : ∀ s t command, related s t → allowed s command →
      (machine s command).1 = (machine' t command).1 ∧ related (machine s command).2 (machine' t command).2)
    (hrelated : related s t) {commands : List Command} (hallowed : AllAllowed machine allowed s commands) :
    answers machine s commands = answers machine' t commands := by
  induction commands generalizing s t with
  | nil => rfl
  | cons command rest ih =>
      obtain ⟨hfirst, hrest⟩ := hallowed
      obtain ⟨hanswer, hnext⟩ := hstep s t command hrelated hfirst
      simp only [answers, hanswer, ih hnext hrest]

end Simulation

/-! ### Related lists -/

namespace DocumentStore

variable {α β Key : Type} {R : α → β → Prop} {l : List α} {l' : List β}

theorem find?_related {p : α → Bool} {q : β → Bool} (h : List.Forall₂ R l l')
    (htests : ∀ a ∈ l, ∀ b ∈ l', R a b → p a = q b) : Option.Rel R (l.find? p) (l'.find? q) := by
  induction h with
  | nil => exact .none
  | @cons a b _ _ hhead _ ih =>
      have htail := ih fun a ha b hb => htests a (List.mem_cons_of_mem _ ha) b (List.mem_cons_of_mem _ hb)
      have hsame := htests a List.mem_cons_self b List.mem_cons_self hhead
      rw [List.find?_cons, List.find?_cons, hsame]
      cases q b with
      | true => exact .some hhead
      | false => exact htail

theorem filter_related {S : α → β → Prop} {p : α → Bool} {q : β → Bool} (h : List.Forall₂ R l l')
    (htests : ∀ a ∈ l, ∀ b ∈ l', R a b → p a = q b)
    (hpass : ∀ a ∈ l, ∀ b ∈ l', R a b → q b = true → S a b) : List.Forall₂ S (l.filter p) (l'.filter q) := by
  induction h with
  | nil => exact .nil
  | @cons a b _ _ hhead _ ih =>
      have htail := ih (fun a ha b hb => htests a (List.mem_cons_of_mem _ ha) b (List.mem_cons_of_mem _ hb))
        fun a ha b hb => hpass a (List.mem_cons_of_mem _ ha) b (List.mem_cons_of_mem _ hb)
      have hsame := htests a List.mem_cons_self b List.mem_cons_self hhead
      rw [List.filter_cons, List.filter_cons, hsame]
      split
      · exact .cons (hpass a List.mem_cons_self b List.mem_cons_self hhead ‹_›) htail
      · exact htail

theorem replaceDoc_related [DecidableEq Key] {key : α → Key} {key' : β → Key} {a : α} {b : β}
    (h : List.Forall₂ R l l') (hkeys : ∀ a b, R a b → key a = key' b) (hnew : R a b) :
    List.Forall₂ R (replaceDoc key a l) (replaceDoc key' b l') := by
  have hall : l.map key = l'.map key' := by
    rw [← List.forall₂_eq_eq_eq, List.forall₂_map_left_iff, List.forall₂_map_right_iff]
    exact h.imp hkeys
  unfold replaceDoc
  rw [hall, hkeys a b hnew]
  split
  · rw [List.forall₂_map_left_iff, List.forall₂_map_right_iff]
    refine h.imp fun c d hcd => ?_
    rw [hkeys c d hcd]
    split
    · exact hnew
    · exact hcd
  · exact List.rel_append h (.cons hnew .nil)

theorem map_replaceDoc [DecidableEq Key] (f : α → β) {key : α → Key} (key' : β → Key)
    (hkeys : ∀ a, key' (f a) = key a) (a : α) (l : List α) :
    (replaceDoc key a l).map f = replaceDoc key' (f a) (l.map f) := by
  have hself : List.Forall₂ (fun a b => f a = b) l (l.map f) :=
    List.forall₂_map_right_iff.mpr (List.forall₂_same.mpr fun _ _ => rfl)
  rw [← List.forall₂_eq_eq_eq, List.forall₂_map_left_iff]
  exact replaceDoc_related hself (fun b c hbc => by rw [← hbc, hkeys]) rfl

/-- Of elements with different keys only one can pass a test of the key. -/
theorem find?_and_of_nodup [DecidableEq Key] {key : α → Key} (h : (l.map key).Nodup) (k : Key) (q : α → Bool) :
    (l.find? fun a => decide (key a = k) && q a) = (l.find? fun a => key a = k).filter q := by
  induction l with
  | nil => rfl
  | cons a l ih =>
      rw [List.map_cons, List.nodup_cons] at h
      rw [List.find?_cons, List.find?_cons]
      by_cases hkey : key a = k
      · have hrest : (l.find? fun b => decide (key b = k) && q b) = none := by
          rw [List.find?_eq_none]
          intro b hb htest
          have hsame : key b = k := by
            rw [Bool.and_eq_true, decide_eq_true_eq] at htest
            exact htest.1
          exact h.1 (List.mem_map.mpr ⟨b, hb, hsame.trans hkey.symm⟩)
        simp only [hkey, decide_true, Bool.true_and]
        cases hq : q a with
        | true => simp [Option.filter, hq]
        | false => simp [Option.filter, hq, hrest]
      · simp only [hkey, decide_false, Bool.false_and]
        exact ih h.2

end DocumentStore
