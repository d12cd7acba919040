import WebhookIdp.Base.Safety

/-!
# Noninterference

Some clients of a system are observed, through a view of the shared state. If no call that a client
promises to make lets another client change the view, and an observed client gets the same answer and the
same new view from two states with one view, then the observed clients and the view are the same along a
schedule as along that schedule with every other client's moves left out.
-/

namespace Concurrent

variable {ι State View Op : Type} {Answer : Op → Type} {Error α Choice : Type}

/-- The conditions on single calls. -/
structure Unwinding (perform : Interface Op Answer Error Choice State) (valid : State → Prop)
    (guarantee : ι → (op : Op) → State → Except Error (Answer op) → State → Prop) (observed : ι → Prop)
    (view : State → View) : Prop where
  others : ∀ i, ¬ observed i → ∀ op choice s, valid s →
    guarantee i op s (perform op choice s).1 (perform op choice s).2 → view (perform op choice s).2 = view s
  own : ∀ i, observed i → ∀ op choice s t, valid s → valid t →
    guarantee i op s (perform op choice s).1 (perform op choice s).2 →
    guarantee i op t (perform op choice t).1 (perform op choice t).2 → view s = view t →
    (perform op choice s).1 = (perform op choice t).1 ∧
      view (perform op choice s).2 = view (perform op choice t).2

/-- Two systems that look the same to the observed clients. -/
structure System.Agree (observed : ι → Prop) (view : State → View) (s t : System ι State Op Answer Error α) :
    Prop where
  view : view s.state = view t.state
  client : ∀ i, observed i → s.client i = t.client i

variable [DecidableEq ι] {perform : Interface Op Answer Error Choice State} {valid : State → Prop}
  {rely : ι → State → State → Prop} {guarantee : ι → (op : Op) → State → Except Error (Answer op) → State → Prop}
  {post : ι → Except Error α → State → Prop} {observed : ι → Prop} {view : State → View}
  {s t : System ι State Op Answer Error α}

theorem System.Agree.step_others (h : System.Agree observed view s t)
    (hunwinding : Unwinding perform valid guarantee observed view)
    (hsafe : System.Safe perform valid rely guarantee post s) (hcompat : Compatible valid rely guarantee)
    {move : ι × Choice} (hmove : ¬ observed move.1) : System.Agree observed view (s.step perform move) t := by
  refine ⟨?_, fun i hi => ?_⟩
  · rcases hclient : s.client move.1 with result | ⟨op, next⟩
    · rw [System.step_of_done hclient]
      exact h.view
    · obtain ⟨-, hguarantee, -⟩ := hsafe.call hcompat hclient move.2
      rw [System.state_step_of_call hclient, hunwinding.others move.1 hmove op move.2 _ hsafe.1 hguarantee]
      exact h.view
  · have hne : i ≠ move.1 := fun heq => hmove (heq ▸ hi)
    rw [System.client_step_of_ne hne]
    exact h.client i hi

theorem System.Agree.step_own (h : System.Agree observed view s t)
    (hunwinding : Unwinding perform valid guarantee observed view)
    (hs : System.Safe perform valid rely guarantee post s) (ht : System.Safe perform valid rely guarantee post t)
    (hcompat : Compatible valid rely guarantee) {move : ι × Choice} (hmove : observed move.1) :
    System.Agree observed view (s.step perform move) (t.step perform move) := by
  have hsame := h.client move.1 hmove
  rcases hclient : s.client move.1 with result | ⟨op, next⟩
  · rw [System.step_of_done hclient, System.step_of_done (hsame.symm.trans hclient)]
    exact h
  · have hclient' : t.client move.1 = .call op next := hsame.symm.trans hclient
    obtain ⟨-, hguarantee, -⟩ := hs.call hcompat hclient move.2
    obtain ⟨-, hguarantee', -⟩ := ht.call hcompat hclient' move.2
    obtain ⟨hanswer, hview⟩ :=
      hunwinding.own move.1 hmove op move.2 _ _ hs.1 ht.1 hguarantee hguarantee' h.view
    refine ⟨?_, fun i hi => ?_⟩
    · rw [System.state_step_of_call hclient, System.state_step_of_call hclient', hview]
    · by_cases heq : i = move.1
      · subst heq
        rw [System.client_step_of_call hclient, System.client_step_of_call hclient', hanswer]
      · rw [System.client_step_of_ne heq, System.client_step_of_ne heq]
        exact h.client i hi

/-- Along any schedule the observed clients and their view are as if the others had not moved. -/
theorem System.Agree.run [DecidablePred observed] (h : System.Agree observed view s t)
    (hunwinding : Unwinding perform valid guarantee observed view)
    (hs : System.Safe perform valid rely guarantee post s) (ht : System.Safe perform valid rely guarantee post t)
    (hcompat : Compatible valid rely guarantee) (schedule : List (ι × Choice)) :
    System.Agree observed view (s.run perform schedule)
      (t.run perform (schedule.filter fun move => observed move.1)) := by
  induction schedule generalizing s t with
  | nil => exact h
  | cons move rest ih =>
      by_cases hmove : observed move.1
      · rw [List.filter_cons_of_pos (by simpa using hmove)]
        exact ih (h.step_own hunwinding hs ht hcompat hmove) (hs.step hcompat move) (ht.step hcompat move)
      · rw [List.filter_cons_of_neg (by simpa using hmove)]
        exact ih (h.step_others hunwinding hs hcompat hmove) (hs.step hcompat move) ht

end Concurrent
