import WebhookIdp.Base.Alike

/-!
# Programs that take effect in one call

Whatever other clients do in between, a program that `Commits` either throws, and then none of its calls has changed
the state, or one of its calls has the effect that its result tells of. The calls before that one change nothing, and
those after it leave a view of the state alone.
-/

namespace Concurrent

variable {ι State View Op : Type} {Answer : Op → Type} {Error α β Choice : Type}

namespace Program

variable (perform : Interface Op Answer Error Choice State) (view : State → View)

/-- The program is bound to return a result with `q`, and its calls leave the view alone. -/
def Committed (q : α → Prop) : Program Op Answer Error α → Prop
  | .done result => ∃ a, result = .ok a ∧ q a
  | .call op next => ∀ choice s,
      view (perform op choice s).2 = view s ∧ Committed q (next (perform op choice s).1)

/-- One call has an effect that the result tells of, and without it the program throws. -/
def Commits (effect : α → State → State → Prop) : Program Op Answer Error α → Prop
  | .done result => ∃ e, result = .error e
  | .call op next => ∀ choice s,
      ((perform op choice s).2 = s ∧ Commits effect (next (perform op choice s).1)) ∨
        Committed perform view (fun a => effect a s (perform op choice s).2) (next (perform op choice s).1)

variable {perform view} {R : Except Error α → Except Error β → Prop} {program : Program Op Answer Error α}
  {program' : Program Op Answer Error β}

theorem Alike.committed {q : α → Prop} {q' : β → Prop} (h : program.Alike R program')
    (hresult : ∀ a b, R (.ok a) b → q a → ∃ b', b = .ok b' ∧ q' b') (hcommitted : program.Committed perform view q) :
    program'.Committed perform view q' := by
  induction h with
  | done h =>
      obtain ⟨a, rfl, hq⟩ := hcommitted
      exact hresult a _ h hq
  | call h ih =>
      intro choice s
      obtain ⟨hview, hnext⟩ := hcommitted choice s
      exact ⟨hview, ih _ hnext⟩

theorem Alike.commits {effect : α → State → State → Prop} {effect' : β → State → State → Prop}
    (h : program.Alike R program') (hthrow : ∀ e b, R (.error e) b → ∃ e', b = .error e')
    (hreturn : ∀ a b, R (.ok a) b → ∃ b', b = .ok b' ∧ ∀ s t, effect a s t → effect' b' s t)
    (hcommits : program.Commits perform view effect) : program'.Commits perform view effect' := by
  induction h with
  | done h =>
      obtain ⟨e, rfl⟩ := hcommits
      exact hthrow e _ h
  | call h ih =>
      intro choice s
      obtain ⟨hsame, hnext⟩ | hcommitted := hcommits choice s
      · exact Or.inl ⟨hsame, ih _ hnext⟩
      · refine Or.inr ((h _).committed (fun a b hab heffect => ?_) hcommitted)
        obtain ⟨b', hb, heffects⟩ := hreturn a b hab
        exact ⟨b', hb, heffects _ _ heffect⟩

theorem Alike.commits_of_throws {effect : β → State → State → Prop} (h : program.Alike R program')
    (hthrow : ∀ a b, R a b → ∃ e, b = .error e)
    (hreads : program.OnlyCalls fun op => ∀ choice s, (perform op choice s).2 = s) :
    program'.Commits perform view effect := by
  induction h with
  | done h => exact hthrow _ _ h
  | call h ih => exact fun choice s => Or.inl ⟨hreads.1 choice s, ih _ (hreads.2 _)⟩

end Program

namespace System

variable [DecidableEq ι] (perform : Interface Op Answer Error Choice State)

/-- No move of client `i` changes what the view shows. -/
def Leaves (view : State → View) (i : ι) (s : System ι State Op Answer Error α) (schedule : List (ι × Choice)) : Prop :=
  ∀ before choice after, schedule = before ++ (i, choice) :: after →
    view (s.run perform (before ++ [(i, choice)])).state = view (s.run perform before).state

/-- One move of client `i` has the effect, no earlier one changes the state and no later one what the view shows. -/
def TakesEffect (view : State → View) (effect : State → State → Prop) (i : ι) (s : System ι State Op Answer Error α)
    (schedule : List (ι × Choice)) : Prop :=
  ∃ before choice after, schedule = before ++ (i, choice) :: after ∧ Leaves perform id i s before ∧
    effect (s.run perform before).state (s.run perform (before ++ [(i, choice)])).state ∧
    Leaves perform view i (s.run perform (before ++ [(i, choice)])) after

variable {perform} {view : State → View} {i : ι} {s : System ι State Op Answer Error α} {move : ι × Choice}
  {rest schedule : List (ι × Choice)}

theorem leaves_nil : Leaves perform view i s [] := by
  intro before choice after h
  exact absurd h.symm (by simp)

theorem Leaves.cons (hmove : move.1 = i → view (s.step perform move).state = view s.state)
    (hrest : Leaves perform view i (s.step perform move) rest) : Leaves perform view i s (move :: rest) := by
  intro before choice after h
  cases before with
  | nil =>
      obtain ⟨rfl, rfl⟩ := List.cons.inj h
      exact hmove rfl
  | cons first before =>
      obtain ⟨rfl, hsplit⟩ := List.cons.inj h
      exact hrest before choice after hsplit

theorem TakesEffect.cons {effect : State → State → Prop}
    (hmove : move.1 = i → (s.step perform move).state = s.state)
    (hrest : TakesEffect perform view effect i (s.step perform move) rest) :
    TakesEffect perform view effect i s (move :: rest) := by
  obtain ⟨before, choice, after, rfl, hbefore, heffect, hafter⟩ := hrest
  exact ⟨move :: before, choice, after, rfl, hbefore.cons hmove, heffect, hafter⟩

theorem committed_run {q : α → Prop} (h : (s.client i).Committed perform view q) (schedule : List (ι × Choice)) :
    Leaves perform view i s schedule ∧ ((s.run perform schedule).client i).Committed perform view q := by
  induction schedule generalizing s with
  | nil => exact ⟨leaves_nil, h⟩
  | cons move rest ih =>
      by_cases hmove : move.1 = i
      · subst hmove
        cases hclient : s.client move.1 with
        | done result =>
            have hsame : s.step perform move = s := step_of_done hclient
            obtain ⟨hleaves, hcommitted⟩ := ih (s := s.step perform move) (by rw [hsame]; exact h)
            exact ⟨hleaves.cons fun _ => by rw [hsame], hcommitted⟩
        | call op next =>
            rw [hclient] at h
            obtain ⟨hview, hnext⟩ := h move.2 s.state
            rw [← client_step_of_call hclient] at hnext
            obtain ⟨hleaves, hcommitted⟩ := ih hnext
            refine ⟨hleaves.cons fun _ => ?_, hcommitted⟩
            rw [state_step_of_call hclient, hview]
      · obtain ⟨hleaves, hcommitted⟩ := ih (s := s.step perform move) (by rw [client_step_of_ne (Ne.symm hmove)]; exact h)
        exact ⟨hleaves.cons fun heq => absurd heq hmove, hcommitted⟩

/-- How far a program that commits has come. -/
theorem commits_run {effect : α → State → State → Prop} (h : (s.client i).Commits perform view effect)
    (schedule : List (ι × Choice)) :
    (Leaves perform id i s schedule ∧ ((s.run perform schedule).client i).Commits perform view effect) ∨
      ∃ q : α → Prop, ((s.run perform schedule).client i).Committed perform view q ∧
        ∀ a, q a → TakesEffect perform view (effect a) i s schedule := by
  induction schedule generalizing s with
  | nil => exact Or.inl ⟨leaves_nil, h⟩
  | cons move rest ih =>
      -- a move that changes nothing leaves the program to commit later
      have hlater (hsame : move.1 = i → (s.step perform move).state = s.state)
          (hnext : ((s.step perform move).client i).Commits perform view effect) :
          (Leaves perform id i s (move :: rest) ∧
            ((s.run perform (move :: rest)).client i).Commits perform view effect) ∨
          ∃ q : α → Prop, ((s.run perform (move :: rest)).client i).Committed perform view q ∧
            ∀ a, q a → TakesEffect perform view (effect a) i s (move :: rest) := by
        obtain ⟨hleaves, hcommits⟩ | ⟨q, hcommitted, heffect⟩ := ih hnext
        · exact Or.inl ⟨hleaves.cons hsame, hcommits⟩
        · exact Or.inr ⟨q, hcommitted, fun a ha => (heffect a ha).cons hsame⟩
      by_cases hmove : move.1 = i
      · subst hmove
        cases hclient : s.client move.1 with
        | done result =>
            have hsame : s.step perform move = s := step_of_done hclient
            exact hlater (fun _ => by rw [hsame]) (by rw [hsame]; exact h)
        | call op next =>
            have hstate : (s.step perform move).state = _ := state_step_of_call hclient
            have hnext : (s.step perform move).client move.1 = _ := client_step_of_call hclient
            rw [hclient] at h
            obtain ⟨hsame, hcommits⟩ | hcommitted := h move.2 s.state
            · exact hlater (fun _ => by rw [hstate, hsame]) (by rw [hnext]; exact hcommits)
            · rw [← hnext, ← hstate] at hcommitted
              obtain ⟨hleaves, hrest⟩ := committed_run hcommitted rest
              exact Or.inr ⟨_, hrest, fun a ha => ⟨[], move.2, rest, rfl, leaves_nil, ha, hleaves⟩⟩
      · refine hlater (fun heq => absurd heq hmove) ?_
        rw [client_step_of_ne (Ne.symm hmove)]
        exact h

/-- A client that has thrown has changed nothing. -/
theorem leaves_of_error {effect : α → State → State → Prop} (h : (s.client i).Commits perform view effect) {e : Error}
    (hdone : (s.run perform schedule).client i = .done (.error e)) : Leaves perform id i s schedule := by
  obtain ⟨hleaves, -⟩ | ⟨q, hcommitted, -⟩ := commits_run h schedule
  · exact hleaves
  · rw [hdone] at hcommitted
    obtain ⟨a, ha, -⟩ := hcommitted
    cases ha

/-- A client that has returned has taken the effect its result tells of. -/
theorem takesEffect_of_ok {effect : α → State → State → Prop} (h : (s.client i).Commits perform view effect) {a : α}
    (hdone : (s.run perform schedule).client i = .done (.ok a)) : TakesEffect perform view (effect a) i s schedule := by
  obtain ⟨-, hcommits⟩ | ⟨q, hcommitted, heffect⟩ := commits_run h schedule
  · rw [hdone] at hcommits
    obtain ⟨e, he⟩ := hcommits
    cases he
  · rw [hdone] at hcommitted
    obtain ⟨a', ha, hq⟩ := hcommitted
    cases ha
    exact heffect a hq

end System

end Concurrent
