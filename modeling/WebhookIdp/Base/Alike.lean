import WebhookIdp.Base.Safety

/-!
# Programs that make the same calls

Two programs are alike when they make the same calls for as long as they get the same answers, and end with
related results. What a program promises about its calls, a program like it promises too, and two systems of
programs that are alike go through the same states along every schedule.
-/

namespace Concurrent

variable {ι State Op : Type} {Answer : Op → Type} {Error α β Choice : Type}

inductive Program.Alike (R : Except Error α → Except Error β → Prop) :
    Program Op Answer Error α → Program Op Answer Error β → Prop
  | done {a : Except Error α} {b : Except Error β} (h : R a b) : Alike R (.done a) (.done b)
  | call {op : Op} {next : Except Error (Answer op) → Program Op Answer Error α}
      {next' : Except Error (Answer op) → Program Op Answer Error β} (h : ∀ answer, Alike R (next answer) (next' answer)) :
      Alike R (.call op next) (.call op next')

namespace Program

variable {R : Except Error α → Except Error β → Prop} {program : Program Op Answer Error α}
  {program' : Program Op Answer Error β}

theorem alike_bind {γ : Type} {first : Program Op Answer Error γ} {f : γ → Program Op Answer Error α}
    {g : γ → Program Op Answer Error β} (hthrow : ∀ e, R (.error e) (.error e)) (h : ∀ c, (f c).Alike R (g c)) :
    (first >>= f).Alike R (first >>= g) := by
  induction first with
  | done result =>
      cases result with
      | error e => exact .done (hthrow e)
      | ok c => exact h c
  | call op next ih => exact .call ih

theorem Alike.safe {perform : Interface Op Answer Error Choice State} {valid : State → Prop}
    {rely : State → State → Prop} {guarantee : (op : Op) → State → Except Error (Answer op) → State → Prop}
    {post : Except Error α → State → Prop} {post' : Except Error β → State → Prop} {s : State} (h : program.Alike R program')
    (hresult : ∀ a b t, R a b → post a t → post' b t) (hsafe : Safe perform valid rely guarantee post program s) :
    Safe perform valid rely guarantee post' program' s := by
  induction h generalizing s with
  | done h => exact fun t hvalid hrely => hresult _ _ t h (hsafe t hvalid hrely)
  | call h ih =>
      intro s' choice hvalid hrely
      obtain ⟨hkept, hguarantee, hrest⟩ := hsafe s' choice hvalid hrely
      exact ⟨hkept, hguarantee, ih _ hrest⟩

end Program

/-- Two systems in one state whose programs are alike. -/
structure System.Alike (R : ι → Except Error α → Except Error β → Prop) (s : System ι State Op Answer Error α)
    (t : System ι State Op Answer Error β) : Prop where
  state : t.state = s.state
  client : ∀ i, (s.client i).Alike (R i) (t.client i)

variable [DecidableEq ι] {perform : Interface Op Answer Error Choice State}
  {R : ι → Except Error α → Except Error β → Prop} {s : System ι State Op Answer Error α}
  {t : System ι State Op Answer Error β}

theorem System.Alike.step (h : System.Alike R s t) (move : ι × Choice) :
    System.Alike R (s.step perform move) (t.step perform move) := by
  have hclient := h.client move.1
  generalize hs : s.client move.1 = program at hclient
  generalize ht : t.client move.1 = program' at hclient
  cases hclient with
  | done _ =>
      rw [System.step_of_done hs, System.step_of_done ht]
      exact h
  | call hnext =>
      rw [System.step_of_call hs, System.step_of_call ht, h.state]
      refine ⟨rfl, fun i => ?_⟩
      dsimp only
      by_cases hi : i = move.1
      · subst hi
        rw [Function.update_self, Function.update_self]
        exact hnext _
      · rw [Function.update_of_ne hi, Function.update_of_ne hi]
        exact h.client i

/-- Along every schedule the two systems stay in one state, and what is left of their programs stays alike. -/
theorem System.Alike.run (h : System.Alike R s t) (schedule : List (ι × Choice)) :
    System.Alike R (s.run perform schedule) (t.run perform schedule) := by
  induction schedule generalizing s t with
  | nil => exact h
  | cons move rest ih => exact ih (h.step move)

omit [DecidableEq ι] in
theorem System.Alike.nextCall (h : System.Alike R s t) (i : ι) : t.nextCall i = s.nextCall i := by
  have hclient := h.client i
  unfold System.nextCall
  generalize s.client i = program at hclient
  generalize t.client i = program' at hclient
  cases hclient with
  | done _ => rfl
  | call _ => rfl

end Concurrent
