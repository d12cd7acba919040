import WebhookIdp.Base.Program

/-!
# One state in the place of another

Programs that share a state run alike over a state of another kind, provided that related states answer every call
they make alike and are left related.
-/

namespace Concurrent

variable {ι State State' Op : Type} {Answer : Op → Type} {Error α Choice Choice' : Type}

/-- The same programs over related states. -/
structure System.Mirrors (related : State → State' → Prop) (s : System ι State Op Answer Error α)
    (t : System ι State' Op Answer Error α) : Prop where
  state : related s.state t.state
  client : t.client = s.client

/-- The call has one answer in both states, and leaves them related. -/
def AnsweredAlike (perform : Interface Op Answer Error Choice State)
    (perform' : Interface Op Answer Error Choice' State') (related : State → State' → Prop) (choice : Choice)
    (choice' : Choice') (op : Op) (s : State) (t : State') : Prop :=
  (perform' op choice' t).1 = (perform op choice s).1 ∧ related (perform op choice s).2 (perform' op choice' t).2

variable [DecidableEq ι] {perform : Interface Op Answer Error Choice State}
  {perform' : Interface Op Answer Error Choice' State'} {related : State → State' → Prop}
  {s : System ι State Op Answer Error α} {t : System ι State' Op Answer Error α} {choice : Choice} {choice' : Choice'}

theorem System.Mirrors.step (h : System.Mirrors related s t) {i : ι}
    (hcall : ∀ op, s.nextCall i = some op →
      AnsweredAlike perform perform' related choice choice' op s.state t.state) :
    System.Mirrors related (s.step perform (i, choice)) (t.step perform' (i, choice')) := by
  have hsame : t.client i = s.client i := congrFun h.client i
  cases hclient : s.client i with
  | done result =>
      have hother : t.client i = .done result := hsame.trans hclient
      rw [System.step_of_done hclient, System.step_of_done hother]
      exact h
  | call op next =>
      have hother : t.client i = .call op next := hsame.trans hclient
      have hnext : s.nextCall i = some op := by
        rw [System.nextCall, hclient]
      obtain ⟨hanswer, hrelated⟩ := hcall op hnext
      rw [System.step_of_call hclient, System.step_of_call hother]
      refine ⟨hrelated, ?_⟩
      dsimp only
      rw [hanswer, h.client]

/-- Along every order of moves the programs do the same over both states, where an invariant of the one system has
every call of its clients answered alike. -/
theorem System.Mirrors.run {p : System ι State Op Answer Error α → Prop} (h : System.Mirrors related s t)
    (hinvariant : p s) (hstep : ∀ s i, p s → p (s.step perform (i, choice)))
    (hcall : ∀ s t i op, p s → related s.state t → s.nextCall i = some op →
      AnsweredAlike perform perform' related choice choice' op s.state t) (order : List ι) :
    System.Mirrors related (s.run perform (order.map fun i => (i, choice)))
      (t.run perform' (order.map fun i => (i, choice'))) := by
  induction order generalizing s t with
  | nil => exact h
  | cons i rest ih =>
      have hfirst := h.step fun op hnext => hcall s t.state i op hinvariant h.state hnext
      exact ih hfirst (hstep s i hinvariant)

end Concurrent
