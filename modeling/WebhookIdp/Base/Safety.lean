import WebhookIdp.Base.Program

/-!
# Rely and guarantee

`Safe` is what a client promises while others interfere: at every call, from every valid state the
others may have moved to, the call leaves the state valid and does no more than the guarantee, and
the rest of the program is safe from there. If each client's guarantee is what every other client
relies on, the promises hold along every schedule, so a fact about an interleaving is proved one
program at a time.
-/

namespace Concurrent

variable {ι State Op : Type} {Answer : Op → Type} {Error α β Choice : Type}

section Safe

variable (perform : Interface Op Answer Error Choice State)
variable (valid : State → Prop) (rely : State → State → Prop)
variable (guarantee : (op : Op) → State → Except Error (Answer op) → State → Prop)

def Safe (post : Except Error α → State → Prop) : Program Op Answer Error α → State → Prop
  | .done result, s => ∀ s', valid s' → rely s s' → post result s'
  | .call op next, s => ∀ s' choice, valid s' → rely s s' →
      valid (perform op choice s').2 ∧
      guarantee op s' (perform op choice s').1 (perform op choice s').2 ∧
      Safe post (next (perform op choice s').1) (perform op choice s').2

variable {perform valid rely guarantee}

theorem Safe.mono {post : Except Error α → State → Prop} {program : Program Op Answer Error α}
    {s t : State} (htrans : ∀ {a b c}, rely a b → rely b c → rely a c) (hrely : rely s t)
    (h : Safe perform valid rely guarantee post program s) :
    Safe perform valid rely guarantee post program t := by
  cases program with
  | done result => exact fun s' hvalid hr => h s' hvalid (htrans hrely hr)
  | call op next => exact fun s' choice hvalid hr => h s' choice hvalid (htrans hrely hr)

/-- A program that asks less of the others and promises more is safe with respect to more of what is asked and less
of what is promised. -/
theorem Safe.imp {rely' : State → State → Prop}
    {guarantee' : (op : Op) → State → Except Error (Answer op) → State → Prop}
    {post post' : Except Error α → State → Prop} {program : Program Op Answer Error α} {s : State}
    (hrely : ∀ a b, rely' a b → rely a b)
    (hguarantee : ∀ op a answer b, guarantee op a answer b → guarantee' op a answer b)
    (hpost : ∀ result t, post result t → post' result t) (h : Safe perform valid rely guarantee post program s) :
    Safe perform valid rely' guarantee' post' program s := by
  induction program generalizing s with
  | done result => exact fun t hvalid hr => hpost _ _ (h t hvalid (hrely _ _ hr))
  | call op next ih =>
      intro t choice hvalid hr
      obtain ⟨hkept, hguar, hrest⟩ := h t choice hvalid (hrely _ _ hr)
      exact ⟨hkept, hguarantee _ _ _ _ hguar, ih _ hrest⟩

end Safe

section System

variable (perform : Interface Op Answer Error Choice State)
variable (valid : State → Prop) (rely : ι → State → State → Prop)
variable (guarantee : ι → (op : Op) → State → Except Error (Answer op) → State → Prop)
variable (post : ι → Except Error α → State → Prop)

/-- The state is valid and every client is safe from it. -/
def System.Safe (s : System ι State Op Answer Error α) : Prop :=
  valid s.state ∧
    ∀ i, Concurrent.Safe perform valid (rely i) (guarantee i) (post i) (s.client i) s.state

/-- What the clients assume of each other: each relies on no more than the others guarantee. -/
structure Compatible : Prop where
  refl : ∀ i s, rely i s s
  trans : ∀ i {a b c}, rely i a b → rely i b c → rely i a c
  guards : ∀ i j, i ≠ j → ∀ op s answer s', valid s → guarantee i op s answer s' → rely j s s'

variable {perform valid rely guarantee post} {s : System ι State Op Answer Error α}

theorem System.Safe.call (h : System.Safe perform valid rely guarantee post s)
    (hcompat : Compatible valid rely guarantee) {i : ι} {op : Op}
    {next : Except Error (Answer op) → Program Op Answer Error α} (hcall : s.client i = .call op next)
    (choice : Choice) :
    valid (perform op choice s.state).2 ∧
      guarantee i op s.state (perform op choice s.state).1 (perform op choice s.state).2 ∧
      Concurrent.Safe perform valid (rely i) (guarantee i) (post i) (next (perform op choice s.state).1)
        (perform op choice s.state).2 := by
  have hsafe := h.2 i
  rw [hcall] at hsafe
  exact hsafe s.state choice h.1 (hcompat.refl i s.state)

theorem System.Safe.step [DecidableEq ι] (h : System.Safe perform valid rely guarantee post s)
    (hcompat : Compatible valid rely guarantee) (move : ι × Choice) :
    System.Safe perform valid rely guarantee post (s.step perform move) := by
  rcases hclient : s.client move.1 with result | ⟨op, next⟩
  · rw [System.step_of_done hclient]
    exact h
  · obtain ⟨hvalid, hguar, hrest⟩ := h.call hcompat hclient move.2
    rw [System.step_of_call hclient]
    refine ⟨hvalid, fun j => ?_⟩
    dsimp only
    by_cases hj : j = move.1
    · subst hj
      rw [Function.update_self]
      exact hrest
    · rw [Function.update_of_ne hj]
      exact (h.2 j).mono (hcompat.trans j) (hcompat.guards _ _ (Ne.symm hj) op _ _ _ h.1 hguar)

theorem System.Safe.run [DecidableEq ι] (h : System.Safe perform valid rely guarantee post s)
    (hcompat : Compatible valid rely guarantee) (schedule : List (ι × Choice)) :
    System.Safe perform valid rely guarantee post (s.run perform schedule) :=
  System.run_invariant (fun _ move hs => hs.step hcompat move) h schedule

/-- What every promised call does to the state, a whole schedule does. -/
theorem System.Safe.run_related [DecidableEq ι] (h : System.Safe perform valid rely guarantee post s)
    (hcompat : Compatible valid rely guarantee) {kept : State → State → Prop} (hrefl : ∀ t, kept t t)
    (htrans : ∀ {a b c}, kept a b → kept b c → kept a c)
    (hcall : ∀ i op t answer t', valid t → guarantee i op t answer t' → kept t t') (schedule : List (ι × Choice)) :
    kept s.state (s.run perform schedule).state := by
  induction schedule generalizing s with
  | nil => exact hrefl _
  | cons move rest ih =>
      refine htrans ?_ (ih (h.step hcompat move))
      rcases hclient : s.client move.1 with result | ⟨op, next⟩
      · rw [System.step_of_done hclient]
        exact hrefl _
      · obtain ⟨-, hguarantee, -⟩ := h.call hcompat hclient move.2
        rw [System.state_step_of_call hclient]
        exact hcall move.1 op s.state _ _ h.1 hguarantee

end System

end Concurrent
