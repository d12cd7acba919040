import Mathlib.Data.List.Basic

/-!
# Computations that draw random numbers

A computation reads the draws of a stream one after the other. `Always p` says that its result satisfies `p`
whatever is drawn, `InLockstep R` that two computations fed the same draws leave the same rest of them and have
results that `R` relates.
-/

namespace Randomised

/-- A number of the unit interval without its upper end. -/
structure Draw where
  value : Rat
  nonneg : 0 ≤ value
  lt_one : value < 1

abbrev Drawing := StateM (Nat → Draw)

def draw : Drawing Draw := fun draws => (draws 0, fun n => draws (n + 1))

variable {α β : Type}

/-! ### One computation -/

section One

variable {p : α → Prop} {q : β → Prop}

/-- Whatever is drawn, the result satisfies `p`. -/
def Always (p : α → Prop) (x : Drawing α) : Prop := ∀ draws, p (x draws).1

theorem always_pure {a : α} (h : p a) : Always p (pure a) := fun _ => h

theorem Always.bind {x : Drawing α} {f : α → Drawing β} (h : Always p x)
    (hf : ∀ a, p a → Always q (f a)) : Always q (x >>= f) :=
  fun draws => hf _ (h draws) _

theorem forall_mem_of_forall₂ {l : List α} {results : List β} (h : List.Forall₂ (fun _ => q) l results) :
    ∀ b ∈ results, q b := by
  induction h with
  | nil => exact nofun
  | cons hhead _ ih => exact List.forall_mem_cons.mpr ⟨hhead, ih⟩

/-- The results of a pass over a list stand in the relation of each to its element. -/
theorem always_mapM_forall₂ {R : α → β → Prop} {f : α → Drawing β} {l : List α} (h : ∀ a ∈ l, Always (R a) (f a)) :
    Always (List.Forall₂ R l) (l.mapM f) := by
  induction l with
  | nil =>
      rw [List.mapM_nil]
      exact always_pure .nil
  | cons a l ih =>
      rw [List.mapM_cons]
      refine (h a List.mem_cons_self).bind fun b hb => ?_
      refine (ih fun a' ha' => h a' (List.mem_cons_of_mem a ha')).bind fun results hresults => ?_
      exact always_pure (.cons hb hresults)

end One

/-! ### Two computations on the same draws -/

section Two

variable {α' β' : Type} {R : α → α' → Prop} {S : β → β' → Prop}

/-- On the same draws the results are related, and as many draws are taken. -/
def InLockstep (R : α → α' → Prop) (x : Drawing α) (y : Drawing α') : Prop :=
  ∀ draws, R (x draws).1 (y draws).1 ∧ (x draws).2 = (y draws).2

theorem inLockstep_refl (x : Drawing α) : InLockstep (· = ·) x x := fun _ => ⟨rfl, rfl⟩

theorem inLockstep_pure {a : α} {a' : α'} (h : R a a') : InLockstep R (pure a) (pure a') := fun _ => ⟨h, rfl⟩

theorem InLockstep.bind {x : Drawing α} {y : Drawing α'} {f : α → Drawing β} {g : α' → Drawing β'}
    (h : InLockstep R x y) (hf : ∀ a a', R a a' → InLockstep S (f a) (g a')) :
    InLockstep S (x >>= f) (y >>= g) := by
  intro draws
  obtain ⟨hresult, hrest⟩ := h draws
  have hsecond : (y >>= g) draws = g (y draws).1 (x draws).2 := by
    rw [hrest]
    rfl
  rw [hsecond]
  exact hf _ _ hresult (x draws).2

theorem inLockstep_mapM {f : α → Drawing β} {g : α' → Drawing β'} {l : List α} {l' : List α'}
    (h : List.Forall₂ R l l') (hf : ∀ a a', R a a' → InLockstep S (f a) (g a')) :
    InLockstep (List.Forall₂ S) (l.mapM f) (l'.mapM g) := by
  induction h with
  | nil =>
      rw [List.mapM_nil, List.mapM_nil]
      exact inLockstep_pure .nil
  | cons hhead _ ih =>
      rw [List.mapM_cons, List.mapM_cons]
      refine (hf _ _ hhead).bind fun b b' hb => ?_
      refine ih.bind fun results results' hresults => ?_
      exact inLockstep_pure (.cons hb hresults)

end Two

end Randomised
