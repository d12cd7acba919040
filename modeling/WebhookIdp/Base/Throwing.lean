import Mathlib.Data.List.Forall2

/-!
# Functions that throw

Inversion lemmas for `Except`: what must have happened for a chain of checks to return.
-/

namespace Throwing

variable {Error α β : Type} {e : Error}

theorem bind_eq_ok_iff {x : Except Error α} {f : α → Except Error β} {b : β} :
    (x >>= f) = .ok b ↔ ∃ a, x = .ok a ∧ f a = .ok b := by
  cases x with
  | error e => exact ⟨nofun, fun ⟨_, h, _⟩ => nomatch h⟩
  | ok a => exact ⟨fun h => ⟨a, rfl, h⟩, fun ⟨_, ha, h⟩ => by cases ha; exact h⟩

theorem map_eq_ok_iff {f : α → β} {x : Except Error α} {b : β} : x.map f = .ok b ↔ ∃ a, x = .ok a ∧ f a = b := by
  cases x with
  | error e => exact ⟨nofun, fun ⟨_, h, _⟩ => nomatch h⟩
  | ok a => exact ⟨fun h => ⟨a, rfl, Except.ok.inj h⟩, fun ⟨_, ha, h⟩ => by cases ha; exact congrArg Except.ok h⟩

theorem guard_eq_ok_iff {p : Prop} [Decidable p] {a b : α} :
    (if p then .error e else .ok a : Except Error α) = .ok b ↔ ¬ p ∧ b = a := by
  split
  · rename_i h
    exact ⟨nofun, fun hr => absurd h hr.1⟩
  · rename_i h
    exact ⟨fun hr => ⟨h, (Except.ok.inj hr).symm⟩, fun hr => hr.2 ▸ rfl⟩

theorem mapError_eq_ok_iff {Error' : Type} {g : Error → Error'} {x : Except Error α} {a : α} :
    x.mapError g = .ok a ↔ x = .ok a := by
  cases x with
  | error e => exact ⟨nofun, nofun⟩
  | ok b => exact ⟨fun h => congrArg Except.ok (Except.ok.inj h), fun h => congrArg Except.ok (Except.ok.inj h)⟩

/-- `map` with a function that throws returns when every element passes. -/
theorem mapM_eq_ok_iff {f : α → Except Error β} {l : List α} {r : List β} :
    l.mapM f = .ok r ↔ List.Forall₂ (fun a b => f a = .ok b) l r := by
  induction l generalizing r with
  | nil =>
      rw [List.mapM_nil, List.forall₂_nil_left_iff]
      exact ⟨fun h => (Except.ok.inj h).symm, fun h => congrArg Except.ok h.symm⟩
  | cons a l ih =>
      rw [List.mapM_cons, bind_eq_ok_iff, List.forall₂_cons_left_iff]
      refine ⟨fun h => ?_, fun h => ?_⟩
      · obtain ⟨b, hb, hrest⟩ := h
        obtain ⟨bs, hbs, hr⟩ := bind_eq_ok_iff.mp hrest
        exact ⟨b, bs, hb, ih.mp hbs, (Except.ok.inj hr).symm⟩
      · obtain ⟨b, bs, hb, hbs, hr⟩ := h
        exact ⟨b, hb, bind_eq_ok_iff.mpr ⟨bs, ih.mpr hbs, congrArg Except.ok hr.symm⟩⟩

theorem exists_mapM_eq_ok_iff {f : α → Except Error β} {l : List α} :
    (∃ r, l.mapM f = .ok r) ↔ ∀ a ∈ l, ∃ b, f a = .ok b := by
  refine ⟨fun h a ha => ?_, fun h => ?_⟩
  · obtain ⟨r, hr⟩ := h
    rw [mapM_eq_ok_iff] at hr
    induction hr with
    | nil => cases ha
    | @cons a' b _ _ hab _ ih =>
        rcases List.mem_cons.mp ha with rfl | ha
        · exact ⟨b, hab⟩
        · exact ih ha
  · induction l with
    | nil => exact ⟨[], rfl⟩
    | cons a l ih =>
        obtain ⟨b, hb⟩ := h a List.mem_cons_self
        obtain ⟨r, hr⟩ := ih fun a' ha' => h a' (List.mem_cons_of_mem a ha')
        exact ⟨b :: r, mapM_eq_ok_iff.mpr (.cons hb (mapM_eq_ok_iff.mp hr))⟩

theorem mapM_map_eq_ok {f : α → Except Error β} {g : β → α} (hread : ∀ b, f (g b) = .ok b) (r : List β) :
    (r.map g).mapM f = .ok r := by
  rw [mapM_eq_ok_iff, List.forall₂_map_left_iff, List.forall₂_same]
  exact fun b _ => hread b

theorem map_eq_of_mapM_eq_ok {f : α → Except Error β} {g : β → α} (hwrite : ∀ a b, f a = .ok b → g b = a)
    {l : List α} {r : List β} (h : l.mapM f = .ok r) : r.map g = l := by
  rw [mapM_eq_ok_iff] at h
  induction h with
  | nil => rfl
  | cons hab _ ih => rw [List.map_cons, ih, hwrite _ _ hab]

end Throwing
