import Mathlib.Logic.Function.Basic
import Mathlib.Data.List.Basic

/-!
# Maps in which the first write wins

`put` gives a key its value once; a later write to the key does nothing. Such maps only grow, and after
any writes the value of a key is the one it had, or else that of the first write to it.
-/

namespace FirstWrite

variable {Key Value : Type} [DecidableEq Key]

def put (entries : Key → Option Value) (key : Key) (value : Value) : Key → Option Value :=
  if entries key = none then Function.update entries key (some value) else entries

def putAll (entries : Key → Option Value) (writes : List (Key × Value)) : Key → Option Value :=
  writes.foldl (fun entries write => put entries write.1 write.2) entries

/-- Every entry of the first map is in the second. -/
def Extends (before after : Key → Option Value) : Prop :=
  ∀ key value, before key = some value → after key = some value

variable {entries before middle after : Key → Option Value} {key other : Key} {value : Value}

omit [DecidableEq Key] in
theorem Extends.refl (entries : Key → Option Value) : Extends entries entries := fun _ _ h => h

omit [DecidableEq Key] in
theorem Extends.trans (h : Extends before middle) (h' : Extends middle after) : Extends before after :=
  fun key value hkey => h' key value (h key value hkey)

theorem put_of_absent (h : entries key = none) : put entries key value = Function.update entries key (some value) :=
  if_pos h

theorem put_of_present (h : entries key ≠ none) : put entries key value = entries := if_neg h

theorem put_apply (entries : Key → Option Value) (key other : Key) (value : Value) :
    put entries key value other = if other = key then (entries key).or (some value) else entries other := by
  by_cases hentry : entries key = none
  · rw [put_of_absent hentry, Function.update_apply, hentry]
    rfl
  · rw [put_of_present hentry]
    split
    · rename_i hkey
      subst hkey
      obtain ⟨old, hold⟩ := Option.ne_none_iff_exists'.mp hentry
      rw [hold]
      rfl
    · rfl

theorem extends_put (entries : Key → Option Value) (key : Key) (value : Value) :
    Extends entries (put entries key value) := by
  intro other old hold
  rw [put_apply]
  split
  · rename_i hkey
    subst hkey
    rw [hold]
    rfl
  · exact hold

theorem extends_putAll (entries : Key → Option Value) (writes : List (Key × Value)) :
    Extends entries (putAll entries writes) := by
  induction writes generalizing entries with
  | nil => exact Extends.refl entries
  | cons write rest ih => exact (extends_put entries write.1 write.2).trans (ih _)

end FirstWrite
