import Mathlib.Data.List.Basic

/-!
# JSON values

The values `JSON.parse` builds, with what a script can ask of them. Fields of an object stand in their
order, and a text is well-formed Unicode: the lone surrogates that an escape sequence can spell are left out.
`dropKeys` removes fields by their key at every depth, and `reread` is what comes back when a value is
written as text and parsed again.
-/

/-- A double: `JSON.parse` gives an infinity for a literal that is too large. -/
inductive Json.Number where
  | finite (value : Rat)
  | negativeZero
  | infinity (negative : Bool)
  deriving DecidableEq

inductive Json where
  | null
  | bool (value : Bool)
  | num (value : Json.Number)
  | str (value : String)
  | arr (items : List Json)
  | obj (fields : List (String × Json))

namespace Json

/-- An object, as the list of its fields. -/
abbrev Fields := List (String × Json)

/-- Whether a condition takes the value for true. -/
def isTruthy : Json → Bool
  | null => false
  | bool value => value
  | num (.finite value) => value ≠ 0
  | num .negativeZero => false
  | num (.infinity _) => true
  | str value => !value.isEmpty
  | arr _ => true
  | obj _ => true

/-- `object[key] = value` -/
def assign (fields : Fields) (key : String) (value : Json) : Fields :=
  if key ∈ fields.map Prod.fst then fields.map fun field => if field.1 = key then (key, value) else field
  else fields ++ [(key, value)]

section Keys

variable (p : String → Bool)

mutual

/-- The value without the fields whose key satisfies `p`, at every depth. -/
def dropKeys : Json → Json
  | null => null
  | bool value => bool value
  | num value => num value
  | str value => str value
  | arr items => arr (dropKeysItems items)
  | obj fields => obj (dropKeysFields fields)

def dropKeysItems : List Json → List Json
  | [] => []
  | item :: rest => dropKeys item :: dropKeysItems rest

def dropKeysFields : Fields → Fields
  | [] => []
  | (key, value) :: rest =>
      if p key then dropKeysFields rest else (key, dropKeys value) :: dropKeysFields rest

end

mutual

/-- Some key in the value satisfies `p`, at some depth. -/
def hasKey : Json → Bool
  | null => false
  | bool _ => false
  | num _ => false
  | str _ => false
  | arr items => hasKeyItems items
  | obj fields => hasKeyFields fields

def hasKeyItems : List Json → Bool
  | [] => false
  | item :: rest => hasKey item || hasKeyItems rest

def hasKeyFields : Fields → Bool
  | [] => false
  | (key, value) :: rest => p key || hasKey value || hasKeyFields rest

end

end Keys

mutual

/-- `JSON.parse(JSON.stringify(value))` -/
def reread : Json → Json
  | null => null
  | bool value => bool value
  | num (.finite value) => num (.finite value)
  | num .negativeZero => num (.finite 0)
  | num (.infinity _) => null
  | str value => str value
  | arr items => arr (rereadItems items)
  | obj fields => obj (rereadFields fields)

def rereadItems : List Json → List Json
  | [] => []
  | item :: rest => reread item :: rereadItems rest

def rereadFields : Fields → Fields
  | [] => []
  | (key, value) :: rest => (key, reread value) :: rereadFields rest

end

/-! ### Dropping keys -/

variable {p : String → Bool}

mutual

theorem dropKeys_of_not_hasKey : ∀ value : Json, hasKey p value = false → dropKeys p value = value
  | null, _ => rfl
  | bool _, _ => rfl
  | num _, _ => rfl
  | str _, _ => rfl
  | arr items, h => congrArg arr (dropKeysItems_of_not_hasKey items h)
  | obj fields, h => congrArg obj (dropKeysFields_of_not_hasKey fields h)

theorem dropKeysItems_of_not_hasKey : ∀ items : List Json, hasKeyItems p items = false →
    dropKeysItems p items = items
  | [], _ => rfl
  | item :: rest, h => by
      rw [hasKeyItems, Bool.or_eq_false_iff] at h
      rw [dropKeysItems, dropKeys_of_not_hasKey item h.1, dropKeysItems_of_not_hasKey rest h.2]

theorem dropKeysFields_of_not_hasKey : ∀ fields : Fields, hasKeyFields p fields = false →
    dropKeysFields p fields = fields
  | [], _ => rfl
  | (key, value) :: rest, h => by
      rw [hasKeyFields, Bool.or_eq_false_iff, Bool.or_eq_false_iff] at h
      obtain ⟨⟨hkey, hvalue⟩, hrest⟩ := h
      rw [dropKeysFields, if_neg (by simp [hkey]), dropKeys_of_not_hasKey value hvalue,
        dropKeysFields_of_not_hasKey rest hrest]

end

mutual

theorem not_hasKey_dropKeys : ∀ value : Json, hasKey p (dropKeys p value) = false
  | null => rfl
  | bool _ => rfl
  | num _ => rfl
  | str _ => rfl
  | arr items => not_hasKey_dropKeysItems items
  | obj fields => not_hasKey_dropKeysFields fields

theorem not_hasKey_dropKeysItems : ∀ items : List Json, hasKeyItems p (dropKeysItems p items) = false
  | [] => rfl
  | item :: rest => by
      rw [dropKeysItems, hasKeyItems, not_hasKey_dropKeys item, not_hasKey_dropKeysItems rest, Bool.or_false]

theorem not_hasKey_dropKeysFields : ∀ fields : Fields, hasKeyFields p (dropKeysFields p fields) = false
  | [] => rfl
  | (key, value) :: rest => by
      rw [dropKeysFields]
      split
      · exact not_hasKey_dropKeysFields rest
      · rename_i hkey
        rw [hasKeyFields, not_hasKey_dropKeys value, not_hasKey_dropKeysFields rest, Bool.or_false,
          Bool.or_false]
        simpa using hkey

end

/-- An object keeps everything just when none of its keys, at any depth, is dropped. -/
theorem dropKeysFields_eq_self_iff {fields : Fields} :
    dropKeysFields p fields = fields ↔ hasKeyFields p fields = false := by
  refine ⟨fun h => ?_, dropKeysFields_of_not_hasKey fields⟩
  rw [← h]
  exact not_hasKey_dropKeysFields fields

mutual

theorem hasKey_reread : ∀ value : Json, hasKey p (reread value) = hasKey p value
  | null => rfl
  | bool _ => rfl
  | num (.finite _) => rfl
  | num .negativeZero => rfl
  | num (.infinity _) => rfl
  | str _ => rfl
  | arr items => hasKeyItems_reread items
  | obj fields => hasKeyFields_reread fields

theorem hasKeyItems_reread : ∀ items : List Json, hasKeyItems p (rereadItems items) = hasKeyItems p items
  | [] => rfl
  | item :: rest => by
      rw [rereadItems, hasKeyItems, hasKeyItems, hasKey_reread item, hasKeyItems_reread rest]

theorem hasKeyFields_reread : ∀ fields : Fields, hasKeyFields p (rereadFields fields) = hasKeyFields p fields
  | [] => rfl
  | (key, value) :: rest => by
      rw [rereadFields, hasKeyFields, hasKeyFields, hasKey_reread value, hasKeyFields_reread rest]

end

/-! ### Looking up a field -/

theorem lookup_dropKeysFields {key : String} (hkey : p key = false) (fields : Fields) :
    (dropKeysFields p fields).lookup key = (fields.lookup key).map (dropKeys p) := by
  induction fields with
  | nil => rfl
  | cons field rest ih =>
      obtain ⟨name, value⟩ := field
      rw [dropKeysFields]
      by_cases hname : key = name
      · subst hname
        rw [if_neg (by simp [hkey]), List.lookup_cons_self, List.lookup_cons_self, Option.map_some]
      · have hne : (key == name) = false := by simpa using hname
        split
        · rw [ih, List.lookup_cons, hne]
        · rw [List.lookup_cons, hne, ih, List.lookup_cons, hne]

theorem lookup_of_not_hasKey {key : String} (hkey : p key = true) {fields : Fields}
    (h : hasKeyFields p fields = false) : fields.lookup key = none := by
  induction fields with
  | nil => rfl
  | cons field rest ih =>
      obtain ⟨name, value⟩ := field
      rw [hasKeyFields, Bool.or_eq_false_iff, Bool.or_eq_false_iff] at h
      obtain ⟨⟨hname, -⟩, hrest⟩ := h
      have hne : (key == name) = false := by
        rw [beq_eq_false_iff_ne]
        rintro rfl
        rw [hkey] at hname
        cases hname
      rw [List.lookup_cons, hne]
      exact ih hrest

theorem not_hasKeyFields_filter (keep : String × Json → Bool) {fields : Fields} (h : hasKeyFields p fields = false) :
    hasKeyFields p (fields.filter keep) = false := by
  induction fields with
  | nil => rfl
  | cons field rest ih =>
      obtain ⟨name, value⟩ := field
      rw [hasKeyFields, Bool.or_eq_false_iff] at h
      rw [List.filter_cons]
      split
      · rw [hasKeyFields, Bool.or_eq_false_iff]
        exact ⟨h.1, ih h.2⟩
      · exact ih h.2

theorem dropKeys_eq_str_iff {value : Json} {text : String} : dropKeys p value = str text ↔ value = str text := by
  cases value <;> simp [dropKeys]

theorem dropKeys_eq_null_iff {value : Json} : dropKeys p value = null ↔ value = null := by
  cases value <;> simp [dropKeys]

theorem dropKeys_eq_obj_iff {value : Json} {fields : Fields} :
    dropKeys p value = obj fields ↔ ∃ before, value = obj before ∧ dropKeysFields p before = fields := by
  cases value <;> simp [dropKeys]

theorem lookup_filter_key (keep : String → Bool) (key : String) (fields : Fields) :
    (fields.filter fun field => keep field.1).lookup key = if keep key then fields.lookup key else none := by
  induction fields with
  | nil => simp
  | cons field rest ih =>
      obtain ⟨name, value⟩ := field
      rw [List.filter_cons]
      by_cases hname : key = name
      · subst hname
        by_cases hkeep : keep key = true
        · rw [if_pos hkeep, if_pos hkeep, List.lookup_cons_self, List.lookup_cons_self]
        · rw [if_neg hkeep, ih, if_neg hkeep, if_neg hkeep]
      · have hne : (key == name) = false := by simpa using hname
        rw [List.lookup_cons, hne, ← ih]
        split
        · rw [List.lookup_cons, hne]
        · rfl

theorem lookup_assign_self (fields : Fields) (key : String) (value : Json) :
    (assign fields key value).lookup key = some value := by
  unfold assign
  split
  · rename_i hmem
    induction fields with
    | nil => cases hmem
    | cons field rest ih =>
        obtain ⟨name, old⟩ := field
        by_cases hname : name = key
        · subst hname
          rw [List.map_cons, if_pos rfl, List.lookup_cons_self]
        · have hne : (key == name) = false := by simpa using Ne.symm hname
          rw [List.map_cons, List.mem_cons] at hmem
          rw [List.map_cons, if_neg hname, List.lookup_cons, hne]
          exact ih (hmem.resolve_left (Ne.symm hname))
  · rename_i hmem
    induction fields with
    | nil => exact List.lookup_cons_self
    | cons field rest ih =>
        obtain ⟨name, old⟩ := field
        rw [List.map_cons, List.mem_cons, not_or] at hmem
        have hne : (key == name) = false := by simpa using hmem.1
        rw [List.cons_append, List.lookup_cons, hne]
        exact ih hmem.2

theorem lookup_assign_of_ne {key other : String} (hne : other ≠ key) (fields : Fields) (value : Json) :
    (assign fields key value).lookup other = fields.lookup other := by
  have hother : (other == key) = false := by simpa using hne
  unfold assign
  split
  · clear * - hne hother
    induction fields with
    | nil => rfl
    | cons field rest ih =>
        obtain ⟨name, old⟩ := field
        rw [List.map_cons, List.lookup_cons]
        by_cases hname : name = key
        · subst hname
          rw [if_pos rfl, List.lookup_cons, hother, ih]
        · rw [if_neg hname, List.lookup_cons, ih]
  · clear * - hother
    induction fields with
    | nil =>
        rw [List.nil_append, List.lookup_cons, hother]
    | cons field rest ih =>
        obtain ⟨name, old⟩ := field
        rw [List.cons_append, List.lookup_cons, List.lookup_cons, ih]

end Json
