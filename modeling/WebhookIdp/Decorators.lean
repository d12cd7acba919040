import WebhookIdp.Base.Json
import WebhookIdp.Platform

/-!
# Decorated transfer objects

What `plainToInstance` of `class-transformer` makes of a plain object, where it throws, and what is left to it
by the validation pipe of the framework, which strips the object first. The checks of `class-validator` are on
one property: a check returns the property's value or the text of the violated constraint; a property that is
not there is `none`.
-/

namespace WebhookIdp

namespace ClassTransformer

/-- The functions every object inherits. -/
def inheritedFunctions : List String :=
  ["toString", "valueOf", "toLocaleString", "hasOwnProperty", "isPrototypeOf", "propertyIsEnumerable",
    "__defineGetter__", "__defineSetter__", "__lookupGetter__", "__lookupSetter__"]

/-- The keys no instance is given. -/
def isSkipped (key : String) : Bool :=
  key == "__proto__" || key == "constructor" || inheritedFunctions.contains key

/-- What is thrown when something that is no constructor is called as one; nothing reads its text. -/
structure TypeError where
  deriving DecidableEq, Repr

mutual

/-- A value below the top, of no declared type: an object is made by its `constructor`, if that is given. -/
def transform : Json → Except TypeError Json
  | .arr items => do return .arr (← transformItems items)
  | .obj fields =>
      if (fields.lookup "constructor").any Json.isTruthy then .error {}
      else do return .obj (← transformFields fields)
  | value => .ok value

def transformItems : List Json → Except TypeError (List Json)
  | [] => .ok []
  | item :: rest => do
      let item ← transform item
      return item :: (← transformItems rest)

def transformFields : Json.Fields → Except TypeError Json.Fields
  | [] => .ok []
  | (key, value) :: rest =>
      if isSkipped key then transformFields rest
      else do
        let value ← transform value
        return (key, value) :: (← transformFields rest)

end

/-- The own fields of the instance; those with `@Exclude()` are left out. -/
def plainToInstance (excluded : List String) (plain : Json.Fields) : Except TypeError Json.Fields :=
  transformFields (plain.filter fun field => !excluded.contains field.1)

/-! ### When a value is rebuilt -/

mutual

/-- Some object that is visited has a `constructor` that a condition takes for true. -/
def constructs : Json → Bool
  | .arr items => constructsItems items
  | .obj fields => (fields.lookup "constructor").any Json.isTruthy || constructsFields fields
  | _ => false

def constructsItems : List Json → Bool
  | [] => false
  | item :: rest => constructs item || constructsItems rest

def constructsFields : Json.Fields → Bool
  | [] => false
  | (key, value) :: rest => (!isSkipped key && constructs value) || constructsFields rest

end

mutual

theorem transform_eq : ∀ value : Json,
    transform value = if constructs value then .error {} else .ok (Json.dropKeys isSkipped value)
  | .null => rfl
  | .bool _ => rfl
  | .num _ => rfl
  | .str _ => rfl
  | .arr items => by
      rw [transform, transformItems_eq items, constructs]
      cases constructsItems items <;> rfl
  | .obj fields => by
      rw [transform, transformFields_eq fields, constructs]
      cases (fields.lookup "constructor").any Json.isTruthy <;> cases constructsFields fields <;> rfl

theorem transformItems_eq : ∀ items : List Json,
    transformItems items = if constructsItems items then .error {} else .ok (Json.dropKeysItems isSkipped items)
  | [] => rfl
  | item :: rest => by
      rw [transformItems, transform_eq item, transformItems_eq rest, constructsItems]
      cases constructs item <;> cases constructsItems rest <;> rfl

theorem transformFields_eq : ∀ fields : Json.Fields,
    transformFields fields = if constructsFields fields then .error {} else .ok (Json.dropKeysFields isSkipped fields)
  | [] => rfl
  | (key, value) :: rest => by
      rw [transformFields, transform_eq value, transformFields_eq rest, constructsFields, Json.dropKeysFields]
      cases isSkipped key <;> cases constructs value <;> cases constructsFields rest <;> rfl

end

mutual

theorem constructs_of_not_hasKey {p : String → Bool} (hp : p "constructor" = true) :
    ∀ value : Json, Json.hasKey p value = false → constructs value = false
  | .null, _ => rfl
  | .bool _, _ => rfl
  | .num _, _ => rfl
  | .str _, _ => rfl
  | .arr items, h => constructsItems_of_not_hasKey hp items h
  | .obj fields, h => by
      rw [constructs, Json.lookup_of_not_hasKey hp h, constructsFields_of_not_hasKey hp fields h]
      rfl

theorem constructsItems_of_not_hasKey {p : String → Bool} (hp : p "constructor" = true) :
    ∀ items : List Json, Json.hasKeyItems p items = false → constructsItems items = false
  | [], _ => rfl
  | item :: rest, h => by
      rw [Json.hasKeyItems, Bool.or_eq_false_iff] at h
      rw [constructsItems, constructs_of_not_hasKey hp item h.1, constructsItems_of_not_hasKey hp rest h.2]
      rfl

theorem constructsFields_of_not_hasKey {p : String → Bool} (hp : p "constructor" = true) :
    ∀ fields : Json.Fields, Json.hasKeyFields p fields = false → constructsFields fields = false
  | [], _ => rfl
  | (key, value) :: rest, h => by
      rw [Json.hasKeyFields, Bool.or_eq_false_iff, Bool.or_eq_false_iff] at h
      obtain ⟨⟨-, hvalue⟩, hrest⟩ := h
      rw [constructsFields, constructs_of_not_hasKey hp value hvalue, constructsFields_of_not_hasKey hp rest hrest,
        Bool.and_false, Bool.or_false]

end

/-- What an instance is given, where the objects of the plain value are rebuilt. -/
def instanceFields (excluded : List String) (plain : Json.Fields) : Json.Fields :=
  Json.dropKeysFields isSkipped (plain.filter fun field => !excluded.contains field.1)

variable {excluded : List String} {plain dto : Json.Fields} {key : String}

theorem plainToInstance_nil_eq_ok_iff :
    plainToInstance [] plain = .ok dto ↔ constructsFields plain = false ∧ dto = instanceFields [] plain := by
  have hall : (plain.filter fun field => !([] : List String).contains field.1) = plain :=
    List.filter_eq_self.mpr fun _ _ => rfl
  rw [plainToInstance, instanceFields, hall, transformFields_eq]
  cases constructsFields plain <;> simp [eq_comm]

theorem lookup_instanceFields (hexcluded : excluded.contains key = false) (hskipped : isSkipped key = false) :
    (instanceFields excluded plain).lookup key = (plain.lookup key).map (Json.dropKeys isSkipped) := by
  rw [instanceFields, Json.lookup_dropKeysFields hskipped,
    Json.lookup_filter_key (fun name => !excluded.contains name) key plain, hexcluded]
  rfl

end ClassTransformer

namespace ValidationPipe

open ClassTransformer

/-- The keys the pipe deletes before anything else, at every depth. -/
def isProtoKey (key : String) : Bool := key == "__proto__" || key == "constructor" || key == "prototype"

def stripProtoKeys (plain : Json.Fields) : Json.Fields := Json.dropKeysFields isProtoKey plain

/-- The own fields of the instance the pipe validates. -/
def toInstance (excluded : List String) (plain : Json.Fields) : Json.Fields :=
  instanceFields excluded (stripProtoKeys plain)

variable {excluded : List String} {plain : Json.Fields} {key : String}

/-- What the pipe has stripped is always rebuilt. -/
theorem plainToInstance_stripProtoKeys :
    plainToInstance excluded (stripProtoKeys plain) = .ok (toInstance excluded plain) := by
  have hstripped : constructsFields ((stripProtoKeys plain).filter fun field => !excluded.contains field.1) = false :=
    constructsFields_of_not_hasKey (p := isProtoKey) (by decide) _
      (Json.not_hasKeyFields_filter _ (Json.not_hasKey_dropKeysFields plain))
  rw [plainToInstance, transformFields_eq, hstripped]
  rfl

theorem lookup_toInstance (hexcluded : excluded.contains key = false) (hskipped : isSkipped key = false)
    (hproto : isProtoKey key = false) : (toInstance excluded plain).lookup key =
      ((plain.lookup key).map (Json.dropKeys isProtoKey)).map (Json.dropKeys isSkipped) := by
  rw [toInstance, lookup_instanceFields hexcluded hskipped, stripProtoKeys, Json.lookup_dropKeysFields hproto]

end ValidationPipe

namespace ClassValidator

def isString (property : String) : Option Json → Except String String
  | some (.str text) => .ok text
  | _ => .error s!"{property} must be a string"

def isObject (property : String) : Option Json → Except String Json
  | some (.obj fields) => .ok (.obj fields)
  | _ => .error s!"{property} must be an object"

def isUUID [Platform] (property : String) : Option Json → Except String String
  | some (.str text) =>
      if Platform.isUUID text = true then .ok text else .error s!"{property} must be a UUID"
  | _ => .error s!"{property} must be a UUID"

def isIn {α : Type} (property : String) (values : List (String × α)) (value : Option Json) : Except String α :=
  let choices := ", ".intercalate (values.map Prod.fst)
  let violated := s!"{property} must be one of the following values: {choices}"
  match value with
  | some (.str text) => (values.lookup text).elim (.error violated) .ok
  | _ => .error violated

def isArray (property : String) : Option Json → Except String (List Json)
  | some (.arr items) => .ok items
  | _ => .error s!"{property} must be an array"

def arrayNotEmpty (property : String) : Option Json → Except String Unit
  | some (.arr (_ :: _)) => .ok ()
  | _ => .error s!"{property} should not be empty"

/-- `@IsString({ each: true })`: of an array every item is checked, of another value the value itself. -/
def isStringEach (property : String) : Option Json → Except String (List String)
  | some (.arr items) => (items.mapM fun item => isString property (some item)).mapError fun message =>
      s!"each value in {message}"
  | value => ((isString property value).map fun text => [text]).mapError fun message => s!"each value in {message}"

/-- The value of an optional property at run time. -/
inductive Property (α : Type) where
  | undefined
  | null
  | value (value : α)
  deriving DecidableEq

def Property.value? {α : Type} : Property α → Option α
  | value a => some a
  | _ => none

/-- `@IsOptional()`, keeping apart the two values it lets through. -/
def isOptionalProperty {Error α : Type} (check : Option Json → Except Error α) :
    Option Json → Except Error (Property α)
  | none => .ok .undefined
  | some .null => .ok .null
  | some value => (check (some value)).map .value

/-- `@IsOptional()`: no other check of the property is made when it is `null` or `undefined`. -/
def isOptional {α : Type} (check : Option Json → Except String α) : Option Json → Except String (Option α)
  | none => .ok none
  | some .null => .ok none
  | some value => (check (some value)).map some

/-- The constraint a check found violated. -/
def violation {α : Type} : Except String α → Option String
  | .ok _ => none
  | .error message => some message

variable {property : String} {value : Option Json}

theorem isString_eq_ok_iff {text : String} : isString property value = .ok text ↔ value = some (.str text) := by
  refine ⟨fun h => ?_, fun h => h ▸ rfl⟩
  unfold isString at h
  split at h
  · cases h
    rfl
  · cases h

theorem isObject_eq_ok_iff {payload : Json} :
    isObject property value = .ok payload ↔ ∃ fields, payload = .obj fields ∧ value = some (.obj fields) := by
  refine ⟨fun h => ?_, fun ⟨fields, hpayload, hvalue⟩ => ?_⟩
  · unfold isObject at h
    split at h
    · cases h
      exact ⟨_, rfl, rfl⟩
    · cases h
  · subst hpayload hvalue
    rfl

theorem isUUID_eq_ok_iff [Platform] {text : String} :
    isUUID property value = .ok text ↔ value = some (.str text) ∧ Platform.isUUID text = true := by
  refine ⟨fun h => ?_, fun ⟨hvalue, hvalid⟩ => ?_⟩
  · unfold isUUID at h
    split at h
    · split at h
      · cases h
        exact ⟨rfl, ‹_›⟩
      · cases h
    · cases h
  · subst hvalue
    exact if_pos hvalid

theorem isOptional_eq_ok_iff {α : Type} {check : Option Json → Except String α} {result : Option α} :
    isOptional check value = .ok result ↔ ((value = none ∨ value = some .null) ∧ result = none) ∨
      ∃ json a, value = some json ∧ json ≠ .null ∧ check (some json) = .ok a ∧ result = some a := by
  unfold isOptional
  split
  · simp [eq_comm]
  · simp [eq_comm]
  · rename_i json hnull
    have hne : json ≠ .null := hnull
    rcases hcheck : check (some json) with message | a
    · simp [hne, hcheck, Except.map]
    · simp [hne, hcheck, Except.map, eq_comm]

theorem isOptional_isString_eq_ok_iff {text : Option String} :
    isOptional (isString property) value = .ok text ↔
      ((value = none ∨ value = some .null) ∧ text = none) ∨ ∃ s, value = some (.str s) ∧ text = some s := by
  rw [isOptional_eq_ok_iff]
  refine or_congr_right ⟨fun ⟨json, s, hvalue, _, hcheck, htext⟩ => ?_, fun ⟨s, hvalue, htext⟩ => ?_⟩
  · exact ⟨s, hvalue.trans (isString_eq_ok_iff.mp hcheck), htext⟩
  · exact ⟨.str s, s, hvalue, nofun, rfl, htext⟩

theorem isOptional_isUUID_eq_ok_iff [Platform] {text : Option String} :
    isOptional (isUUID property) value = .ok text ↔
      ((value = none ∨ value = some .null) ∧ text = none) ∨
        ∃ s, value = some (.str s) ∧ Platform.isUUID s = true ∧ text = some s := by
  rw [isOptional_eq_ok_iff]
  refine or_congr_right ⟨fun ⟨json, s, hvalue, _, hcheck, htext⟩ => ?_, fun ⟨s, hvalue, hvalid, htext⟩ => ?_⟩
  · obtain ⟨hjson, hvalid⟩ := isUUID_eq_ok_iff.mp hcheck
    exact ⟨s, hvalue.trans hjson, hvalid, htext⟩
  · exact ⟨.str s, s, hvalue, nofun, isUUID_eq_ok_iff.mpr ⟨rfl, hvalid⟩, htext⟩

theorem isOptional_of_ne_null {α : Type} {check : Option Json → Except String α} {json : Json}
    (h : json ≠ .null) : isOptional check (some json) = (check (some json)).map some := by
  cases json <;> first | rfl | exact absurd rfl h

end ClassValidator

end WebhookIdp
