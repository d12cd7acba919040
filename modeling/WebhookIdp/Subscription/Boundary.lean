import WebhookIdp.Decorators
import WebhookIdp.Subscription.UseCases

/-!
# The HTTP boundary of the subscriptions

The transfer objects, with the checks of their decorators, and the handlers of the controller. A property of a
PATCH body can be `null`: the decorators skip it, the declared type of the input excludes it, and the use case
takes everything but `undefined` for a given value.
-/

namespace WebhookIdp.Subscription

open ClassValidator
open ValidationPipe (toInstance)

/-- What `ValidationPipe` throws. -/
def badRequest (messages : List String) : Exception :=
  .http {
    name := "BadRequestException"
    message := "Bad Request Exception"
    status := 400
    response := .object (.list messages) (some "Bad Request") }

/-- The messages of the constraints of one property. -/
def violations {α : Type} : Except (List String) α → List String
  | .ok _ => []
  | .error messages => messages

/-! ### The transfer objects -/

def targetUrlConstraints (value : Option Json) : Except (List String) String :=
  (isString "targetUrl" value).mapError fun message => [message]

/-- The decorators of a property are checked from the last to the first. -/
def eventTypesConstraints (value : Option Json) : Except (List String) (List String) :=
  let strings := isStringEach "eventTypes" value
  let notEmpty := arrayNotEmpty "eventTypes" value
  let array := isArray "eventTypes" value
  match strings, notEmpty, array with
  | .ok eventTypes, .ok _, .ok _ => .ok eventTypes
  | strings, notEmpty, array => .error [violation strings, violation notEmpty, violation array].reduceOption

def statusConstraints (value : Option Json) : Except (List String) SubscriptionStatus :=
  (isIn "status" [("ACTIVE", .ACTIVE), ("PAUSED", .PAUSED), ("DELETED", .DELETED)] value).mapError
    fun message => [message]

structure CreateSubscriptionDto where
  targetUrl : String
  eventTypes : List String

/-- `ValidationPipe` with `whitelist` and `transform`. -/
def CreateSubscriptionDto.validate (body : Json.Fields) : Except Exception CreateSubscriptionDto :=
  let dto := toInstance [] body
  let targetUrl := targetUrlConstraints (dto.lookup "targetUrl")
  let eventTypes := eventTypesConstraints (dto.lookup "eventTypes")
  match targetUrl, eventTypes with
  | .ok targetUrl, .ok eventTypes => .ok { targetUrl, eventTypes }
  | targetUrl, eventTypes => .error (badRequest (violations targetUrl ++ violations eventTypes))

structure UpdateSubscriptionDto where
  targetUrl : Property String
  eventTypes : Property (List String)
  status : Property SubscriptionStatus

def UpdateSubscriptionDto.validate (body : Json.Fields) : Except Exception UpdateSubscriptionDto :=
  let dto := toInstance [] body
  let targetUrl := isOptionalProperty targetUrlConstraints (dto.lookup "targetUrl")
  let eventTypes := isOptionalProperty eventTypesConstraints (dto.lookup "eventTypes")
  let status := isOptionalProperty statusConstraints (dto.lookup "status")
  match targetUrl, eventTypes, status with
  | .ok targetUrl, .ok eventTypes, .ok status => .ok { targetUrl, eventTypes, status }
  | targetUrl, eventTypes, status =>
      .error (badRequest (violations targetUrl ++ violations eventTypes ++ violations status))

/-! ### Responses -/

/-- `toISOString()` of a valid date. -/
def Date.toISOString (date : Date) : String :=
  let pad (width : Nat) (n : Nat) : String :=
    let digits := Nat.toDigits 10 n
    String.ofList (List.replicate (width - digits.length) '0' ++ digits)
  let time := (date % 86400000).toNat
  -- the days since 0000-03-01, in eras of 400 years that begin in March
  let days := date / 86400000 + 719468
  let dayOfEra := (days % 146097).toNat
  let yearOfEra := (dayOfEra - dayOfEra / 1460 + dayOfEra / 36524 - dayOfEra / 146096) / 365
  let dayOfYear := dayOfEra - (365 * yearOfEra + yearOfEra / 4 - yearOfEra / 100)
  let marchMonth := (5 * dayOfYear + 2) / 153
  let day := dayOfYear - (153 * marchMonth + 2) / 5 + 1
  let month := if marchMonth < 10 then marchMonth + 3 else marchMonth - 9
  let year := yearOfEra + days / 146097 * 400 + (if month ≤ 2 then 1 else 0)
  let yearText :=
    if 0 ≤ year ∧ year ≤ 9999 then pad 4 year.toNat
    else (if year < 0 then "-" else "+") ++ pad 6 year.natAbs
  yearText ++ "-" ++ pad 2 month ++ "-" ++ pad 2 day ++ "T" ++ pad 2 (time / 3600000) ++ ":" ++
    pad 2 (time / 60000 % 60) ++ ":" ++ pad 2 (time / 1000 % 60) ++ "." ++ pad 3 (time % 1000) ++ "Z"

structure SubscriptionResponseDto where
  Id : String
  TargetUrl : String
  EventTypes : List String
  Status : String
  CreatedAt : String
  UpdatedAt : String
  deriving DecidableEq, Repr

variable [Platform]

def toSubscriptionResponseDto (subscription : WebhookSubscription) : SubscriptionResponseDto where
  Id := subscription.id.value
  TargetUrl := subscription.targetUrl.value
  EventTypes := subscription.subscribedEventTypes.map fun eventType => eventType.value
  Status := toString subscription.status
  CreatedAt := Date.toISOString subscription.createdAt
  UpdatedAt := Date.toISOString subscription.updatedAt

/-! ### The use case on a body with `null` -/

namespace UpdateSubscriptionDto

variable (dto : UpdateSubscriptionDto) (clock : Nat → Date)

def applyTargetUrl (subscription : WebhookSubscription) : Except Exception WebhookSubscription :=
  match dto.targetUrl with
  | .undefined => .ok subscription
  | .null => .error (.typeError "Cannot read properties of null (reading 'length')")
  | .value targetUrl => do
      let targetUrl ← raise (TargetUrl.fromString targetUrl)
      raise (subscription.updateTargetUrl targetUrl (clock 0))

def applyEventTypes (subscription : WebhookSubscription) : Except Exception WebhookSubscription :=
  match dto.eventTypes with
  | .undefined => .ok subscription
  | .null => .error (.typeError "Cannot read properties of null (reading 'map')")
  | .value eventTypes => do
      let eventTypes ← raise (eventTypes.mapM EventType.fromString)
      raise (subscription.updateSubscribedEventTypes eventTypes (clock 1))

def applyStatus (subscription : WebhookSubscription) : Except Exception WebhookSubscription :=
  match dto.status with
  | .undefined => .ok subscription
  | .null => .error (.domain (.invalidStatusTransition
      "Cannot transition to status null via update; use DeleteSubscription instead"))
  | .value status => raise (Subscription.applyStatus subscription status (clock 2))

def apply (subscription : WebhookSubscription) : Except Exception WebhookSubscription := do
  let subscription ← dto.applyTargetUrl clock subscription
  let subscription ← dto.applyEventTypes clock subscription
  dto.applyStatus clock subscription

/-- The input the use case declares, of a body without `null`. -/
def toInput (id tenantId : String) : UpdateSubscriptionInput where
  id := id
  tenantId := tenantId
  targetUrl := dto.targetUrl.value?
  eventTypes := dto.eventTypes.value?
  status := dto.status.value?

end UpdateSubscriptionDto

/-- `UpdateSubscriptionUseCase.execute` on what the pipe lets through. -/
def UpdateSubscriptionUseCase.executeDto (id tenantId : String) (dto : UpdateSubscriptionDto)
    (clock : Nat → Date) : UseCase WebhookSubscription := do
  let subscription ← findOrThrow id tenantId
  let subscription ← (.done (dto.apply clock subscription) : UseCase WebhookSubscription)
  saveAndPublish subscription

/-! ### The controller -/

structure ResolvedIdentity where
  tenantId : String
  clientId : String
  userId : Option String

def CreateSubscriptionDto.toInput (dto : CreateSubscriptionDto) (identity : ResolvedIdentity) :
    CreateSubscriptionInput where
  tenantId := identity.tenantId
  createdByClientId := identity.clientId
  createdByUserId := identity.userId
  targetUrl := dto.targetUrl
  eventTypes := dto.eventTypes

namespace SubscriptionsController

/-- `POST /subscriptions`, with the id and the time that are generated for it. -/
def create (identity : ResolvedIdentity) (body : Json.Fields) (id : SubscriptionId) (now : Date) :
    UseCase SubscriptionResponseDto := do
  let dto ← (.done (CreateSubscriptionDto.validate body) : UseCase CreateSubscriptionDto)
  let subscription ← CreateSubscriptionUseCase.execute (dto.toInput identity) id now
  return toSubscriptionResponseDto subscription

/-- `GET /subscriptions/:id` -/
def getById (identity : ResolvedIdentity) (id : String) : UseCase SubscriptionResponseDto := do
  let subscription ← GetSubscriptionUseCase.execute { id, tenantId := identity.tenantId }
  return toSubscriptionResponseDto subscription

/-- `PATCH /subscriptions/:id` -/
def update (identity : ResolvedIdentity) (id : String) (body : Json.Fields) (clock : Nat → Date) :
    UseCase SubscriptionResponseDto := do
  let dto ← (.done (UpdateSubscriptionDto.validate body) : UseCase UpdateSubscriptionDto)
  let subscription ← UpdateSubscriptionUseCase.executeDto id identity.tenantId dto clock
  return toSubscriptionResponseDto subscription

/-- `DELETE /subscriptions/:id` -/
def delete (identity : ResolvedIdentity) (id : String) (now : Date) : UseCase SubscriptionResponseDto := do
  let subscription ← DeleteSubscriptionUseCase.execute { id, tenantId := identity.tenantId } now
  return toSubscriptionResponseDto subscription

end SubscriptionsController

/-! ### Bodies without `null` -/

namespace UpdateSubscriptionDto

/-- No property is `null`. -/
structure Typed (dto : UpdateSubscriptionDto) : Prop where
  targetUrl : dto.targetUrl ≠ .null
  eventTypes : dto.eventTypes ≠ .null
  status : dto.status ≠ .null

variable {dto : UpdateSubscriptionDto} {clock : Nat → Date} {subscription : WebhookSubscription}

theorem applyTargetUrl_of_value {text : String} (h : dto.targetUrl = .value text) :
    dto.applyTargetUrl clock subscription =
      raise (TargetUrl.fromString text >>= fun targetUrl => subscription.updateTargetUrl targetUrl (clock 0)) := by
  rw [applyTargetUrl, h, raise_bind]

theorem applyEventTypes_of_value {texts : List String} (h : dto.eventTypes = .value texts) :
    dto.applyEventTypes clock subscription = raise (texts.mapM EventType.fromString >>= fun eventTypes =>
      subscription.updateSubscribedEventTypes eventTypes (clock 1)) := by
  rw [applyEventTypes, h, raise_bind]

/-- On a body without `null` the mutations are those of the declared input. -/
theorem apply_of_typed (h : dto.Typed) (id tenantId : String) (clock : Nat → Date)
    (subscription : WebhookSubscription) :
    dto.apply clock subscription = raise ((dto.toInput id tenantId).apply clock subscription) := by
  have htarget (subscription : WebhookSubscription) : dto.applyTargetUrl clock subscription =
      raise ((dto.toInput id tenantId).applyTargetUrl clock subscription) := by
    rw [UpdateSubscriptionInput.applyTargetUrl, toInput]
    cases hvalue : dto.targetUrl with
    | undefined => rw [applyTargetUrl, hvalue]; rfl
    | null => exact absurd hvalue h.targetUrl
    | value targetUrl => exact applyTargetUrl_of_value hvalue
  have htypes (subscription : WebhookSubscription) : dto.applyEventTypes clock subscription =
      raise ((dto.toInput id tenantId).applyEventTypes clock subscription) := by
    rw [UpdateSubscriptionInput.applyEventTypes, toInput]
    cases hvalue : dto.eventTypes with
    | undefined => rw [applyEventTypes, hvalue]; rfl
    | null => exact absurd hvalue h.eventTypes
    | value eventTypes => exact applyEventTypes_of_value hvalue
  have hstatus (subscription : WebhookSubscription) : dto.applyStatus clock subscription =
      raise ((dto.toInput id tenantId).applyStatus clock subscription) := by
    rw [applyStatus, UpdateSubscriptionInput.applyStatus, toInput]
    cases hvalue : dto.status with
    | undefined => rfl
    | null => exact absurd hvalue h.status
    | value status => rfl
  simp only [apply, UpdateSubscriptionInput.apply, raise_bind, htarget, htypes, hstatus]

theorem executeDto_of_typed (h : dto.Typed) (id tenantId : String) (clock : Nat → Date) :
    UpdateSubscriptionUseCase.executeDto id tenantId dto clock =
      UpdateSubscriptionUseCase.execute (dto.toInput id tenantId) clock := by
  unfold UpdateSubscriptionUseCase.executeDto UpdateSubscriptionUseCase.execute
  simp only [apply_of_typed h id tenantId]
  rfl

end UpdateSubscriptionDto

/-! ### Updates of the target URL -/

/-- Nothing in the body but its target URL keeps an update from a subscription in this status. -/
structure UpdateSubscriptionDto.Admits (dto : UpdateSubscriptionDto) (status : SubscriptionStatus) : Prop where
  not_deleted : status ≠ .DELETED
  eventTypes : dto.eventTypes = .undefined ∨ ∃ texts, dto.eventTypes = .value texts ∧ texts ≠ [] ∧
    ∀ text ∈ texts, Text.isBlank text = false
  status : dto.status = .undefined ∨ dto.status = .value .ACTIVE ∧ status = .PAUSED ∨
    dto.status = .value .PAUSED ∧ status = .ACTIVE

namespace UpdateSubscriptionDto

variable {dto : UpdateSubscriptionDto} {clock : Nat → Date} {subscription result : WebhookSubscription}

theorem applyTargetUrl_eq_ok_iff {text : String} (h : dto.targetUrl = .value text) :
    dto.applyTargetUrl clock subscription = .ok result ↔ ∃ target, TargetUrl.fromString text = .ok target ∧
      subscription.status ≠ .DELETED ∧ result = { subscription with targetUrl := target, updatedAt := clock 0 } := by
  rw [applyTargetUrl_of_value h, raise_eq_ok_iff, Throwing.bind_eq_ok_iff]
  simp only [WebhookSubscription.updateTargetUrl_eq_ok_iff]

theorem applyEventTypes_eq_ok_iff :
    dto.applyEventTypes clock subscription = .ok result ↔ dto.eventTypes = .undefined ∧ result = subscription ∨
      ∃ texts eventTypes, dto.eventTypes = .value texts ∧ texts.mapM EventType.fromString = .ok eventTypes ∧
        subscription.status ≠ .DELETED ∧ eventTypes ≠ [] ∧
        result = { subscription with subscribedEventTypes := eventTypes, updatedAt := clock 1 } := by
  cases hvalue : dto.eventTypes with
  | undefined =>
      rw [applyEventTypes, hvalue]
      simp [eq_comm]
  | null =>
      rw [applyEventTypes, hvalue]
      simp
  | value texts =>
      rw [applyEventTypes_of_value hvalue, raise_eq_ok_iff, Throwing.bind_eq_ok_iff]
      simp [WebhookSubscription.updateSubscribedEventTypes_eq_ok_iff]

theorem applyStatus_eq_ok_iff :
    dto.applyStatus clock subscription = .ok result ↔ dto.status = .undefined ∧ result = subscription ∨
      dto.status = .value .ACTIVE ∧ subscription.status = .PAUSED ∧
        result = { subscription with status := .ACTIVE, updatedAt := clock 2 }.record
          (.SubscriptionResumed subscription.id.value (clock 2)) ∨
      dto.status = .value .PAUSED ∧ subscription.status = .ACTIVE ∧
        result = { subscription with status := .PAUSED, updatedAt := clock 2 }.record
          (.SubscriptionPaused subscription.id.value (clock 2)) := by
  cases hvalue : dto.status with
  | undefined =>
      rw [applyStatus, hvalue]
      simp [eq_comm]
  | null =>
      rw [applyStatus, hvalue]
      simp
  | value status =>
      rw [applyStatus, hvalue]
      show raise (Subscription.applyStatus subscription status (clock 2)) = .ok result ↔ _
      rw [raise_eq_ok_iff]
      cases status with
      | ACTIVE => simp [Subscription.applyStatus, WebhookSubscription.resume_eq_ok_iff]
      | PAUSED => simp [Subscription.applyStatus, WebhookSubscription.pause_eq_ok_iff]
      | DELETED => simp [Subscription.applyStatus]

omit [Platform] in
theorem exists_eventTypes_iff {texts : List String} :
    (∃ eventTypes, texts.mapM EventType.fromString = .ok eventTypes ∧ eventTypes ≠ []) ↔
      texts ≠ [] ∧ ∀ text ∈ texts, Text.isBlank text = false := by
  have hnonempty {eventTypes : List EventType} (h : texts.mapM EventType.fromString = .ok eventTypes) :
      eventTypes ≠ [] ↔ texts ≠ [] := by
    rw [← Throwing.map_eq_of_mapM_eq_ok (fun _ _ => Text.NonBlank.fromString_eq_ok_iff.mp) h]
    simp
  constructor
  · rintro ⟨eventTypes, hread, hne⟩
    refine ⟨(hnonempty hread).mp hne, fun text htext => ?_⟩
    obtain ⟨eventType, heventType⟩ := Throwing.exists_mapM_eq_ok_iff.mp ⟨eventTypes, hread⟩ text htext
    rw [← Text.NonBlank.fromString_eq_ok_iff.mp heventType]
    exact eventType.nonBlank
  · rintro ⟨hne, hblank⟩
    obtain ⟨eventTypes, hread⟩ := Throwing.exists_mapM_eq_ok_iff.mpr fun text htext =>
      ⟨⟨text, hblank text htext⟩, Text.NonBlank.fromString_eq_ok_iff.mpr rfl⟩
    exact ⟨eventTypes, hread, (hnonempty hread).mpr hne⟩

theorem admits_of_apply {text : String} (hvalue : dto.targetUrl = .value text)
    (h : dto.apply clock subscription = .ok result) : dto.Admits subscription.status ∧
      TargetUrl.fromString text = .ok result.targetUrl ∧ result.id = subscription.id ∧
      result.tenantId = subscription.tenantId := by
  rw [apply, Throwing.bind_eq_ok_iff] at h
  obtain ⟨first, hfirst, hrest⟩ := h
  obtain ⟨second, hsecond, hthird⟩ := Throwing.bind_eq_ok_iff.mp hrest
  obtain ⟨target, htarget, hstatus, rfl⟩ := (applyTargetUrl_eq_ok_iff hvalue).mp hfirst
  have hkept : (dto.eventTypes = .undefined ∨ ∃ texts, dto.eventTypes = .value texts ∧ texts ≠ [] ∧
      ∀ text ∈ texts, Text.isBlank text = false) ∧ second.status = subscription.status ∧
      second.targetUrl = target ∧ second.id = subscription.id ∧ second.tenantId = subscription.tenantId := by
    rcases applyEventTypes_eq_ok_iff.mp hsecond with ⟨hundefined, rfl⟩ | ⟨texts, eventTypes, htexts, hread, -, hne, rfl⟩
    · exact ⟨Or.inl hundefined, rfl, rfl, rfl, rfl⟩
    · exact ⟨Or.inr ⟨texts, htexts, exists_eventTypes_iff.mp ⟨eventTypes, hread, hne⟩⟩, rfl, rfl, rfl, rfl⟩
  obtain ⟨heventTypes, hstatusKept, rfl, hid, htenant⟩ := hkept
  rcases applyStatus_eq_ok_iff.mp hthird with ⟨hundefined, rfl⟩ | ⟨hactive, hpaused, rfl⟩ | ⟨hpaused, hactive, rfl⟩
  · exact ⟨⟨hstatus, heventTypes, Or.inl hundefined⟩, htarget, hid, htenant⟩
  · exact ⟨⟨hstatus, heventTypes, Or.inr (Or.inl ⟨hactive, hstatusKept ▸ hpaused⟩)⟩, htarget, hid, htenant⟩
  · exact ⟨⟨hstatus, heventTypes, Or.inr (Or.inr ⟨hpaused, hstatusKept ▸ hactive⟩)⟩, htarget, hid, htenant⟩

theorem exists_apply_of_admits {text : String} {target : TargetUrl} (hvalue : dto.targetUrl = .value text)
    (htarget : TargetUrl.fromString text = .ok target) (h : dto.Admits subscription.status) (clock : Nat → Date) :
    ∃ result, dto.apply clock subscription = .ok result := by
  have hfirst : dto.applyTargetUrl clock subscription =
      .ok { subscription with targetUrl := target, updatedAt := clock 0 } :=
    (applyTargetUrl_eq_ok_iff hvalue).mpr ⟨target, htarget, h.not_deleted, rfl⟩
  obtain ⟨second, hsecond, hstatus⟩ : ∃ second, dto.applyEventTypes clock
      { subscription with targetUrl := target, updatedAt := clock 0 } = .ok second ∧
        second.status = subscription.status := by
    rcases h.eventTypes with hundefined | ⟨texts, htexts, hreadable⟩
    · exact ⟨_, applyEventTypes_eq_ok_iff.mpr (Or.inl ⟨hundefined, rfl⟩), rfl⟩
    · obtain ⟨eventTypes, hread, hne⟩ := exists_eventTypes_iff.mpr hreadable
      exact ⟨_, applyEventTypes_eq_ok_iff.mpr (Or.inr ⟨texts, eventTypes, htexts, hread, h.not_deleted, hne, rfl⟩), rfl⟩
  obtain ⟨third, hthird⟩ : ∃ third, dto.applyStatus clock second = .ok third := by
    rcases h.status with hundefined | ⟨hactive, hpaused⟩ | ⟨hpaused, hactive⟩
    · exact ⟨_, applyStatus_eq_ok_iff.mpr (Or.inl ⟨hundefined, rfl⟩)⟩
    · exact ⟨_, applyStatus_eq_ok_iff.mpr (Or.inr (Or.inl ⟨hactive, hstatus.trans hpaused, rfl⟩))⟩
    · exact ⟨_, applyStatus_eq_ok_iff.mpr (Or.inr (Or.inr ⟨hpaused, hstatus.trans hactive, rfl⟩))⟩
  exact ⟨third, Throwing.bind_eq_ok_iff.mpr ⟨_, hfirst, Throwing.bind_eq_ok_iff.mpr ⟨second, hsecond, hthird⟩⟩⟩

omit [Platform] in
theorem targetUrl_of_validate {body : Json.Fields} {text : String} (hvalid : UpdateSubscriptionDto.validate body = .ok dto)
    (hbody : body.lookup "targetUrl" = some (.str text)) : dto.targetUrl = .value text := by
  have hlookup : (toInstance [] body).lookup "targetUrl" = some (.str text) := by
    rw [ValidationPipe.lookup_toInstance (by decide) (by decide) (by decide), hbody]
    rfl
  unfold UpdateSubscriptionDto.validate at hvalid
  dsimp only at hvalid
  rw [hlookup] at hvalid
  split at hvalid
  · rename_i targetUrl _ _ htarget _ _
    cases hvalid
    exact (Except.ok.inj htarget).symm
  · cases hvalid

end UpdateSubscriptionDto

end WebhookIdp.Subscription
