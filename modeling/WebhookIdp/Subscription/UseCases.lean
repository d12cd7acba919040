import WebhookIdp.Subscription.Repository

/-!
# The use cases

Each use case is a program over the calls of the repository and the event publisher. Generated ids and
clock readings are inputs of a request: `now` where the code reads the clock once, and `clock n` where
an update reads it for the `n`-th field of its input.
-/

namespace WebhookIdp.Subscription

section UseCases

variable [Platform]

abbrev UseCase (α : Type) := Concurrent.Program RepositoryCall RepositoryCall.Answer Exception α

namespace UseCase

def check {α : Type} (x : Except DomainError α) : UseCase α := .done (raise x)

def request (op : RepositoryCall) : UseCase op.Answer := Concurrent.Program.request op

end UseCase

open UseCase

/-- `save`, then `publishAll(pullDomainEvents())`, as every use case that writes ends. -/
def saveAndPublish (subscription : WebhookSubscription) : UseCase WebhookSubscription := do
  request (.save subscription)
  let (events, subscription) := subscription.pullDomainEvents
  request (.publishAll events)
  return subscription

/-- The lookup with which the use cases on one subscription start. -/
def findOrThrow (id tenantId : String) : UseCase WebhookSubscription := do
  let subscriptionId ← check (SubscriptionId.fromString id)
  let tenant ← check (TenantId.fromString tenantId)
  let subscription ← request (.findByIdAndTenant subscriptionId tenant)
  match subscription with
  | none => throw (.application (.subscriptionNotFound s!"Subscription \"{id}\" was not found"))
  | some subscription => return subscription

/-! ### Create -/

structure CreateSubscriptionInput where
  tenantId : String
  createdByClientId : String
  createdByUserId : Option String
  targetUrl : String
  eventTypes : List String

/-- The subscription a request creates once its duplicate check has passed. -/
def CreateSubscriptionInput.create (input : CreateSubscriptionInput) (tenantId : TenantId)
    (targetUrl : TargetUrl) (id : SubscriptionId) (now : Date) : Except DomainError WebhookSubscription := do
  let createdByClientId ← ClientId.fromString input.createdByClientId
  let createdByUserId ← input.createdByUserId.mapM UserId.fromString
  let subscribedEventTypes ← input.eventTypes.mapM EventType.fromString
  WebhookSubscription.create { tenantId, createdByClientId, createdByUserId, targetUrl, subscribedEventTypes }
    id now

def CreateSubscriptionUseCase.execute (input : CreateSubscriptionInput) (id : SubscriptionId) (now : Date) :
    UseCase WebhookSubscription := do
  let tenantId ← check (TenantId.fromString input.tenantId)
  let targetUrl ← check (TargetUrl.fromString input.targetUrl)
  let existing ← request (.findByTenantAndTargetUrl tenantId targetUrl)
  match existing with
  | some _ => throw (.application (.duplicateSubscription
      s!"A subscription for tenant \"{input.tenantId}\" and targetUrl \"{input.targetUrl}\" already exists"))
  | none =>
      let subscription ← check (input.create tenantId targetUrl id now)
      saveAndPublish subscription

/-! ### Update -/

structure UpdateSubscriptionInput where
  id : String
  tenantId : String
  targetUrl : Option String
  eventTypes : Option (List String)
  status : Option SubscriptionStatus

def applyStatus (subscription : WebhookSubscription) (status : SubscriptionStatus) (now : Date) :
    Except DomainError WebhookSubscription :=
  match status with
  | .ACTIVE => subscription.resume now
  | .PAUSED => subscription.pause now
  | .DELETED => .error (.invalidStatusTransition
      s!"Cannot transition to status {status} via update; use DeleteSubscription instead")

namespace UpdateSubscriptionInput

variable (input : UpdateSubscriptionInput) (clock : Nat → Date)

def applyTargetUrl (subscription : WebhookSubscription) : Except DomainError WebhookSubscription :=
  match input.targetUrl with
  | none => .ok subscription
  | some targetUrl => do
      let targetUrl ← TargetUrl.fromString targetUrl
      subscription.updateTargetUrl targetUrl (clock 0)

def applyEventTypes (subscription : WebhookSubscription) : Except DomainError WebhookSubscription :=
  match input.eventTypes with
  | none => .ok subscription
  | some eventTypes => do
      let eventTypes ← eventTypes.mapM EventType.fromString
      subscription.updateSubscribedEventTypes eventTypes (clock 1)

def applyStatus (subscription : WebhookSubscription) : Except DomainError WebhookSubscription :=
  match input.status with
  | none => .ok subscription
  | some status => Subscription.applyStatus subscription status (clock 2)

/-- The mutations of one update, in the order of the source. -/
def apply (subscription : WebhookSubscription) : Except DomainError WebhookSubscription := do
  let subscription ← input.applyTargetUrl clock subscription
  let subscription ← input.applyEventTypes clock subscription
  input.applyStatus clock subscription

end UpdateSubscriptionInput

def UpdateSubscriptionUseCase.execute (input : UpdateSubscriptionInput) (clock : Nat → Date) :
    UseCase WebhookSubscription := do
  let subscription ← findOrThrow input.id input.tenantId
  let subscription ← check (input.apply clock subscription)
  saveAndPublish subscription

/-! ### Delete, get and list -/

structure SubscriptionKeyInput where
  id : String
  tenantId : String

def DeleteSubscriptionUseCase.execute (input : SubscriptionKeyInput) (now : Date) :
    UseCase WebhookSubscription := do
  let subscription ← findOrThrow input.id input.tenantId
  saveAndPublish (subscription.delete now)

def GetSubscriptionUseCase.execute (input : SubscriptionKeyInput) : UseCase WebhookSubscription :=
  findOrThrow input.id input.tenantId

structure ListSubscriptionsInput where
  tenantId : String
  filters : SubscriptionListFilters
  pagination : Pagination

def ListSubscriptionsUseCase.execute (input : ListSubscriptionsInput) :
    UseCase (PaginatedResult WebhookSubscription) := do
  let tenantId ← check (TenantId.fromString input.tenantId)
  request (.list tenantId input.filters input.pagination)

/-! ### Requests -/

/-- One request with all it depends on besides the store. -/
inductive Request where
  | create (input : CreateSubscriptionInput) (id : SubscriptionId) (now : Date)
  | get (input : SubscriptionKeyInput)
  | list (input : ListSubscriptionsInput)
  | update (input : UpdateSubscriptionInput) (clock : Nat → Date)
  | delete (input : SubscriptionKeyInput) (now : Date)

inductive Response where
  | subscription (subscription : WebhookSubscription)
  | page (result : PaginatedResult WebhookSubscription)

namespace Request

/-- The tenant the identity headers of the request name. -/
def tenantId : Request → String
  | create input _ _ => input.tenantId
  | get input => input.tenantId
  | list input => input.tenantId
  | update input _ => input.tenantId
  | delete input _ => input.tenantId

/-- The id a create request generates. -/
def generatedId : Request → Option String
  | create _ id _ => some id.value
  | _ => none

def execute : Request → UseCase Response
  | create input id now => do return .subscription (← CreateSubscriptionUseCase.execute input id now)
  | get input => do return .subscription (← GetSubscriptionUseCase.execute input)
  | list input => do return .page (← ListSubscriptionsUseCase.execute input)
  | update input clock => do return .subscription (← UpdateSubscriptionUseCase.execute input clock)
  | delete input now => do return .subscription (← DeleteSubscriptionUseCase.execute input now)

end Request

abbrev Requests (ι : Type) := Concurrent.System ι World RepositoryCall RepositoryCall.Answer Exception Response

/-- All requests have arrived and none has made a call. -/
def Requests.start {ι : Type} (requests : ι → Request) (world : World) : Requests ι where
  state := world
  client i := (requests i).execute

end UseCases

/-! ### A small installation -/

section Sample

@[reducible] def samplePlatform : Platform :=
  Platform.ofTable
    [("https://client.example.com/inbound", URL.https "client.example.com" "/inbound"),
      ("https://client.example.com/outbound", URL.https "client.example.com" "/outbound")]
    ["018f5b3e-9c1a-7c3e-8f3a-6b6b6b6b6b6b", "018f5b3e-9c1b-7c3e-8f3a-6b6b6b6b6b6b"]

attribute [local instance] samplePlatform

theorem samplePlatform_reparsesSerialised : URL.ReparsesSerialised :=
  URL.reparsesSerialised_ofTable (by decide)

def sampleTenant : TenantId := ⟨"tenant-1", by decide⟩

def sampleId : SubscriptionId := ⟨"018f5b3e-9c1a-7c3e-8f3a-6b6b6b6b6b6b", by decide⟩

def sampleInput : CreateSubscriptionInput where
  tenantId := "tenant-1"
  createdByClientId := "client-1"
  createdByUserId := none
  targetUrl := "https://client.example.com/inbound"
  eventTypes := ["order.created"]

def sampleKey : SubscriptionKeyInput := { id := "018f5b3e-9c1a-7c3e-8f3a-6b6b6b6b6b6b", tenantId := "tenant-1" }

def emptyWorld : World := { subscriptions := .empty, published := [] }

/-- The state one create request leaves. -/
def sampleWorld : World :=
  ((Request.create sampleInput sampleId 0).execute.eval (fun op => perform op .insertion) emptyWorld).2

def otherId : SubscriptionId := ⟨"018f5b3e-9c1b-7c3e-8f3a-6b6b6b6b6b6b", by decide⟩

def twoSubscriptions : World :=
  ((Request.create { sampleInput with targetUrl := "https://client.example.com/outbound" } otherId 0).execute.eval
    (fun op => perform op .insertion) sampleWorld).2

def succeeded : UseCase Response → Bool
  | .done (.ok _) => true
  | _ => false

theorem exists_of_succeeded {program : UseCase Response} (h : succeeded program = true) :
    ∃ response, program = .done (.ok response) := by
  rcases program with (exception | response) | ⟨op, next⟩
  · cases h
  · exact ⟨response, rfl⟩
  · cases h

end Sample

end WebhookIdp.Subscription
