import WebhookIdp.Base.Alike
import WebhookIdp.Subscription.Answers
import WebhookIdp.Subscription.PageRange

/-!
# The HTTP pipeline

A request to the subscriptions passes the identity guard, the pagination interceptor of the listing, the validation
pipe and a handler of the controller. What the handler returns is masked and put into an envelope, what is thrown on
the way goes to the exception filter. To the store a request is the request of its use case, or one that makes no
call at all.
-/

namespace WebhookIdp.Subscription

open Concurrent (Program System)
open Randomised

/-! ### The guard -/

/-- A header is sent once, or more than once. -/
inductive HeaderValue where
  | text (value : String)
  | texts (values : List String)

/-- The headers of a request by their names in lower case. -/
abbrev Headers := String → Option HeaderValue

def firstHeaderValue (value : Option HeaderValue) : Option String :=
  let raw := match value with
    | none => none
    | some (.text raw) => some raw
    | some (.texts values) => values.head?
  raw.filter fun raw => 0 < Text.length (Text.trim raw)

/-- `new UnauthorizedException(message)` -/
def unauthorizedException (message : String) : HttpException where
  name := "UnauthorizedException"
  message := message
  status := 401
  response := .object (.text message) (some "Unauthorized")

def IdentityGuard.canActivate (headers : Headers) : Except Exception ResolvedIdentity :=
  match firstHeaderValue (headers "x-tenant-id") with
  | none => .error (.http (unauthorizedException "Missing required \"x-tenant-id\" header"))
  | some tenantId =>
      match firstHeaderValue (headers "x-client-id") with
      | none => .error (.http (unauthorizedException "Missing required \"x-client-id\" header"))
      | some clientId => .ok { tenantId, clientId, userId := firstHeaderValue (headers "x-user-id") }

/-! ### What is sent back -/

structure ApiEnvelope (α : Type) where
  Data : Option α
  StatusCode : Nat
  Code : String
  Message : String
  Errors : List ApiErrorItem

def defaultMessageFor (statusCode : Nat) : String :=
  match statusCode with
  | 201 => "Created"
  | 204 => "No Content"
  | _ => "OK"

def EnvelopeInterceptor.intercept {α : Type} (statusCode : Nat) (data : Option α) : ApiEnvelope α where
  Data := data
  StatusCode := statusCode
  Code := "OK"
  Message := defaultMessageFor statusCode
  Errors := []

structure HttpReply where
  status : Nat
  body : ApiEnvelope ResponseDto

def DomainExceptionFilter.catch (exception : Exception) : HttpReply :=
  let resolved := resolve exception
  { status := resolved.status
    body := {
      Data := none
      StatusCode := resolved.status
      Code := resolved.code
      Message := resolved.message
      Errors := resolved.errors } }

/-! ### Requests -/

/-- The routes of the controller, with what they read of the URL and the body. -/
inductive Route where
  | create (body : Json.Fields)
  | list (query : Json.Fields)
  | getById (id : String)
  | update (id : String) (body : Json.Fields)
  | delete (id : String)

/-- `@HttpCode(201)` stands on the POST, the other routes have the default of their method. -/
def Route.httpCode : Route → Nat
  | create _ => 201
  | _ => 200

section Http

variable [Platform]

/-- A request, with the id that is generated if it creates a subscription and the readings of the clock. -/
structure HttpRequest where
  headers : Headers
  route : Route
  generated : SubscriptionId
  clock : Nat → Date

namespace HttpRequest

/-- The handler of the route, with the interceptor and the pipe in front of it. -/
def handler (http : HttpRequest) (identity : ResolvedIdentity) : UseCase ResponseDto :=
  match http.route with
  | .create body => do
      return .subscription (← SubscriptionsController.create identity body http.generated (http.clock 0))
  | .list query => do return .page (← listRoute identity query)
  | .getById id => do return .subscription (← SubscriptionsController.getById identity id)
  | .update id body => do return .subscription (← SubscriptionsController.update identity id body http.clock)
  | .delete id => do return .subscription (← SubscriptionsController.delete identity id (http.clock 0))

/-- All a request does before its answer is put together. -/
def handle (http : HttpRequest) : UseCase ResponseDto := do
  let identity ← (.done (IdentityGuard.canActivate http.headers) : UseCase ResolvedIdentity)
  http.handler identity

/-- The answer, from what the request has come to. -/
def reply (http : HttpRequest) (result : Except Exception ResponseDto) : Drawing HttpReply := do
  match ← TargetUrlMaskingInterceptor.intercept result with
  | .error exception => return DomainExceptionFilter.catch exception
  | .ok data =>
      return { status := http.route.httpCode, body := EnvelopeInterceptor.intercept http.route.httpCode (some data) }

/-- The tenant the headers name, if the guard lets the request through. -/
def tenant (http : HttpRequest) : Option String :=
  (IdentityGuard.canActivate http.headers).toOption.map ResolvedIdentity.tenantId

def newId (http : HttpRequest) : Option String :=
  match http.route with
  | .create _ => some http.generated.value
  | _ => none

end HttpRequest

abbrev HttpRequests (ι : Type) :=
  System ι World RepositoryCall RepositoryCall.Answer Exception ResponseDto

def HttpRequests.start {ι : Type} (https : ι → HttpRequest) (world : World) : HttpRequests ι where
  state := world
  client i := (https i).handle

/-- The answer to a request that is done. -/
def HttpRequests.answer {ι : Type} (https : ι → HttpRequest) (s : HttpRequests ι) (i : ι) : Option (Drawing HttpReply) :=
  match s.client i with
  | .done result => some ((https i).reply result)
  | .call _ _ => none

theorem HttpRequests.answer_eq_some {ι : Type} {https : ι → HttpRequest} {s : HttpRequests ι} {i : ι}
    {answer : Drawing HttpReply} (h : s.answer https i = some answer) :
    ∃ result, s.client i = .done result ∧ (https i).reply result = answer := by
  unfold HttpRequests.answer at h
  split at h
  · rename_i result hdone
    exact ⟨result, hdone, Option.some.inj h⟩
  · cases h

/-! ### What the store sees of a request -/

def toResponseDto : Response → ResponseDto
  | .subscription subscription => .subscription (toSubscriptionResponseDto subscription)
  | .page result => .page (toPaginatedSubscriptionsResponseDto result)

/-- The result of a request and that of its use case. -/
inductive Responds : Except Exception Response → Except Exception ResponseDto → Prop
  | threw (exception : Exception) : Responds (.error exception) (.error exception)
  | returned (response : Response) : Responds (.ok response) (.ok (toResponseDto response))

/-- The result of a PATCH whose body has a `null` and that of the lookup it begins with. -/
inductive RespondsNull (dto : UpdateSubscriptionDto) (clock : Nat → Date) :
    Except Exception Response → Except Exception ResponseDto → Prop
  | threw (exception : Exception) : RespondsNull dto clock (.error exception) (.error exception)
  | found {loaded : WebhookSubscription} {exception : Exception} (h : dto.apply clock loaded = .error exception) :
      RespondsNull dto clock (.ok (.subscription loaded)) (.error exception)

namespace HttpRequest

/-- What the request asks of the use cases, once nothing in front of them throws. -/
inductive Admitted (http : HttpRequest) (identity : ResolvedIdentity) :
    Request → (Except Exception Response → Except Exception ResponseDto → Prop) → Prop
  | create {body : Json.Fields} {dto : CreateSubscriptionDto} (hroute : http.route = .create body)
      (hvalid : CreateSubscriptionDto.validate body = .ok dto) :
      Admitted http identity (.create (dto.toInput identity) http.generated (http.clock 0)) Responds
  | list {query : Json.Fields} {pagination : Pagination} {dto : ListSubscriptionsQueryDto} {eventType : Option EventType}
      (hroute : http.route = .list query) (hpagination : PaginationInterceptor.intercept query = .ok pagination)
      (hvalid : ListSubscriptionsQueryDto.validate query = .ok dto) (hfilter : dto.eventTypeFilter = .ok eventType) :
      Admitted http identity (.list {
        tenantId := identity.tenantId
        filters := { status := dto.status.value?, eventType }
        pagination }) Responds
  | getById {id : String} (hroute : http.route = .getById id) :
      Admitted http identity (.get { id, tenantId := identity.tenantId }) Responds
  | update {id : String} {body : Json.Fields} {dto : UpdateSubscriptionDto} (hroute : http.route = .update id body)
      (hvalid : UpdateSubscriptionDto.validate body = .ok dto) (htyped : dto.Typed) :
      Admitted http identity (.update (dto.toInput id identity.tenantId) http.clock) Responds
  | null {id : String} {body : Json.Fields} {dto : UpdateSubscriptionDto} (hroute : http.route = .update id body)
      (hvalid : UpdateSubscriptionDto.validate body = .ok dto) (hnull : ¬ dto.Typed) :
      Admitted http identity (.get { id, tenantId := identity.tenantId }) (RespondsNull dto http.clock)
  | delete {id : String} (hroute : http.route = .delete id) :
      Admitted http identity (.delete { id, tenantId := identity.tenantId } (http.clock 0)) Responds

end HttpRequest

theorem alike_responds (execute : UseCase WebhookSubscription) :
    (execute >>= fun subscription => (pure (.subscription subscription) : UseCase Response)).Alike Responds
      ((execute >>= fun subscription => (pure (toSubscriptionResponseDto subscription) : UseCase SubscriptionResponseDto))
        >>= fun dto => (pure (.subscription dto) : UseCase ResponseDto)) := by
  rw [Program.bind_assoc]
  exact Program.alike_bind .threw fun subscription => .done (.returned (.subscription subscription))

namespace UpdateSubscriptionDto

variable {dto : UpdateSubscriptionDto}

/-- A body with a `null` never gets through its mutations. -/
theorem apply_of_not_typed (h : ¬ dto.Typed) (clock : Nat → Date) (loaded : WebhookSubscription) :
    ∃ exception, dto.apply clock loaded = .error exception := by
  cases happly : dto.apply clock loaded with
  | error exception => exact ⟨exception, rfl⟩
  | ok result =>
      obtain ⟨first, htarget, hrest⟩ := Throwing.bind_eq_ok_iff.mp happly
      obtain ⟨second, htypes, hstatus⟩ := Throwing.bind_eq_ok_iff.mp hrest
      refine absurd ⟨fun hnull => ?_, fun hnull => ?_, fun hnull => ?_⟩ h
      · rw [applyTargetUrl, hnull] at htarget
        cases htarget
      · rw [applyEventTypes, hnull] at htypes
        cases htypes
      · rw [applyStatus, hnull] at hstatus
        cases hstatus

theorem alike_executeDto_of_not_typed (h : ¬ dto.Typed) (id tenantId : String) (clock : Nat → Date) :
    (Request.get { id, tenantId }).execute.Alike (RespondsNull dto clock)
      ((UpdateSubscriptionUseCase.executeDto id tenantId dto clock >>= fun subscription =>
          (pure (toSubscriptionResponseDto subscription) : UseCase SubscriptionResponseDto))
        >>= fun dto => (pure (.subscription dto) : UseCase ResponseDto)) := by
  unfold UpdateSubscriptionUseCase.executeDto
  rw [Program.bind_assoc, Program.bind_assoc]
  refine Program.alike_bind .threw fun loaded => ?_
  obtain ⟨exception, happly⟩ := apply_of_not_typed h clock loaded
  rw [happly]
  exact .done (.found happly)

end UpdateSubscriptionDto

/-! ### Requests that are refused -/

def IsBadRequest (exception : Exception) : Prop := (DomainExceptionFilter.resolve exception).status = 400

omit [Platform] in
theorem isBadRequest_badRequest (messages : List String) : IsBadRequest (badRequest messages) := by
  cases messages <;> rfl

omit [Platform] in
theorem CreateSubscriptionDto.isBadRequest_of_invalid {body : Json.Fields} {exception : Exception}
    (h : CreateSubscriptionDto.validate body = .error exception) : IsBadRequest exception := by
  unfold CreateSubscriptionDto.validate at h
  dsimp only at h
  split at h
  · cases h
  · cases h
    exact isBadRequest_badRequest _

omit [Platform] in
theorem UpdateSubscriptionDto.isBadRequest_of_invalid {body : Json.Fields} {exception : Exception}
    (h : UpdateSubscriptionDto.validate body = .error exception) : IsBadRequest exception := by
  unfold UpdateSubscriptionDto.validate at h
  dsimp only at h
  split at h
  · cases h
  · cases h
    exact isBadRequest_badRequest _

omit [Platform] in
theorem ListSubscriptionsQueryDto.isBadRequest_of_invalid {query : Json.Fields} {exception : Exception}
    (h : ListSubscriptionsQueryDto.validate query = .error exception) : IsBadRequest exception := by
  unfold ListSubscriptionsQueryDto.validate at h
  dsimp only at h
  split at h
  · cases h
  · cases h
    exact isBadRequest_badRequest _

omit [Platform] in
theorem ListSubscriptionsQueryDto.isBadRequest_of_filter {dto : ListSubscriptionsQueryDto} {exception : Exception}
    (h : dto.eventTypeFilter = .error exception) : IsBadRequest exception := by
  have hblank (text : String) (hraise : raise ((EventType.fromString text).map some) = .error exception) :
      IsBadRequest exception := by
    unfold EventType.fromString Text.NonBlank.fromString at hraise
    split at hraise
    · cases hraise
      rfl
    · cases hraise
  unfold eventTypeFilter at h
  split at h
  · cases h
  · exact hblank _ h
  · exact hblank _ h

omit [Platform] in
theorem PaginationInterceptor.isBadRequest_of_malformed {query : Json.Fields} {exception : Exception}
    (h : PaginationInterceptor.intercept query = .error exception) : IsBadRequest exception := by
  obtain ⟨pagination, hok, -⟩ | ⟨fieldName, herror, -⟩ := intercept_cases query
  · rw [hok] at h
    cases h
  · rw [herror] at h
    cases h
    rfl

/-- A request that is answered with a 400 before it makes a call. -/
def RefusedInput (program : UseCase ResponseDto) : Prop :=
  ∃ exception, program = .done (.error exception) ∧ IsBadRequest exception

namespace HttpRequest

variable {http : HttpRequest} {identity : ResolvedIdentity}

def Runs (http : HttpRequest) (identity : ResolvedIdentity) : Prop :=
  ∃ request R, http.Admitted identity request R ∧ request.execute.Alike R (http.handler identity)

theorem handler_create {body : Json.Fields} (hroute : http.route = .create body) :
    RefusedInput (http.handler identity) ∨ http.Runs identity := by
  unfold Runs handler
  rw [hroute]
  dsimp only
  unfold SubscriptionsController.create
  cases hvalid : CreateSubscriptionDto.validate body with
  | error exception => exact Or.inl ⟨exception, rfl, CreateSubscriptionDto.isBadRequest_of_invalid hvalid⟩
  | ok dto => exact Or.inr ⟨_, _, .create hroute hvalid, alike_responds _⟩

theorem handler_list {query : Json.Fields} (hroute : http.route = .list query) :
    RefusedInput (http.handler identity) ∨ http.Runs identity := by
  unfold Runs handler
  rw [hroute]
  dsimp only
  unfold listRoute
  cases hpagination : PaginationInterceptor.intercept query with
  | error exception => exact Or.inl ⟨exception, rfl, PaginationInterceptor.isBadRequest_of_malformed hpagination⟩
  | ok pagination =>
      unfold SubscriptionsController.list
      cases hvalid : ListSubscriptionsQueryDto.validate query with
      | error exception => exact Or.inl ⟨exception, rfl, ListSubscriptionsQueryDto.isBadRequest_of_invalid hvalid⟩
      | ok dto =>
          cases hfilter : dto.eventTypeFilter with
          | error exception =>
              refine Or.inl ⟨exception, ?_, ListSubscriptionsQueryDto.isBadRequest_of_filter hfilter⟩
              show ((.done dto.eventTypeFilter : UseCase (Option EventType)) >>= _) >>= _ = _
              rw [hfilter]
              rfl
          | ok eventType =>
              refine Or.inr ⟨_, _, .list hroute hpagination hvalid hfilter, ?_⟩
              show Program.Alike Responds _ (((.done dto.eventTypeFilter : UseCase (Option EventType)) >>= _) >>= _)
              rw [hfilter]
              show Program.Alike Responds _ ((ListSubscriptionsUseCase.execute _ >>= _) >>= _)
              rw [Program.bind_assoc]
              exact Program.alike_bind .threw fun result => .done (.returned (.page result))

theorem handler_update {id : String} {body : Json.Fields} (hroute : http.route = .update id body) :
    RefusedInput (http.handler identity) ∨ http.Runs identity := by
  unfold Runs handler
  rw [hroute]
  dsimp only
  unfold SubscriptionsController.update
  cases hvalid : UpdateSubscriptionDto.validate body with
  | error exception => exact Or.inl ⟨exception, rfl, UpdateSubscriptionDto.isBadRequest_of_invalid hvalid⟩
  | ok dto =>
      by_cases htyped : dto.Typed
      · refine Or.inr ⟨_, _, .update hroute hvalid htyped, ?_⟩
        show Program.Alike Responds _ ((UpdateSubscriptionUseCase.executeDto id identity.tenantId dto http.clock >>= _) >>= _)
        rw [UpdateSubscriptionDto.executeDto_of_typed htyped]
        exact alike_responds _
      · exact Or.inr ⟨_, _, .null hroute hvalid htyped,
          UpdateSubscriptionDto.alike_executeDto_of_not_typed htyped id identity.tenantId http.clock⟩

theorem handler_cases (http : HttpRequest) (identity : ResolvedIdentity) :
    RefusedInput (http.handler identity) ∨ http.Runs identity := by
  cases hroute : http.route with
  | create body => exact handler_create hroute
  | list query => exact handler_list hroute
  | getById id =>
      refine Or.inr ⟨_, _, .getById hroute, ?_⟩
      unfold handler
      rw [hroute]
      exact alike_responds _
  | update id body => exact handler_update hroute
  | delete id =>
      refine Or.inr ⟨_, _, .delete hroute, ?_⟩
      unfold handler
      rw [hroute]
      exact alike_responds _

/-- The request to the use cases that an HTTP request leads to. -/
def Asks (http : HttpRequest) (request : Request) : Prop :=
  ∃ identity R, IdentityGuard.canActivate http.headers = .ok identity ∧ http.Admitted identity request R

/-- What comes of a request: the guard or something behind it throws, or its use case runs. -/
theorem handle_cases (http : HttpRequest) :
    (∃ exception, IdentityGuard.canActivate http.headers = .error exception ∧ http.handle = .done (.error exception)) ∨
      ∃ identity, IdentityGuard.canActivate http.headers = .ok identity ∧
        (RefusedInput http.handle ∨
          ∃ request R, http.Admitted identity request R ∧ request.execute.Alike R http.handle) := by
  unfold handle
  cases hidentity : IdentityGuard.canActivate http.headers with
  | error exception => exact Or.inl ⟨exception, rfl, rfl⟩
  | ok identity => exact Or.inr ⟨identity, rfl, http.handler_cases identity⟩

theorem Admitted.tenantId {request : Request} {R : Except Exception Response → Except Exception ResponseDto → Prop}
    (h : http.Admitted identity request R) : request.tenantId = identity.tenantId := by
  cases h <;> rfl

theorem Asks.tenant {request : Request} (h : http.Asks request) : http.tenant = some request.tenantId := by
  obtain ⟨identity, R, hidentity, hadmitted⟩ := h
  rw [HttpRequest.tenant, hidentity, hadmitted.tenantId]
  rfl

theorem Admitted.unique {request request' : Request}
    {R R' : Except Exception Response → Except Exception ResponseDto → Prop} (h : http.Admitted identity request R)
    (h' : http.Admitted identity request' R') : request = request' := by
  cases h <;> cases h' <;> simp_all

theorem Asks.unique {request request' : Request} (h : http.Asks request) (h' : http.Asks request') :
    request = request' := by
  obtain ⟨identity, R, hidentity, hadmitted⟩ := h
  obtain ⟨identity', R', hidentity', hadmitted'⟩ := h'
  rw [hidentity] at hidentity'
  cases hidentity'
  exact hadmitted.unique hadmitted'

theorem Asks.newId {request : Request} {id : String} (h : http.Asks request) (hid : request.generatedId = some id) :
    http.newId = some id := by
  obtain ⟨identity, R, -, hadmitted⟩ := h
  cases hadmitted with
  | create hroute _ =>
      rw [HttpRequest.newId, hroute]
      exact hid
  | _ => cases hid

theorem safe_handle {valid : World → Prop} {rely : World → World → Prop}
    {guarantee : (op : RepositoryCall) → World → Except Exception op.Answer → World → Prop} {world : World}
    (h : ∀ request, http.Asks request →
      Concurrent.Safe perform valid rely guarantee (fun _ _ => True) request.execute world) :
    Concurrent.Safe perform valid rely guarantee (fun _ _ => True) http.handle world := by
  obtain ⟨exception, -, hdone⟩ | ⟨identity, hidentity, hcases⟩ := http.handle_cases
  · rw [hdone]
    exact fun _ _ _ => trivial
  · obtain ⟨exception, hdone, -⟩ | ⟨request, R, hadmitted, halike⟩ := hcases
    · rw [hdone]
      exact fun _ _ _ => trivial
    · exact halike.safe (fun _ _ _ _ _ => trivial) (h request ⟨identity, R, hidentity, hadmitted⟩)

end HttpRequest

end Http

/-! ### Three callers -/

section Sample

attribute [local instance] samplePlatform

def sampleHeaders (tenantId : String) : Headers := fun name =>
  if name = "x-tenant-id" then some (.text tenantId)
  else if name = "x-client-id" then some (.text "client-1")
  else none

inductive SampleCaller where
  | owner
  | stranger
  | anonymous
  deriving DecidableEq

/-- The owner of the sample subscription deletes it, another tenant creates one, and someone without headers lists. -/
def threeCallers : SampleCaller → HttpRequest
  | .owner => { headers := sampleHeaders "tenant-1", route := .delete sampleKey.id, generated := otherId, clock := fun n => n }
  | .stranger => {
      headers := sampleHeaders "tenant-2"
      route := .create [("targetUrl", .str "https://client.example.com/inbound"), ("eventTypes", .arr [.str "order.created"])]
      generated := otherId
      clock := fun n => n }
  | .anonymous => { headers := fun _ => none, route := .list [], generated := otherId, clock := fun n => n }

end Sample

end WebhookIdp.Subscription
