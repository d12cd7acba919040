import WebhookIdp.Subscription.Boundary
import WebhookIdp.Subscription.Sequential

/-!
# How a request with a wrong body is answered

What the pipe rejects and what the domain and the application throw is answered with 400, 404 or 409. A PATCH
whose `targetUrl` or `eventTypes` is `null` passes the pipe, and where the use case comes to use the value it
throws a `TypeError`, which is answered with 500.
-/

namespace WebhookIdp.Subscription

open Concurrent (Program)

section Answers

variable [Platform]

/-! ### What the filter reports -/

/-- The filter answers the exception as an error of the request. -/
def Reported (exception : Exception) : Prop := (DomainExceptionFilter.resolve exception).status ∈ [400, 404, 409]

/-- The request succeeds, its store fails, or it is answered as an error of the request. -/
def Answered {α : Type} (result : Except Exception α) : Prop :=
  ∀ exception, result = .error exception → (∃ error, exception = .mongo error) ∨ Reported exception

omit [Platform] in
theorem reported_domain (error : DomainError) : Reported (.domain error) := by
  cases error <;> simp [Reported, DomainExceptionFilter.resolve, single]

omit [Platform] in
theorem reported_application (error : ApplicationError) : Reported (.application error) := by
  cases error <;> simp [Reported, DomainExceptionFilter.resolve, single]

omit [Platform] in
theorem reported_badRequest (messages : List String) : Reported (badRequest messages) := by
  cases messages <;> simp [Reported, DomainExceptionFilter.resolve, DomainExceptionFilter.resolveHttpException,
    badRequest, single]

omit [Platform] in
theorem not_reported_typeError (message : String) : ¬ Reported (.typeError message) := by
  simp [Reported, DomainExceptionFilter.resolve, single]

omit [Platform] in
theorem answered_ok {α : Type} (a : α) : Answered (.ok a : Except Exception α) := nofun

omit [Platform] in
theorem answered_error {α : Type} {exception : Exception}
    (h : (∃ error, exception = .mongo error) ∨ Reported exception) :
    Answered (.error exception : Except Exception α) := by
  rintro _ ⟨⟩
  exact h

omit [Platform] in
theorem not_answered_typeError {α : Type} (message : String) :
    ¬ Answered (.error (.typeError message) : Except Exception α) := by
  intro h
  rcases h _ rfl with ⟨error, herror⟩ | hreported
  · cases herror
  · exact not_reported_typeError message hreported

/-! ### What the use cases throw -/

omit [Platform] in
theorem raise_bind_throws {α β : Type} {x : Except DomainError α} {f : α → Except Exception β} {e : Exception}
    (h : (raise x >>= f) = .error e) : (∃ error, e = .domain error) ∨ ∃ a, f a = .error e := by
  cases x with
  | error error =>
      cases h
      exact Or.inl ⟨error, rfl⟩
  | ok a => exact Or.inr ⟨a, h⟩

omit [Platform] in
theorem raise_throws {α : Type} {x : Except DomainError α} {e : Exception} (h : raise x = .error e) :
    ∃ error, e = .domain error := by
  cases x with
  | error error =>
      cases h
      exact ⟨error, rfl⟩
  | ok a => cases h

theorem reported_of_found {α : Type} {x : Except DomainError (Option WebhookSubscription)} {id : String}
    {next : WebhookSubscription → Except Exception α} {e : Exception}
    (hnext : ∀ subscription, next subscription = .error e → Reported e)
    (h : (raise x >>= found id next) = .error e) : Reported e := by
  rcases raise_bind_throws h with ⟨error, rfl⟩ | ⟨subscription, hfound⟩
  · exact reported_domain error
  · cases subscription with
    | none =>
        cases hfound
        exact reported_application _
    | some subscription => exact hnext subscription hfound

theorem Request.Transacts.reported {request : Request} {op : RepositoryCall}
    {decide : op.Answer → Except Exception WebhookSubscription} {world : World} {order : NaturalOrder}
    {e : Exception} (h : request.Transacts op decide)
    (herror : ((perform op order world).1 >>= decide) = .error e) : Reported e := by
  cases h with
  | create _ _ =>
      rcases raise_bind_throws herror with ⟨error, rfl⟩ | ⟨existing, hdecide⟩
      · exact reported_domain error
      · cases existing with
        | none =>
            obtain ⟨error, rfl⟩ := raise_throws hdecide
            exact reported_domain error
        | some _ =>
            cases hdecide
            exact reported_application _
  | update _ _ =>
      refine reported_of_found (fun subscription hnext => ?_) herror
      obtain ⟨error, rfl⟩ := raise_throws hnext
      exact reported_domain error
  | delete _ _ =>
      refine reported_of_found (fun subscription hnext => ?_) herror
      cases hnext

theorem Request.Queries.reported {request : Request} {op : RepositoryCall}
    {respond : op.Answer → Except Exception Response} {world : World} {order : NaturalOrder} {e : Exception}
    (h : request.Queries op respond) (herror : ((perform op order world).1 >>= respond) = .error e) :
    Reported e := by
  cases h with
  | get _ _ =>
      refine reported_of_found (fun subscription hnext => ?_) herror
      cases hnext
  | list _ =>
      rcases raise_bind_throws herror with ⟨error, rfl⟩ | ⟨result, hrespond⟩
      · exact reported_domain error
      · cases hrespond

theorem answered_serve (request : Request) (order : NaturalOrder) (world : World) :
    Answered (serve request order world).1 := by
  unfold serve
  have hform := execute_form request
  generalize request.execute = program at hform
  cases hform with
  | refused error => exact answered_error (Or.inr (reported_domain error))
  | @transaction op decide htransacts =>
      rw [transaction, Program.eval, htransacts.state_eq order world]
      generalize hanswer : (perform op order world).1 >>= decide = answer
      cases answer with
      | error exception => exact answered_error (Or.inr (htransacts.reported hanswer))
      | ok subscription =>
          rcases eval_saving_cases order world subscription with ⟨store, -, heval⟩ | ⟨-, heval⟩
          · simp only [heval]
            exact answered_ok _
          · simp only [heval]
            exact answered_error (Or.inl ⟨_, rfl⟩)
  | @query op respond hquery =>
      show Answered ((perform op order world).1 >>= respond)
      intro exception herror
      exact Or.inr (hquery.reported herror)

/-! ### Where an update throws a `TypeError` -/

/-- The use case comes to use a property that is `null`. -/
def UpdateSubscriptionDto.UsesNull (dto : UpdateSubscriptionDto) (loaded : WebhookSubscription) : Prop :=
  dto.targetUrl = .null ∨ dto.eventTypes = .null ∧ (dto.targetUrl = .undefined ∨
    ∃ text target, dto.targetUrl = .value text ∧ TargetUrl.fromString text = .ok target ∧ loaded.status ≠ .DELETED)

namespace UpdateSubscriptionDto

variable {dto : UpdateSubscriptionDto} {clock : Nat → Date} {loaded subscription : WebhookSubscription}

/-- What a mutation comes to: it uses `null`, it throws a domain error, or it succeeds. -/
inductive Mutated (usesNull : Prop) : Except Exception WebhookSubscription → Prop
  | typeError (h : usesNull) (message : String) : Mutated usesNull (.error (.typeError message))
  | refused (h : ¬ usesNull) (error : DomainError) : Mutated usesNull (.error (.domain error))
  | done (h : ¬ usesNull) (result : WebhookSubscription) : Mutated usesNull (.ok result)

theorem mutated_raise {usesNull : Prop} (h : ¬ usesNull) (x : Except DomainError WebhookSubscription) :
    Mutated usesNull (raise x) := by
  cases x with
  | error error => exact Mutated.refused h error
  | ok result => exact Mutated.done h result

theorem mutated_applyStatus (dto : UpdateSubscriptionDto) (clock : Nat → Date) (subscription : WebhookSubscription) :
    Mutated False (dto.applyStatus clock subscription) := by
  unfold applyStatus
  cases dto.status with
  | undefined => exact Mutated.done id _
  | null => exact Mutated.refused id _
  | value status => exact mutated_raise id _

theorem mutated_applyEventTypes (dto : UpdateSubscriptionDto) (clock : Nat → Date)
    (subscription : WebhookSubscription) :
    Mutated (dto.eventTypes = .null) (dto.applyEventTypes clock subscription) := by
  cases hvalue : dto.eventTypes with
  | undefined =>
      rw [applyEventTypes, hvalue]
      exact Mutated.done (fun h => by cases h) _
  | null =>
      rw [applyEventTypes, hvalue]
      exact Mutated.typeError rfl _
  | value eventTypes =>
      rw [applyEventTypes_of_value hvalue]
      exact mutated_raise (fun h => by cases h) _

theorem mutated_rest (dto : UpdateSubscriptionDto) (clock : Nat → Date) (subscription : WebhookSubscription) :
    Mutated (dto.eventTypes = .null)
      (dto.applyEventTypes clock subscription >>= fun subscription => dto.applyStatus clock subscription) := by
  have htypes := mutated_applyEventTypes dto clock subscription
  generalize dto.applyEventTypes clock subscription = result at htypes
  cases htypes with
  | typeError h message => exact Mutated.typeError h message
  | refused h error => exact Mutated.refused h error
  | done h result =>
      show Mutated _ (dto.applyStatus clock result)
      have hstatus := mutated_applyStatus dto clock result
      generalize dto.applyStatus clock result = last at hstatus
      cases hstatus with
      | typeError h _ => exact h.elim
      | refused _ error => exact Mutated.refused h error
      | done _ last => exact Mutated.done h last

theorem Mutated.congr {p q : Prop} {result : Except Exception WebhookSubscription} (h : Mutated p result)
    (hiff : p ↔ q) : Mutated q result :=
  propext hiff ▸ h

/-- An update throws a `TypeError` just when it uses `null`, and otherwise nothing but domain errors. -/
theorem mutated_apply (dto : UpdateSubscriptionDto) (clock : Nat → Date) (loaded : WebhookSubscription) :
    Mutated (dto.UsesNull loaded) (dto.apply clock loaded) := by
  rw [apply]
  cases hvalue : dto.targetUrl with
  | undefined =>
      rw [applyTargetUrl, hvalue]
      refine (mutated_rest dto clock loaded).congr ?_
      simp [UsesNull, hvalue]
  | null =>
      rw [applyTargetUrl, hvalue]
      exact Mutated.typeError (Or.inl hvalue) _
  | value text =>
      rw [applyTargetUrl_of_value hvalue]
      cases htarget : TargetUrl.fromString text with
      | error error =>
          refine Mutated.refused ?_ error
          simp [UsesNull, hvalue, htarget]
      | ok target =>
          show Mutated _ (raise (loaded.updateTargetUrl target (clock 0)) >>= _)
          cases hupdate : loaded.updateTargetUrl target (clock 0) with
          | error error =>
              refine Mutated.refused ?_ error
              have hdeleted : loaded.status = .DELETED := by
                by_contra hstatus
                rw [WebhookSubscription.updateTargetUrl_eq_ok_iff.mpr ⟨hstatus, rfl⟩] at hupdate
                cases hupdate
              simp [UsesNull, hvalue, hdeleted]
          | ok result =>
              refine (mutated_rest dto clock result).congr ?_
              have hstatus := (WebhookSubscription.updateTargetUrl_eq_ok_iff.mp hupdate).1
              simp [UsesNull, hvalue, htarget, hstatus]

end UpdateSubscriptionDto

/-! ### The handlers -/

/-- A handler of the controller, with no other request in between. -/
def handle {α : Type} (handler : UseCase α) (order : NaturalOrder) (world : World) : Except Exception α × World :=
  handler.eval (fun op => perform op order) world

/-- The body passes the pipe, the id names a subscription of the tenant, and applying the body to it uses a
property that is `null`. -/
def UsesNull (identity : ResolvedIdentity) (id : String) (body : Json.Fields) (world : World) : Prop :=
  ∃ dto subscriptionId tenantId loaded, UpdateSubscriptionDto.validate body = .ok dto ∧
    subscriptionId.value = id ∧ tenantId.value = identity.tenantId ∧
    SubscriptionMongoRepository.findByIdAndTenant world.subscriptions subscriptionId tenantId = .ok (some loaded) ∧
    dto.UsesNull loaded

variable {order : NaturalOrder} {world : World}

theorem handle_findOrThrow_cases (id tenantId : String) (order : NaturalOrder) (world : World) :
    (∃ exception, Reported exception ∧ handle (findOrThrow id tenantId) order world = (.error exception, world)) ∨
      ∃ subscriptionId tenant loaded, subscriptionId.value = id ∧ tenant.value = tenantId ∧
        SubscriptionMongoRepository.findByIdAndTenant world.subscriptions subscriptionId tenant = .ok (some loaded) ∧
        handle (findOrThrow id tenantId) order world = (.ok loaded, world) := by
  unfold handle
  rcases findOrThrow_cases id tenantId with ⟨error, herror⟩ | ⟨subscriptionId, tenant, hid, htenant, hfind⟩
  · rw [herror]
    exact Or.inl ⟨_, reported_domain error, rfl⟩
  · rw [hfind]
    show (∃ exception, Reported exception ∧
        (raise (SubscriptionMongoRepository.findByIdAndTenant world.subscriptions subscriptionId tenant) >>= found id .ok,
          world) = (.error exception, world)) ∨ ∃ _ _ loaded, _ ∧ _ ∧ _ ∧
        (raise (SubscriptionMongoRepository.findByIdAndTenant world.subscriptions subscriptionId tenant) >>= found id .ok,
          world) = (.ok loaded, world)
    cases hanswer : raise (SubscriptionMongoRepository.findByIdAndTenant world.subscriptions subscriptionId tenant) >>=
        found id .ok with
    | error exception =>
        refine Or.inl ⟨exception, reported_of_found (fun subscription hnext => ?_) hanswer, rfl⟩
        cases hnext
    | ok loaded =>
        obtain ⟨_, hfound, hloaded⟩ := found_eq_ok hanswer
        cases hloaded
        exact Or.inr ⟨subscriptionId, tenant, loaded, hid, htenant, hfound, rfl⟩

theorem handle_findOrThrow_of_found {id tenantId : String} {subscriptionId : SubscriptionId} {tenant : TenantId}
    {loaded : WebhookSubscription} (hid : subscriptionId.value = id) (htenant : tenant.value = tenantId)
    (hfound : SubscriptionMongoRepository.findByIdAndTenant world.subscriptions subscriptionId tenant =
      .ok (some loaded)) : handle (findOrThrow id tenantId) order world = (.ok loaded, world) := by
  have hidText : SubscriptionId.fromString id = .ok subscriptionId := SubscriptionId.fromString_eq_ok_iff.mpr hid
  have htenantText : TenantId.fromString tenantId = .ok tenant := Text.NonBlank.fromString_eq_ok_iff.mpr htenant
  have hlookup : (UseCase.request (.findByIdAndTenant subscriptionId tenant)).eval (fun op => perform op order) world =
      (.ok (some loaded), world) := by
    show (raise (SubscriptionMongoRepository.findByIdAndTenant world.subscriptions subscriptionId tenant), world) = _
    rw [hfound]
    rfl
  unfold handle findOrThrow
  rw [hidText, htenantText]
  exact Program.eval_bind_of_ok hlookup

omit [Platform] in
theorem CreateSubscriptionDto.reported_of_invalid {body : Json.Fields} {exception : Exception}
    (h : CreateSubscriptionDto.validate body = .error exception) : Reported exception := by
  unfold CreateSubscriptionDto.validate at h
  dsimp only at h
  split at h
  · cases h
  · cases h
    exact reported_badRequest _

omit [Platform] in
theorem UpdateSubscriptionDto.reported_of_invalid {body : Json.Fields} {exception : Exception}
    (h : UpdateSubscriptionDto.validate body = .error exception) : Reported exception := by
  unfold UpdateSubscriptionDto.validate at h
  dsimp only at h
  split at h
  · cases h
  · cases h
    exact reported_badRequest _

theorem answered_create (identity : ResolvedIdentity) (body : Json.Fields) (id : SubscriptionId) (now : Date)
    (order : NaturalOrder) (world : World) :
    Answered (handle (SubscriptionsController.create identity body id now) order world).1 := by
  unfold handle SubscriptionsController.create
  cases hvalid : CreateSubscriptionDto.validate body with
  | error exception => exact answered_error (Or.inr (CreateSubscriptionDto.reported_of_invalid hvalid))
  | ok dto =>
      have hserve := answered_serve (.create (dto.toInput identity) id now) order world
      unfold serve Request.execute at hserve
      generalize heval : (CreateSubscriptionUseCase.execute (dto.toInput identity) id now).eval
        (fun op => perform op order) world = result at hserve
      obtain ⟨result, after⟩ := result
      cases result with
      | error exception =>
          rw [Program.eval_bind_of_error heval] at hserve
          rw [Program.eval_bind_of_ok rfl, Program.eval_bind_of_error heval]
          exact answered_error (hserve exception rfl)
      | ok subscription =>
          rw [Program.eval_bind_of_ok rfl, Program.eval_bind_of_ok heval]
          exact answered_ok _

theorem answered_saveAndPublish (subscription : WebhookSubscription) (order : NaturalOrder) (world : World) :
    Answered (handle (do return toSubscriptionResponseDto (← saveAndPublish subscription)) order world).1 := by
  unfold handle
  rcases eval_saveAndPublish_cases order world subscription with ⟨store, -, heval⟩ | ⟨-, heval⟩
  · rw [Program.eval_bind_of_ok heval]
    exact answered_ok _
  · rw [Program.eval_bind_of_error heval]
    exact answered_error (Or.inl ⟨_, rfl⟩)

theorem handle_executeDto_of_found {id tenantId : String} {dto : UpdateSubscriptionDto} {clock : Nat → Date}
    {loaded : WebhookSubscription} (hfound : handle (findOrThrow id tenantId) order world = (.ok loaded, world)) :
    handle (do
      return toSubscriptionResponseDto (← UpdateSubscriptionUseCase.executeDto id tenantId dto clock)) order world =
      handle (do
        let subscription ← (.done (dto.apply clock loaded) : UseCase WebhookSubscription)
        return toSubscriptionResponseDto (← saveAndPublish subscription)) order world := by
  unfold UpdateSubscriptionUseCase.executeDto
  rw [Program.bind_assoc]
  refine (Program.eval_bind_of_ok hfound).trans ?_
  rw [Program.bind_assoc]
  rfl

theorem handle_update_of_valid {identity : ResolvedIdentity} {id : String} {body : Json.Fields}
    {dto : UpdateSubscriptionDto} {clock : Nat → Date} (hvalid : UpdateSubscriptionDto.validate body = .ok dto) :
    handle (SubscriptionsController.update identity id body clock) order world =
      handle (do
        return toSubscriptionResponseDto
          (← UpdateSubscriptionUseCase.executeDto id identity.tenantId dto clock)) order world := by
  unfold SubscriptionsController.update
  rw [hvalid]
  rfl

theorem answered_executeDto_iff {identity : ResolvedIdentity} {id : String} {dto : UpdateSubscriptionDto}
    {clock : Nat → Date} {loaded : WebhookSubscription}
    (hfound : handle (findOrThrow id identity.tenantId) order world = (.ok loaded, world)) :
    Answered (handle (do
      return toSubscriptionResponseDto
        (← UpdateSubscriptionUseCase.executeDto id identity.tenantId dto clock)) order world).1 ↔
      ¬ dto.UsesNull loaded := by
  have hmutated := UpdateSubscriptionDto.mutated_apply dto clock loaded
  rw [handle_executeDto_of_found hfound]
  generalize dto.apply clock loaded = result at hmutated
  cases hmutated with
  | typeError h message => exact iff_of_false (not_answered_typeError message) (not_not_intro h)
  | refused h error => exact iff_of_true (answered_error (Or.inr (reported_domain error))) h
  | done h result => exact iff_of_true (answered_saveAndPublish result order world) h

theorem answered_update_iff (identity : ResolvedIdentity) (id : String) (body : Json.Fields) (clock : Nat → Date)
    (order : NaturalOrder) (world : World) :
    Answered (handle (SubscriptionsController.update identity id body clock) order world).1 ↔
      ¬ UsesNull identity id body world := by
  cases hvalid : UpdateSubscriptionDto.validate body with
  | error exception =>
      unfold SubscriptionsController.update
      rw [hvalid]
      refine iff_of_true (answered_error (Or.inr (UpdateSubscriptionDto.reported_of_invalid hvalid))) ?_
      rintro ⟨dto, _, _, _, hdto, -⟩
      rw [hvalid] at hdto
      cases hdto
  | ok dto =>
      rw [handle_update_of_valid hvalid]
      rcases handle_findOrThrow_cases id identity.tenantId order world with
        ⟨exception, hreported, hfailed⟩ | ⟨subscriptionId, tenant, loaded, hid, htenant, hfound, hok⟩
      · refine iff_of_true ?_ ?_
        · have herror : handle (do
              return toSubscriptionResponseDto
                (← UpdateSubscriptionUseCase.executeDto id identity.tenantId dto clock)) order world =
              (.error exception, world) := by
            unfold UpdateSubscriptionUseCase.executeDto
            rw [Program.bind_assoc]
            exact Program.eval_bind_of_error hfailed
          rw [herror]
          exact answered_error (Or.inr hreported)
        · rintro ⟨_, _, _, loaded, -, hid, htenant, hfound, -⟩
          rw [handle_findOrThrow_of_found hid htenant hfound] at hfailed
          cases hfailed
      · rw [answered_executeDto_iff hok]
        refine not_congr ⟨fun h => ⟨dto, subscriptionId, tenant, loaded, hvalid, hid, htenant, hfound, h⟩, ?_⟩
        rintro ⟨other, _, _, otherLoaded, hother, hotherId, hotherTenant, hotherFound, h⟩
        cases hvalid.symm.trans hother
        cases hok.symm.trans (handle_findOrThrow_of_found hotherId hotherTenant hotherFound)
        exact h

/-- Every body of a POST is answered, and a body of a PATCH is answered just when it does not use `null`. -/
theorem answered_iff (identity : ResolvedIdentity) (order : NaturalOrder) (world : World) :
    (∀ body id now, Answered (handle (SubscriptionsController.create identity body id now) order world).1) ∧
      ∀ id body clock, Answered (handle (SubscriptionsController.update identity id body clock) order world).1 ↔
        ¬ UsesNull identity id body world :=
  ⟨fun body id now => answered_create identity body id now order world,
    fun id body clock => answered_update_iff identity id body clock order world⟩

end Answers

section Sample

attribute [local instance] samplePlatform

def sampleIdentity : ResolvedIdentity := { tenantId := "tenant-1", clientId := "client-1", userId := none }

/-- A PATCH of the sample subscription with `{"targetUrl": null}`. -/
theorem null_targetUrl_not_answered :
    DomainExceptionFilter.resolve (.typeError "Cannot read properties of null (reading 'length')") =
        single 500 "INTERNAL_ERROR" "An unexpected error occurred" ∧
      (handle (SubscriptionsController.update sampleIdentity sampleKey.id [("targetUrl", .null)] fun n => n)
        .insertion sampleWorld).1 = .error (.typeError "Cannot read properties of null (reading 'length')") ∧
      ¬ Answered (handle (SubscriptionsController.update sampleIdentity sampleKey.id [("targetUrl", .null)] fun n => n)
        .insertion sampleWorld).1 := by
  have hthrown : (handle (SubscriptionsController.update sampleIdentity sampleKey.id [("targetUrl", .null)]
      fun n => n) .insertion sampleWorld).1 =
      .error (.typeError "Cannot read properties of null (reading 'length')") := by
    rfl
  refine ⟨rfl, hthrown, ?_⟩
  rw [hthrown]
  exact not_answered_typeError _

end Sample

end WebhookIdp.Subscription
