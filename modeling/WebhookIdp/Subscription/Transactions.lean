import WebhookIdp.Subscription.Updates

/-!
# The form of a request

Every request that passes its first checks makes one lookup. A reading request answers with what it
found. A writing request decides on the answer which subscription to save, then saves and publishes it.
What is proved of a request is proved of these forms, with the decision as a parameter.
-/

namespace WebhookIdp.Subscription

variable [Platform]

open Concurrent (Program)
open UseCase

/-! ### Requests in their form -/

/-- What is left of a request that holds the subscription it will save. -/
def saving (subscription : WebhookSubscription) : UseCase Response := do
  return .subscription (← saveAndPublish subscription)

def publishing (subscription : WebhookSubscription) : UseCase Response :=
  .call (.publishAll subscription.domainEvents) fun answer =>
    .done (answer.map fun _ => .subscription subscription.drained)

theorem saving_eq (subscription : WebhookSubscription) :
    saving subscription = .call (.save subscription) fun answer =>
      match answer with
      | .error exception => .done (.error exception)
      | .ok _ => publishing subscription := by
  apply Program.call_congr
  intro answer
  cases answer with
  | error exception => rfl
  | ok _ =>
      apply Program.call_congr
      intro answer
      cases answer <;> rfl

/-- A request that writes: one lookup, a decision on its answer, and the save. -/
def transaction (op : RepositoryCall) (decide : op.Answer → Except Exception WebhookSubscription) :
    UseCase Response :=
  .call op fun answer =>
    match answer >>= decide with
    | .error exception => .done (.error exception)
    | .ok subscription => saving subscription

/-- A request that only reads. -/
def query (op : RepositoryCall) (respond : op.Answer → Except Exception Response) : UseCase Response :=
  .call op fun answer => .done (answer >>= respond)

/-- What a lookup by id hands to the rest of a request. -/
def found {α : Type} (id : String) (next : WebhookSubscription → Except Exception α) :
    Option WebhookSubscription → Except Exception α
  | none => .error (.application (.subscriptionNotFound s!"Subscription \"{id}\" was not found"))
  | some subscription => next subscription

/-- What a create request does with the answer of its duplicate check. -/
def unlessDuplicate (input : CreateSubscriptionInput) (next : Except Exception WebhookSubscription) :
    Option WebhookSubscription → Except Exception WebhookSubscription
  | some _ => .error (.application (.duplicateSubscription
      s!"A subscription for tenant \"{input.tenantId}\" and targetUrl \"{input.targetUrl}\" already exists"))
  | none => next

namespace Request

/-- The lookup and the decision of each writing request. -/
inductive Transacts : Request → (op : RepositoryCall) → (op.Answer → Except Exception WebhookSubscription) → Prop
  | create {input : CreateSubscriptionInput} {id : SubscriptionId} {now : Date} {tenantId : TenantId}
      {targetUrl : TargetUrl} (htenant : tenantId.value = input.tenantId)
      (htarget : TargetUrl.fromString input.targetUrl = .ok targetUrl) :
      Transacts (.create input id now) (.findByTenantAndTargetUrl tenantId targetUrl)
        (unlessDuplicate input (raise (input.create tenantId targetUrl id now)))
  | update {input : UpdateSubscriptionInput} {clock : Nat → Date} {id : SubscriptionId} {tenantId : TenantId}
      (hid : id.value = input.id) (htenant : tenantId.value = input.tenantId) :
      Transacts (.update input clock) (.findByIdAndTenant id tenantId)
        (found input.id fun subscription => raise (input.apply clock subscription))
  | delete {input : SubscriptionKeyInput} {now : Date} {id : SubscriptionId} {tenantId : TenantId}
      (hid : id.value = input.id) (htenant : tenantId.value = input.tenantId) :
      Transacts (.delete input now) (.findByIdAndTenant id tenantId)
        (found input.id fun subscription => .ok (subscription.delete now))

/-- The lookup and the answer of each reading request. -/
inductive Queries : Request → (op : RepositoryCall) → (op.Answer → Except Exception Response) → Prop
  | get {input : SubscriptionKeyInput} {id : SubscriptionId} {tenantId : TenantId}
      (hid : id.value = input.id) (htenant : tenantId.value = input.tenantId) :
      Queries (.get input) (.findByIdAndTenant id tenantId)
        (found input.id fun subscription => .ok (.subscription subscription))
  | list {input : ListSubscriptionsInput} {tenantId : TenantId} (htenant : tenantId.value = input.tenantId) :
      Queries (.list input) (.list tenantId input.filters input.pagination) fun result => .ok (.page result)

end Request

/-- The programs a request can be. -/
inductive Form (request : Request) : UseCase Response → Prop
  | refused (error : DomainError) : Form request (.done (.error (.domain error)))
  | transaction {op : RepositoryCall} {decide : op.Answer → Except Exception WebhookSubscription}
      (h : request.Transacts op decide) : Form request (transaction op decide)
  | query {op : RepositoryCall} {respond : op.Answer → Except Exception Response}
      (h : request.Queries op respond) : Form request (query op respond)

theorem findOrThrow_cases (id tenantId : String) :
    (∃ error, findOrThrow id tenantId = .done (.error (.domain error))) ∨
      ∃ subscriptionId tenant, subscriptionId.value = id ∧ tenant.value = tenantId ∧
        findOrThrow id tenantId = .call (.findByIdAndTenant subscriptionId tenant) fun answer =>
          .done (answer >>= found id .ok) := by
  rcases hid : SubscriptionId.fromString id with error | subscriptionId
  · refine Or.inl ⟨error, ?_⟩
    rw [findOrThrow, hid]
    rfl
  rcases htenant : TenantId.fromString tenantId with error | tenant
  · refine Or.inl ⟨error, ?_⟩
    rw [findOrThrow, hid, htenant]
    rfl
  refine Or.inr ⟨subscriptionId, tenant, SubscriptionId.fromString_eq_ok_iff.mp hid,
    Text.NonBlank.fromString_eq_ok_iff.mp htenant, ?_⟩
  rw [findOrThrow, hid, htenant]
  apply Program.call_congr
  intro answer
  rcases answer with exception | _ | subscription <;> rfl

theorem check_bind_saving (x : Except DomainError WebhookSubscription) :
    (check x >>= saving) = match raise x with
      | .error exception => .done (.error exception)
      | .ok subscription => saving subscription := by
  cases x <;> rfl

/-- A request on one subscription that decides from what it found which subscription to save. -/
theorem findOrThrow_bind_saving (id tenantId : String)
    (next : WebhookSubscription → Except DomainError WebhookSubscription) :
    (∃ error, (findOrThrow id tenantId >>= fun subscription => check (next subscription) >>= saving) =
        .done (.error (.domain error))) ∨
      ∃ subscriptionId tenant, subscriptionId.value = id ∧ tenant.value = tenantId ∧
        (findOrThrow id tenantId >>= fun subscription => check (next subscription) >>= saving) =
          transaction (.findByIdAndTenant subscriptionId tenant)
            (found id fun subscription => raise (next subscription)) := by
  rcases findOrThrow_cases id tenantId with ⟨error, herror⟩ | ⟨subscriptionId, tenant, hid, htenant, hfind⟩
  · refine Or.inl ⟨error, ?_⟩
    rw [herror]
    rfl
  · refine Or.inr ⟨subscriptionId, tenant, hid, htenant, ?_⟩
    rw [hfind]
    apply Program.call_congr
    intro answer
    rcases answer with exception | _ | subscription
    · rfl
    · rfl
    · exact check_bind_saving (next subscription)

theorem execute_create {input : CreateSubscriptionInput} {id : SubscriptionId} {now : Date} {tenant : TenantId}
    {target : TargetUrl} (htenant : TenantId.fromString input.tenantId = .ok tenant)
    (htarget : TargetUrl.fromString input.targetUrl = .ok target) :
    (Request.create input id now).execute = transaction (.findByTenantAndTargetUrl tenant target)
      (unlessDuplicate input (raise (input.create tenant target id now))) := by
  rw [Request.execute, CreateSubscriptionUseCase.execute, htenant, htarget]
  apply Program.call_congr
  intro answer
  rcases answer with exception | _ | subscription
  · rfl
  · have hsave := check_bind_saving (input.create tenant target id now)
    exact (Program.bind_assoc (check _) saveAndPublish _).trans hsave
  · rfl

theorem execute_form (request : Request) : Form request request.execute := by
  cases request with
  | create input id now =>
      rcases htenant : TenantId.fromString input.tenantId with error | tenant
      · have h : (Request.create input id now).execute = .done (.error (.domain error)) := by
          rw [Request.execute, CreateSubscriptionUseCase.execute, htenant]
          rfl
        rw [h]
        exact Form.refused error
      rcases htarget : TargetUrl.fromString input.targetUrl with error | target
      · have h : (Request.create input id now).execute = .done (.error (.domain error)) := by
          rw [Request.execute, CreateSubscriptionUseCase.execute, htenant, htarget]
          rfl
        rw [h]
        exact Form.refused error
      rw [execute_create htenant htarget]
      exact Form.transaction (.create (Text.NonBlank.fromString_eq_ok_iff.mp htenant) htarget)
  | get input =>
      rcases findOrThrow_cases input.id input.tenantId with ⟨error, h⟩ | ⟨id, tenant, hid, htenant, h⟩
      · rw [Request.execute, GetSubscriptionUseCase.execute, h]
        exact Form.refused error
      · have hquery : (Request.get input).execute = query (.findByIdAndTenant id tenant)
            (found input.id fun subscription => .ok (.subscription subscription)) := by
          rw [Request.execute, GetSubscriptionUseCase.execute, h]
          apply Program.call_congr
          intro answer
          rcases answer with exception | _ | subscription <;> rfl
        rw [hquery]
        exact Form.query (.get hid htenant)
  | list input =>
      rcases htenant : TenantId.fromString input.tenantId with error | tenant
      · have h : (Request.list input).execute = .done (.error (.domain error)) := by
          rw [Request.execute, ListSubscriptionsUseCase.execute, htenant]
          rfl
        rw [h]
        exact Form.refused error
      · have hquery : (Request.list input).execute = query (.list tenant input.filters input.pagination)
            fun result => .ok (.page result) := by
          rw [Request.execute, ListSubscriptionsUseCase.execute, htenant]
          apply Program.call_congr
          intro answer
          cases answer <;> rfl
        rw [hquery]
        exact Form.query (.list (Text.NonBlank.fromString_eq_ok_iff.mp htenant))
  | update input clock =>
      have hexecute : (Request.update input clock).execute = findOrThrow input.id input.tenantId >>=
          fun subscription => check (input.apply clock subscription) >>= saving := by
        rw [Request.execute, UpdateSubscriptionUseCase.execute, Program.bind_assoc]
        exact congrArg _ (funext fun subscription => Program.bind_assoc _ _ _)
      rw [hexecute]
      rcases findOrThrow_bind_saving input.id input.tenantId (input.apply clock) with
        ⟨error, h⟩ | ⟨id, tenant, hid, htenant, h⟩
      · rw [h]
        exact Form.refused error
      · rw [h]
        exact Form.transaction (.update hid htenant)
  | delete input now =>
      have hexecute : (Request.delete input now).execute = findOrThrow input.id input.tenantId >>=
          fun subscription => check (.ok (subscription.delete now)) >>= saving := by
        rw [Request.execute, DeleteSubscriptionUseCase.execute, Program.bind_assoc]
        rfl
      rw [hexecute]
      rcases findOrThrow_bind_saving input.id input.tenantId (fun subscription => .ok (subscription.delete now)) with
        ⟨error, h⟩ | ⟨id, tenant, hid, htenant, h⟩
      · rw [h]
        exact Form.refused error
      · rw [h]
        exact Form.transaction (.delete hid htenant)

/-! ### What a writing request decides to save -/

theorem CreateSubscriptionInput.create_eq_ok {input : CreateSubscriptionInput} {tenantId : TenantId}
    {targetUrl : TargetUrl} {id : SubscriptionId} {now : Date} {result : WebhookSubscription}
    (h : input.create tenantId targetUrl id now = .ok result) :
    result.id = id ∧ result.tenantId = tenantId ∧ result.targetUrl = targetUrl ∧ result.status = .ACTIVE ∧
      result.subscribedEventTypes ≠ [] ∧ result.domainEvents = [.SubscriptionCreated id.value now] := by
  obtain ⟨_, -, hrest⟩ := Throwing.bind_eq_ok_iff.mp h
  obtain ⟨_, -, hrest⟩ := Throwing.bind_eq_ok_iff.mp hrest
  obtain ⟨_, -, hcreate⟩ := Throwing.bind_eq_ok_iff.mp hrest
  obtain ⟨hempty, rfl⟩ := WebhookSubscription.create_eq_ok_iff.mp hcreate
  exact ⟨rfl, rfl, rfl, rfl, hempty, rfl⟩

omit [Platform] in
theorem map_value_of_mapM {user : Option String} {read : Option UserId} (h : user.mapM UserId.fromString = .ok read) :
    read.map (fun userId => userId.value) = user := by
  cases user with
  | none =>
      cases h
      rfl
  | some text =>
      rw [Option.mapM_some] at h
      obtain ⟨userId, hparse, rfl⟩ := Throwing.map_eq_ok_iff.mp h
      exact congrArg some (Text.NonBlank.fromString_eq_ok_iff.mp hparse)

omit [Platform] in
theorem map_value_of_eventTypes {texts : List String} {eventTypes : List EventType}
    (h : texts.mapM EventType.fromString = .ok eventTypes) : eventTypes.map (fun eventType => eventType.value) = texts :=
  Throwing.map_eq_of_mapM_eq_ok (fun _ _ hparse => Text.NonBlank.fromString_eq_ok_iff.mp hparse) h

theorem CreateSubscriptionInput.toDocument_of_create {input : CreateSubscriptionInput} {tenantId : TenantId}
    {targetUrl : TargetUrl} {id : SubscriptionId} {now : Date} {result : WebhookSubscription}
    (htenant : tenantId.value = input.tenantId) (h : input.create tenantId targetUrl id now = .ok result) :
    toDocument result = {
      _id := id.value
      tenantId := input.tenantId
      createdByClientId := input.createdByClientId
      createdByUserId := input.createdByUserId
      targetUrl := targetUrl.value
      subscribedEventTypes := input.eventTypes
      status := .ACTIVE
      createdAt := now
      updatedAt := now } := by
  obtain ⟨client, hclient, hrest⟩ := Throwing.bind_eq_ok_iff.mp h
  obtain ⟨user, huser, hrest⟩ := Throwing.bind_eq_ok_iff.mp hrest
  obtain ⟨eventTypes, htypes, hcreate⟩ := Throwing.bind_eq_ok_iff.mp hrest
  obtain ⟨-, rfl⟩ := WebhookSubscription.create_eq_ok_iff.mp hcreate
  rw [← htenant, ← Text.NonBlank.fromString_eq_ok_iff.mp hclient, ← map_value_of_mapM huser,
    ← map_value_of_eventTypes htypes]
  rfl

/-- The document has the values that the update sets. -/
structure UpdateSubscriptionInput.Reflects (input : UpdateSubscriptionInput) (record : SubscriptionRecord) :
    Prop where
  targetUrl : ∀ text, input.targetUrl = some text →
    ∃ targetUrl, TargetUrl.fromString text = .ok targetUrl ∧ record.targetUrl = targetUrl.value
  eventTypes : ∀ texts, input.eventTypes = some texts → record.subscribedEventTypes = texts
  status : ∀ status, input.status = some status → record.status = status

theorem UpdateSubscriptionInput.Applied.reflects {input : UpdateSubscriptionInput} {clock : Nat → Date}
    {loaded result : WebhookSubscription} (h : input.Applied clock loaded result) :
    input.Reflects (toDocument result) where
  targetUrl text htext := ⟨result.targetUrl, (h.targetUrl_some text htext).1, rfl⟩
  eventTypes texts htexts := map_value_of_eventTypes (h.eventTypes_some texts htexts).1
  status status hstatus := (h.status_some status hstatus).1

open SubscriptionMongoRepository in
/-- From what is stored when it makes its lookup, the request decides to save `subscription`. -/
inductive Decides (store : SubscriptionStore) : Request → WebhookSubscription → Prop
  | create {input : CreateSubscriptionInput} {id : SubscriptionId} {now : Date} {tenantId : TenantId}
      {targetUrl : TargetUrl} {subscription : WebhookSubscription} (htenant : tenantId.value = input.tenantId)
      (htarget : TargetUrl.fromString input.targetUrl = .ok targetUrl)
      (hfree : findByTenantAndTargetUrl store tenantId targetUrl = .ok none)
      (hcreate : input.create tenantId targetUrl id now = .ok subscription) :
      Decides store (.create input id now) subscription
  | update {input : UpdateSubscriptionInput} {clock : Nat → Date} {id : SubscriptionId} {tenantId : TenantId}
      {loaded subscription : WebhookSubscription} (hid : id.value = input.id)
      (htenant : tenantId.value = input.tenantId)
      (hfound : findByIdAndTenant store id tenantId = .ok (some loaded))
      (happly : input.apply clock loaded = .ok subscription) :
      Decides store (.update input clock) subscription
  | delete {input : SubscriptionKeyInput} {now : Date} {id : SubscriptionId} {tenantId : TenantId}
      {loaded : WebhookSubscription} (hid : id.value = input.id) (htenant : tenantId.value = input.tenantId)
      (hfound : findByIdAndTenant store id tenantId = .ok (some loaded)) :
      Decides store (.delete input now) (loaded.delete now)

theorem found_eq_ok {α : Type} {id : String} {next : WebhookSubscription → Except Exception α}
    {x : Except DomainError (Option WebhookSubscription)} {a : α} (h : (raise x >>= found id next) = .ok a) :
    ∃ loaded, x = .ok (some loaded) ∧ next loaded = .ok a := by
  obtain ⟨found, hx, hnext⟩ := Throwing.bind_eq_ok_iff.mp h
  cases found with
  | none => cases hnext
  | some loaded => exact ⟨loaded, raise_eq_ok_iff.mp hx, hnext⟩

theorem Request.Transacts.decides {request : Request} {op : RepositoryCall}
    {decide : op.Answer → Except Exception WebhookSubscription} {world : World} {order : NaturalOrder}
    {subscription : WebhookSubscription} (h : request.Transacts op decide)
    (hok : ((perform op order world).1 >>= decide) = .ok subscription) :
    Decides world.subscriptions request subscription := by
  cases h with
  | create htenant htarget =>
      obtain ⟨existing, hfree, hnext⟩ := Throwing.bind_eq_ok_iff.mp hok
      cases existing with
      | some _ => cases hnext
      | none => exact Decides.create htenant htarget (raise_eq_ok_iff.mp hfree) (raise_eq_ok_iff.mp hnext)
  | update hid htenant =>
      obtain ⟨loaded, hfound, hnext⟩ := found_eq_ok hok
      exact Decides.update hid htenant hfound (raise_eq_ok_iff.mp hnext)
  | delete hid htenant =>
      obtain ⟨loaded, hfound, hnext⟩ := found_eq_ok hok
      cases hnext
      exact Decides.delete hid htenant hfound

theorem Request.Transacts.state_eq {request : Request} {op : RepositoryCall}
    {decide : op.Answer → Except Exception WebhookSubscription} (h : request.Transacts op decide)
    (order : NaturalOrder) (world : World) : (perform op order world).2 = world := by
  cases h <;> rfl

theorem Request.Queries.state_eq {request : Request} {op : RepositoryCall}
    {respond : op.Answer → Except Exception Response} (h : request.Queries op respond)
    (order : NaturalOrder) (world : World) : (perform op order world).2 = world := by
  cases h <;> rfl

theorem Request.Transacts.ne_save {request : Request} {op : RepositoryCall}
    {decide : op.Answer → Except Exception WebhookSubscription} (h : request.Transacts op decide)
    (subscription : WebhookSubscription) : op ≠ .save subscription := by
  cases h <;> exact nofun

theorem Request.Transacts.ne_publishAll {request : Request} {op : RepositoryCall}
    {decide : op.Answer → Except Exception WebhookSubscription} (h : request.Transacts op decide)
    {events : List DomainEvent} : op ≠ .publishAll events := by
  cases h <;> exact nofun

theorem Request.Queries.ne_publishAll {request : Request} {op : RepositoryCall}
    {respond : op.Answer → Except Exception Response} (h : request.Queries op respond)
    {events : List DomainEvent} : op ≠ .publishAll events := by
  cases h <;> exact nofun

theorem Request.Queries.ne_save {request : Request} {op : RepositoryCall}
    {respond : op.Answer → Except Exception Response} (h : request.Queries op respond)
    (subscription : WebhookSubscription) : op ≠ .save subscription := by
  cases h <;> exact nofun

end WebhookIdp.Subscription
