import WebhookIdp.Base.Throwing
import WebhookIdp.Subscription.ValueObjects

/-!
# The subscription aggregate

The aggregate is a record; a method that mutates it returns the record it leaves, or the domain error
it throws, in which case the source has not touched a field. `clock.now()` is an argument of every
method that reads the clock.
-/

namespace WebhookIdp.Subscription

inductive SubscriptionStatus where
  | ACTIVE
  | PAUSED
  | DELETED
  deriving DecidableEq, Repr

instance : ToString SubscriptionStatus where
  toString
    | .ACTIVE => "ACTIVE"
    | .PAUSED => "PAUSED"
    | .DELETED => "DELETED"

inductive DomainEvent where
  | SubscriptionCreated (aggregateId : String) (occurredAt : Date)
  | SubscriptionPaused (aggregateId : String) (occurredAt : Date)
  | SubscriptionResumed (aggregateId : String) (occurredAt : Date)
  | SubscriptionDeleted (aggregateId : String) (occurredAt : Date)
  deriving DecidableEq, Repr

def DomainEvent.aggregateId : DomainEvent → String
  | .SubscriptionCreated aggregateId _ => aggregateId
  | .SubscriptionPaused aggregateId _ => aggregateId
  | .SubscriptionResumed aggregateId _ => aggregateId
  | .SubscriptionDeleted aggregateId _ => aggregateId

variable [Platform]

structure CreateWebhookSubscriptionParams where
  tenantId : TenantId
  createdByClientId : ClientId
  createdByUserId : Option UserId
  targetUrl : TargetUrl
  subscribedEventTypes : List EventType

structure RestoreWebhookSubscriptionProps extends CreateWebhookSubscriptionParams where
  id : SubscriptionId
  status : SubscriptionStatus
  createdAt : Date
  updatedAt : Date

structure WebhookSubscription extends RestoreWebhookSubscriptionProps where
  domainEvents : List DomainEvent

def assertNonEmptyEventTypes (eventTypes : List EventType) : Except DomainError Unit :=
  if eventTypes.length = 0 then .error (.invalidEventType "subscribedEventTypes must not be empty")
  else .ok ()

namespace WebhookSubscription

def create (params : CreateWebhookSubscriptionParams) (id : SubscriptionId) (now : Date) :
    Except DomainError WebhookSubscription := do
  assertNonEmptyEventTypes params.subscribedEventTypes
  return {
    params with
    id := id
    status := .ACTIVE
    createdAt := now
    updatedAt := now
    domainEvents := [.SubscriptionCreated id.value now] }

/-- A subscription read back from persistence; no event is recorded. -/
def restore (props : RestoreWebhookSubscriptionProps) : WebhookSubscription :=
  { props with domainEvents := [] }

variable (subscription : WebhookSubscription)

def record (event : DomainEvent) : WebhookSubscription :=
  { subscription with domainEvents := subscription.domainEvents ++ [event] }

def pause (now : Date) : Except DomainError WebhookSubscription :=
  if subscription.status ≠ .ACTIVE then
    .error (.invalidStatusTransition s!"Cannot pause a subscription in status {subscription.status}")
  else
    .ok ({ subscription with status := .PAUSED, updatedAt := now }.record
      (.SubscriptionPaused subscription.id.value now))

def resume (now : Date) : Except DomainError WebhookSubscription :=
  if subscription.status ≠ .PAUSED then
    .error (.invalidStatusTransition s!"Cannot resume a subscription in status {subscription.status}")
  else
    .ok ({ subscription with status := .ACTIVE, updatedAt := now }.record
      (.SubscriptionResumed subscription.id.value now))

def delete (now : Date) : WebhookSubscription :=
  if subscription.status = .DELETED then subscription
  else { subscription with status := .DELETED, updatedAt := now }.record
    (.SubscriptionDeleted subscription.id.value now)

def assertMutable : Except DomainError Unit :=
  if subscription.status = .DELETED then
    .error (.invalidStatusTransition "Cannot update a deleted subscription")
  else .ok ()

def updateTargetUrl (targetUrl : TargetUrl) (now : Date) : Except DomainError WebhookSubscription := do
  subscription.assertMutable
  return { subscription with targetUrl := targetUrl, updatedAt := now }

def updateSubscribedEventTypes (eventTypes : List EventType) (now : Date) :
    Except DomainError WebhookSubscription := do
  subscription.assertMutable
  assertNonEmptyEventTypes eventTypes
  return { subscription with subscribedEventTypes := eventTypes, updatedAt := now }

/-- The recorded events, and the aggregate drained of them. -/
def pullDomainEvents : List DomainEvent × WebhookSubscription :=
  (subscription.domainEvents, { subscription with domainEvents := [] })

/-! ### What each method does -/

variable {subscription} {result : WebhookSubscription} {now : Date}

theorem create_eq_ok_iff {params : CreateWebhookSubscriptionParams} {id : SubscriptionId} :
    create params id now = .ok result ↔ params.subscribedEventTypes ≠ [] ∧
      result = { params with
        id := id, status := .ACTIVE, createdAt := now, updatedAt := now,
        domainEvents := [.SubscriptionCreated id.value now] } := by
  simp only [create, assertNonEmptyEventTypes, Throwing.bind_eq_ok_iff, Throwing.guard_eq_ok_iff,
    List.length_eq_zero_iff]
  refine ⟨fun h => ?_, fun h => ?_⟩
  · obtain ⟨_, ⟨hempty, -⟩, hresult⟩ := h
    exact ⟨hempty, (Except.ok.inj hresult).symm⟩
  · exact ⟨(), ⟨h.1, trivial⟩, congrArg Except.ok h.2.symm⟩

theorem pause_eq_ok_iff : subscription.pause now = .ok result ↔ subscription.status = .ACTIVE ∧
    result = { subscription with status := .PAUSED, updatedAt := now }.record
      (.SubscriptionPaused subscription.id.value now) := by
  rw [pause, Throwing.guard_eq_ok_iff, not_ne_iff]

theorem resume_eq_ok_iff : subscription.resume now = .ok result ↔ subscription.status = .PAUSED ∧
    result = { subscription with status := .ACTIVE, updatedAt := now }.record
      (.SubscriptionResumed subscription.id.value now) := by
  rw [resume, Throwing.guard_eq_ok_iff, not_ne_iff]

theorem delete_of_deleted (h : subscription.status = .DELETED) : subscription.delete now = subscription :=
  if_pos h

theorem delete_of_not_deleted (h : subscription.status ≠ .DELETED) : subscription.delete now =
    { subscription with status := .DELETED, updatedAt := now }.record
      (.SubscriptionDeleted subscription.id.value now) :=
  if_neg h

theorem updateTargetUrl_eq_ok_iff {targetUrl : TargetUrl} :
    subscription.updateTargetUrl targetUrl now = .ok result ↔ subscription.status ≠ .DELETED ∧
      result = { subscription with targetUrl := targetUrl, updatedAt := now } := by
  simp only [updateTargetUrl, assertMutable, Throwing.bind_eq_ok_iff, Throwing.guard_eq_ok_iff]
  refine ⟨fun h => ?_, fun h => ?_⟩
  · obtain ⟨_, ⟨hstatus, -⟩, hresult⟩ := h
    exact ⟨hstatus, (Except.ok.inj hresult).symm⟩
  · exact ⟨(), ⟨h.1, trivial⟩, congrArg Except.ok h.2.symm⟩

theorem updateSubscribedEventTypes_eq_ok_iff {eventTypes : List EventType} :
    subscription.updateSubscribedEventTypes eventTypes now = .ok result ↔
      subscription.status ≠ .DELETED ∧ eventTypes ≠ [] ∧
        result = { subscription with subscribedEventTypes := eventTypes, updatedAt := now } := by
  simp only [updateSubscribedEventTypes, assertMutable, assertNonEmptyEventTypes, Throwing.bind_eq_ok_iff,
    Throwing.guard_eq_ok_iff, List.length_eq_zero_iff]
  refine ⟨fun h => ?_, fun h => ?_⟩
  · obtain ⟨_, ⟨hstatus, -⟩, _, ⟨hempty, -⟩, hresult⟩ := h
    exact ⟨hstatus, hempty, (Except.ok.inj hresult).symm⟩
  · exact ⟨(), ⟨h.1, trivial⟩, (), ⟨h.2.1, trivial⟩, congrArg Except.ok h.2.2.symm⟩

theorem delete_id : (subscription.delete now).id = subscription.id := by
  by_cases h : subscription.status = .DELETED
  · rw [delete_of_deleted h]
  · rw [delete_of_not_deleted h]
    rfl

theorem delete_tenantId : (subscription.delete now).tenantId = subscription.tenantId := by
  by_cases h : subscription.status = .DELETED
  · rw [delete_of_deleted h]
  · rw [delete_of_not_deleted h]
    rfl

theorem delete_events_about (hnone : subscription.domainEvents = []) :
    ∀ event ∈ (subscription.delete now).domainEvents, event.aggregateId = subscription.id.value := by
  intro event hevent
  by_cases h : subscription.status = .DELETED
  · rw [delete_of_deleted h, hnone] at hevent
    cases hevent
  · rw [delete_of_not_deleted h, record, hnone] at hevent
    rw [List.mem_singleton.mp hevent]
    rfl

theorem delete_status : (subscription.delete now).status = .DELETED := by
  by_cases h : subscription.status = .DELETED
  · rw [delete_of_deleted h]
    exact h
  · rw [delete_of_not_deleted h]
    rfl

end WebhookSubscription

end WebhookIdp.Subscription
