import WebhookIdp.Base.Simulation
import WebhookIdp.Subscription.Lifecycle

/-!
# The test double of the repository

`InMemorySubscriptionRepository` keeps the aggregates themselves, by their id: what it finds is the object that was
saved, with all that has been done to it since. `SubscriptionMongoRepository` keeps documents: what it finds is a new
object with the fields that were saved. The callers of both hold references to objects, and call their methods.
-/

namespace WebhookIdp.Subscription

open Simulation (Machine answers AllAllowed)

section TestDouble

variable [Platform]

abbrev Fields := RestoreWebhookSubscriptionProps

def WebhookSubscription.fields (subscription : WebhookSubscription) : Fields :=
  subscription.toRestoreWebhookSubscriptionProps

/-! ### Callers -/

/-- What a caller does next. It refers to an aggregate it has made or been given by a number. -/
inductive Command where
  | create (params : CreateWebhookSubscriptionParams) (id : SubscriptionId) (now : Date)
  | restore (props : RestoreWebhookSubscriptionProps)
  | mutate (handle : Nat) (call : MethodCall) (now : Date)
  | save (handle : Nat)
  | findByIdAndTenant (id : SubscriptionId) (tenantId : TenantId)
  | findByTenantAndTargetUrl (tenantId : TenantId) (targetUrl : TargetUrl)

/-- What the caller sees: the exception, or the fields of the aggregate it is given, if any. -/
abbrev Result := Except Exception (Option Fields)

/-! ### The test double -/

namespace InMemorySubscriptionRepository

/-- The entries of a `Map` from ids to objects, in the order of their first insertion; an object is its place on the
heap. -/
abbrev Store := List (String × Nat)

def get (store : Store) (id : String) : Option Nat := (store.find? fun entry => entry.1 = id).map Prod.snd

def save (heap : List WebhookSubscription) (store : Store) (object : Nat) : Store :=
  match heap[object]? with
  | some subscription => DocumentStore.replaceDoc Prod.fst (subscription.id.value, object) store
  | none => store

def findByIdAndTenant (heap : List WebhookSubscription) (store : Store) (id : SubscriptionId) (tenantId : TenantId) :
    Option Nat := do
  let object ← get store id.value
  let found ← heap[object]?
  if found.tenantId ≠ tenantId then none else some object

def findByTenantAndTargetUrl (heap : List WebhookSubscription) (store : Store) (tenantId : TenantId)
    (targetUrl : TargetUrl) : Option Nat :=
  (store.find? fun entry => heap[entry.2]?.any fun subscription =>
    subscription.tenantId = tenantId ∧ subscription.targetUrl = targetUrl).map Prod.snd

end InMemorySubscriptionRepository

/-- The objects, the test double's entries, and the objects the caller refers to. -/
structure InMemory where
  heap : List WebhookSubscription
  store : InMemorySubscriptionRepository.Store
  handles : List Nat

namespace InMemory

def start : InMemory := { heap := [], store := [], handles := [] }

def object (s : InMemory) (handle : Nat) : Option (Nat × WebhookSubscription) := do
  let place ← s.handles[handle]?
  let subscription ← s.heap[place]?
  return (place, subscription)

def given (s : InMemory) : Option Nat → Result × InMemory
  | some place => (.ok (s.heap[place]?.map WebhookSubscription.fields), { s with handles := s.handles ++ [place] })
  | none => (.ok none, s)

def made (s : InMemory) (subscription : WebhookSubscription) : Result × InMemory :=
  { s with heap := s.heap ++ [subscription] }.given (some s.heap.length)

def step : Machine InMemory Command Result
  | s, .create params id now =>
      match WebhookSubscription.create params id now with
      | .ok subscription => s.made subscription
      | .error error => (.error (.domain error), s)
  | s, .restore props => s.made (.restore props)
  | s, .mutate handle call now =>
      match s.object handle with
      | some (place, subscription) =>
          match call.apply now subscription with
          | .ok changed => (.ok none, { s with heap := s.heap.set place changed })
          | .error error => (.error (.domain error), s)
      | none => (.ok none, s)
  | s, .save handle =>
      match s.object handle with
      | some (place, _) => (.ok none, { s with store := InMemorySubscriptionRepository.save s.heap s.store place })
      | none => (.ok none, s)
  | s, .findByIdAndTenant id tenantId =>
      s.given (InMemorySubscriptionRepository.findByIdAndTenant s.heap s.store id tenantId)
  | s, .findByTenantAndTargetUrl tenantId targetUrl =>
      s.given (InMemorySubscriptionRepository.findByTenantAndTargetUrl s.heap s.store tenantId targetUrl)

end InMemory

/-! ### The real store -/

/-- The documents, and the objects the caller refers to, each of its own. -/
structure Mongo where
  store : SubscriptionStore
  handles : List WebhookSubscription

namespace Mongo

def start : Mongo := { store := .empty, handles := [] }

def given (t : Mongo) : Except DomainError (Option WebhookSubscription) → Result × Mongo
  | .ok (some subscription) => (.ok (some subscription.fields), { t with handles := t.handles ++ [subscription] })
  | .ok none => (.ok none, t)
  | .error error => (.error (.domain error), t)

def step : Machine Mongo Command Result
  | t, .create params id now => t.given ((WebhookSubscription.create params id now).map some)
  | t, .restore props => t.given (.ok (some (.restore props)))
  | t, .mutate handle call now =>
      match t.handles[handle]? with
      | some subscription =>
          match call.apply now subscription with
          | .ok changed => (.ok none, { t with handles := t.handles.set handle changed })
          | .error error => (.error (.domain error), t)
      | none => (.ok none, t)
  | t, .save handle =>
      match t.handles[handle]? with
      | some subscription =>
          match t.store.save subscription with
          | some store => (.ok none, { t with store })
          | none => (.error duplicateKeyError, t)
      | none => (.ok none, t)
  | t, .findByIdAndTenant id tenantId =>
      t.given (SubscriptionMongoRepository.findByIdAndTenant t.store id tenantId)
  | t, .findByTenantAndTargetUrl tenantId targetUrl =>
      t.given (SubscriptionMongoRepository.findByTenantAndTargetUrl t.store tenantId targetUrl)

end Mongo

/-! ### Calls of methods -/

section Methods

variable {call : MethodCall} {now : Date} {a b : WebhookSubscription}

/-- What a call does to the fields depends on the fields alone. -/
theorem map_fields_apply (call : MethodCall) (now : Date) (a : WebhookSubscription) :
    (call.apply now a).map WebhookSubscription.fields =
      (call.apply now (WebhookSubscription.restore a.fields)).map WebhookSubscription.fields := by
  obtain ⟨⟨params, id, status, createdAt, updatedAt⟩, events⟩ := a
  cases call with
  | updateSubscribedEventTypes eventTypes => cases status <;> cases eventTypes <;> rfl
  | _ => cases status <;> rfl

theorem apply_cases (call : MethodCall) (now : Date) (h : a.fields = b.fields) :
    (∃ error, call.apply now a = .error error ∧ call.apply now b = .error error) ∨
    ∃ a' b', call.apply now a = .ok a' ∧ call.apply now b = .ok b' ∧ a'.fields = b'.fields := by
  have hsame : (call.apply now a).map WebhookSubscription.fields =
      (call.apply now b).map WebhookSubscription.fields := by
    rw [map_fields_apply, map_fields_apply call now b, h]
  cases ha : call.apply now a with
  | error error =>
      cases hb : call.apply now b with
      | error error' =>
          rw [ha, hb] at hsame
          cases hsame
          exact Or.inl ⟨error, rfl, rfl⟩
      | ok b' =>
          rw [ha, hb] at hsame
          cases hsame
  | ok a' =>
      cases hb : call.apply now b with
      | error error =>
          rw [ha, hb] at hsame
          cases hsame
      | ok b' =>
          rw [ha, hb] at hsame
          exact Or.inr ⟨a', b', rfl, rfl, Except.ok.inj hsame⟩

theorem apply_eq_ok (h : call.apply now a = .ok b) : b.id = a.id ∧ b.tenantId = a.tenantId := by
  cases call with
  | pause =>
      obtain ⟨-, rfl⟩ := WebhookSubscription.pause_eq_ok_iff.mp h
      exact ⟨rfl, rfl⟩
  | resume =>
      obtain ⟨-, rfl⟩ := WebhookSubscription.resume_eq_ok_iff.mp h
      exact ⟨rfl, rfl⟩
  | delete =>
      cases h
      exact ⟨WebhookSubscription.delete_id, WebhookSubscription.delete_tenantId⟩
  | updateTargetUrl targetUrl =>
      obtain ⟨-, rfl⟩ := WebhookSubscription.updateTargetUrl_eq_ok_iff.mp h
      exact ⟨rfl, rfl⟩
  | updateSubscribedEventTypes eventTypes =>
      obtain ⟨-, -, rfl⟩ := WebhookSubscription.updateSubscribedEventTypes_eq_ok_iff.mp h
      exact ⟨rfl, rfl⟩
  | pullDomainEvents =>
      cases h
      exact ⟨rfl, rfl⟩

end Methods

end TestDouble

end WebhookIdp.Subscription
