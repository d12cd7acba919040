import WebhookIdp.Base.Collection
import WebhookIdp.Base.Program
import WebhookIdp.Subscription.Exceptions

/-!
# The subscription repository

Documents and aggregates, the stored collection, and the calls a use case makes. The collection is
keyed by `_id` and has the unique index on `(tenantId, targetUrl)` of the schema. Every stored
document was written by `toDocument`, which the store carries as a field.
-/

namespace WebhookIdp.Subscription

structure SubscriptionRecord where
  _id : String
  tenantId : String
  createdByClientId : String
  createdByUserId : Option String
  targetUrl : String
  subscribedEventTypes : List String
  status : SubscriptionStatus
  createdAt : Date
  updatedAt : Date
  deriving DecidableEq, Repr

/-- The fields of the unique index. -/
def SubscriptionRecord.tenantAndTargetUrl (record : SubscriptionRecord) : String × String :=
  (record.tenantId, record.targetUrl)

variable [Platform]

def toDocument (subscription : WebhookSubscription) : SubscriptionRecord where
  _id := subscription.id.value
  tenantId := subscription.tenantId.value
  createdByClientId := subscription.createdByClientId.value
  createdByUserId := subscription.createdByUserId.map fun userId => userId.value
  targetUrl := subscription.targetUrl.value
  subscribedEventTypes := subscription.subscribedEventTypes.map fun eventType => eventType.value
  status := subscription.status
  createdAt := subscription.createdAt
  updatedAt := subscription.updatedAt

def toAggregate (record : SubscriptionRecord) : Except DomainError WebhookSubscription := do
  let id ← SubscriptionId.fromString record._id
  let tenantId ← TenantId.fromString record.tenantId
  let createdByClientId ← ClientId.fromString record.createdByClientId
  let createdByUserId ← record.createdByUserId.mapM UserId.fromString
  let targetUrl ← TargetUrl.fromString record.targetUrl
  let subscribedEventTypes ← record.subscribedEventTypes.mapM EventType.fromString
  return WebhookSubscription.restore {
    id, tenantId, createdByClientId, createdByUserId, targetUrl, subscribedEventTypes
    status := record.status
    createdAt := record.createdAt
    updatedAt := record.updatedAt }

/-! ### Documents and aggregates -/

/-- An aggregate read back from its own document: the same, with no event recorded. -/
def WebhookSubscription.drained (subscription : WebhookSubscription) : WebhookSubscription :=
  { subscription with domainEvents := [] }

theorem toDocument_drained (subscription : WebhookSubscription) :
    toDocument subscription.drained = toDocument subscription := rfl

theorem toDocument_injective {a b : WebhookSubscription} (h : toDocument a = toDocument b) :
    a.drained = b.drained := by
  obtain ⟨⟨⟨⟨tenant⟩, ⟨client⟩, user, ⟨target⟩, types⟩, ⟨id⟩, _, _, _⟩, _⟩ := a
  obtain ⟨⟨⟨⟨tenant'⟩, ⟨client'⟩, user', ⟨target'⟩, types'⟩, ⟨id'⟩, _, _, _⟩, _⟩ := b
  simp only [toDocument, SubscriptionRecord.mk.injEq] at h
  obtain ⟨rfl, rfl, rfl, huser, rfl, htypes, rfl, rfl, rfl⟩ := h
  rw [Option.map_injective Text.NonBlank.value_injective huser,
    List.map_injective_iff.mpr Text.NonBlank.value_injective htypes]
  rfl

/-- A written document is read back exactly when the target URL it holds is short enough. -/
theorem toAggregate_toDocument (hurl : URL.ReparsesSerialised) {subscription : WebhookSubscription}
    (hlength : Text.length subscription.targetUrl.value ≤ MAX_LENGTH) :
    toAggregate (toDocument subscription) = .ok subscription.drained := by
  have huser : (subscription.createdByUserId.map fun userId => userId.value).mapM UserId.fromString =
      .ok subscription.createdByUserId := by
    cases subscription.createdByUserId with
    | none => rfl
    | some userId =>
        simp only [Option.map_some, Option.mapM_some, UserId.fromString, Text.NonBlank.fromString_value]
        rfl
  have hevents : (subscription.subscribedEventTypes.map fun eventType => eventType.value).mapM
      EventType.fromString = .ok subscription.subscribedEventTypes :=
    Throwing.mapM_map_eq_ok (fun eventType => Text.NonBlank.fromString_value eventType) _
  have htarget := TargetUrl.fromString_value hurl subscription.targetUrl hlength
  simp only [toAggregate, toDocument, SubscriptionId.fromString_value, TenantId.fromString,
    ClientId.fromString, Text.NonBlank.fromString_value, huser, hevents, htarget]
  rfl

theorem length_le_of_toAggregate_eq_ok {record : SubscriptionRecord} {subscription : WebhookSubscription}
    (h : toAggregate record = .ok subscription) : Text.length record.targetUrl ≤ MAX_LENGTH := by
  simp only [toAggregate, Throwing.bind_eq_ok_iff] at h
  obtain ⟨_, -, _, -, _, -, _, -, _, htarget, -⟩ := h
  exact (TargetUrl.fromString_eq_ok_iff.mp htarget).1

theorem toAggregate_eq_ok {record : SubscriptionRecord} {subscription : WebhookSubscription}
    (h : toAggregate record = .ok subscription) :
    subscription.id.value = record._id ∧ subscription.tenantId.value = record.tenantId ∧
      subscription.domainEvents = [] := by
  simp only [toAggregate, Throwing.bind_eq_ok_iff] at h
  obtain ⟨_, hid, _, htenant, _, -, _, -, _, -, _, -, hresult⟩ := h
  cases hresult
  exact ⟨SubscriptionId.fromString_eq_ok_iff.mp hid, Text.NonBlank.fromString_eq_ok_iff.mp htenant, rfl⟩

theorem status_of_toAggregate_eq_ok {record : SubscriptionRecord} {subscription : WebhookSubscription}
    (h : toAggregate record = .ok subscription) : subscription.status = record.status := by
  simp only [toAggregate, Throwing.bind_eq_ok_iff] at h
  obtain ⟨_, -, _, -, _, -, _, -, _, -, _, -, hresult⟩ := h
  cases hresult
  rfl

theorem toAggregate_toDocument_eq_ok_iff (hurl : URL.ReparsesSerialised)
    {subscription result : WebhookSubscription} :
    toAggregate (toDocument subscription) = .ok result ↔
      Text.length subscription.targetUrl.value ≤ MAX_LENGTH ∧ result = subscription.drained := by
  refine ⟨fun h => ?_, fun h => ?_⟩
  · have hlength := length_le_of_toAggregate_eq_ok h
    rw [toAggregate_toDocument hurl hlength] at h
    exact ⟨hlength, (Except.ok.inj h).symm⟩
  · rw [toAggregate_toDocument hurl h.1, h.2]

/-! ### The stored collection -/

structure SubscriptionStore extends
    DocumentStore.Collection SubscriptionRecord._id SubscriptionRecord.tenantAndTargetUrl where
  written : ∀ record ∈ docs, ∃ subscription, toDocument subscription = record

namespace SubscriptionStore

variable {store store' : SubscriptionStore} {subscription : WebhookSubscription} {record : SubscriptionRecord}

def empty : SubscriptionStore := ⟨DocumentStore.Collection.empty, nofun⟩

/-- `findOneAndUpdate({ _id }, record, { upsert: true })`; nothing where the unique index refuses it. -/
def save (store : SubscriptionStore) (subscription : WebhookSubscription) : Option SubscriptionStore :=
  match h : store.upsert (toDocument subscription) with
  | none => none
  | some collection => some {
      collection with
      written := by
        intro record hrecord
        rcases (DocumentStore.Collection.mem_upsert h).mp hrecord with rfl | ⟨hold, -⟩
        · exact ⟨subscription, rfl⟩
        · exact store.written record hold }

theorem save_eq_none_iff : store.save subscription = none ↔ store.Conflicts (toDocument subscription) := by
  rw [← DocumentStore.Collection.upsert_eq_none_iff, save]
  split
  · rename_i h
    exact ⟨fun _ => h, fun _ => rfl⟩
  · rename_i h
    exact ⟨nofun, fun hnone => nomatch h.symm.trans hnone⟩

theorem docs_save (h : store.save subscription = some store') :
    store'.docs = DocumentStore.replaceDoc SubscriptionRecord._id (toDocument subscription) store.docs := by
  rw [save] at h
  split at h
  · cases h
  · rename_i hupsert
    cases h
    exact DocumentStore.Collection.docs_upsert hupsert

theorem mem_save (h : store.save subscription = some store') :
    record ∈ store'.docs ↔
      record = toDocument subscription ∨ (record ∈ store.docs ∧ record._id ≠ subscription.id.value) := by
  rw [docs_save h, DocumentStore.mem_replaceDoc]
  rfl

theorem get?_save_self (h : store.save subscription = some store') :
    store'.get? subscription.id.value = some (toDocument subscription) := by
  rw [DocumentStore.Collection.get?_eq_some_iff]
  exact ⟨(mem_save h).mpr (Or.inl rfl), rfl⟩

theorem toDocument_of_mem (hurl : URL.ReparsesSerialised) (hmem : record ∈ store.docs)
    (hread : toAggregate record = .ok subscription) :
    toDocument subscription = record ∧ subscription.domainEvents = [] := by
  obtain ⟨writer, rfl⟩ := store.written record hmem
  obtain ⟨-, rfl⟩ := (toAggregate_toDocument_eq_ok_iff hurl).mp hread
  exact ⟨rfl, rfl⟩

end SubscriptionStore

/-! ### Calls of the repository and the event publisher -/

structure SubscriptionListFilters where
  status : Option SubscriptionStatus
  eventType : Option EventType

/-- The page and page size that `PaginationInterceptor` lets through. -/
structure Pagination where
  page : Nat
  pageSize : Nat
  page_pos : 0 < page
  pageSize_pos : 0 < pageSize

/-- What `find(query).skip(skip).limit(limit)` hands to the database. -/
structure FindOptions where
  skip : Nat
  limit : Nat

structure PaginatedResult (α : Type) where
  items : List α
  page : Nat
  pageSize : Nat
  total : Nat

inductive RepositoryCall where
  | save (subscription : WebhookSubscription)
  | findByIdAndTenant (id : SubscriptionId) (tenantId : TenantId)
  | findByTenantAndTargetUrl (tenantId : TenantId) (targetUrl : TargetUrl)
  | list (tenantId : TenantId) (filters : SubscriptionListFilters) (pagination : Pagination)
  | publishAll (events : List DomainEvent)

abbrev RepositoryCall.Answer : RepositoryCall → Type
  | save _ => Unit
  | findByIdAndTenant _ _ => Option WebhookSubscription
  | findByTenantAndTargetUrl _ _ => Option WebhookSubscription
  | list _ _ _ => PaginatedResult WebhookSubscription
  | publishAll _ => Unit

/-- What the requests share: the stored subscriptions and the events published so far. -/
structure World where
  subscriptions : SubscriptionStore
  published : List DomainEvent

def World.stored (world : World) (id : String) : Option SubscriptionRecord := world.subscriptions.get? id

/-- The order in which a query without a sort returns the documents it matches. -/
structure NaturalOrder where
  arrange : List SubscriptionRecord → List SubscriptionRecord
  perm : ∀ records, (arrange records).Perm records

def NaturalOrder.insertion : NaturalOrder := ⟨id, fun _ => .rfl⟩

namespace SubscriptionMongoRepository

def query (tenantId : TenantId) (filters : SubscriptionListFilters) (record : SubscriptionRecord) : Bool :=
  record.tenantId == tenantId.value
    && filters.status.all (fun status => record.status == status)
    && filters.eventType.all (fun eventType => record.subscribedEventTypes.contains eventType.value)

def findOptions (pagination : Pagination) : FindOptions where
  skip := (pagination.page - 1) * pagination.pageSize
  limit := pagination.pageSize

def list (store : SubscriptionStore) (order : NaturalOrder) (tenantId : TenantId)
    (filters : SubscriptionListFilters) (pagination : Pagination) :
    Except DomainError (PaginatedResult WebhookSubscription) := do
  let options := findOptions pagination
  let found := store.docs.filter (query tenantId filters)
  let records := ((order.arrange found).drop options.skip).take options.limit
  let items ← records.mapM toAggregate
  return { items, page := pagination.page, pageSize := pagination.pageSize, total := found.length }

/-- `record ? toAggregate(record) : null` -/
def rehydrate (record : Option SubscriptionRecord) : Except DomainError (Option WebhookSubscription) :=
  record.mapM toAggregate

def findByIdAndTenant (store : SubscriptionStore) (id : SubscriptionId) (tenantId : TenantId) :
    Except DomainError (Option WebhookSubscription) :=
  rehydrate (store.docs.find? fun record => record._id == id.value && record.tenantId == tenantId.value)

def findByTenantAndTargetUrl (store : SubscriptionStore) (tenantId : TenantId) (targetUrl : TargetUrl) :
    Except DomainError (Option WebhookSubscription) :=
  rehydrate (store.docs.find? fun record =>
    record.tenantId == tenantId.value && record.targetUrl == targetUrl.value)

end SubscriptionMongoRepository

open SubscriptionMongoRepository in
/-- Each call is atomic, `list` too, for which the code makes two queries. No call is refused or left unanswered by the
database, unless the unique index refuses it. -/
def perform : Concurrent.Interface RepositoryCall RepositoryCall.Answer Exception NaturalOrder World
  | .save subscription, _, world =>
      match world.subscriptions.save subscription with
      | some subscriptions => (.ok (), { world with subscriptions })
      | none => (.error duplicateKeyError, world)
  | .findByIdAndTenant id tenantId, _, world =>
      (raise (findByIdAndTenant world.subscriptions id tenantId), world)
  | .findByTenantAndTargetUrl tenantId targetUrl, _, world =>
      (raise (findByTenantAndTargetUrl world.subscriptions tenantId targetUrl), world)
  | .list tenantId filters pagination, order, world =>
      (raise (list world.subscriptions order tenantId filters pagination), world)
  | .publishAll events, _, world => (.ok (), { world with published := world.published ++ events })

/-! ### What the calls do -/

variable {world : World} {order : NaturalOrder} {subscription : WebhookSubscription}

/-- A save either replaces the document with its `_id` or meets the unique index and changes nothing. -/
theorem perform_save_cases (world : World) (order : NaturalOrder) (subscription : WebhookSubscription) :
    (¬ world.subscriptions.Conflicts (toDocument subscription) ∧
      ∃ store, world.subscriptions.save subscription = some store ∧
        perform (.save subscription) order world = (.ok (), { world with subscriptions := store })) ∨
    (world.subscriptions.Conflicts (toDocument subscription) ∧
      perform (.save subscription) order world = (.error duplicateKeyError, world)) := by
  rcases hsave : world.subscriptions.save subscription with _ | store
  · refine Or.inr ⟨SubscriptionStore.save_eq_none_iff.mp hsave, ?_⟩
    simp only [perform, hsave]
  · refine Or.inl ⟨fun hconflict => ?_, store, rfl, ?_⟩
    · rw [SubscriptionStore.save_eq_none_iff.mpr hconflict] at hsave
      cases hsave
    · simp only [perform, hsave]

theorem perform_docs_cases (op : RepositoryCall) (order : NaturalOrder) (world : World) :
    (perform op order world).2.subscriptions = world.subscriptions ∨
      ∃ subscription, op = .save subscription ∧
        world.subscriptions.save subscription = some (perform op order world).2.subscriptions := by
  cases op with
  | save subscription =>
      rcases perform_save_cases world order subscription with ⟨-, store, hsave, hperform⟩ | ⟨-, hperform⟩
      · rw [hperform]
        exact Or.inr ⟨subscription, rfl, hsave⟩
      · rw [hperform]
        exact Or.inl rfl
  | _ => exact Or.inl rfl

@[simp] theorem perform_publishAll {events : List DomainEvent} :
    perform (.publishAll events) order world =
      (.ok (), { world with published := world.published ++ events }) := rfl

namespace SubscriptionMongoRepository

variable {store : SubscriptionStore} {id : SubscriptionId} {tenantId : TenantId} {targetUrl : TargetUrl}

theorem rehydrate_eq_ok_some_iff {record : Option SubscriptionRecord} :
    rehydrate record = .ok (some subscription) ↔ ∃ r, record = some r ∧ toAggregate r = .ok subscription := by
  cases record with
  | none => exact ⟨fun h => (nomatch Except.ok.inj h), fun ⟨_, h, _⟩ => nomatch h⟩
  | some r =>
      rw [rehydrate, Option.mapM_some]
      refine ⟨fun h => ⟨r, rfl, ?_⟩, fun h => ?_⟩
      · obtain ⟨a, ha, hsome⟩ := Throwing.bind_eq_ok_iff.mp h
        cases hsome
        exact ha
      · obtain ⟨_, hr, hread⟩ := h
        cases hr
        rw [hread]
        rfl

theorem findByIdAndTenant_eq_ok_some (hurl : URL.ReparsesSerialised)
    (h : findByIdAndTenant store id tenantId = .ok (some subscription)) :
    toDocument subscription ∈ store.docs ∧ subscription.id.value = id.value ∧
      subscription.tenantId.value = tenantId.value ∧ subscription.domainEvents = [] := by
  obtain ⟨record, hfind, hread⟩ := rehydrate_eq_ok_some_iff.mp h
  have hmem := List.mem_of_find?_eq_some hfind
  have hkey := List.find?_some hfind
  rw [Bool.and_eq_true, beq_iff_eq, beq_iff_eq] at hkey
  obtain ⟨hdoc, hevents⟩ := SubscriptionStore.toDocument_of_mem hurl hmem hread
  rw [← hdoc] at hmem hkey
  exact ⟨hmem, hkey.1, hkey.2, hevents⟩

theorem get?_of_found (hurl : URL.ReparsesSerialised)
    (h : findByIdAndTenant store id tenantId = .ok (some subscription)) :
    store.get? id.value = some (toDocument subscription) := by
  obtain ⟨hmem, hid, -⟩ := findByIdAndTenant_eq_ok_some hurl h
  exact (DocumentStore.Collection.get?_eq_some_iff _).mpr ⟨hmem, hid⟩

end SubscriptionMongoRepository

end WebhookIdp.Subscription
