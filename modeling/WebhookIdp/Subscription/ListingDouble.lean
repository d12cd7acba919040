import WebhookIdp.Subscription.FaithfulDouble
import WebhookIdp.Subscription.Listing

/-!
# Listing over the test double

`InMemorySubscriptionRepository.list` filters the objects themselves and slices them in the order of their first
insertion. A caller that lists a tenant's subscriptions once it has saved them all sees the pages of the real store,
where that returns documents in the order of their insertion, and is given objects it can go on with.
-/

namespace WebhookIdp.Subscription

open Simulation (Machine answers AllAllowed)

section ListingDouble

variable [Platform]

/-! ### Callers that list -/

inductive ListingCommand where
  | command (command : Command)
  | list (tenantId : TenantId) (filters : SubscriptionListFilters) (pagination : Pagination)

/-- What the caller sees: the result of a command, or a page of the fields of the aggregates it is given. -/
inductive Shown where
  | result (result : Result)
  | page (page : Except Exception (PaginatedResult Fields))

namespace InMemorySubscriptionRepository

/-- The test of `list`, one subscription at a time. -/
def matchesFilters (tenantId : TenantId) (filters : SubscriptionListFilters) (subscription : WebhookSubscription) : Bool :=
  if subscription.tenantId ≠ tenantId then false
  else if filters.status.any fun status => subscription.status ≠ status then false
  else if filters.eventType.any fun eventType => !subscription.subscribedEventTypes.any fun et => et = eventType then false
  else true

def list (heap : List WebhookSubscription) (store : Store) (tenantId : TenantId) (filters : SubscriptionListFilters)
    (pagination : Pagination) : PaginatedResult Nat :=
  let all := (store.map Prod.snd).filter fun object => heap[object]?.any (matchesFilters tenantId filters)
  let start := (pagination.page - 1) * pagination.pageSize
  { items := all.extract start (start + pagination.pageSize)
    page := pagination.page
    pageSize := pagination.pageSize
    total := all.length }

end InMemorySubscriptionRepository

def InMemory.listingStep : Machine InMemory ListingCommand Shown
  | s, .command command => (.result (s.step command).1, (s.step command).2)
  | s, .list tenantId filters pagination =>
      let found := InMemorySubscriptionRepository.list s.heap s.store tenantId filters pagination
      (.page (.ok { found with items := found.items.filterMap fun place => s.heap[place]?.map WebhookSubscription.fields }),
        { s with handles := s.handles ++ found.items })

/-- The database returns documents in the order of their insertion. -/
def Mongo.listingStep : Machine Mongo ListingCommand Shown
  | t, .command command => (.result (t.step command).1, (t.step command).2)
  | t, .list tenantId filters pagination =>
      match SubscriptionMongoRepository.list t.store .insertion tenantId filters pagination with
      | .ok found =>
          (.page (.ok { found with items := found.items.map WebhookSubscription.fields }),
            { t with handles := t.handles ++ found.items })
      | .error error => (.page (.error (.domain error)), t)

namespace Tracked

def listingStep : Machine Tracked ListingCommand Shown
  | s, .command command => (.result (s.step command).1, (s.step command).2)
  | s, .list tenantId filters pagination =>
      let (shown, after) := s.toInMemory.listingStep (.list tenantId filters pagination)
      let listed :=
        match shown with
        | .page (.ok page) => page.items
        | _ => []
      (shown, { after with seen := s.seen ++ listed, saved := s.saved })

/-- A disciplined caller lists a tenant when all it has saved of the tenant is in sync. -/
def ListsInSync (s : Tracked) : ListingCommand → Prop
  | .command command => s.Disciplined command
  | .list tenantId _ _ => ∀ fields ∈ s.saved, fields.tenantId = tenantId → s.InSync fields

end Tracked

/-! ### One test for both -/

section Filters

variable {tenantId : TenantId} {filters : SubscriptionListFilters} {fields : Fields} {object : WebhookSubscription}

theorem matchesFilters_iff : InMemorySubscriptionRepository.matchesFilters tenantId filters object = true ↔
    object.tenantId = tenantId ∧ (∀ status ∈ filters.status, object.status = status) ∧
      ∀ eventType ∈ filters.eventType, eventType ∈ object.subscribedEventTypes := by
  unfold InMemorySubscriptionRepository.matchesFilters
  by_cases htenant : object.tenantId = tenantId
  · cases filters.status <;> cases filters.eventType <;> simp [htenant]
  · simp [htenant]

theorem query_document_iff : SubscriptionMongoRepository.query tenantId filters (document fields) = true ↔
    fields.tenantId = tenantId ∧ (∀ status ∈ filters.status, fields.status = status) ∧
      ∀ eventType ∈ filters.eventType, eventType ∈ fields.subscribedEventTypes := by
  have htenant : fields.tenantId.value = tenantId.value ↔ fields.tenantId = tenantId :=
    Text.NonBlank.value_injective.eq_iff
  have heventType (eventType : EventType) :
      eventType.value ∈ fields.subscribedEventTypes.map Text.NonBlank.value ↔ eventType ∈ fields.subscribedEventTypes :=
    List.mem_map_of_injective Text.NonBlank.value_injective
  unfold SubscriptionMongoRepository.query
  rw [Bool.and_eq_true, Bool.and_eq_true, beq_iff_eq, Option.all_eq_true, Option.all_eq_true, and_assoc]
  refine and_congr htenant (and_congr ?_ ?_)
  · exact forall₂_congr fun status _ => beq_iff_eq
  · exact forall₂_congr fun eventType _ => List.contains_iff_mem.trans (heventType eventType)

/-- The query document finds the documents of the subscriptions that the test double lets through. -/
theorem query_document (tenantId : TenantId) (filters : SubscriptionListFilters) (fields : Fields) :
    SubscriptionMongoRepository.query tenantId filters (document fields) =
      InMemorySubscriptionRepository.matchesFilters tenantId filters (WebhookSubscription.restore fields) := by
  rw [Bool.eq_iff_iff, query_document_iff, matchesFilters_iff]
  rfl

theorem matchesFilters_congr {other : WebhookSubscription} (h : object.fields = other.fields) :
    InMemorySubscriptionRepository.matchesFilters tenantId filters object =
      InMemorySubscriptionRepository.matchesFilters tenantId filters other := by
  have htenant : object.tenantId = other.tenantId := congrArg (fun fields : Fields => fields.tenantId) h
  have hstatus : object.status = other.status := congrArg (fun fields : Fields => fields.status) h
  have heventTypes : object.subscribedEventTypes = other.subscribedEventTypes :=
    congrArg (fun fields : Fields => fields.subscribedEventTypes) h
  unfold InMemorySubscriptionRepository.matchesFilters
  rw [htenant, hstatus, heventTypes]

theorem matchesFilters_of_ne (h : object.tenantId ≠ tenantId) :
    InMemorySubscriptionRepository.matchesFilters tenantId filters object = false := by
  simp [InMemorySubscriptionRepository.matchesFilters, h]

end Filters

/-! ### A page on both sides -/

section Pages

variable {heap : List WebhookSubscription} {s : Tracked} {t : Mongo} {tenantId : TenantId}
  {filters : SubscriptionListFilters} {places : List Nat} {copies : List WebhookSubscription}

def SameFields (heap : List WebhookSubscription) (place : Nat) (copy : WebhookSubscription) : Prop :=
  ∃ object, heap[place]? = some object ∧ object.fields = copy.fields

/-- What has been saved for the tenant and passes the filters, in the order of the first saves. -/
def Tracked.kept (s : Tracked) (tenantId : TenantId) (filters : SubscriptionListFilters) : List Fields :=
  s.saved.filter fun fields =>
    InMemorySubscriptionRepository.matchesFilters tenantId filters (WebhookSubscription.restore fields)

theorem fields_of_sameFields (h : List.Forall₂ (SameFields heap) places copies) :
    (places.filterMap fun place => heap[place]?.map WebhookSubscription.fields) =
      copies.map WebhookSubscription.fields := by
  induction h with
  | nil => rfl
  | cons hhead _ ih =>
      obtain ⟨object, hobject, hfields⟩ := hhead
      simp [hobject, hfields, ih]

theorem Related.givenAll (h : Related s t) (hsame : List.Forall₂ (SameFields s.heap) places copies) :
    Related { s with handles := s.handles ++ places, seen := s.seen ++ copies.map WebhookSubscription.fields }
      { t with handles := t.handles ++ copies } := by
  generalize hheap : s.heap = heap at hsame
  induction hsame generalizing s t with
  | nil =>
      subst hheap
      simpa using h
  | @cons place copy _ _ hhead _ ih =>
      subst hheap
      obtain ⟨object, hobject, hfields⟩ := hhead
      have hrest := ih (h.given hobject hfields) rfl
      simpa [hfields] using hrest

theorem Related.sameFields_kept (h : Related s t)
    (hsync : ∀ fields ∈ s.saved, fields.tenantId = tenantId → s.InSync fields) :
    List.Forall₂ (SameFields s.heap)
      ((s.store.map Prod.snd).filter fun object =>
        s.heap[object]?.any (InMemorySubscriptionRepository.matchesFilters tenantId filters))
      ((s.kept tenantId filters).map WebhookSubscription.restore) := by
  have hown : ∀ entry ∈ s.store, ∀ fields ∈ s.saved, ∀ object, Holds s.heap entry fields →
      s.heap[entry.2]? = some object → fields.tenantId = tenantId → object.fields = fields := by
    intro entry hentry fields hfields object hholds hobject htenant
    have hstored := (hsync fields hfields htenant).1
    rw [h.stored_eq hentry hholds hobject, Option.some_inj] at hstored
    exact hstored
  rw [List.filter_map, List.forall₂_map_left_iff, List.forall₂_map_right_iff, Tracked.kept]
  refine DocumentStore.filter_related h.store (fun entry hentry fields hfields hholds => ?_)
    fun entry hentry fields hfields hholds hpass => ?_
  · obtain ⟨-, object, hobject, -, htenant⟩ := id hholds
    rw [Function.comp_apply, hobject, Option.any_some]
    by_cases htenantId : fields.tenantId = tenantId
    · exact matchesFilters_congr (hown entry hentry fields hfields object hholds hobject htenantId)
    · rw [matchesFilters_of_ne (htenant ▸ htenantId), matchesFilters_of_ne htenantId]
  · obtain ⟨-, object, hobject, -⟩ := id hholds
    exact ⟨object, hobject, hown entry hentry fields hfields object hholds hobject (matchesFilters_iff.mp hpass).1⟩

theorem Related.found_eq (h : Related s t) (tenantId : TenantId) (filters : SubscriptionListFilters) :
    t.store.docs.filter (SubscriptionMongoRepository.query tenantId filters) =
      (s.kept tenantId filters).map document := by
  rw [h.docs, List.filter_map, Tracked.kept]
  congr 2
  funext fields
  exact query_document tenantId filters fields

theorem mapM_document (hurl : URL.ReparsesSerialised) {records : List Fields}
    (hshort : ∀ fields ∈ records, Text.length fields.targetUrl.value ≤ MAX_LENGTH) :
    (records.map document).mapM toAggregate = .ok (records.map WebhookSubscription.restore) := by
  rw [Throwing.mapM_eq_ok_iff, List.forall₂_map_left_iff, List.forall₂_map_right_iff, List.forall₂_same]
  intro fields hfields
  have hlength : Text.length (WebhookSubscription.restore fields).targetUrl.value ≤ MAX_LENGTH := hshort fields hfields
  exact toAggregate_toDocument hurl hlength

end Pages

/-! ### One command -/

section Steps

variable {s : Tracked} {t : Mongo} {command : ListingCommand}

/-- A tenant is listed alike, and the callers are given objects with the same fields. -/
theorem Related.agree_list (hurl : URL.ReparsesSerialised) (h : Related s t) {tenantId : TenantId}
    {filters : SubscriptionListFilters} {pagination : Pagination}
    (hsync : ∀ fields ∈ s.saved, fields.tenantId = tenantId → s.InSync fields) :
    (s.listingStep (.list tenantId filters pagination)).1 = (t.listingStep (.list tenantId filters pagination)).1 ∧
      Related (s.listingStep (.list tenantId filters pagination)).2
        (t.listingStep (.list tenantId filters pagination)).2 := by
  let skip := (pagination.page - 1) * pagination.pageSize
  let page := ((s.kept tenantId filters).drop skip).take pagination.pageSize
  have hshort : ∀ fields ∈ page, Text.length fields.targetUrl.value ≤ MAX_LENGTH := by
    intro fields hfields
    obtain ⟨hsaved, hpass⟩ := List.mem_filter.mp (List.mem_of_mem_drop (List.mem_of_mem_take hfields))
    exact (hsync fields hsaved (matchesFilters_iff.mp hpass).1).2
  have hlist : SubscriptionMongoRepository.list t.store .insertion tenantId filters pagination = .ok {
      items := page.map WebhookSubscription.restore
      page := pagination.page
      pageSize := pagination.pageSize
      total := (s.kept tenantId filters).length } := by
    refine list_eq_ok_iff.mpr ⟨?_, rfl, rfl, ?_⟩
    · rw [matching, h.found_eq, ← mapM_document hurl hshort]
      simp [page, skip, Paging.page, NaturalOrder.insertion, List.map_drop, List.map_take]
    · rw [matching, h.found_eq, List.length_map]
  have hall : List.Forall₂ (SameFields s.heap) _ ((s.kept tenantId filters).map WebhookSubscription.restore) :=
    h.sameFields_kept hsync
  have hpage : List.Forall₂ (SameFields s.heap)
      (InMemorySubscriptionRepository.list s.heap s.store tenantId filters pagination).items
      (page.map WebhookSubscription.restore) := by
    have hcut := List.forall₂_take pagination.pageSize (List.forall₂_drop skip hall)
    simpa [InMemorySubscriptionRepository.list, List.extract, page, skip, List.map_drop, List.map_take] using hcut
  have htotal : (InMemorySubscriptionRepository.list s.heap s.store tenantId filters pagination).total =
      (s.kept tenantId filters).length := by
    simpa [InMemorySubscriptionRepository.list] using hall.length_eq
  unfold Tracked.listingStep Mongo.listingStep InMemory.listingStep
  simp only [hlist, fields_of_sameFields hpage, htotal]
  exact ⟨rfl, h.givenAll hpage⟩

theorem Related.agree_listing (hurl : URL.ReparsesSerialised) (h : Related s t) (hallowed : s.ListsInSync command) :
    (s.listingStep command).1 = (t.listingStep command).1 ∧
      Related (s.listingStep command).2 (t.listingStep command).2 := by
  cases command with
  | command command =>
      obtain ⟨hanswer, hrelated⟩ := h.agree hurl hallowed
      exact ⟨congrArg Shown.result hanswer, hrelated⟩
  | list tenantId filters pagination => exact h.agree_list hurl hallowed

end Steps

theorem answers_tracked_listing (s : Tracked) (commands : List ListingCommand) :
    answers Tracked.listingStep s commands = answers InMemory.listingStep s.toInMemory commands := by
  induction commands generalizing s with
  | nil => rfl
  | cons command rest ih =>
      rw [answers, answers, ih]
      cases command <;> rfl

/-- To a disciplined caller that lists a tenant when all its subscriptions are in sync, the test double and the real
store show the same, page by page. -/
theorem listing_inMemory_eq_mongo (hurl : URL.ReparsesSerialised) {commands : List ListingCommand}
    (hallowed : AllAllowed Tracked.listingStep Tracked.ListsInSync .start commands) :
    answers InMemory.listingStep .start commands = answers Mongo.listingStep .start commands := by
  have hsame := Simulation.answers_eq (fun _ _ _ hrelated hallowed => hrelated.agree_listing hurl hallowed) related_start
    hallowed
  exact (answers_tracked_listing .start commands).symm.trans hsame

end ListingDouble

section Sample

attribute [local instance] samplePlatform

theorem listingStep_command {s s' : Tracked} {command : Command} {result : Result} (h : s.step command = (result, s')) :
    s.listingStep (.command command) = (.result result, s') := by
  rw [Tracked.listingStep, h]

theorem canonical_outbound : ∃ raw url, Platform.newURL raw = some url ∧ URL.Accepted url ∧
    url.href = "https://client.example.com/outbound" :=
  ⟨"https://client.example.com/outbound", URL.https "client.example.com" "/outbound", by decide,
    ⟨rfl, rfl, rfl, by decide⟩, rfl⟩

def outboundParams : CreateWebhookSubscriptionParams :=
  { sampleParams with targetUrl := ⟨"https://client.example.com/outbound", canonical_outbound⟩ }

def outboundSubscription : WebhookSubscription where
  toCreateWebhookSubscriptionParams := outboundParams
  id := otherId
  status := .ACTIVE
  createdAt := 0
  updatedAt := 0
  domainEvents := [.SubscriptionCreated otherId.value 0]

/-- The caller that has saved the sample subscription makes another one, and saves it if `saved` says so. -/
def twoDoubles (saved : Bool) : Tracked where
  heap := [sampleSubscription .ACTIVE 0 [.SubscriptionCreated sampleId.value 0], outboundSubscription]
  store := (sampleId.value, 0) :: if saved then [(otherId.value, 1)] else []
  handles := [0, 1]
  seen := [(sampleSubscription .ACTIVE 0 []).fields, outboundSubscription.fields]
  saved := (sampleSubscription .ACTIVE 0 []).fields :: if saved then [outboundSubscription.fields] else []

/-- A caller that saves two subscriptions and lists them, the second page first. -/
def listedSample : List ListingCommand :=
  [.command (.create sampleParams sampleId 0), .command (.save 0), .command (.create outboundParams otherId 0),
    .command (.save 1), .list sampleTenant { status := some .ACTIVE, eventType := none } ⟨2, 1, by decide, by decide⟩,
    .list sampleTenant { status := none, eventType := none } ⟨1, 20, by decide, by decide⟩]

theorem listing_inMemory_eq_mongo_sample :
    answers InMemory.listingStep .start listedSample = answers Mongo.listingStep .start listedSample := by
  have hcreate : (sampleDouble (sampleSubscription .ACTIVE 0 [.SubscriptionCreated sampleId.value 0])
      [(sampleSubscription .ACTIVE 0 []).fields]).step (.create outboundParams otherId 0) =
        (.ok (some outboundSubscription.fields), twoDoubles false) := rfl
  have hsave : (twoDoubles false).step (.save 1) = (.ok none, twoDoubles true) := rfl
  have hsync : ∀ fields ∈ (twoDoubles true).saved, fields.tenantId = sampleTenant → (twoDoubles true).InSync fields := by
    intro fields hfields _
    obtain rfl | hfields := List.mem_cons.mp hfields
    · exact ⟨rfl, by decide⟩
    · rw [List.mem_singleton.mp hfields]
      exact ⟨rfl, by decide⟩
  refine listing_inMemory_eq_mongo samplePlatform_reparsesSerialised
    (.of_step (listingStep_command create_sampleDouble) trivial ?_)
  refine .of_step (listingStep_command (save_sampleDouble rfl (Or.inl rfl))) (saving_sampleDouble rfl (Or.inl rfl)) ?_
  refine .of_step (listingStep_command hcreate) trivial ?_
  refine .of_step (listingStep_command hsave) ⟨rfl, fun fields hfields other hother _ htarget => ?_⟩ ?_
  · cases hfields
    rw [List.mem_singleton.mp hother] at htarget
    exact absurd (congrArg TargetUrl.value htarget) (by decide)
  · exact ⟨hsync, hsync, trivial⟩

end Sample

end WebhookIdp.Subscription
