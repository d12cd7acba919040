import WebhookIdp.Base.Noninterference
import WebhookIdp.Subscription.Entitlement

/-!
# Tenants do not interfere

A call that a tenant is entitled to changes nothing that another tenant sees, and does the same wherever
the tenant itself sees the same. So each tenant sees the run of its own requests alone.
-/

namespace WebhookIdp.Subscription

open Concurrent (System Unwinding)

section Isolation

variable [Platform]

def World.documentsOf (world : World) (tenant : String) : List SubscriptionRecord :=
  world.subscriptions.docs.filter fun record => record.tenantId == tenant

/-- The published events about stored documents of a tenant. -/
def World.eventsAbout (world : World) (tenant : String) : List DomainEvent :=
  world.published.filter fun event => (world.documentsOf tenant).any fun record => record._id == event.aggregateId

/-- What a tenant sees of the shared state. -/
def World.seenBy (tenant : String) (world : World) : List SubscriptionRecord × List DomainEvent :=
  (world.documentsOf tenant, world.eventsAbout tenant)

variable {ι : Type} {requests : ι → Request} {store : SubscriptionStore} {request : Request} {world world' : World}
  {subscription : WebhookSubscription}

/-! ### What a tenant sees -/

variable {tenant : String} {world₁ world₂ : World}

theorem mem_documentsOf {record : SubscriptionRecord} :
    record ∈ world.documentsOf tenant ↔ record ∈ world.subscriptions.docs ∧ record.tenantId = tenant := by
  rw [World.documentsOf, List.mem_filter, beq_iff_eq]

theorem documentsOf_save_of_ne (h : Entitled request world (.save subscription)) (hne : request.tenantId ≠ tenant)
    (hsave : world.subscriptions.save subscription = some store) :
    World.documentsOf { world with subscriptions := store } tenant = world.documentsOf tenant := by
  rw [World.documentsOf, SubscriptionStore.docs_save hsave]
  refine DocumentStore.filter_replaceDoc_of_neg ?_ fun record hrecord hid => ?_
  · rw [beq_eq_false_iff_ne]
    exact fun heq => hne (h.1.symm.trans heq)
  · rw [beq_eq_false_iff_ne, h.2.1 record hrecord hid]
    exact hne

theorem documentsOf_save_of_eq (h : Entitled request world (.save subscription)) (heq : request.tenantId = tenant)
    (hsave : world.subscriptions.save subscription = some store) :
    World.documentsOf { world with subscriptions := store } tenant =
      DocumentStore.replaceDoc SubscriptionRecord._id (toDocument subscription) (world.documentsOf tenant) := by
  rw [World.documentsOf, SubscriptionStore.docs_save hsave]
  refine DocumentStore.filter_replaceDoc_of_pos ?_ fun record hrecord hid => ?_
  · rw [beq_iff_eq]
    exact h.1.trans heq
  · rw [beq_iff_eq, h.2.1 record hrecord hid]
    exact heq

theorem eventsAbout_save (hdocumented : world.Documented) (h : Entitled request world (.save subscription))
    (heq : request.tenantId = tenant) (hsave : world.subscriptions.save subscription = some store) :
    World.eventsAbout { world with subscriptions := store } tenant = world.eventsAbout tenant := by
  refine List.filter_congr fun event hevent => ?_
  rw [documentsOf_save_of_eq h heq hsave, Bool.eq_iff_iff, List.any_eq_true, List.any_eq_true]
  simp only [beq_iff_eq]
  refine ⟨fun hafter => ?_, fun hbefore => ?_⟩
  · obtain ⟨record, hrecord, hid⟩ := hafter
    rcases DocumentStore.mem_replaceDoc.mp hrecord with rfl | ⟨hold, -⟩
    · obtain ⟨stored, hstored, hstoredId⟩ := hdocumented event hevent
      have htenant := h.2.1 stored hstored (hstoredId.trans hid.symm)
      exact ⟨stored, mem_documentsOf.mpr ⟨hstored, htenant.trans heq⟩, hstoredId⟩
    · exact ⟨record, hold, hid⟩
  · obtain ⟨record, hrecord, hid⟩ := hbefore
    by_cases hsame : record._id = subscription.id.value
    · exact ⟨toDocument subscription, DocumentStore.mem_replaceDoc.mpr (Or.inl rfl), hsame.symm.trans hid⟩
    · exact ⟨record, DocumentStore.mem_replaceDoc.mpr (Or.inr ⟨hrecord, hsame⟩), hid⟩

theorem eventsAbout_publish_of_ne {events : List DomainEvent} (h : Entitled request world (.publishAll events))
    (hne : request.tenantId ≠ tenant) :
    World.eventsAbout { world with published := world.published ++ events } tenant = world.eventsAbout tenant := by
  have hnone : events.filter (fun event =>
      (world.documentsOf tenant).any fun record => record._id == event.aggregateId) = [] := by
    rw [List.filter_eq_nil_iff]
    intro event hevent hany
    simp only [List.any_eq_true, beq_iff_eq] at hany
    obtain ⟨record, hrecord, hid⟩ := hany
    obtain ⟨hmem, htenant⟩ := mem_documentsOf.mp hrecord
    obtain ⟨own, hown, hownId, hownTenant⟩ := h event hevent
    have hsame := world.subscriptions.eq_of_key_eq hmem hown (hid.trans hownId.symm)
    exact hne (hownTenant.symm.trans (hsame ▸ htenant))
  rw [World.eventsAbout, List.filter_append]
  exact (congrArg _ hnone).trans (List.append_nil _)

/-- Whether a save meets the unique index depends on the documents of its tenant alone. -/
theorem conflicts_iff_documentsOf (htenant : subscription.tenantId.value = tenant) :
    world.subscriptions.Conflicts (toDocument subscription) ↔
      ∃ record ∈ world.documentsOf tenant, record.targetUrl = subscription.targetUrl.value ∧
        record._id ≠ subscription.id.value := by
  refine ⟨fun h => ?_, fun h => ?_⟩
  · obtain ⟨record, hrecord, hindex, hid⟩ := h
    obtain ⟨hrecordTenant, htarget⟩ := Prod.mk.inj hindex
    exact ⟨record, mem_documentsOf.mpr ⟨hrecord, hrecordTenant.trans htenant⟩, htarget, hid⟩
  · obtain ⟨record, hrecord, htarget, hid⟩ := h
    obtain ⟨hmem, hrecordTenant⟩ := mem_documentsOf.mp hrecord
    exact ⟨record, hmem, Prod.ext (hrecordTenant.trans htenant.symm) htarget, hid⟩

/-! ### Lookups read the documents of their tenant -/

open SubscriptionMongoRepository

theorem findByIdAndTenant_congr {store₁ store₂ : SubscriptionStore} {id : SubscriptionId} {tenantId : TenantId}
    (h : store₁.docs.filter (fun record => record.tenantId == tenantId.value) =
      store₂.docs.filter fun record => record.tenantId == tenantId.value) :
    findByIdAndTenant store₁ id tenantId = findByIdAndTenant store₂ id tenantId := by
  have hfilter (docs : List SubscriptionRecord) :
      docs.find? (fun record => record._id == id.value && record.tenantId == tenantId.value) =
        (docs.filter fun record => record.tenantId == tenantId.value).find? fun record => record._id == id.value := by
    rw [List.find?_filter]
    congr 1
    funext record
    simp only [Bool.decide_and, Bool.decide_eq_true, Bool.and_comm]
  rw [findByIdAndTenant, findByIdAndTenant, hfilter, hfilter, h]

theorem findByTenantAndTargetUrl_congr {store₁ store₂ : SubscriptionStore} {tenantId : TenantId}
    {targetUrl : TargetUrl}
    (h : store₁.docs.filter (fun record => record.tenantId == tenantId.value) =
      store₂.docs.filter fun record => record.tenantId == tenantId.value) :
    findByTenantAndTargetUrl store₁ tenantId targetUrl = findByTenantAndTargetUrl store₂ tenantId targetUrl := by
  have hfilter (docs : List SubscriptionRecord) :
      docs.find? (fun record => record.tenantId == tenantId.value && record.targetUrl == targetUrl.value) =
        (docs.filter fun record => record.tenantId == tenantId.value).find? fun record =>
          record.targetUrl == targetUrl.value := by
    rw [List.find?_filter]
    congr 1
    funext record
    simp only [Bool.decide_and, Bool.decide_eq_true]
  rw [findByTenantAndTargetUrl, findByTenantAndTargetUrl, hfilter, hfilter, h]

theorem list_congr {store₁ store₂ : SubscriptionStore} {order : NaturalOrder} {tenantId : TenantId}
    {filters : SubscriptionListFilters} {pagination : Pagination}
    (h : store₁.docs.filter (fun record => record.tenantId == tenantId.value) =
      store₂.docs.filter fun record => record.tenantId == tenantId.value) :
    list store₁ order tenantId filters pagination = list store₂ order tenantId filters pagination := by
  have hfilter (docs : List SubscriptionRecord) :
      docs.filter (SubscriptionMongoRepository.query tenantId filters) =
        (docs.filter fun record => record.tenantId == tenantId.value).filter
          (SubscriptionMongoRepository.query tenantId filters) := by
    rw [List.filter_filter]
    refine List.filter_congr fun record _ => ?_
    simp only [SubscriptionMongoRepository.query]
    cases record.tenantId == tenantId.value <;> simp
  simp only [list]
  rw [hfilter store₁.docs, hfilter store₂.docs, h]

/-! ### The two runs -/

theorem seenBy_others {op : RepositoryCall} (h : Entitled request world op) (hne : request.tenantId ≠ tenant)
    (order : NaturalOrder) : World.seenBy tenant (perform op order world).2 = World.seenBy tenant world := by
  cases op with
  | save subscription =>
      rcases perform_save_cases world order subscription with ⟨-, store, hsave, hperform⟩ | ⟨-, hperform⟩
      · rw [hperform]
        have hdocs := documentsOf_save_of_ne h hne hsave
        simp only [World.seenBy, World.eventsAbout, hdocs]
      · rw [hperform]
  | publishAll events =>
      rw [perform_publishAll, World.seenBy, eventsAbout_publish_of_ne h hne]
      rfl
  | _ => rfl

/-- A call of the tenant's own request answers and does the same wherever the tenant sees the same. -/
theorem seenBy_own {op : RepositoryCall} (hdocumented₁ : world₁.Documented) (hdocumented₂ : world₂.Documented)
    (h₁ : Entitled request world₁ op) (h₂ : Entitled request world₂ op) (heq : request.tenantId = tenant)
    (hseen : World.seenBy tenant world₁ = World.seenBy tenant world₂) (order : NaturalOrder) :
    (perform op order world₁).1 = (perform op order world₂).1 ∧
      World.seenBy tenant (perform op order world₁).2 = World.seenBy tenant (perform op order world₂).2 := by
  obtain ⟨hdocs, hevents⟩ := Prod.mk.inj hseen
  cases op with
  | save subscription =>
      have hconflicts : world₁.subscriptions.Conflicts (toDocument subscription) ↔
          world₂.subscriptions.Conflicts (toDocument subscription) := by
        rw [conflicts_iff_documentsOf (h₁.1.trans heq), conflicts_iff_documentsOf (h₁.1.trans heq), hdocs]
      rcases perform_save_cases world₁ order subscription with
          ⟨hfree₁, store₁, hsave₁, hperform₁⟩ | ⟨hconflict₁, hperform₁⟩ <;>
        rcases perform_save_cases world₂ order subscription with
          ⟨hfree₂, store₂, hsave₂, hperform₂⟩ | ⟨hconflict₂, hperform₂⟩
      · rw [hperform₁, hperform₂, World.seenBy, World.seenBy, documentsOf_save_of_eq h₁ heq hsave₁,
          documentsOf_save_of_eq h₂ heq hsave₂, eventsAbout_save hdocumented₁ h₁ heq hsave₁,
          eventsAbout_save hdocumented₂ h₂ heq hsave₂, hdocs, hevents]
        exact ⟨rfl, rfl⟩
      · exact absurd (hconflicts.mpr hconflict₂) hfree₁
      · exact absurd (hconflicts.mp hconflict₁) hfree₂
      · rw [hperform₁, hperform₂]
        exact ⟨rfl, hseen⟩
  | findByIdAndTenant id tenantId =>
      refine ⟨congrArg raise (findByIdAndTenant_congr ?_), hseen⟩
      rw [show tenantId.value = tenant from h₁.trans heq]
      exact hdocs
  | findByTenantAndTargetUrl tenantId targetUrl =>
      refine ⟨congrArg raise (findByTenantAndTargetUrl_congr ?_), hseen⟩
      rw [show tenantId.value = tenant from h₁.trans heq]
      exact hdocs
  | list tenantId filters pagination =>
      refine ⟨congrArg raise (list_congr ?_), hseen⟩
      rw [show tenantId.value = tenant from h₁.trans heq]
      exact hdocs
  | publishAll events =>
      refine ⟨rfl, Prod.ext hdocs ?_⟩
      have happend (world : World) :
          World.eventsAbout { world with published := world.published ++ events } tenant =
            world.eventsAbout tenant ++ events.filter fun event =>
              (world.documentsOf tenant).any fun record => record._id == event.aggregateId :=
        List.filter_append ..
      show World.eventsAbout _ tenant = World.eventsAbout _ tenant
      rw [perform_publishAll, perform_publishAll, happend, happend, hdocs, hevents]

theorem unwinding (requests : ι → Request) (tenant : String) :
    Unwinding perform World.Documented (fun i => Guarantees (requests i))
      (fun i => (requests i).tenantId = tenant) (World.seenBy tenant) where
  others _ hother _ order _ _ hguarantee := seenBy_others hguarantee.1 hother order
  own _ hown _ order _ _ hs ht hguarantee hguarantee' hseen :=
    seenBy_own hs ht hguarantee.1 hguarantee'.1 hown hseen order

/-- Two runs look the same to a tenant: the answers to its requests, its stored documents and the events
published about them. -/
structure SameFor (requests : ι → Request) (tenant : String) (s t : Requests ι) : Prop where
  answers : ∀ i, (requests i).tenantId = tenant → s.client i = t.client i
  documents : s.state.documentsOf tenant = t.state.documentsOf tenant
  events : s.state.eventsAbout tenant = t.state.eventsAbout tenant

/-- To a tenant, every interleaving looks like the one with all calls of the other tenants left out. -/
theorem tenant_isolation [DecidableEq ι] (requests : ι → Request) (store : SubscriptionStore)
    (hfresh : FreshIds requests store) (schedule : List (ι × NaturalOrder)) (tenant : String) :
    SameFor requests tenant
      ((Requests.start requests { subscriptions := store, published := [] }).run perform schedule)
      ((Requests.start requests { subscriptions := store, published := [] }).run perform
        (schedule.filter fun move => (requests move.1).tenantId = tenant)) := by
  have hagree := System.Agree.run ⟨rfl, fun _ _ => rfl⟩ (unwinding requests tenant) hfresh.safe hfresh.safe
    hfresh.compatible schedule
  obtain ⟨hdocuments, hevents⟩ := Prod.mk.inj hagree.view
  exact ⟨hagree.client, hdocuments, hevents⟩

end Isolation

section Sample

attribute [local instance] samplePlatform

def twoTenants : Bool → Request
  | false => .create { sampleInput with targetUrl := "https://client.example.com/outbound" } otherId 1
  | true => .delete { sampleKey with tenantId := "tenant-2" } 2

theorem twoTenants_fresh : FreshIds twoTenants sampleWorld.subscriptions := by
  refine ⟨fun i j id hi hj => ?_, fun i id hid => ?_⟩
  · cases i <;> cases j
    · rfl
    · cases hj
    · cases hi
    · rfl
  · cases i
    · cases hid
      decide
    · cases hid

theorem tenant_isolation_sample :
    SameFor twoTenants "tenant-1"
      ((Requests.start twoTenants { subscriptions := sampleWorld.subscriptions, published := [] }).run perform
        [(true, .insertion), (false, .insertion), (false, .insertion), (false, .insertion)])
      ((Requests.start twoTenants { subscriptions := sampleWorld.subscriptions, published := [] }).run perform
        ([(true, .insertion), (false, .insertion), (false, .insertion), (false, .insertion)].filter
          fun move => (twoTenants move.1).tenantId = "tenant-1")) :=
  tenant_isolation twoTenants sampleWorld.subscriptions twoTenants_fresh
    [(true, .insertion), (false, .insertion), (false, .insertion), (false, .insertion)] "tenant-1"

end Sample

end WebhookIdp.Subscription
