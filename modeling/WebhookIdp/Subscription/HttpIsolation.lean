import WebhookIdp.Subscription.Http
import WebhookIdp.Subscription.Isolation

/-!
# Tenants at the HTTP boundary

The guard takes the tenant from a header, and no call of a request reaches beyond the subscriptions of that tenant.
To the callers of one tenant the service answers as if the requests of all other tenants, and those that name none,
were not there.
-/

namespace WebhookIdp.Subscription

open Concurrent (System Compatible Unwinding)

section HttpIsolation

variable [Platform] {ι : Type} {https : ι → HttpRequest} {store : SubscriptionStore} {tenant : String}

/-- The ids generated for POST requests are distinct, and no stored subscription has one of them. -/
structure FreshNewIds (https : ι → HttpRequest) (store : SubscriptionStore) : Prop where
  distinct : ∀ i j id, (https i).newId = some id → (https j).newId = some id → i = j
  unused : ∀ i id, (https i).newId = some id → ∀ record ∈ store.docs, record._id ≠ id

namespace HttpRequest

/-- What a request relies on, whatever it asks of the use cases. -/
def Relies (http : HttpRequest) (before after : World) : Prop :=
  ∀ request, http.Asks request → Undisturbed request before after

/-- A request makes only calls that the request to its use case is entitled to. -/
def Confines (http : HttpRequest) (op : RepositoryCall) (before : World) (answer : Except Exception op.Answer)
    (after : World) : Prop :=
  ∃ request, http.Asks request ∧ Guarantees request op before answer after

theorem confined_handle {http : HttpRequest} {world : World}
    (hfresh : ∀ id, http.newId = some id → ∀ record ∈ world.subscriptions.docs, record._id ≠ id) :
    Concurrent.Safe perform World.Documented http.Relies http.Confines (fun _ _ => True) http.handle world := by
  refine safe_handle fun request hasks => ?_
  have hconfined : Confined request request.execute world := confined_execute fun id hid => hfresh id (hasks.newId hid)
  exact hconfined.imp (fun _ _ hrelies => hrelies request hasks)
    (fun _ _ _ _ hguarantee => ⟨request, hasks, hguarantee⟩) fun _ _ hpost => hpost

end HttpRequest

theorem FreshNewIds.compatible (h : FreshNewIds https store) :
    Compatible World.Documented (fun i => (https i).Relies) (fun i => (https i).Confines) where
  refl _ _ _ _ := ⟨fun record hrecord => ⟨record, hrecord, rfl, rfl⟩, fun _ _ hfree => hfree⟩
  trans _ _ _ _ hfirst hrest request hasks := (hfirst request hasks).trans (hrest request hasks)
  guards := by
    intro i j hne op s answer s' _ hguarantee request hasks
    obtain ⟨mover, hmover, hentitled, order, hperform⟩ := hguarantee
    have hkept := kept_of_entitled hentitled order
    have hids := id_of_entitled hentitled order
    rw [hperform] at hkept hids
    refine ⟨hkept, fun id hid hfree record hrecord heq => ?_⟩
    obtain ⟨earlier, hearlier, hearlierId⟩ | hgenerated := hids record hrecord
    · exact hfree earlier hearlier (hearlierId.trans heq)
    · exact hne (h.distinct i j id (hmover.newId (heq ▸ hgenerated)) (hasks.newId hid))

theorem FreshNewIds.safe (h : FreshNewIds https store) :
    System.Safe perform World.Documented (fun i => (https i).Relies) (fun i => (https i).Confines)
      (fun _ _ _ => True) (HttpRequests.start https { subscriptions := store, published := [] }) :=
  ⟨nofun, fun i => HttpRequest.confined_handle (h.unused i)⟩

theorem http_unwinding (https : ι → HttpRequest) (tenant : String) :
    Unwinding perform World.Documented (fun i => (https i).Confines) (fun i => (https i).tenant = some tenant)
      (World.seenBy tenant) where
  others i hother op order world _ hguarantee := by
    obtain ⟨request, hasks, hentitled, -⟩ := hguarantee
    have hne : request.tenantId ≠ tenant := by
      intro heq
      rw [← heq] at hother
      exact hother hasks.tenant
    exact seenBy_others hentitled hne order
  own i hown op order world world' hdocumented hdocumented' hguarantee hguarantee' hseen := by
    obtain ⟨request, hasks, hentitled, -⟩ := hguarantee
    obtain ⟨request', hasks', hentitled', -⟩ := hguarantee'
    cases hasks.unique hasks'
    have heq : request.tenantId = tenant := Option.some.inj (hasks.tenant.symm.trans hown)
    exact seenBy_own hdocumented hdocumented' hentitled hentitled' heq hseen order

/-- Two runs look the same to the callers of a tenant: the answers to them, the stored documents of the tenant and
the events published about them. -/
structure SameForCallers (https : ι → HttpRequest) (tenant : String) (s t : HttpRequests ι) : Prop where
  answers : ∀ i, (https i).tenant = some tenant → s.answer https i = t.answer https i
  documents : s.state.documentsOf tenant = t.state.documentsOf tenant
  events : s.state.eventsAbout tenant = t.state.eventsAbout tenant

/-- To the callers of a tenant every interleaving looks like the one with all calls of other requests left out. -/
theorem callers_isolated [DecidableEq ι] (https : ι → HttpRequest) (store : SubscriptionStore)
    (hfresh : FreshNewIds https store) (schedule : List (ι × NaturalOrder)) (tenant : String) :
    SameForCallers https tenant
      ((HttpRequests.start https { subscriptions := store, published := [] }).run perform schedule)
      ((HttpRequests.start https { subscriptions := store, published := [] }).run perform
        (schedule.filter fun move => (https move.1).tenant = some tenant)) := by
  have hagree := System.Agree.run ⟨rfl, fun _ _ => rfl⟩ (http_unwinding https tenant) hfresh.safe hfresh.safe
    hfresh.compatible schedule
  obtain ⟨hdocuments, hevents⟩ := Prod.mk.inj hagree.view
  refine ⟨fun i hi => ?_, hdocuments, hevents⟩
  rw [HttpRequests.answer, HttpRequests.answer, hagree.client i hi]

end HttpIsolation

section Sample

attribute [local instance] samplePlatform

theorem threeCallers_fresh : FreshNewIds threeCallers sampleWorld.subscriptions := by
  have hstranger {i : SampleCaller} {id : String} (h : (threeCallers i).newId = some id) :
      i = .stranger ∧ id = otherId.value := by
    cases i with
    | owner => cases h
    | stranger => exact ⟨rfl, (Option.some.inj h).symm⟩
    | anonymous => cases h
  refine ⟨fun i j id hi hj => (hstranger hi).1.trans (hstranger hj).1.symm, fun i id hid => ?_⟩
  rw [(hstranger hid).2]
  decide

theorem callers_isolated_sample :
    SameForCallers threeCallers "tenant-1"
      ((HttpRequests.start threeCallers { subscriptions := sampleWorld.subscriptions, published := [] }).run perform
        [(.owner, .insertion), (.stranger, .insertion), (.owner, .insertion), (.anonymous, .insertion)])
      ((HttpRequests.start threeCallers { subscriptions := sampleWorld.subscriptions, published := [] }).run perform
        ([(.owner, .insertion), (.stranger, .insertion), (.owner, .insertion), (.anonymous, .insertion)].filter
          fun move => (threeCallers move.1).tenant = some "tenant-1")) :=
  callers_isolated threeCallers sampleWorld.subscriptions threeCallers_fresh
    [(.owner, .insertion), (.stranger, .insertion), (.owner, .insertion), (.anonymous, .insertion)] "tenant-1"

end Sample

end WebhookIdp.Subscription
