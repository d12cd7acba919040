import WebhookIdp.Base.Safety
import WebhookIdp.Subscription.Transactions

/-!
# What a request is entitled to

`save` looks at nothing but the `_id`. What keeps tenants apart is that every call of a request is one
that its tenant is entitled to: it looks up under its own tenant, and the document it saves is one that
it has found so or that has its own generated id. Documents never change their tenant, so what was found
stays the tenant's own until it is saved.
-/

namespace WebhookIdp.Subscription

open Concurrent (System Compatible)

section Entitlement

variable [Platform]

/-- The call is about subscriptions of the tenant of the request and no others. -/
def Entitled (request : Request) (world : World) : RepositoryCall → Prop
  | .save subscription =>
      subscription.tenantId.value = request.tenantId ∧
        (∀ record ∈ world.subscriptions.docs, record._id = subscription.id.value →
          record.tenantId = request.tenantId) ∧
        (request.generatedId = some subscription.id.value ∨
          ∃ record ∈ world.subscriptions.docs, record._id = subscription.id.value)
  | .findByIdAndTenant _ tenantId => tenantId.value = request.tenantId
  | .findByTenantAndTargetUrl tenantId _ => tenantId.value = request.tenantId
  | .list tenantId _ _ => tenantId.value = request.tenantId
  | .publishAll events => ∀ event ∈ events, ∃ record ∈ world.subscriptions.docs,
      record._id = event.aggregateId ∧ record.tenantId = request.tenantId

/-- What a request relies on: documents keep their `_id` and tenant, and nobody takes the id it generated. -/
structure Undisturbed (request : Request) (before after : World) : Prop where
  kept : ∀ record ∈ before.subscriptions.docs, ∃ later ∈ after.subscriptions.docs,
    later._id = record._id ∧ later.tenantId = record.tenantId
  free : ∀ id, request.generatedId = some id → (∀ record ∈ before.subscriptions.docs, record._id ≠ id) →
    ∀ record ∈ after.subscriptions.docs, record._id ≠ id

def World.Documented (world : World) : Prop :=
  ∀ event ∈ world.published, ∃ record ∈ world.subscriptions.docs, record._id = event.aggregateId

/-- What a request guarantees: it makes only calls it is entitled to. -/
def Guarantees (request : Request) (op : RepositoryCall) (before : World) (answer : Except Exception op.Answer)
    (after : World) : Prop :=
  Entitled request before op ∧ ∃ order, perform op order before = (answer, after)

variable {request : Request} {world world' : World} {subscription : WebhookSubscription}

/-! ### The effect of an entitled call -/

theorem kept_of_entitled {op : RepositoryCall} (h : Entitled request world op) (order : NaturalOrder) :
    ∀ record ∈ world.subscriptions.docs, ∃ later ∈ (perform op order world).2.subscriptions.docs,
      later._id = record._id ∧ later.tenantId = record.tenantId := by
  intro record hrecord
  rcases perform_docs_cases op order world with hsame | ⟨subscription, rfl, hsave⟩
  · rw [hsame]
    exact ⟨record, hrecord, rfl, rfl⟩
  · by_cases hid : record._id = subscription.id.value
    · refine ⟨toDocument subscription, (SubscriptionStore.mem_save hsave).mpr (Or.inl rfl), hid.symm, ?_⟩
      rw [h.2.1 record hrecord hid]
      exact h.1
    · exact ⟨record, (SubscriptionStore.mem_save hsave).mpr (Or.inr ⟨hrecord, hid⟩), rfl, rfl⟩

theorem id_of_entitled {op : RepositoryCall} (h : Entitled request world op) (order : NaturalOrder) :
    ∀ record ∈ (perform op order world).2.subscriptions.docs,
      (∃ earlier ∈ world.subscriptions.docs, earlier._id = record._id) ∨
        request.generatedId = some record._id := by
  intro record hrecord
  rcases perform_docs_cases op order world with hsame | ⟨subscription, rfl, hsave⟩
  · rw [hsame] at hrecord
    exact Or.inl ⟨record, hrecord, rfl⟩
  · rcases (SubscriptionStore.mem_save hsave).mp hrecord with rfl | ⟨hold, -⟩
    · exact h.2.2.symm
    · exact Or.inl ⟨record, hold, rfl⟩

theorem documented_of_entitled {op : RepositoryCall} (hworld : world.Documented)
    (h : Entitled request world op) (order : NaturalOrder) : (perform op order world).2.Documented := by
  have hkept := kept_of_entitled h order
  have hold : ∀ event ∈ world.published, ∃ record ∈ (perform op order world).2.subscriptions.docs,
      record._id = event.aggregateId := by
    intro event hevent
    obtain ⟨record, hrecord, hid⟩ := hworld event hevent
    obtain ⟨later, hlater, hlaterId, -⟩ := hkept record hrecord
    exact ⟨later, hlater, hlaterId.trans hid⟩
  cases op with
  | save subscription =>
      rcases perform_save_cases world order subscription with ⟨-, store, hsave, hperform⟩ | ⟨-, hperform⟩ <;>
        rw [hperform] at hold ⊢ <;> exact hold
  | publishAll events =>
      intro event hevent
      rcases List.mem_append.mp hevent with hevent | hevent
      · exact hworld event hevent
      · obtain ⟨record, hrecord, hid, -⟩ := h event hevent
        exact ⟨record, hrecord, hid⟩
  | _ => exact hworld

/-! ### What a request holds is its own -/

/-- The document of `subscription` is one of the tenant of the request, or will be the one it creates. -/
structure Owns (request : Request) (world : World) (subscription : WebhookSubscription) : Prop where
  tenantId : subscription.tenantId.value = request.tenantId
  events : ∀ event ∈ subscription.domainEvents, event.aggregateId = subscription.id.value
  held : (request.generatedId = some subscription.id.value ∧
      ∀ record ∈ world.subscriptions.docs, record._id ≠ subscription.id.value) ∨
    ∃ record ∈ world.subscriptions.docs,
      record._id = subscription.id.value ∧ record.tenantId = request.tenantId

theorem Owns.mono (h : Owns request world subscription) (hrely : Undisturbed request world world') :
    Owns request world' subscription := by
  refine ⟨h.tenantId, h.events, ?_⟩
  rcases h.held with ⟨hgenerated, hfree⟩ | ⟨record, hrecord, hid, htenant⟩
  · exact Or.inl ⟨hgenerated, hrely.free _ hgenerated hfree⟩
  · obtain ⟨later, hlater, hlaterId, hlaterTenant⟩ := hrely.kept record hrecord
    exact Or.inr ⟨later, hlater, hlaterId.trans hid, hlaterTenant.trans htenant⟩

theorem Owns.entitled (h : Owns request world subscription) : Entitled request world (.save subscription) := by
  refine ⟨h.tenantId, ?_, ?_⟩
  · intro record hrecord hid
    rcases h.held with ⟨-, hfree⟩ | ⟨own, hown, hownId, htenant⟩
    · exact absurd hid (hfree record hrecord)
    · rw [world.subscriptions.eq_of_key_eq hrecord hown (hid.trans hownId.symm)]
      exact htenant
  · rcases h.held with ⟨hgenerated, -⟩ | ⟨own, hown, hownId, -⟩
    · exact Or.inl hgenerated
    · exact Or.inr ⟨own, hown, hownId⟩

open SubscriptionMongoRepository in
theorem owned_of_found {id : SubscriptionId} {tenantId : TenantId}
    (h : findByIdAndTenant world.subscriptions id tenantId = .ok (some subscription)) :
    subscription.tenantId.value = tenantId.value ∧ subscription.domainEvents = [] ∧
      ∃ record ∈ world.subscriptions.docs,
        record._id = subscription.id.value ∧ record.tenantId = tenantId.value := by
  obtain ⟨record, hfind, hread⟩ := rehydrate_eq_ok_some_iff.mp h
  have hkey := List.find?_some hfind
  rw [Bool.and_eq_true, beq_iff_eq, beq_iff_eq] at hkey
  obtain ⟨hid, htenant, hevents⟩ := toAggregate_eq_ok hread
  exact ⟨htenant.trans hkey.2, hevents, record, List.mem_of_find?_eq_some hfind, hid.symm, hkey.2⟩

/-- What a request decides to save is its own. -/
theorem owns_of_decides (h : Decides world.subscriptions request subscription)
    (hfresh : ∀ id, request.generatedId = some id → ∀ record ∈ world.subscriptions.docs, record._id ≠ id) :
    Owns request world subscription := by
  cases h with
  | @create _ id _ _ _ _ htenant _ _ hcreate =>
      obtain ⟨hid, htenantId, -, -, -, hevents⟩ := CreateSubscriptionInput.create_eq_ok hcreate
      refine ⟨(congrArg _ htenantId).trans htenant, ?_, Or.inl ⟨?_, ?_⟩⟩
      · rw [hevents, hid]
        intro event hevent
        rw [List.mem_singleton.mp hevent]
        rfl
      · rw [hid]
        rfl
      · rw [hid]
        exact hfresh id.value rfl
  | @update input clock _ _ loaded _ hid htenant hfound happly =>
      obtain ⟨hloadedTenant, hloadedEvents, record, hrecord, hrecordId, hrecordTenant⟩ := owned_of_found hfound
      have happlied := UpdateSubscriptionInput.apply_eq_ok happly
      refine ⟨?_, ?_, Or.inr ⟨record, hrecord, ?_, hrecordTenant.trans htenant⟩⟩
      · rw [happlied.tenantId]
        exact hloadedTenant.trans htenant
      · rw [happlied.id]
        exact happlied.events_about hloadedEvents
      · rw [happlied.id]
        exact hrecordId
  | @delete input now _ _ loaded hid htenant hfound =>
      obtain ⟨hloadedTenant, hloadedEvents, record, hrecord, hrecordId, hrecordTenant⟩ := owned_of_found hfound
      refine ⟨?_, ?_, Or.inr ⟨record, hrecord, ?_, hrecordTenant.trans htenant⟩⟩
      · rw [WebhookSubscription.delete_tenantId]
        exact hloadedTenant.trans htenant
      · rw [WebhookSubscription.delete_id]
        exact WebhookSubscription.delete_events_about hloadedEvents
      · rw [WebhookSubscription.delete_id]
        exact hrecordId

/-! ### Requests make only calls they are entitled to -/

/-- Nothing is promised of the result of a request. -/
abbrev Confined (request : Request) (program : UseCase Response) (world : World) : Prop :=
  Concurrent.Safe perform World.Documented (Undisturbed request) (Guarantees request) (fun _ _ => True)
    program world

theorem Undisturbed.trans {first second third : World} (h : Undisturbed request first second)
    (h' : Undisturbed request second third) : Undisturbed request first third := by
  refine ⟨fun record hrecord => ?_, fun id hid hfree => h'.free id hid (h.free id hid hfree)⟩
  obtain ⟨later, hlater, hlaterId, hlaterTenant⟩ := h.kept record hrecord
  obtain ⟨last, hlast, hlastId, hlastTenant⟩ := h'.kept later hlater
  exact ⟨last, hlast, hlastId.trans hlaterId, hlastTenant.trans hlaterTenant⟩

theorem confined_call {op : RepositoryCall} {next : Except Exception op.Answer → UseCase Response}
    (h : ∀ later, later.Documented → Undisturbed request world later → Entitled request later op ∧
      ∀ order, Confined request (next (perform op order later).1) (perform op order later).2) :
    Confined request (.call op next) world := by
  intro later order hdocumented hrely
  obtain ⟨hentitled, hnext⟩ := h later hdocumented hrely
  exact ⟨documented_of_entitled hdocumented hentitled order, ⟨hentitled, order, rfl⟩, hnext order⟩

theorem confined_publishing (h : Owns request world subscription)
    (hstored : ∃ record ∈ world.subscriptions.docs,
      record._id = subscription.id.value ∧ record.tenantId = request.tenantId) :
    Confined request (publishing subscription) world := by
  refine confined_call fun later _ hrely => ⟨fun event hevent => ?_, fun order _ _ _ => trivial⟩
  obtain ⟨record, hrecord, hid, htenant⟩ := hstored
  obtain ⟨last, hlast, hlastId, hlastTenant⟩ := hrely.kept record hrecord
  exact ⟨last, hlast, (hlastId.trans hid).trans (h.events event hevent).symm, hlastTenant.trans htenant⟩

theorem confined_saving (h : Owns request world subscription) :
    Confined request (saving subscription) world := by
  rw [saving_eq]
  refine confined_call fun later _ hrely => ?_
  have howns := h.mono hrely
  refine ⟨howns.entitled, fun order => ?_⟩
  rcases perform_save_cases later order subscription with ⟨-, store, hsave, hperform⟩ | ⟨-, hperform⟩
  · rw [hperform]
    have hstored : ∃ record ∈ store.docs,
        record._id = subscription.id.value ∧ record.tenantId = request.tenantId :=
      ⟨toDocument subscription, (SubscriptionStore.mem_save hsave).mpr (Or.inl rfl), rfl, h.tenantId⟩
    exact confined_publishing ⟨h.tenantId, h.events, Or.inr hstored⟩ hstored
  · rw [hperform]
    exact fun _ _ _ => trivial

theorem Request.Transacts.entitled {op : RepositoryCall}
    {decide : op.Answer → Except Exception WebhookSubscription} (h : request.Transacts op decide) :
    Entitled request world op := by
  cases h with
  | create htenant _ => exact htenant
  | update _ htenant => exact htenant
  | delete _ htenant => exact htenant

theorem Request.Queries.entitled {op : RepositoryCall} {respond : op.Answer → Except Exception Response}
    (h : request.Queries op respond) : Entitled request world op := by
  cases h with
  | get _ htenant => exact htenant
  | list htenant => exact htenant

theorem confined_execute
    (hfresh : ∀ id, request.generatedId = some id → ∀ record ∈ world.subscriptions.docs, record._id ≠ id) :
    Confined request request.execute world := by
  have hform := execute_form request
  generalize request.execute = program at hform
  cases hform with
  | refused error => exact fun _ _ _ => trivial
  | query h =>
      exact confined_call fun later _ hrely => ⟨h.entitled, fun order _ _ _ => trivial⟩
  | @transaction op decide h =>
      refine confined_call fun later _ hrely => ⟨h.entitled, fun order => ?_⟩
      rw [h.state_eq order later]
      rcases hdecide : (perform op order later).1 >>= decide with exception | decided
      · exact fun _ _ _ => trivial
      · exact confined_saving (owns_of_decides (h.decides hdecide) fun id hid =>
          hrely.free id hid (hfresh id hid))

/-! ### What other requests do to a request -/

variable {ι : Type}

/-- Generated ids are distinct, and no stored subscription has one of them. -/
structure FreshIds (requests : ι → Request) (store : SubscriptionStore) : Prop where
  distinct : ∀ i j id, (requests i).generatedId = some id → (requests j).generatedId = some id → i = j
  unused : ∀ i id, (requests i).generatedId = some id → ∀ record ∈ store.docs, record._id ≠ id

variable {requests : ι → Request} {store : SubscriptionStore}

theorem FreshIds.compatible (h : FreshIds requests store) :
    Compatible World.Documented (fun i => Undisturbed (requests i)) (fun i => Guarantees (requests i)) where
  refl _ _ := ⟨fun record hrecord => ⟨record, hrecord, rfl, rfl⟩, fun _ _ hfree => hfree⟩
  trans _ _ _ _ := Undisturbed.trans
  guards := by
    intro i j hne op s answer s' _ hguarantee
    obtain ⟨hentitled, order, hperform⟩ := hguarantee
    have hkept := kept_of_entitled hentitled order
    have hids := id_of_entitled hentitled order
    rw [hperform] at hkept hids
    refine ⟨hkept, fun id hid hfree record hrecord heq => ?_⟩
    rcases hids record hrecord with ⟨earlier, hearlier, hearlierId⟩ | hgenerated
    · exact hfree earlier hearlier (hearlierId.trans heq)
    · exact hne (h.distinct i j id (heq ▸ hgenerated) hid)

theorem FreshIds.safe (h : FreshIds requests store) :
    System.Safe perform World.Documented (fun i => Undisturbed (requests i)) (fun i => Guarantees (requests i))
      (fun _ _ _ => True) (Requests.start requests { subscriptions := store, published := [] }) :=
  ⟨nofun, fun i => confined_execute (h.unused i)⟩

end Entitlement

end WebhookIdp.Subscription
