import WebhookIdp.Subscription.Sequential

/-!
# An update is all or nothing

The mutations of a PATCH work on the copy the request has loaded, and the one save at its end writes all of
them. A step that throws before it therefore leaves no trace of the steps before.
-/

namespace WebhookIdp.Subscription

section AllOrNothing

variable [Platform]

/-- The document after an update: exactly the given fields are replaced, by what their factories made of the
given values, and `updatedAt` is the last reading of the clock. -/
structure Patched (input : UpdateSubscriptionInput) (clock : Nat → Date) (before after : SubscriptionRecord) :
    Prop where
  _id : after._id = before._id
  tenantId : after.tenantId = before.tenantId
  createdByClientId : after.createdByClientId = before.createdByClientId
  createdByUserId : after.createdByUserId = before.createdByUserId
  createdAt : after.createdAt = before.createdAt
  targetUrl_none : input.targetUrl = none → after.targetUrl = before.targetUrl
  targetUrl_some : ∀ text, input.targetUrl = some text →
    ∃ targetUrl, TargetUrl.fromString text = .ok targetUrl ∧ after.targetUrl = targetUrl.value
  eventTypes_none : input.eventTypes = none → after.subscribedEventTypes = before.subscribedEventTypes
  eventTypes_some : ∀ texts, input.eventTypes = some texts → ∃ eventTypes,
    texts.mapM EventType.fromString = .ok eventTypes ∧ eventTypes ≠ [] ∧
      after.subscribedEventTypes = eventTypes.map fun eventType => eventType.value
  status_none : input.status = none → after.status = before.status
  status_some : ∀ status, input.status = some status → after.status = status ∧
    ((before.status = .ACTIVE ∧ status = .PAUSED) ∨ (before.status = .PAUSED ∧ status = .ACTIVE))
  updatedAt : after.updatedAt =
    if input.status.isSome then clock 2 else if input.eventTypes.isSome then clock 1
    else if input.targetUrl.isSome then clock 0 else before.updatedAt

variable {input : UpdateSubscriptionInput} {clock : Nat → Date}

theorem UpdateSubscriptionInput.Applied.patched {loaded subscription : WebhookSubscription}
    (h : input.Applied clock loaded subscription) :
    Patched input clock (toDocument loaded) (toDocument subscription) where
  _id := congrArg SubscriptionId.value h.id
  tenantId := congrArg Text.NonBlank.value h.tenantId
  createdByClientId := congrArg Text.NonBlank.value h.createdByClientId
  createdByUserId := congrArg (Option.map Text.NonBlank.value) h.createdByUserId
  createdAt := h.createdAt
  targetUrl_none hnone := congrArg TargetUrl.value (h.targetUrl_none hnone)
  targetUrl_some text hsome := ⟨_, (h.targetUrl_some text hsome).1, rfl⟩
  eventTypes_none hnone := congrArg (List.map Text.NonBlank.value) (h.eventTypes_none hnone)
  eventTypes_some texts hsome :=
    have hgiven := h.eventTypes_some texts hsome
    ⟨_, hgiven.1, hgiven.2.2, rfl⟩
  status_none hnone := (h.status_none hnone).1
  status_some status hsome := by
    obtain ⟨hnew, ⟨hactive, hpaused, -⟩ | ⟨hpaused, hactive, -⟩⟩ := h.status_some status hsome
    · exact ⟨hnew, Or.inr ⟨hpaused, hactive⟩⟩
    · exact ⟨hnew, Or.inl ⟨hactive, hpaused⟩⟩
  updatedAt := h.updatedAt

/-- An update that fails changes nothing and publishes nothing. One that succeeds replaces the given fields of
the one document of the subscription and leaves every other document alone. -/
theorem update_all_or_nothing (hurl : URL.ReparsesSerialised) (input : UpdateSubscriptionInput)
    (clock : Nat → Date) (order : NaturalOrder) (world : World) :
    (∀ exception, (serve (.update input clock) order world).1 = .error exception →
      (serve (.update input clock) order world).2 = world) ∧
      ∀ response, (serve (.update input clock) order world).1 = .ok response →
        ∃ before after, world.stored input.id = some before ∧ before.tenantId = input.tenantId ∧
          (serve (.update input clock) order world).2.stored input.id = some after ∧
          Patched input clock before after ∧
          ∀ id, id ≠ input.id → (serve (.update input clock) order world).2.stored id = world.stored id := by
  refine ⟨fun exception hfailed => serve_of_error hfailed, fun response hok => ?_⟩
  rcases serve_cases (.update input clock) order world with hidle | ⟨subscription, hwrote⟩
  · rcases hidle.failed_or_reads with ⟨exception, hfailed⟩ | ⟨op, respond, hquery⟩
    · rw [hfailed] at hok
      cases hok
    · cases hquery
  · obtain ⟨id, hid, tenantId, htenant, loaded, hfound, happly⟩ : ∃ id : SubscriptionId, id.value = input.id ∧
        ∃ tenantId : TenantId, tenantId.value = input.tenantId ∧ ∃ loaded,
          SubscriptionMongoRepository.findByIdAndTenant world.subscriptions id tenantId = .ok (some loaded) ∧
            input.apply clock loaded = .ok subscription := by
      cases hwrote.decides with
      | update hid htenant hfound happly => exact ⟨_, hid, _, htenant, _, hfound, happly⟩
    have hpatched := (UpdateSubscriptionInput.apply_eq_ok happly).patched
    obtain ⟨-, hloadedId, hloadedTenant, -⟩ := SubscriptionMongoRepository.findByIdAndTenant_eq_ok_some hurl hfound
    have hsubscriptionId : subscription.id.value = input.id := hpatched._id.trans (hloadedId.trans hid)
    refine ⟨toDocument loaded, toDocument subscription, ?_, hloadedTenant.trans htenant, ?_, hpatched, ?_⟩
    · rw [← hid]
      exact SubscriptionMongoRepository.get?_of_found hurl hfound
    · rw [← hsubscriptionId]
      exact hwrote.stored_self
    · intro other hother
      exact hwrote.stored_of_ne (hsubscriptionId ▸ hother)

end AllOrNothing

section Sample

attribute [local instance] samplePlatform

def movePaused : UpdateSubscriptionInput where
  id := sampleKey.id
  tenantId := sampleKey.tenantId
  targetUrl := some "https://client.example.com/outbound"
  eventTypes := none
  status := some .PAUSED

theorem movePaused_patches : ∃ before after, sampleWorld.stored sampleKey.id = some before ∧
    (serve (.update movePaused fun n => n) .insertion sampleWorld).2.stored sampleKey.id = some after ∧
      Patched movePaused (fun n => n) before after := by
  have hok : ((serve (.update movePaused fun n => n) .insertion sampleWorld).1).toOption.isSome = true := by decide
  obtain ⟨response, hresponse⟩ : ∃ response,
      (serve (.update movePaused fun n => n) .insertion sampleWorld).1 = .ok response := by
    cases hserved : (serve (.update movePaused fun n => n) .insertion sampleWorld).1 with
    | error exception => rw [hserved] at hok; cases hok
    | ok response => exact ⟨response, rfl⟩
  obtain ⟨before, after, hbefore, -, hafter, hpatched, -⟩ :=
    (update_all_or_nothing samplePlatform_reparsesSerialised movePaused _ .insertion sampleWorld).2 response hresponse
  exact ⟨before, after, hbefore, hafter, hpatched⟩

end Sample

end WebhookIdp.Subscription
