import WebhookIdp.Inbox.Acceptance

/-!
# What becomes of a payload

The envelope is rebuilt by `plainToInstance` at every depth, and what the instance does not get is not
stored: the inserted document holds the payload as it was published just when no key in it is skipped.
-/

namespace WebhookIdp.Inbox

open ClassTransformer

section StoredPayload

variable [Platform]

/-- One document has been inserted, and its payload is that of the body. -/
def StoredAsPublished (message : BrokerMessage) (before after : InboxCollection) : Prop :=
  ∃ fields payload doc, message.body = .obj fields ∧ fields.lookup "payload" = some (.obj payload) ∧
    after.docs = before.docs ++ [doc] ∧ doc.payload = payload

/-- No key of the payload, at any depth, is one that `plainToInstance` skips. -/
def NoSkippedKey (message : BrokerMessage) : Prop :=
  ∃ fields payload, message.body = .obj fields ∧ fields.lookup "payload" = some (.obj payload) ∧
    Json.hasKeyFields isSkipped payload = false

variable {message : BrokerMessage} {generated : Generated} {record : InboxRecord} {inbox : InboxCollection}
  {key : String}

theorem recordOf_of_upserts (h : Upserts message generated key) :
    ∃ record, recordOf ⟨some message.body, message.brokerMessageId⟩ generated = .ok record ∧
      record.dedupKey.value = key := by
  obtain ⟨record, next, hhandle, hkey⟩ := h
  rw [handle_eq_recordOf] at hhandle
  rcases hrecord : recordOf ⟨some message.body, message.brokerMessageId⟩ generated with exception | built
  · rw [hrecord] at hhandle
    cases hhandle
  · rw [hrecord] at hhandle
    cases hhandle
    exact ⟨record, rfl, hkey⟩

theorem docs_handled (hrecord : recordOf ⟨some message.body, message.brokerMessageId⟩ generated = .ok record)
    (haccepted : (handled message generated inbox).1 = .ok ())
    (hnew : ¬ Recorded inbox record.dedupKey.value) :
    (handled message generated inbox).2.docs = inbox.docs ++ [toDocument record] := by
  rw [handled_of_recordOf hrecord] at haccepted ⊢
  have hattempted := attempted_findOneAndUpdate inbox (toDocument record)
  generalize findOneAndUpdate inbox (toDocument record) = result at haccepted hattempted
  cases hattempted with
  | found hfound => exact absurd hfound hnew
  | inserted _ hdocs => exact hdocs
  | failed _ => cases haccepted
  | lost _ _ _ => cases haccepted

/-- The payload of an accepted message with a new key is stored as published just when it has no skipped key. -/
theorem stored_as_published_iff (hkey : Upserts message generated key) (hnew : ¬ Recorded inbox key)
    (haccepted : (handled message generated inbox).1 = .ok ()) :
    StoredAsPublished message inbox (handled message generated inbox).2 ↔ NoSkippedKey message := by
  obtain ⟨record, hrecord, rfl⟩ := recordOf_of_upserts hkey
  have hdocs := docs_handled hrecord haccepted hnew
  obtain ⟨fields, hbody, -, hfilled, -⟩ := recordOf_eq_ok_iff.mp hrecord
  obtain ⟨payload, hpayload, hkept⟩ := hfilled.payload
  have hbody : message.body = .obj fields := Option.some_inj.mp hbody
  have hkeep : (toDocument record).payload = payload ↔ Json.hasKeyFields isSkipped payload = false := by
    rw [← Json.dropKeysFields_eq_self_iff, ← hkept]
    rfl
  refine ⟨?_, ?_⟩
  · rintro ⟨_, _, doc, hbody', hpayload', hinserted, hstored⟩
    cases hbody.symm.trans hbody'
    cases hpayload.symm.trans hpayload'
    have hdoc : doc = toDocument record := by
      simpa using hinserted.symm.trans hdocs
    exact ⟨fields, payload, hbody, hpayload, hkeep.mp (hdoc ▸ hstored)⟩
  · rintro ⟨_, _, hbody', hpayload', hkeys⟩
    cases hbody.symm.trans hbody'
    cases hpayload.symm.trans hpayload'
    exact ⟨fields, payload, toDocument record, hbody, hpayload, hdocs, hkeep.mpr hkeys⟩

end StoredPayload

section Sample

attribute [local instance] samplePlatform

/-- A payload with the key, one object below its top. -/
def messageWithKey (key : String) : BrokerMessage where
  body := .obj [("eventId", .str "OrderService-1"), ("tenantId", .str "tenant-1"), ("eventType", .str "order.created"),
    ("payload", .obj [("order", .obj [(key, .str "order-1")])])]
  brokerMessageId := none

theorem messageWithKey_upserts : Upserts (messageWithKey "orderId") sampleGenerated "OrderService-1" := by
  refine upserts_of_acceptable samplePlatform_uuidsNotBlank ?_ ?_ sampleGenerated
  · exact ⟨_, rfl, {
      tenantId := ⟨"tenant-1", rfl, by decide⟩
      eventType := ⟨"order.created", rfl, by decide⟩
      payload := ⟨_, rfl⟩
      correlationId := Or.inl (Or.inl rfl) }, KeyedBy.eventId rfl, by decide⟩
  · rintro _ ⟨⟩
    decide

theorem stored_as_published_iff_sample :
    StoredAsPublished (messageWithKey "orderId") .empty
        (handled (messageWithKey "orderId") sampleGenerated .empty).2 ↔
      NoSkippedKey (messageWithKey "orderId") :=
  stored_as_published_iff messageWithKey_upserts (by decide) rfl

/-- A nested `toString` is lost. -/
theorem toString_not_stored :
    (handled (messageWithKey "toString") sampleGenerated .empty).1 = .ok () ∧
      ¬ StoredAsPublished (messageWithKey "toString") .empty
        (handled (messageWithKey "toString") sampleGenerated .empty).2 := by
  refine ⟨rfl, ?_⟩
  rintro ⟨_, _, _, hbody, hpayload, hdocs, hstored⟩
  cases hbody
  cases hpayload
  cases hdocs
  cases hstored

end Sample

end WebhookIdp.Inbox
