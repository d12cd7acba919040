import WebhookIdp.Inbox.Handling

/-!
# Which messages the worker accepts

An envelope passes `plainToInstance`, the decorators, the conditions that resolve its ids and the value objects.
Together they accept a body by what its fields hold, and the record of a message is read off them: an `eventId`
that is absent, `null` or empty gives way to the broker's id, and a blank text is rejected wherever it is used.
-/

namespace WebhookIdp.Inbox

open ClassTransformer ClassValidator
open IngestEventUseCase

def Omitted (fields : Json.Fields) (property : String) : Prop :=
  fields.lookup property = none ∨ fields.lookup property = some .null

/-- What an optional text of the body is read as. -/
def ReadsText (fields : Json.Fields) (property : String) (text : Option String) : Prop :=
  Omitted fields property ∧ text = none ∨ ∃ s, fields.lookup property = some (.str s) ∧ text = some s

/-- The key is the `eventId`, or what the broker calls the message when the `eventId` is omitted or empty. -/
inductive KeyedBy (fields : Json.Fields) (brokerMessageId : Option String) (key : String) : Prop
  | eventId (h : fields.lookup "eventId" = some (.str key))
  | brokerMessageId (hempty : Omitted fields "eventId" ∨ fields.lookup "eventId" = some (.str ""))
      (h : brokerMessageId = some key)

section Acceptance

variable [Platform]

/-- The record holds what the body says, as far as `plainToInstance` keeps it. -/
structure FilledFrom (fields : Json.Fields) (record : InboxRecord) : Prop where
  tenantId : fields.lookup "tenantId" = some (.str record.tenantId.value)
  eventType : fields.lookup "eventType" = some (.str record.eventType.value)
  payload : ∃ payload, fields.lookup "payload" = some (.obj payload) ∧
    record.payload = Json.dropKeysFields isSkipped payload

variable {fields : Json.Fields} {brokerMessageId : Option String} {message : Published} {generated : Generated}
  {record : InboxRecord}

/-! ### The record of a message, read off its body -/

theorem parseEnvelope_eq_ok_iff_lookup {body : Json} {envelope : EventEnvelopeDto} :
    parseEnvelope body = .ok envelope ↔ ∃ fields, body = .obj fields ∧ constructsFields fields = false ∧
      ReadsText fields "eventId" envelope.eventId ∧
      (ReadsText fields "correlationId" envelope.correlationId ∧
        ∀ text, envelope.correlationId = some text → Platform.isUUID text = true) ∧
      fields.lookup "tenantId" = some (.str envelope.tenantId) ∧
      fields.lookup "eventType" = some (.str envelope.eventType) ∧
      ∃ payload, fields.lookup "payload" = some (.obj payload) ∧
        envelope.payload = .obj (Json.dropKeysFields isSkipped payload) := by
  rw [parseEnvelope_eq_ok_iff]
  refine exists_congr fun fields => and_congr_right fun _ => and_congr_right fun _ => ?_
  have hlookup (property : String) (h : isSkipped property = false) :
      (instanceFields [] fields).lookup property = (fields.lookup property).map (Json.dropKeys isSkipped) :=
    lookup_instanceFields rfl h
  rw [hlookup "eventId" (by decide), hlookup "correlationId" (by decide), hlookup "tenantId" (by decide),
    hlookup "eventType" (by decide), hlookup "payload" (by decide), isOptional_isString_eq_ok_iff,
    isOptional_isUUID_eq_ok_iff, isString_eq_ok_iff, isString_eq_ok_iff, isObject_eq_ok_iff]
  simp only [Option.map_eq_none_iff, Option.map_eq_some_iff, Json.dropKeys_eq_str_iff, Json.dropKeys_eq_null_iff,
    Json.dropKeys_eq_obj_iff, exists_eq_right, ReadsText, Omitted]
  refine and_congr_right fun _ => and_congr ?_ (and_congr_right fun _ => and_congr_right fun _ => ?_)
  · refine ⟨?_, ?_⟩
    · rintro (⟨homitted, hnone⟩ | ⟨text, hlookup, hvalid, hsome⟩)
      · exact ⟨Or.inl ⟨homitted, hnone⟩, by simp [hnone]⟩
      · exact ⟨Or.inr ⟨text, hlookup, hsome⟩, by simp [hsome, hvalid]⟩
    · rintro ⟨homitted | ⟨text, hlookup, hsome⟩, hvalid⟩
      · exact Or.inl homitted
      · exact Or.inr ⟨text, hlookup, hvalid text hsome, hsome⟩
  · refine ⟨?_, ?_⟩
    · rintro ⟨kept, hpayload, _, hlookup, payload, rfl, rfl⟩
      exact ⟨payload, hlookup, hpayload⟩
    · rintro ⟨payload, hlookup, hpayload⟩
      exact ⟨_, hpayload, _, hlookup, payload, rfl, rfl⟩

omit [Platform] in
theorem keyedBy_iff {key : DedupKey} :
    (∃ eventId, ReadsText fields "eventId" eventId ∧ resolveDedupKey eventId brokerMessageId = .ok key) ↔
      KeyedBy fields brokerMessageId key.value := by
  simp only [resolveDedupKey_eq_ok_iff]
  refine ⟨?_, ?_⟩
  · rintro ⟨_, ⟨homitted, rfl⟩ | ⟨text, hlookup, rfl⟩, hkey | ⟨hempty, hbroker⟩⟩
    · cases hkey
    · exact KeyedBy.brokerMessageId (Or.inl homitted) hbroker
    · cases hkey
      exact KeyedBy.eventId hlookup
    · simp only [reduceCtorEq, false_or, Option.some_inj] at hempty
      subst hempty
      exact KeyedBy.brokerMessageId (Or.inr hlookup) hbroker
  · intro h
    cases h with
    | eventId hlookup => exact ⟨some key.value, Or.inr ⟨_, hlookup, rfl⟩, Or.inl rfl⟩
    | brokerMessageId hempty hbroker =>
        rcases hempty with homitted | hlookup
        · exact ⟨none, Or.inl ⟨homitted, rfl⟩, Or.inr ⟨Or.inl rfl, hbroker⟩⟩
        · exact ⟨some "", Or.inr ⟨_, hlookup, rfl⟩, Or.inr ⟨Or.inr rfl, hbroker⟩⟩

/-- The correlation id of a record: that of the body, or the generated one. -/
def CorrelatedBy (fields : Json.Fields) (generated : RandomUUID) (correlationId : CorrelationId) : Prop :=
  ∃ text, (ReadsText fields "correlationId" text ∧ ∀ s, text = some s → Platform.isUUID s = true) ∧
    resolveCorrelationId text generated = .ok correlationId

theorem recordOf_eq_ok_iff : recordOf message generated = .ok record ↔
    ∃ fields, message.content = some (.obj fields) ∧ constructsFields fields = false ∧ FilledFrom fields record ∧
      KeyedBy fields message.messageId record.dedupKey.value ∧
      CorrelatedBy fields generated.correlationId record.correlationId ∧
      record.id = generated.id ∧ record.receivedAt = generated.now := by
  have hcontent (body : Json) : parseContent message.content = .ok body ↔ message.content = some body := by
    cases message.content with
    | none => exact iff_of_false nofun nofun
    | some _ => exact ⟨fun h => congrArg some (Except.ok.inj h), fun h => congrArg Except.ok (Option.some.inj h)⟩
  simp only [recordOf, Throwing.bind_eq_ok_iff, hcontent, parseEnvelope_eq_ok_iff_lookup, prepare_eq_ok_iff]
  refine ⟨?_, ?_⟩
  · rintro ⟨body, hbody, envelope, ⟨fields, rfl, hrebuilt, heventId, hcorrelation, htenant, htype, payload, hpayload,
      hkept⟩, hkey, hresolved, htenantId, heventType, hrecord, hid, hnow⟩
    refine ⟨fields, hbody, hrebuilt, ⟨htenantId ▸ htenant, heventType ▸ htype, payload, hpayload, ?_⟩,
      keyedBy_iff.mp ⟨_, heventId, hkey⟩, ⟨_, hcorrelation, hresolved⟩, hid, hnow⟩
    exact (Json.obj.inj (hkept.symm.trans hrecord)).symm
  · rintro ⟨fields, hbody, hrebuilt, ⟨htenant, htype, payload, hpayload, hkept⟩, hkeyed, ⟨correlationId, hcorrelation,
      hresolved⟩, hid, hnow⟩
    obtain ⟨eventId, heventId, hkey⟩ := keyedBy_iff.mpr hkeyed
    exact ⟨.obj fields, hbody, {
      eventId
      correlationId
      tenantId := record.tenantId.value
      eventType := record.eventType.value
      payload := .obj record.payload }, ⟨fields, rfl, hrebuilt, heventId, hcorrelation, htenant, htype, payload, hpayload,
        congrArg Json.obj hkept⟩, hkey, hresolved, rfl, rfl, rfl, hid, hnow⟩

/-! ### Acceptance -/

/-- The body has a field with a text that is not blank. -/
def HasNonBlank (fields : Json.Fields) (property : String) : Prop :=
  ∃ text, fields.lookup property = some (.str text) ∧ Text.isBlank text = false

/-- What the worker asks of a body besides its `eventId`. -/
structure WellFormed (fields : Json.Fields) : Prop where
  tenantId : HasNonBlank fields "tenantId"
  eventType : HasNonBlank fields "eventType"
  payload : ∃ payload, fields.lookup "payload" = some (.obj payload)
  correlationId : Omitted fields "correlationId" ∨
    ∃ text, fields.lookup "correlationId" = some (.str text) ∧ Platform.isUUID text = true

/-- The body is well formed, and the message has a key that is not blank. -/
def Acceptable (message : BrokerMessage) (key : String) : Prop :=
  ∃ fields, message.body = .obj fields ∧ WellFormed fields ∧ KeyedBy fields message.brokerMessageId key ∧
    Text.isBlank key = false

theorem exists_correlatedBy (huuid : Platform.UUIDsNotBlank) (generated : RandomUUID)
    (h : Omitted fields "correlationId" ∨
      ∃ text, fields.lookup "correlationId" = some (.str text) ∧ Platform.isUUID text = true) :
    ∃ correlationId, CorrelatedBy fields generated correlationId := by
  rcases h with homitted | ⟨text, hlookup, hvalid⟩
  · refine ⟨⟨generated.value, generated.nonBlank⟩, none, ⟨Or.inl ⟨homitted, rfl⟩, nofun⟩, ?_⟩
    exact raise_eq_ok_iff.mpr (Text.NonBlank.fromString_eq_ok_iff.mpr rfl)
  · let correlationId : CorrelationId := ⟨text, huuid text hvalid⟩
    refine ⟨correlationId, some text, ⟨Or.inr ⟨text, hlookup, rfl⟩, ?_⟩, ?_⟩
    · rintro _ ⟨⟩
      exact hvalid
    · rw [resolveCorrelationId, truthy_eq_some_iff.mpr ⟨rfl, correlationId.ne_empty⟩]
      exact raise_eq_ok_iff.mpr (Text.NonBlank.fromString_eq_ok_iff.mpr rfl)

/-- `plainToInstance` does not throw on the body. -/
def Rebuildable (body : Json) : Prop := ∀ fields, body = .obj fields → constructsFields fields = false

theorem acceptable_of_recordOf {body : Json} (h : recordOf ⟨some body, brokerMessageId⟩ generated = .ok record) :
    Acceptable ⟨body, brokerMessageId⟩ record.dedupKey.value ∧ Rebuildable body := by
  obtain ⟨fields, hbody, hrebuilt, ⟨htenant, htype, payload, hpayload, -⟩, hkeyed, ⟨text, ⟨hreads, hvalid⟩, -⟩, -, -⟩ :=
    recordOf_eq_ok_iff.mp h
  cases hbody
  refine ⟨⟨fields, rfl, {
    tenantId := ⟨_, htenant, record.tenantId.nonBlank⟩
    eventType := ⟨_, htype, record.eventType.nonBlank⟩
    payload := ⟨payload, hpayload⟩
    correlationId := ?_ }, hkeyed, record.dedupKey.nonBlank⟩, ?_⟩
  · rcases hreads with ⟨homitted, -⟩ | ⟨s, hlookup, rfl⟩
    · exact Or.inl homitted
    · exact Or.inr ⟨s, hlookup, hvalid s rfl⟩
  · rintro _ ⟨⟩
    exact hrebuilt

/-- A message has a record just when it is acceptable and its body can be rebuilt, and then under the same key. -/
theorem exists_recordOf_iff (huuid : Platform.UUIDsNotBlank) (message : BrokerMessage) (generated : Generated)
    (key : String) :
    (∃ record, recordOf ⟨some message.body, message.brokerMessageId⟩ generated = .ok record ∧
      record.dedupKey.value = key) ↔ Acceptable message key ∧ Rebuildable message.body := by
  refine ⟨?_, ?_⟩
  · rintro ⟨record, hrecord, rfl⟩
    exact acceptable_of_recordOf hrecord
  · rintro ⟨⟨fields, hbody, ⟨⟨tenantId, htenant, htenantText⟩, ⟨eventType, htype, htypeText⟩, ⟨payload, hpayload⟩,
      hcorrelation⟩, hkeyed, hkey⟩, hrebuilt⟩
    obtain ⟨correlationId, hcorrelated⟩ := exists_correlatedBy huuid generated.correlationId hcorrelation
    simp only [recordOf_eq_ok_iff, Option.some_inj]
    exact ⟨{
      id := generated.id
      dedupKey := ⟨key, hkey⟩
      tenantId := ⟨tenantId, htenantText⟩
      correlationId
      eventType := ⟨eventType, htypeText⟩
      payload := Json.dropKeysFields isSkipped payload
      receivedAt := generated.now
      status := .INGESTED }, ⟨fields, hbody, hrebuilt fields hbody, ⟨htenant, htype, payload, hpayload, rfl⟩, hkeyed,
        hcorrelated, rfl, rfl⟩, rfl⟩

/-! ### The handler with a database that accepts its write -/

/-- The handler of the worker, run to its end. -/
def handled (message : BrokerMessage) (generated : Generated) (inbox : InboxCollection) :
    Except Exception Unit × InboxCollection :=
  (IngestionRuntimeService.handle message generated).eval (fun op => performRepository op .completed) inbox

/-- The handler's one call is the upsert of its record. -/
def Upserts (message : BrokerMessage) (generated : Generated) (key : String) : Prop :=
  ∃ record next, IngestionRuntimeService.handle message generated = .call (.upsertByDedupKey record) next ∧
    record.dedupKey.value = key

variable {message : BrokerMessage} {inbox : InboxCollection}

theorem handle_eq_recordOf (message : BrokerMessage) (generated : Generated) :
    IngestionRuntimeService.handle message generated =
      match recordOf ⟨some message.body, message.brokerMessageId⟩ generated with
      | .error exception => .done (.error exception)
      | .ok record => .call (.upsertByDedupKey record) fun answer => .done (answer.map fun _ => ()) :=
  handle_eq message generated

theorem handled_of_recordOf (h : recordOf ⟨some message.body, message.brokerMessageId⟩ generated = .ok record)
    (inbox : InboxCollection) :
    handled message generated inbox =
      ((findOneAndUpdate inbox (toDocument record)).1.map fun _ => (),
        (findOneAndUpdate inbox (toDocument record)).2) := by
  rw [handled, handle_eq_recordOf, h]
  refine Prod.ext ?_ rfl
  show ((findOneAndUpdate inbox (toDocument record)).1.map _).map _ = _
  cases (findOneAndUpdate inbox (toDocument record)).1 <;> rfl

theorem handled_of_error {exception : Exception}
    (h : recordOf ⟨some message.body, message.brokerMessageId⟩ generated = .error exception)
    (inbox : InboxCollection) : handled message generated inbox = (.error exception, inbox) := by
  rw [handled, handle_eq_recordOf, h]
  rfl

theorem handled_eq_ok_iff (hfresh : ∀ doc ∈ inbox.docs, doc._id ≠ generated.id.value) :
    (handled message generated inbox).1 = .ok () ↔
      ∃ record, recordOf ⟨some message.body, message.brokerMessageId⟩ generated = .ok record := by
  rcases hrecord : recordOf ⟨some message.body, message.brokerMessageId⟩ generated with exception | record
  · rw [handled_of_error hrecord]
    exact iff_of_false nofun nofun
  · refine iff_of_true ?_ ⟨record, rfl⟩
    obtain ⟨_, _, _, _, _, _, hid, _⟩ := recordOf_eq_ok_iff.mp hrecord
    have hnew : ∀ old ∈ inbox.docs, old._id ≠ (toDocument record)._id := by
      show ∀ old ∈ inbox.docs, old._id ≠ record.id.value
      rw [hid]
      exact hfresh
    rw [handled_of_recordOf hrecord]
    rcases findOneAndUpdate_of_fresh hnew with ⟨-, hupdate⟩ | ⟨after, -, hupdate⟩
    · rw [hupdate]
      rfl
    · rw [hupdate]
      rfl

theorem upserts_of_acceptable (huuid : Platform.UUIDsNotBlank) {key : String} (h : Acceptable message key)
    (hrebuilt : Rebuildable message.body) (generated : Generated) : Upserts message generated key := by
  obtain ⟨record, hrecord, hdedup⟩ := (exists_recordOf_iff huuid message generated key).mpr ⟨h, hrebuilt⟩
  refine ⟨record, fun answer => .done (answer.map fun _ => ()), ?_, hdedup⟩
  rw [handle_eq_recordOf, hrecord]

/-- The handler accepts the acceptable messages whose body can be rebuilt and no others, and upserts each under its
key. -/
theorem accepted_iff (huuid : Platform.UUIDsNotBlank) (message : BrokerMessage) (generated : Generated)
    (inbox : InboxCollection) (hfresh : ∀ doc ∈ inbox.docs, doc._id ≠ generated.id.value) :
    ((handled message generated inbox).1 = .ok () ↔
        (∃ key, Acceptable message key) ∧ Rebuildable message.body) ∧
      ∀ key, Acceptable message key → Rebuildable message.body → Upserts message generated key := by
  refine ⟨?_, fun key hkey hrebuilt => upserts_of_acceptable huuid hkey hrebuilt generated⟩
  rw [handled_eq_ok_iff hfresh]
  refine ⟨fun ⟨record, hrecord⟩ => ?_, fun ⟨⟨key, hkey⟩, hrebuilt⟩ => ?_⟩
  · obtain ⟨hacceptable, hrebuilt⟩ := acceptable_of_recordOf hrecord
    exact ⟨⟨_, hacceptable⟩, hrebuilt⟩
  · obtain ⟨record, hrecord, -⟩ := (exists_recordOf_iff huuid message generated key).mpr ⟨hkey, hrebuilt⟩
    exact ⟨record, hrecord⟩

end Acceptance

section Sample

attribute [local instance] samplePlatform

theorem samplePlatform_uuidsNotBlank : Platform.UUIDsNotBlank := by
  intro value hvalue
  rw [List.mem_singleton.mp (List.contains_iff_mem.mp hvalue)]
  decide

/-- A body with the event id, and what the broker calls its message. -/
def sampleBrokerMessage (eventId : String) (brokerMessageId : Option String) : BrokerMessage where
  body := .obj [("eventId", .str eventId), ("tenantId", .str "tenant-1"), ("eventType", .str "order.created"),
    ("payload", .obj [("orderId", .str "order-1")])]
  brokerMessageId := brokerMessageId

theorem accepted_iff_sample :
    ((handled (sampleBrokerMessage "OrderService-1" none) sampleGenerated .empty).1 = .ok () ↔
        (∃ key, Acceptable (sampleBrokerMessage "OrderService-1" none) key) ∧
          Rebuildable (sampleBrokerMessage "OrderService-1" none).body) ∧
      ∀ key, Acceptable (sampleBrokerMessage "OrderService-1" none) key →
        Rebuildable (sampleBrokerMessage "OrderService-1" none).body →
        Upserts (sampleBrokerMessage "OrderService-1" none) sampleGenerated key :=
  accepted_iff samplePlatform_uuidsNotBlank (sampleBrokerMessage "OrderService-1" none) sampleGenerated .empty nofun

/-- A blank event id is rejected, whatever the broker calls the message. -/
theorem blank_eventId_rejected :
    (∃ fields, (sampleBrokerMessage " " (some "message-1")).body = .obj fields ∧ WellFormed fields ∧
        fields.lookup "eventId" = some (.str " ")) ∧
      (sampleBrokerMessage " " (some "message-1")).brokerMessageId = some "message-1" ∧
      Text.isBlank "message-1" = false ∧
      (handled (sampleBrokerMessage " " (some "message-1")) sampleGenerated .empty).1 =
        .error (.domain (.invalidIdentifier "DedupKey must not be empty")) := by
  refine ⟨⟨_, rfl, ?_, rfl⟩, rfl, by decide, rfl⟩
  exact {
    tenantId := ⟨"tenant-1", rfl, by decide⟩
    eventType := ⟨"order.created", rfl, by decide⟩
    payload := ⟨_, rfl⟩
    correlationId := Or.inl (Or.inl rfl) }

end Sample

end WebhookIdp.Inbox
