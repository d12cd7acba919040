import WebhookIdp.Inbox.Acceptance
import WebhookIdp.Sandbox.Publisher

/-!
# The wire contract

The sandbox accepts a blank tenant id or event type, which the value objects of the worker reject. Every
other message it publishes is accepted by the worker, and stored field by field when its event id is new.
-/

namespace WebhookIdp.Sandbox

open ClassTransformer ClassValidator ValidationPipe
open Concurrent (Program)

section Contract

variable [Platform]

/-- The record holds what the message says, under the message's event id. -/
structure Records (message : QueueMessage) (eventId : String) (doc : Inbox.InboxRecordDoc) : Prop where
  dedupKey : doc.dedupKey = eventId
  fields : ∃ fields, message.content = .obj fields ∧ fields.lookup "eventId" = some (.str eventId) ∧
    fields.lookup "tenantId" = some (.str doc.tenantId) ∧ fields.lookup "eventType" = some (.str doc.eventType) ∧
    fields.lookup "correlationId" = some (.str doc.correlationId) ∧ fields.lookup "payload" = some (.obj doc.payload)

/-- The handler of the worker, with the database accepting the write. -/
def ingest (message : QueueMessage) (generated : Inbox.Generated) (inbox : Inbox.InboxCollection) :
    Except Inbox.Exception Unit × Inbox.InboxCollection :=
  (Inbox.IngestionRuntimeService.handle
    { body := message.content, brokerMessageId := message.messageId } generated).eval
      (fun op => Inbox.performRepository op .completed) inbox

/-- The worker accepts the message, and stores it if its event id is new. -/
def MeetsContract (message : QueueMessage) (eventId : String) (generated : Inbox.Generated)
    (inbox : Inbox.InboxCollection) : Prop :=
  (ingest message generated inbox).1 = .ok () ∧
    (¬ Inbox.Recorded inbox eventId → ∃ doc ∈ (ingest message generated inbox).2.docs, Records message eventId doc)

def HasText (body : Json) (property : String) : Prop :=
  ∃ fields text, body = .obj fields ∧ fields.lookup property = some (.str text) ∧ Text.isBlank text = false

/-! ### What the sandbox publishes -/

/-- An envelope as the sandbox writes it. -/
structure Envelope where
  eventId : String
  correlationId : String
  tenantId : String
  eventType : String
  payload : Json.Fields
  nonBlank : Text.isBlank eventId = false
  validCorrelationId : Platform.isUUID correlationId = true
  noSkippedKey : Json.hasKeyFields isSkipped payload = false

def Envelope.toFields (envelope : Envelope) : Json.Fields :=
  [("correlationId", .str envelope.correlationId), ("tenantId", .str envelope.tenantId),
    ("eventType", .str envelope.eventType), ("payload", .obj envelope.payload), ("eventId", .str envelope.eventId)]

def Envelope.toMessage (envelope : Envelope) : QueueMessage where
  content := .obj envelope.toFields
  contentType := "application/json"
  correlationId := some envelope.correlationId
  messageId := none

omit [Platform] in
theorem isBlank_eventId (applicationName suffix : String) : Text.isBlank s!"{applicationName}-{suffix}" = false := by
  show Text.isBlank (applicationName ++ "-" ++ suffix) = false
  rw [Text.isBlank_eq_false_iff]
  refine ⟨'-', ?_, by decide⟩
  simp

theorem lookup_intercept {fields intercepted : Json.Fields} {generated : RandomUUID}
    (h : CorrelationIdInterceptor.intercept (.obj fields) generated = .obj intercepted) :
    (∃ value, intercepted.lookup "correlationId" = some value ∧ value.isTruthy = true) ∧
      ∀ property, property ≠ "correlationId" → intercepted.lookup property = fields.lookup property := by
  unfold CorrelationIdInterceptor.intercept at h
  dsimp only at h
  split at h
  · rename_i htruthy
    cases h
    obtain ⟨value, hvalue, htrue⟩ := (Option.any_eq_true _ _).mp htruthy
    exact ⟨⟨value, hvalue, htrue⟩, fun _ _ => rfl⟩
  · cases h
    refine ⟨⟨.str generated.value, Json.lookup_assign_self _ _ _, ?_⟩, fun property hne =>
      Json.lookup_assign_of_ne hne _ _⟩
    have hne : generated.value ≠ "" := by
      intro hempty
      have hblank := generated.nonBlank
      rw [hempty] at hblank
      cases hblank
    simpa [Json.isTruthy] using hne

/-- A correlation id that a condition takes for true passes the pipe as a UUID. -/
theorem isUUID_of_isOptional {value : Json} {correlationId : Option String} (htruthy : value.isTruthy = true)
    (h : isOptional (isUUID "correlationId") (some (Json.dropKeys isSkipped (Json.dropKeys isProtoKey value))) =
      .ok correlationId) : ∃ text, correlationId = some text ∧ Platform.isUUID text = true := by
  have hne : Json.dropKeys isSkipped (Json.dropKeys isProtoKey value) ≠ .null := by
    rw [Ne, Json.dropKeys_eq_null_iff, Json.dropKeys_eq_null_iff]
    rintro rfl
    cases htruthy
  rw [isOptional_of_ne_null hne] at h
  rcases hcheck : isUUID "correlationId" (some (Json.dropKeys isSkipped (Json.dropKeys isProtoKey value))) with
    error | text
  · rw [hcheck] at h
    cases h
  · rw [hcheck] at h
    cases h
    exact ⟨text, rfl, (isUUID_eq_ok_iff.mp hcheck).2⟩

theorem validate_intercept {fields : Json.Fields} {generated : RandomUUID} {dto : CreateEventDto}
    (h : CreateEventDto.validate (CorrelationIdInterceptor.intercept (.obj fields) generated) = .ok dto) :
    (∃ correlationId, dto.correlationId = some correlationId ∧ Platform.isUUID correlationId = true) ∧
      fields.lookup "tenantId" = some (.str dto.tenantId) ∧ fields.lookup "eventType" = some (.str dto.eventType) ∧
      ∃ payload, dto.payload = .obj payload ∧ Json.hasKeyFields isSkipped payload = false := by
  obtain ⟨intercepted, hintercepted⟩ :
      ∃ intercepted, CorrelationIdInterceptor.intercept (.obj fields) generated = .obj intercepted := by
    unfold CorrelationIdInterceptor.intercept
    dsimp only
    split <;> exact ⟨_, rfl⟩
  obtain ⟨⟨value, hvalue, htruthy⟩, hothers⟩ := lookup_intercept hintercepted
  rw [hintercepted, CreateEventDto.validate_eq_ok_iff, isString_eq_ok_iff, isString_eq_ok_iff, isObject_eq_ok_iff,
    lookup_toInstance (by decide) (by decide) (by decide), lookup_toInstance (by decide) (by decide) (by decide),
    lookup_toInstance (by decide) (by decide) (by decide), lookup_toInstance (by decide) (by decide) (by decide),
    hothers "tenantId" (by decide), hothers "eventType" (by decide), hothers "payload" (by decide), hvalue] at h
  obtain ⟨hcorrelation, htenant, htype, payload, hpayload, hlookup⟩ := h
  refine ⟨isUUID_of_isOptional htruthy hcorrelation, ?_, ?_, payload, hpayload, ?_⟩
  · simpa [Json.dropKeys_eq_str_iff] using htenant
  · simpa [Json.dropKeys_eq_str_iff] using htype
  · obtain ⟨sent, -, hdrop⟩ := Option.map_eq_some_iff.mp hlookup
    obtain ⟨before, -, hbefore⟩ := Json.dropKeys_eq_obj_iff.mp hdrop
    rw [← hbefore]
    exact Json.not_hasKey_dropKeysFields before

variable {applicationName : String} {generated : Generated} {body : Json} {message : QueueMessage}

theorem create_eq_ok (h : SandboxController.create applicationName generated body = .ok (true, message)) :
    ∃ envelope : Envelope, message = envelope.toMessage ∧
      envelope.eventId = s!"{applicationName}-{generated.eventId.value}" ∧
      ∃ fields, body = .obj fields ∧ fields.lookup "tenantId" = some (.str envelope.tenantId) ∧
        fields.lookup "eventType" = some (.str envelope.eventType) := by
  rw [SandboxController.create, Throwing.bind_eq_ok_iff] at h
  obtain ⟨dto, hdto, hmessage⟩ := h
  cases body with
  | obj fields =>
      obtain ⟨⟨correlationId, hcorrelation, hisUUID⟩, htenant, htype, payload, hpayload, hkeys⟩ :=
        validate_intercept hdto
      refine ⟨{
        eventId := s!"{applicationName}-{generated.eventId.value}"
        correlationId
        tenantId := dto.tenantId
        eventType := dto.eventType
        payload := Json.rereadFields payload
        nonBlank := isBlank_eventId _ _
        validCorrelationId := hisUUID
        noSkippedKey := (Json.hasKeyFields_reread payload).trans hkeys }, ?_, rfl, fields, rfl, htenant, htype⟩
      have hpublished : (SandboxService.publish applicationName dto.toEnvelope generated.eventId).2 = message :=
        congrArg Prod.snd (Except.ok.inj hmessage)
      obtain ⟨_, _, _, _⟩ := dto
      subst hcorrelation hpayload
      exact hpublished.symm
  | _ => cases hdto

/-! ### What the worker makes of it -/

/-- Nothing in the envelope keeps the worker from rebuilding it. -/
theorem Envelope.not_constructs (envelope : Envelope) : constructsFields envelope.toFields = false := by
  refine constructsFields_of_not_hasKey (p := isSkipped) (by decide) _ ?_
  simp [Envelope.toFields, Json.hasKeyFields, Json.hasKey, envelope.noSkippedKey, isSkipped, inheritedFunctions]

theorem Envelope.parseEnvelope_toFields (envelope : Envelope) :
    Inbox.parseEnvelope (.obj envelope.toFields) = .ok {
      eventId := some envelope.eventId
      correlationId := some envelope.correlationId
      tenantId := envelope.tenantId
      eventType := envelope.eventType
      payload := .obj envelope.payload } := by
  rw [Inbox.parseEnvelope_eq_ok_iff]
  refine ⟨envelope.toFields, rfl, envelope.not_constructs, ?_⟩
  rw [lookup_instanceFields (by decide) (by decide), lookup_instanceFields (by decide) (by decide),
    lookup_instanceFields (by decide) (by decide), lookup_instanceFields (by decide) (by decide),
    lookup_instanceFields (by decide) (by decide)]
  refine ⟨rfl, ?_, rfl, rfl, ?_⟩
  · show (isUUID "correlationId" (some (.str envelope.correlationId))).map some = .ok (some envelope.correlationId)
    rw [isUUID_eq_ok_iff.mpr ⟨rfl, envelope.validCorrelationId⟩]
    rfl
  · show isObject "payload" (some (.obj (Json.dropKeysFields isSkipped envelope.payload))) = .ok (.obj envelope.payload)
    rw [Json.dropKeysFields_of_not_hasKey _ envelope.noSkippedKey]
    rfl

omit [Platform] in
theorem truthy_of_not_blank {text : String} (h : Text.isBlank text = false) :
    Inbox.truthy (some text) = some text := by
  rw [Text.isBlank, Bool.or_eq_false_iff] at h
  simp [Inbox.truthy, Option.filter, h.1]

variable {consumed : Inbox.Generated} {inbox : Inbox.InboxCollection} {record : Inbox.InboxRecord}

def Envelope.toInput (envelope : Envelope) : Inbox.IngestEventInput where
  eventId := some envelope.eventId
  correlationId := some envelope.correlationId
  tenantId := envelope.tenantId
  eventType := envelope.eventType
  payload := .obj envelope.payload
  brokerMessageId := none

theorem Envelope.prepare_eq_ok_iff (huuid : Platform.UUIDsNotBlank) (envelope : Envelope) :
    Inbox.IngestEventUseCase.prepare envelope.toInput consumed = .ok record ↔
      record.dedupKey.value = envelope.eventId ∧ record.correlationId.value = envelope.correlationId ∧
        record.tenantId.value = envelope.tenantId ∧ record.eventType.value = envelope.eventType ∧
        record.payload = envelope.payload ∧ record.id = consumed.id ∧ record.receivedAt = consumed.now := by
  have hcorrelation := truthy_of_not_blank (huuid _ envelope.validCorrelationId)
  rw [Inbox.IngestEventUseCase.prepare_eq_ok_iff, Envelope.toInput, Inbox.resolveDedupKey,
    truthy_of_not_blank envelope.nonBlank, Inbox.resolveCorrelationId, hcorrelation]
  simp only [Inbox.raise_eq_ok_iff, Inbox.DedupKey.fromString, Inbox.CorrelationId.fromString,
    Text.NonBlank.fromString_eq_ok_iff, Json.obj.injEq, eq_comm (a := envelope.payload)]

theorem Envelope.exists_prepare_eq_ok_iff (huuid : Platform.UUIDsNotBlank) (envelope : Envelope)
    (consumed : Inbox.Generated) :
    (∃ record, Inbox.IngestEventUseCase.prepare envelope.toInput consumed = .ok record) ↔
      Text.isBlank envelope.tenantId = false ∧ Text.isBlank envelope.eventType = false := by
  simp only [envelope.prepare_eq_ok_iff huuid]
  refine ⟨fun ⟨record, _, _, htenant, htype, _⟩ => ?_, fun ⟨htenant, htype⟩ => ?_⟩
  · rw [← htenant, ← htype]
    exact ⟨record.tenantId.nonBlank, record.eventType.nonBlank⟩
  · exact ⟨{
      id := consumed.id
      dedupKey := ⟨envelope.eventId, envelope.nonBlank⟩
      tenantId := ⟨envelope.tenantId, htenant⟩
      correlationId := ⟨envelope.correlationId, huuid _ envelope.validCorrelationId⟩
      eventType := ⟨envelope.eventType, htype⟩
      payload := envelope.payload
      receivedAt := consumed.now
      status := .INGESTED }, rfl, rfl, rfl, rfl, rfl, rfl, rfl⟩

theorem Envelope.recordOf_toMessage (envelope : Envelope) (consumed : Inbox.Generated) :
    Inbox.recordOf ⟨some envelope.toMessage.content, envelope.toMessage.messageId⟩ consumed =
      Inbox.IngestEventUseCase.prepare envelope.toInput consumed := by
  show (Inbox.parseEnvelope (.obj envelope.toFields) >>= _) = _
  rw [envelope.parseEnvelope_toFields]
  rfl

/-- The handler throws before its write, or makes one with the record of the message. -/
theorem Envelope.ingest_toMessage (envelope : Envelope) (consumed : Inbox.Generated) (inbox : Inbox.InboxCollection) :
    ingest envelope.toMessage consumed inbox =
      match Inbox.IngestEventUseCase.prepare envelope.toInput consumed with
      | .error exception => (.error exception, inbox)
      | .ok record =>
          ((Inbox.findOneAndUpdate inbox (Inbox.toDocument record)).1.map fun _ => (),
            (Inbox.findOneAndUpdate inbox (Inbox.toDocument record)).2) := by
  have hrecord := envelope.recordOf_toMessage consumed
  cases hprepare : Inbox.IngestEventUseCase.prepare envelope.toInput consumed with
  | error exception => exact Inbox.handled_of_error (hrecord.trans hprepare) inbox
  | ok record => exact Inbox.handled_of_recordOf (hrecord.trans hprepare) inbox

/-! ### The contract -/

omit [Platform] in
theorem hasText_iff {fields : Json.Fields} {property text : String}
    (h : fields.lookup property = some (.str text)) :
    HasText (.obj fields) property ↔ Text.isBlank text = false := by
  refine ⟨fun ⟨other, value, hfields, hvalue, hblank⟩ => ?_, fun hblank => ⟨fields, text, rfl, h, hblank⟩⟩
  cases hfields
  rw [h] at hvalue
  cases hvalue
  exact hblank

theorem Envelope.records (huuid : Platform.UUIDsNotBlank) (envelope : Envelope)
    (h : Inbox.IngestEventUseCase.prepare envelope.toInput consumed = .ok record) :
    Records envelope.toMessage envelope.eventId (Inbox.toDocument record) := by
  obtain ⟨hkey, hcorrelation, htenant, htype, hpayload, -, -⟩ := (envelope.prepare_eq_ok_iff huuid).mp h
  refine ⟨hkey, envelope.toFields, rfl, rfl, ?_, ?_, ?_, ?_⟩
  · show some _ = some (Json.str record.tenantId.value)
    rw [htenant]
  · show some _ = some (Json.str record.eventType.value)
    rw [htype]
  · show some _ = some (Json.str record.correlationId.value)
    rw [hcorrelation]
  · show some _ = some (Json.obj record.payload)
    rw [hpayload]

theorem Envelope.meetsContract_iff (huuid : Platform.UUIDsNotBlank) (envelope : Envelope)
    (hfresh : ∀ doc ∈ inbox.docs, doc._id ≠ consumed.id.value) :
    MeetsContract envelope.toMessage envelope.eventId consumed inbox ↔
      Text.isBlank envelope.tenantId = false ∧ Text.isBlank envelope.eventType = false := by
  rw [← envelope.exists_prepare_eq_ok_iff huuid consumed, MeetsContract, envelope.ingest_toMessage]
  rcases hprepare : Inbox.IngestEventUseCase.prepare envelope.toInput consumed with exception | record
  · simp
  obtain ⟨hkey, -, -, -, -, hid, -⟩ := (envelope.prepare_eq_ok_iff huuid).mp hprepare
  refine iff_of_true ?_ ⟨record, rfl⟩
  have hnew : ∀ old ∈ inbox.docs, old._id ≠ (Inbox.toDocument record)._id := by
    show ∀ old ∈ inbox.docs, old._id ≠ record.id.value
    rw [hid]
    exact hfresh
  have hdedup : (Inbox.toDocument record).dedupKey = envelope.eventId := hkey
  rcases Inbox.findOneAndUpdate_of_fresh hnew with ⟨hfound, hupdate⟩ | ⟨after, hdocs, hupdate⟩
  · rw [hdedup] at hfound
    simp only [hupdate]
    exact ⟨rfl, fun habsent => absurd hfound habsent⟩
  · simp only [hupdate]
    refine ⟨rfl, fun _ => ⟨Inbox.toDocument record, ?_, envelope.records huuid hprepare⟩⟩
    rw [hdocs]
    simp

/-- The message of an accepted request is ingested as it was sent just when its tenant id and event type
are not blank. -/
theorem contract_iff (huuid : Platform.UUIDsNotBlank)
    (haccepted : SandboxController.create applicationName generated body = .ok (true, message))
    (hfresh : ∀ doc ∈ inbox.docs, doc._id ≠ consumed.id.value) :
    MeetsContract message s!"{applicationName}-{generated.eventId.value}" consumed inbox ↔
      HasText body "tenantId" ∧ HasText body "eventType" := by
  obtain ⟨envelope, rfl, heventId, fields, rfl, htenant, htype⟩ := create_eq_ok haccepted
  rw [← heventId, envelope.meetsContract_iff huuid hfresh, hasText_iff htenant, hasText_iff htype]

end Contract

section Sample

attribute [local instance] Inbox.samplePlatform

def sampleGenerated : Generated where
  correlationId := Inbox.sampleGenerated.correlationId
  eventId := Inbox.sampleGenerated.correlationId

def sampleBody (tenantId : String) : Json :=
  .obj [("tenantId", .str tenantId), ("eventType", .str "order.created"),
    ("payload", .obj [("orderId", .str "order-1")])]

def sampleEnvelope (tenantId : String) : Envelope where
  eventId := "OrderService-018f5b3e-9c1a-7c3e-8f3a-6b6b6b6b6b6b"
  correlationId := sampleGenerated.correlationId.value
  tenantId := tenantId
  eventType := "order.created"
  payload := [("orderId", .str "order-1")]
  nonBlank := by decide
  validCorrelationId := sampleGenerated.correlationId.isUUID
  noSkippedKey := by decide

theorem contract_iff_sample :
    MeetsContract (sampleEnvelope "tenant-1").toMessage
        ("OrderService" ++ "-" ++ sampleGenerated.eventId.value) Inbox.sampleGenerated .empty ↔
      HasText (sampleBody "tenant-1") "tenantId" ∧ HasText (sampleBody "tenant-1") "eventType" :=
  contract_iff Inbox.samplePlatform_uuidsNotBlank rfl nofun

/-- A blank tenant id is accepted by the sandbox and rejected by the worker. -/
theorem contract_broken_by_blank_tenant :
    SandboxController.create "OrderService" sampleGenerated (sampleBody " ") =
        .ok (true, (sampleEnvelope " ").toMessage) ∧
      ¬ MeetsContract (sampleEnvelope " ").toMessage
        ("OrderService" ++ "-" ++ sampleGenerated.eventId.value) Inbox.sampleGenerated .empty := by
  refine ⟨rfl, fun h => ?_⟩
  cases h.1

end Sample

end WebhookIdp.Sandbox
