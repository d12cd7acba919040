import WebhookIdp.Inbox.Repository

/-!
# Ingesting one event

The use case builds a full record, with a generated id, the time and perhaps a generated correlation id,
and hands it to the repository, which alone knows whether the event is new.
-/

namespace WebhookIdp.Inbox

variable [Platform]

open Concurrent (Program)

abbrev Ingestion (α : Type) := Program RepositoryCall RepositoryCall.Answer Exception α

structure IngestEventInput where
  eventId : Option String
  correlationId : Option String
  tenantId : String
  eventType : String
  payload : Json
  brokerMessageId : Option String

structure IngestEventResult where
  dedupKey : String
  inserted : Bool
  deriving DecidableEq, Repr

/-- What one execution generates and reads from the clock. -/
structure Generated where
  id : InboxRecordId
  correlationId : RandomUUID
  now : Date

/-- A text that a condition takes for true: neither `null` nor empty. -/
def truthy (text : Option String) : Option String := text.filter fun text => !text.isEmpty

omit [Platform] in
theorem truthy_eq_some_iff {text : Option String} {s : String} : truthy text = some s ↔ text = some s ∧ s ≠ "" := by
  simp [truthy, Option.filter_eq_some_iff]

omit [Platform] in
theorem truthy_eq_none_iff {text : Option String} : truthy text = none ↔ text = none ∨ text = some "" := by
  cases text <;> simp [truthy, Option.filter]

def resolveDedupKey (eventId brokerMessageId : Option String) : Except Exception DedupKey :=
  match truthy eventId with
  | some eventId => raise (DedupKey.fromString eventId)
  | none =>
      match truthy brokerMessageId with
      | some brokerMessageId => raise (DedupKey.fromString brokerMessageId)
      | none => .error (.unresolvableDedupKey ("Envelope is missing \"eventId\" and the broker supplied no native " ++
          "message id — cannot derive a safe dedup key"))

def resolveCorrelationId (correlationId : Option String) (generated : RandomUUID) :
    Except Exception CorrelationId :=
  match truthy correlationId with
  | some correlationId => raise (CorrelationId.fromString correlationId)
  | none => raise (CorrelationId.fromString generated.value)

omit [Platform] in
theorem resolveDedupKey_eq_ok_iff {eventId brokerMessageId : Option String} {key : DedupKey} :
    resolveDedupKey eventId brokerMessageId = .ok key ↔
      eventId = some key.value ∨ (eventId = none ∨ eventId = some "") ∧ brokerMessageId = some key.value := by
  have hne : key.value ≠ "" := key.ne_empty
  unfold resolveDedupKey
  split
  · rename_i id hid
    obtain ⟨rfl, hnotEmpty⟩ := truthy_eq_some_iff.mp hid
    rw [raise_eq_ok_iff, DedupKey.fromString, Text.NonBlank.fromString_eq_ok_iff]
    simp [hnotEmpty, eq_comm]
  · rename_i hid
    have habsent := truthy_eq_none_iff.mp hid
    have hother : eventId ≠ some key.value := by
      rintro rfl
      simp [hne] at habsent
    simp only [habsent, hother, true_and, false_or]
    split
    · rename_i id hid
      obtain ⟨rfl, -⟩ := truthy_eq_some_iff.mp hid
      rw [raise_eq_ok_iff, DedupKey.fromString, Text.NonBlank.fromString_eq_ok_iff, Option.some_inj, eq_comm]
    · rename_i hid
      refine iff_of_false nofun fun hbroker => ?_
      rw [truthy_eq_none_iff, hbroker] at hid
      simp [hne] at hid

namespace IngestEventUseCase

def check {α : Type} (x : Except Exception α) : Ingestion α := .done x

def execute (input : IngestEventInput) (generated : Generated) : Ingestion IngestEventResult := do
  let dedupKey ← check (resolveDedupKey input.eventId input.brokerMessageId)
  let correlationId ← check (resolveCorrelationId input.correlationId generated.correlationId)
  let tenantId ← check (raise (TenantId.fromString input.tenantId))
  let eventType ← check (raise (EventType.fromString input.eventType))
  let record ← check (raise (InboxRecord.ingest
    { dedupKey, tenantId, correlationId, eventType, payload := input.payload } generated.id generated.now))
  let result ← (Program.request (.upsertByDedupKey record) : Ingestion UpsertInboxRecordResult)
  return { dedupKey := dedupKey.value, inserted := result.inserted }

/-! ### The record an execution builds -/

/-- Everything an execution does before its upsert. -/
def prepare (input : IngestEventInput) (generated : Generated) : Except Exception InboxRecord := do
  let dedupKey ← resolveDedupKey input.eventId input.brokerMessageId
  let correlationId ← resolveCorrelationId input.correlationId generated.correlationId
  let tenantId ← raise (TenantId.fromString input.tenantId)
  let eventType ← raise (EventType.fromString input.eventType)
  raise (InboxRecord.ingest
    { dedupKey, tenantId, correlationId, eventType, payload := input.payload } generated.id generated.now)

variable {input : IngestEventInput} {generated : Generated} {record : InboxRecord}

theorem prepare_eq_ok_iff : prepare input generated = .ok record ↔
    resolveDedupKey input.eventId input.brokerMessageId = .ok record.dedupKey ∧
      resolveCorrelationId input.correlationId generated.correlationId = .ok record.correlationId ∧
      record.tenantId.value = input.tenantId ∧ record.eventType.value = input.eventType ∧
      input.payload = .obj record.payload ∧ record.id = generated.id ∧ record.receivedAt = generated.now := by
  simp only [prepare, Throwing.bind_eq_ok_iff, raise_eq_ok_iff, TenantId.fromString, EventType.fromString,
    Text.NonBlank.fromString_eq_ok_iff, InboxRecord.ingest_eq_ok_iff]
  refine ⟨fun h => ?_, fun h => ?_⟩
  · obtain ⟨dedupKey, hkey, correlationId, hcorrelation, tenantId, htenant, eventType, htype, payload, hpayload,
      rfl⟩ := h
    exact ⟨hkey, hcorrelation, htenant, htype, hpayload, rfl, rfl⟩
  · obtain ⟨id, dedupKey, tenantId, correlationId, eventType, payload, receivedAt, status⟩ := record
    obtain ⟨hkey, hcorrelation, htenant, htype, hpayload, rfl, rfl⟩ := h
    exact ⟨dedupKey, hkey, correlationId, hcorrelation, tenantId, htenant, eventType, htype, payload, hpayload, rfl⟩

/-- What is left of an execution once it has its record. -/
def storing (record : InboxRecord) : Ingestion IngestEventResult :=
  .call (.upsertByDedupKey record) fun answer =>
    .done (answer.map fun result => { dedupKey := record.dedupKey.value, inserted := result.inserted })

/-- An execution either throws before it calls the repository, or makes one call with its record. -/
theorem execute_eq (input : IngestEventInput) (generated : Generated) :
    execute input generated = match prepare input generated with
      | .error exception => .done (.error exception)
      | .ok record => storing record := by
  rw [execute, prepare]
  rcases resolveDedupKey input.eventId input.brokerMessageId with exception | dedupKey
  · rfl
  rcases resolveCorrelationId input.correlationId generated.correlationId with exception | correlationId
  · rfl
  rcases TenantId.fromString input.tenantId with error | tenantId
  · rfl
  rcases EventType.fromString input.eventType with error | eventType
  · rfl
  show (check (raise (InboxRecord.ingest { dedupKey, tenantId, correlationId, eventType, payload := input.payload }
      generated.id generated.now)) >>= fun record => _) =
    match raise (InboxRecord.ingest { dedupKey, tenantId, correlationId, eventType, payload := input.payload }
      generated.id generated.now) with
      | .error exception => .done (.error exception)
      | .ok record => storing record
  rcases hingest : InboxRecord.ingest { dedupKey, tenantId, correlationId, eventType, payload := input.payload }
    generated.id generated.now with error | record
  · rfl
  · obtain ⟨payload, -, rfl⟩ := InboxRecord.ingest_eq_ok_iff.mp hingest
    apply Program.call_congr
    intro answer
    cases answer <;> rfl

end IngestEventUseCase

end WebhookIdp.Inbox
