import WebhookIdp.Base.Collection
import WebhookIdp.Base.Json
import WebhookIdp.Base.Throwing
import WebhookIdp.Platform

/-!
# Inbox records

Value objects, the aggregate and its document. `InboxRecord` is made by its factory alone, so its
payload is an object by type.
-/

namespace WebhookIdp.Inbox

inductive DomainError where
  | invalidIdentifier (message : String)
  | invalidEventType (message : String)
  | invalidPayload (message : String)
  deriving DecidableEq, Repr

abbrev DedupKey := Text.NonBlank

def DedupKey.fromString (value : String) : Except DomainError DedupKey :=
  Text.NonBlank.fromString (.invalidIdentifier "DedupKey must not be empty") value

abbrev TenantId := Text.NonBlank

def TenantId.fromString (value : String) : Except DomainError TenantId :=
  Text.NonBlank.fromString (.invalidIdentifier "TenantId must not be empty") value

abbrev CorrelationId := Text.NonBlank

def CorrelationId.fromString (value : String) : Except DomainError CorrelationId :=
  Text.NonBlank.fromString (.invalidIdentifier "CorrelationId must not be empty") value

abbrev EventType := Text.NonBlank

def EventType.fromString (value : String) : Except DomainError EventType :=
  Text.NonBlank.fromString (.invalidEventType "EventType must not be empty") value

inductive InboxRecordStatus where
  | INGESTED
  deriving DecidableEq, Repr

def assertValidPayload : Json → Except DomainError Json.Fields
  | .obj fields => .ok fields
  | _ => .error (.invalidPayload "payload must be a non-null, non-array object")

theorem assertValidPayload_eq_ok_iff {payload : Json} {fields : Json.Fields} :
    assertValidPayload payload = .ok fields ↔ payload = .obj fields := by
  refine ⟨fun h => ?_, fun h => h ▸ rfl⟩
  unfold assertValidPayload at h
  split at h
  · cases h
    rfl
  · cases h

variable [Platform]

/-- What `InboxRecordId.generate()` returns. -/
structure InboxRecordId where
  value : String
  valid : Platform.validateUuid value = true

structure IngestInboxRecordParams where
  dedupKey : DedupKey
  tenantId : TenantId
  correlationId : CorrelationId
  eventType : EventType
  payload : Json

structure InboxRecord where
  id : InboxRecordId
  dedupKey : DedupKey
  tenantId : TenantId
  correlationId : CorrelationId
  eventType : EventType
  payload : Json.Fields
  receivedAt : Date
  status : InboxRecordStatus

/-- A record of a just received event, under the generated `id`. -/
def InboxRecord.ingest (params : IngestInboxRecordParams) (id : InboxRecordId) (now : Date) :
    Except DomainError InboxRecord := do
  let payload ← assertValidPayload params.payload
  return {
    id
    dedupKey := params.dedupKey
    tenantId := params.tenantId
    correlationId := params.correlationId
    eventType := params.eventType
    payload
    receivedAt := now
    status := .INGESTED }

structure InboxRecordDoc where
  _id : String
  dedupKey : String
  tenantId : String
  correlationId : String
  eventType : String
  payload : Json.Fields
  receivedAt : Date
  status : InboxRecordStatus

def toDocument (record : InboxRecord) : InboxRecordDoc where
  _id := record.id.value
  dedupKey := record.dedupKey.value
  tenantId := record.tenantId.value
  correlationId := record.correlationId.value
  eventType := record.eventType.value
  payload := record.payload
  receivedAt := record.receivedAt
  status := record.status

theorem InboxRecord.ingest_eq_ok_iff {params : IngestInboxRecordParams} {id : InboxRecordId} {now : Date}
    {record : InboxRecord} :
    InboxRecord.ingest params id now = .ok record ↔ ∃ fields, params.payload = .obj fields ∧
      record = {
        id
        dedupKey := params.dedupKey
        tenantId := params.tenantId
        correlationId := params.correlationId
        eventType := params.eventType
        payload := fields
        receivedAt := now
        status := .INGESTED } := by
  simp only [InboxRecord.ingest, Throwing.bind_eq_ok_iff, assertValidPayload_eq_ok_iff]
  refine exists_congr fun fields => and_congr_right fun _ => ?_
  exact ⟨fun h => (Except.ok.inj h).symm, fun h => congrArg Except.ok h.symm⟩

end WebhookIdp.Inbox
