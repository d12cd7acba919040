import WebhookIdp.Decorators
import WebhookIdp.Inbox.Ingest

/-!
# From a message to an ingest call

`parseEnvelope` and the handler the runtime registers with the broker. `recordOf` is the record a message
leads to: whether there is one, and under which dedup key, depends on the message alone.
-/

namespace WebhookIdp.Inbox

open ClassTransformer ClassValidator
open Concurrent (Program)
open IngestEventUseCase

variable [Platform]

structure EventEnvelopeDto where
  eventId : Option String
  correlationId : Option String
  tenantId : String
  eventType : String
  payload : Json

/-- The checks of the decorators of `EventEnvelopeDto`; it throws all violated constraints in one text. -/
def parseEnvelope (body : Json) : Except Exception EventEnvelopeDto :=
  match body with
  | .obj fields => do
      let dto ← (plainToInstance [] fields).mapError fun _ => Exception.typeError
      let eventId := isOptional (isString "eventId") (dto.lookup "eventId")
      let correlationId := isOptional (isUUID "correlationId") (dto.lookup "correlationId")
      let tenantId := isString "tenantId" (dto.lookup "tenantId")
      let eventType := isString "eventType" (dto.lookup "eventType")
      let payload := isObject "payload" (dto.lookup "payload")
      match eventId, correlationId, tenantId, eventType, payload with
      | .ok eventId, .ok correlationId, .ok tenantId, .ok eventType, .ok payload =>
          .ok { eventId, correlationId, tenantId, eventType, payload }
      | eventId, correlationId, tenantId, eventType, payload =>
          let details := "; ".intercalate ([violation eventId, violation correlationId, violation tenantId,
            violation eventType, violation payload].reduceOption)
          .error (.invalidEnvelope s!"Envelope failed validation: {details}")
  | _ => .error (.invalidEnvelope "Envelope must be a JSON object")

theorem parseEnvelope_eq_ok_iff {body : Json} {envelope : EventEnvelopeDto} :
    parseEnvelope body = .ok envelope ↔ ∃ fields, body = .obj fields ∧ constructsFields fields = false ∧
      isOptional (isString "eventId") ((instanceFields [] fields).lookup "eventId") = .ok envelope.eventId ∧
      isOptional (isUUID "correlationId") ((instanceFields [] fields).lookup "correlationId") =
        .ok envelope.correlationId ∧
      isString "tenantId" ((instanceFields [] fields).lookup "tenantId") = .ok envelope.tenantId ∧
      isString "eventType" ((instanceFields [] fields).lookup "eventType") = .ok envelope.eventType ∧
      isObject "payload" ((instanceFields [] fields).lookup "payload") = .ok envelope.payload := by
  unfold parseEnvelope
  refine ⟨fun h => ?_, fun h => ?_⟩
  · split at h
    · obtain ⟨dto, hdto, hchecks⟩ := Throwing.bind_eq_ok_iff.mp h
      obtain ⟨hrebuilt, rfl⟩ := plainToInstance_nil_eq_ok_iff.mp (Throwing.mapError_eq_ok_iff.mp hdto)
      dsimp only at hchecks
      split at hchecks
      · cases hchecks
        exact ⟨_, rfl, hrebuilt, ‹_›, ‹_›, ‹_›, ‹_›, ‹_›⟩
      · cases hchecks
    · cases h
  · obtain ⟨fields, rfl, hrebuilt, heventId, hcorrelation, htenant, htype, hpayload⟩ := h
    refine Throwing.bind_eq_ok_iff.mpr ⟨instanceFields [] fields, ?_, ?_⟩
    · exact Throwing.mapError_eq_ok_iff.mpr (plainToInstance_nil_eq_ok_iff.mpr ⟨hrebuilt, rfl⟩)
    · simp only [heventId, hcorrelation, htenant, htype, hpayload]

structure BrokerMessage where
  body : Json
  brokerMessageId : Option String

def EventEnvelopeDto.toInput (envelope : EventEnvelopeDto) (brokerMessageId : Option String) : IngestEventInput where
  eventId := envelope.eventId
  correlationId := envelope.correlationId
  tenantId := envelope.tenantId
  eventType := envelope.eventType
  payload := envelope.payload
  brokerMessageId := brokerMessageId

def IngestionRuntimeService.handle (message : BrokerMessage) (generated : Generated) : Ingestion Unit := do
  let envelope ← check (parseEnvelope message.body)
  let _ ← execute (envelope.toInput message.brokerMessageId) generated
  return ()

/-! ### The record of a message -/

/-- A message as it was published; the content is what `JSON.parse` makes of its bytes, if it does not throw. -/
structure Published where
  content : Option Json
  messageId : Option String

def parseContent (content : Option Json) : Except Exception Json :=
  match content with
  | some body => .ok body
  | none => .error .syntaxError

/-- The dedup key the worker resolves from a message. -/
def dedupKeyOf (message : Published) : Except Exception DedupKey := do
  let body ← parseContent message.content
  let envelope ← parseEnvelope body
  resolveDedupKey envelope.eventId message.messageId

/-- The record the worker builds from a message. -/
def recordOf (message : Published) (generated : Generated) : Except Exception InboxRecord := do
  let body ← parseContent message.content
  let envelope ← parseEnvelope body
  prepare (envelope.toInput message.messageId) generated

variable {message : Published} {generated : Generated} {record : InboxRecord}

theorem dedupKeyOf_of_recordOf (h : recordOf message generated = .ok record) :
    dedupKeyOf message = .ok record.dedupKey := by
  simp only [recordOf, Throwing.bind_eq_ok_iff] at h
  obtain ⟨body, hbody, envelope, henvelope, hprepare⟩ := h
  simp only [dedupKeyOf, Throwing.bind_eq_ok_iff]
  exact ⟨body, hbody, envelope, henvelope, (prepare_eq_ok_iff.mp hprepare).1⟩

end WebhookIdp.Inbox
