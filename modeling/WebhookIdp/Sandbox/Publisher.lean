import WebhookIdp.Base.Throwing
import WebhookIdp.Decorators

/-!
# The sandbox publisher

`POST /sandbox`, from the body of the request to the message on the queue: the interceptor fills in a
correlation id, the validation pipe turns the body into a `CreateEventDto`, and the adapter generates the
event id and writes the envelope as JSON.
-/

namespace WebhookIdp.Sandbox

open ClassValidator
open ValidationPipe (toInstance)

variable [Platform]

/-- An array is left as it is: what the source sets on it, the pipe does not keep. -/
def CorrelationIdInterceptor.intercept (body : Json) (generated : RandomUUID) : Json :=
  match body with
  | .obj fields =>
      if (fields.lookup "correlationId").any Json.isTruthy then .obj fields
      else .obj (Json.assign fields "correlationId" (.str generated.value))
  | body => body

structure CreateEventDto where
  correlationId : Option String
  tenantId : String
  eventType : String
  payload : Json

/-- `ValidationPipe` with `whitelist` and `transform`: the messages of all violated constraints, or the DTO. -/
def CreateEventDto.validate (body : Json) : Except (List String) CreateEventDto :=
  let dto :=
    match body with
    | .obj fields => toInstance ["eventId"] fields
    | _ => []
  let correlationId := isOptional (isUUID "correlationId") (dto.lookup "correlationId")
  let tenantId := isString "tenantId" (dto.lookup "tenantId")
  let eventType := isString "eventType" (dto.lookup "eventType")
  let payload := isObject "payload" (dto.lookup "payload")
  match correlationId, tenantId, eventType, payload with
  | .ok correlationId, .ok tenantId, .ok eventType, .ok payload => .ok { correlationId, tenantId, eventType, payload }
  | correlationId, tenantId, eventType, payload =>
      .error ([violation correlationId, violation tenantId, violation eventType, violation payload].reduceOption)

structure EventEnvelope where
  eventId : Option String
  correlationId : Option String
  tenantId : String
  eventType : String
  payload : Json

/-- `{ ...envelope }`, without the properties that are `undefined`. -/
def EventEnvelope.spread (envelope : EventEnvelope) : Json.Fields :=
  [("eventId", envelope.eventId.map Json.str), ("correlationId", envelope.correlationId.map Json.str),
    ("tenantId", some (.str envelope.tenantId)), ("eventType", some (.str envelope.eventType)),
    ("payload", some envelope.payload)].filterMap fun property => property.2.map fun value => (property.1, value)

/-- What `sendToQueue` is given; the content as it reads on the other side. -/
structure QueueMessage where
  content : Json
  contentType : String
  correlationId : Option String
  messageId : Option String

def RabbitMqBrokerPublisherAdapter.publish (applicationName : String) (envelope : EventEnvelope)
    (generated : RandomUUID) : QueueMessage :=
  let eventId := envelope.eventId.getD s!"{applicationName}-{generated.value}"
  { content := Json.reread (.obj (Json.assign envelope.spread "eventId" (.str eventId)))
    contentType := "application/json"
    correlationId := envelope.correlationId
    messageId := none }

/-- The result of the request and the message it has published. -/
def SandboxService.publish (applicationName : String) (input : EventEnvelope) (generated : RandomUUID) :
    Bool × QueueMessage :=
  (true, RabbitMqBrokerPublisherAdapter.publish applicationName input generated)

/-- The UUIDs one request generates. -/
structure Generated where
  correlationId : RandomUUID
  eventId : RandomUUID

/-- The DTO as the service reads it; `eventId` is never set. -/
def CreateEventDto.toEnvelope (dto : CreateEventDto) : EventEnvelope where
  eventId := none
  correlationId := dto.correlationId
  tenantId := dto.tenantId
  eventType := dto.eventType
  payload := dto.payload

/-- `POST /sandbox` -/
def SandboxController.create (applicationName : String) (generated : Generated) (body : Json) :
    Except (List String) (Bool × QueueMessage) := do
  let dto ← CreateEventDto.validate (CorrelationIdInterceptor.intercept body generated.correlationId)
  return SandboxService.publish applicationName dto.toEnvelope generated.eventId

/-! ### What an accepted request publishes -/

theorem CreateEventDto.validate_eq_ok_iff {fields : Json.Fields} {dto : CreateEventDto} :
    CreateEventDto.validate (.obj fields) = .ok dto ↔
      isOptional (isUUID "correlationId") ((toInstance ["eventId"] fields).lookup "correlationId") =
          .ok dto.correlationId ∧
        isString "tenantId" ((toInstance ["eventId"] fields).lookup "tenantId") = .ok dto.tenantId ∧
        isString "eventType" ((toInstance ["eventId"] fields).lookup "eventType") = .ok dto.eventType ∧
        isObject "payload" ((toInstance ["eventId"] fields).lookup "payload") = .ok dto.payload := by
  unfold CreateEventDto.validate
  refine ⟨fun h => ?_, fun h => ?_⟩
  · dsimp only at h
    split at h
    · cases h
      exact ⟨‹_›, ‹_›, ‹_›, ‹_›⟩
    · cases h
  · obtain ⟨hcorrelation, htenant, htype, hpayload⟩ := h
    simp only [hcorrelation, htenant, htype, hpayload]

end WebhookIdp.Sandbox
