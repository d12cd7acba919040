import WebhookIdp.Inbox.Acceptance
import WebhookIdp.Inbox.DeliveryTags

/-!
# Different events have different records

A dedup key is an `eventId` of a publisher or a message id of the broker, and the two share one index. Where a
message without an `eventId` is called by the broker what another event is called by its publisher, the later of
the two is acked as a duplicate. Where no ids meet like this, and every ack reaches the message it is made for, every
acked event has a record of its own.
-/

namespace WebhookIdp.Inbox

open ClassTransformer

section DistinctEvents

variable [Platform] {ι μ ω ε : Type}

def CarriesEventId (message : Published) (eventId : String) : Prop :=
  ∃ fields, message.content = some (.obj fields) ∧ fields.lookup "eventId" = some (.str eventId)

/-- The `eventId` is absent, `null` or empty. -/
def LacksEventId (message : Published) : Prop :=
  ∃ fields, message.content = some (.obj fields) ∧
    (Omitted fields "eventId" ∨ fields.lookup "eventId" = some (.str ""))

/-- Messages carry one `eventId` only for one occurrence, and no two publishes carry one message id. -/
structure EnvelopeContract (traffic : Traffic ι μ ω) (occurrence : μ → ε) : Prop where
  eventId : ∀ message other eventId, CarriesEventId (traffic.message message) eventId →
    CarriesEventId (traffic.message other) eventId → occurrence message = occurrence other
  messageId : ∀ message other messageId, (traffic.message message).messageId = some messageId →
    (traffic.message other).messageId = some messageId → message = other

/-- The record of the message, with the tenant, the event type and the payload that the message carries. -/
structure HoldsOwn (message : Published) (doc : InboxRecordDoc) : Prop where
  dedupKey : ∃ key, dedupKeyOf message = .ok key ∧ doc.dedupKey = key.value
  body : ∃ fields, message.content = some (.obj fields) ∧ fields.lookup "tenantId" = some (.str doc.tenantId) ∧
    fields.lookup "eventType" = some (.str doc.eventType) ∧ fields.lookup "payload" = some (.obj doc.payload)

/-- Acked messages of different occurrences have different records, each holding its own message. -/
def NoneSwallowed (traffic : Traffic ι μ ω) (occurrence : μ → ε) (fleet : Fleet ι μ ω) : Prop :=
  ∀ message other, fleet.world.queue message = .acked → fleet.world.queue other = .acked →
    occurrence message ≠ occurrence other →
    ∃ doc ∈ fleet.world.inbox.docs, ∃ otherDoc ∈ fleet.world.inbox.docs, doc._id ≠ otherDoc._id ∧
      HoldsOwn (traffic.message message) doc ∧ HoldsOwn (traffic.message other) otherDoc

/-! ### What publishers have to add -/

def SameBody (message other : Published) : Prop :=
  ∀ fields otherFields, message.content = some (.obj fields) → other.content = some (.obj otherFields) →
    ∀ property ∈ ["tenantId", "eventType", "payload"], fields.lookup property = otherFields.lookup property

/-- The payload has no key that `plainToInstance` skips. -/
def KeepsPayload (message : Published) : Prop :=
  ∀ fields payload, message.content = some (.obj fields) → fields.lookup "payload" = some (.obj payload) →
    Json.hasKeyFields isSkipped payload = false

/-- The message is acceptable, and its body can be rebuilt. -/
def Published.Accepted (message : Published) : Prop :=
  ∃ body key, message.content = some body ∧ Acceptable ⟨body, message.messageId⟩ key ∧ Rebuildable body

/-- Among the messages the worker accepts, none that lacks an `eventId` is called by the broker like another
occurrence by its publisher, those of one occurrence repeat their body, and every payload can be kept. -/
structure Separate (traffic : Traffic ι μ ω) (occurrence : μ → ε) : Prop where
  ids : ∀ message other id, (traffic.message message).Accepted → (traffic.message other).Accepted →
    LacksEventId (traffic.message message) → (traffic.message message).messageId = some id →
    CarriesEventId (traffic.message other) id → occurrence message = occurrence other
  bodies : ∀ message other, (traffic.message message).Accepted → (traffic.message other).Accepted →
    occurrence message = occurrence other → SameBody (traffic.message message) (traffic.message other)
  payloads : ∀ message, (traffic.message message).Accepted → KeepsPayload (traffic.message message)

variable {traffic : Traffic ι μ ω} {occurrence : μ → ε} {message other : μ} {generated otherGenerated : Generated}
  {record otherRecord : InboxRecord}

theorem accepted_of_recordOf {message : Published} (h : recordOf message generated = .ok record) : message.Accepted := by
  obtain ⟨fields, hcontent, -⟩ := recordOf_eq_ok_iff.mp h
  obtain ⟨content, messageId⟩ := message
  cases hcontent
  obtain ⟨hacceptable, hrebuilt⟩ := acceptable_of_recordOf h
  exact ⟨_, _, rfl, hacceptable, hrebuilt⟩

theorem dedupKey_cases {message : Published} (h : recordOf message generated = .ok record) :
    CarriesEventId message record.dedupKey.value ∨
      (LacksEventId message ∧ message.messageId = some record.dedupKey.value) := by
  obtain ⟨fields, hcontent, -, -, hkeyed, -⟩ := recordOf_eq_ok_iff.mp h
  cases hkeyed with
  | eventId hlookup => exact Or.inl ⟨fields, hcontent, hlookup⟩
  | brokerMessageId hempty hbroker => exact Or.inr ⟨⟨fields, hcontent, hempty⟩, hbroker⟩

/-- Messages with one dedup key are of one occurrence. -/
theorem occurrence_eq_of_dedupKey_eq (hcontract : EnvelopeContract traffic occurrence)
    (hseparate : Separate traffic occurrence) (h : recordOf (traffic.message message) generated = .ok record)
    (hother : recordOf (traffic.message other) otherGenerated = .ok otherRecord)
    (hkey : record.dedupKey.value = otherRecord.dedupKey.value) : occurrence message = occurrence other := by
  have hid := dedupKey_cases h
  rw [hkey] at hid
  rcases hid with hcarries | ⟨hlacks, hmessageId⟩
  · rcases dedupKey_cases hother with hotherCarries | ⟨hotherLacks, hotherMessageId⟩
    · exact hcontract.eventId message other _ hcarries hotherCarries
    · exact (hseparate.ids other message _ (accepted_of_recordOf hother) (accepted_of_recordOf h) hotherLacks
        hotherMessageId hcarries).symm
  · rcases dedupKey_cases hother with hotherCarries | ⟨hotherLacks, hotherMessageId⟩
    · exact hseparate.ids message other _ (accepted_of_recordOf h) (accepted_of_recordOf hother) hlacks hmessageId
        hotherCarries
    · exact congrArg occurrence (hcontract.messageId message other _ hmessageId hotherMessageId)

theorem holdsOwn_toDocument {message other : Published} (h : recordOf message generated = .ok record)
    (hother : recordOf other otherGenerated = .ok otherRecord)
    (hkey : otherRecord.dedupKey.value = record.dedupKey.value) (hbody : SameBody message other)
    (hpayload : KeepsPayload other) : HoldsOwn message (toDocument otherRecord) := by
  obtain ⟨fields, hcontent, -⟩ := recordOf_eq_ok_iff.mp h
  obtain ⟨otherFields, hotherContent, -, hfilled, -⟩ := recordOf_eq_ok_iff.mp hother
  obtain ⟨payload, hlookup, hkept⟩ := hfilled.payload
  have hsame := hbody fields otherFields hcontent hotherContent
  have hwhole : otherRecord.payload = payload := by
    rw [hkept, Json.dropKeysFields_eq_self_iff]
    exact hpayload otherFields payload hotherContent hlookup
  refine ⟨⟨record.dedupKey, dedupKeyOf_of_recordOf h, hkey⟩, fields, hcontent, ?_, ?_, ?_⟩
  · rw [hsame "tenantId" (by simp)]
    exact hfilled.tenantId
  · rw [hsame "eventType" (by simp)]
    exact hfilled.eventType
  · rw [hsame "payload" (by simp), hlookup, ← hwhole]
    rfl

/-! ### Where the records come from -/

/-- Every document is the record of a message. -/
structure Traced (traffic : Traffic ι μ ω) (fleet : Fleet ι μ ω) : Prop where
  staged : Staged traffic False fleet
  origin : ∀ doc ∈ fleet.world.inbox.docs, ∃ message generated record,
    recordOf (traffic.message message) generated = .ok record ∧ doc = toDocument record

/-- The key of every acked message is recorded. -/
def AckedRecorded (traffic : Traffic ι μ ω) (fleet : Fleet ι μ ω) : Prop :=
  ∀ message, fleet.world.queue message = .acked → ∃ generated record,
    recordOf (traffic.message message) generated = .ok record ∧ Recorded fleet.world.inbox record.dedupKey.value

theorem traced_start (traffic : Traffic ι μ ω) : Traced traffic (Fleet.start .empty) :=
  ⟨staged_start .empty, nofun⟩

variable [DecidableEq ι] [DecidableEq μ] [DecidableEq ω] {fleet : Fleet ι μ ω}

theorem Traced.step (h : Traced traffic fleet) (action : Action ι ω) : Traced traffic (fleet.step traffic action) := by
  refine ⟨h.staged.step False.elim, fun doc hdoc => ?_⟩
  rcases inbox_step traffic fleet action with hsame | ⟨task, outcome, record, hnext, hinbox⟩
  · rw [hsame] at hdoc
    exact h.origin doc hdoc
  · obtain ⟨next, hrunning⟩ := Fleet.nextCall_eq_some_iff.mp hnext
    obtain ⟨i, hrecord⟩ := (h.staged task _ hrunning).of_upsert
    rw [hinbox] at hdoc
    rcases (attempted outcome fleet.world.inbox (toDocument record)).mem_cases hdoc with hold | hnew
    · exact h.origin doc hold
    · exact ⟨_, _, record, hrecord, hnew⟩

theorem Traced.run (h : Traced traffic fleet) (actions : List (Action ι ω)) :
    Traced traffic (fleet.run traffic actions) := by
  induction actions generalizing fleet with
  | nil => exact h
  | cons action rest ih => exact ih (h.step action)

theorem AckedRecorded.step (hacked : AckedRecorded traffic fleet) (h : Traced traffic fleet) {action : Action ι ω}
    (hown : SettlesOwn traffic fleet action) : AckedRecorded traffic (fleet.step traffic action) := by
  intro message hmessage
  have hbefore : ∃ generated record, recordOf (traffic.message message) generated = .ok record ∧
      Recorded fleet.world.inbox record.dedupKey.value := by
    have hqueue := queue_step traffic fleet action message
    rw [hmessage] at hqueue
    generalize hholding : Holding.acked = holding at hqueue
    cases hqueue with
    | kept => exact hacked message hholding.symm
    | requeued => cases hholding
    | delivered _ _ => cases hholding
    | acked haction hnext hheld =>
        subst haction
        obtain ⟨next, hrunning⟩ := Fleet.nextCall_eq_some_iff.mp hnext
        obtain ⟨i, record, rfl, -, hrecord, hstored⟩ := (h.staged _ _ hrunning).of_ack
        have hsame := hown i _ _ _ message rfl ⟨_, rfl, Or.inl hnext⟩ hheld
        subst hsame
        exact ⟨_, record, hrecord, hstored⟩
    | discarded _ _ _ => cases hholding
  obtain ⟨generated, record, hrecord, hstored⟩ := hbefore
  exact ⟨generated, record, hrecord, hstored.mono (extends_step action)⟩

theorem AckedRecorded.run (hacked : AckedRecorded traffic fleet) (h : Traced traffic fleet)
    {actions : List (Action ι ω)} (hown : Fleet.EveryStep traffic (SettlesOwn traffic) fleet actions) :
    AckedRecorded traffic (fleet.run traffic actions) := by
  induction actions generalizing fleet with
  | nil => exact hacked
  | cons action rest ih => exact ih (hacked.step h hown.1) (h.step action) hown.2

omit [DecidableEq ι] [DecidableEq μ] [DecidableEq ω] in
/-- Where the traffic is separate, an acked message has a record that holds it. -/
theorem Traced.exists_holdsOwn (h : Traced traffic fleet) (hrecorded : AckedRecorded traffic fleet)
    (hcontract : EnvelopeContract traffic occurrence) (hseparate : Separate traffic occurrence)
    (hacked : fleet.world.queue message = .acked) :
    ∃ doc ∈ fleet.world.inbox.docs, HoldsOwn (traffic.message message) doc ∧
      ∃ origin generated record, recordOf (traffic.message origin) generated = .ok record ∧
        doc = toDocument record ∧ occurrence message = occurrence origin := by
  obtain ⟨generated, record, hrecord, doc, hdoc, hkey⟩ := hrecorded message hacked
  obtain ⟨origin, originGenerated, originRecord, horigin, rfl⟩ := h.origin doc hdoc
  have hsame : occurrence message = occurrence origin :=
    occurrence_eq_of_dedupKey_eq hcontract hseparate hrecord horigin hkey.symm
  refine ⟨_, hdoc, ?_, origin, originGenerated, originRecord, horigin, rfl, hsame⟩
  exact holdsOwn_toDocument hrecord horigin hkey
    (hseparate.bodies message origin (accepted_of_recordOf hrecord) (accepted_of_recordOf horigin) hsame)
    (hseparate.payloads origin (accepted_of_recordOf horigin))

/-- Whatever the fleet does from an empty inbox on, no event is acked as another's duplicate, provided the
traffic keeps the contract and is separate, and every ack and nack reaches its own message or none. -/
theorem none_swallowed (traffic : Traffic ι μ ω) (occurrence : μ → ε)
    (hcontract : EnvelopeContract traffic occurrence) (hseparate : Separate traffic occurrence)
    (actions : List (Action ι ω))
    (hown : Fleet.EveryStep traffic (SettlesOwn traffic) (Fleet.start .empty) actions) :
    NoneSwallowed traffic occurrence ((Fleet.start .empty).run traffic actions) := by
  have htraced := (traced_start traffic).run actions
  have hrecorded : AckedRecorded traffic ((Fleet.start .empty).run traffic actions) :=
    AckedRecorded.run nofun (traced_start traffic) hown
  intro message other hacked hotherAcked hne
  obtain ⟨doc, hdoc, hholds, origin, _, _, horigin, rfl, hsame⟩ :=
    htraced.exists_holdsOwn hrecorded hcontract hseparate hacked
  obtain ⟨otherDoc, hotherDoc, hotherHolds, otherOrigin, _, _, hotherOrigin, rfl, hotherSame⟩ :=
    htraced.exists_holdsOwn hrecorded hcontract hseparate hotherAcked
  refine ⟨_, hdoc, _, hotherDoc, fun hid => hne ?_, hholds, hotherHolds⟩
  have heq := DocumentStore.Collection.eq_of_key_eq _ hdoc hotherDoc hid
  rw [hsame, hotherSame]
  exact occurrence_eq_of_dedupKey_eq hcontract hseparate horigin hotherOrigin (congrArg InboxRecordDoc.dedupKey heq)

end DistinctEvents

/-! ### Two messages on their way -/

section Sample

/-- A body with the event id, if there is one. -/
def sentFields (eventId : Option String) (tenantId : String) : Json.Fields :=
  (eventId.map fun eventId => ("eventId", Json.str eventId)).toList ++
    [("tenantId", .str tenantId), ("eventType", .str "order.created"), ("payload", .obj [])]

def sent (eventId : Option String) (tenantId : String) (messageId : Option String) : Published where
  content := some (.obj (sentFields eventId tenantId))
  messageId := messageId

theorem lookup_sentFields (eventId : Option String) (tenantId : String) :
    (sentFields eventId tenantId).lookup "eventId" = eventId.map Json.str := by
  cases eventId <;> rfl

theorem carriesEventId_sent {eventId messageId : Option String} {tenantId id : String} :
    CarriesEventId (sent eventId tenantId messageId) id ↔ eventId = some id := by
  simp [CarriesEventId, sent, lookup_sentFields]

theorem lacksEventId_sent {eventId messageId : Option String} {tenantId : String} :
    LacksEventId (sent eventId tenantId messageId) ↔ eventId = none ∨ eventId = some "" := by
  simp only [LacksEventId, Omitted, sent, Option.some_inj, Json.obj.injEq, exists_eq_left', lookup_sentFields]
  cases eventId <;> simp

def pairId : Bool → String
  | true => "018f5b3e-9c1a-7c3e-8f3a-6b6b6b6b6b6b"
  | false => "018f5b3e-9c1a-7c3e-8f3a-6c6c6c6c6c6c"

/-- A platform with an id for each of two records. -/
@[reducible] def pairPlatform : Platform :=
  Platform.ofTable [] [pairId true, pairId false]

attribute [local instance] pairPlatform

theorem isUUID_pairId (which : Bool) : Platform.isUUID (pairId which) = true := by
  cases which <;> decide

theorem pairId_injective : Function.Injective pairId := by
  intro i j h
  cases i <;> cases j <;> first | rfl | exact absurd h (by decide)

theorem isBlank_pairId (which : Bool) : Text.isBlank (pairId which) = false := by
  cases which <;> decide

def pairGenerated (which : Bool) : Generated where
  id := ⟨pairId which, isUUID_pairId which⟩
  correlationId := ⟨pairId which, isUUID_pairId which, isBlank_pairId which⟩
  now := 0

def pairTraffic (first second : Published) : Traffic Bool Bool Unit where
  message
    | true => first
    | false => second
  delivery which := { worker := (), message := which, generated := pairGenerated which }

def pairActions : List (Action Bool Unit) :=
  [.deliver true, .deliver false, .move (.handler true) .completed, .move (.handler true) .completed,
    .move (.handler false) .completed, .move (.handler false) .completed]

def ownIds : Traffic Bool Bool Unit :=
  pairTraffic (sent (some "OrderService-1") "tenant-1" none) (sent (some "OrderService-2") "tenant-2" none)

/-- The broker calls the one event what the other is called by its publisher. -/
def mixedIds : Traffic Bool Bool Unit :=
  pairTraffic (sent (some "order-1") "tenant-1" none) (sent none "tenant-2" (some "order-1"))

theorem none_swallowed_sample : NoneSwallowed ownIds id ((Fleet.start .empty).run ownIds pairActions) := by
  refine none_swallowed ownIds id ⟨?_, ?_⟩ ⟨?_, ?_, ?_⟩ pairActions
    ((numbered_start .empty).everyStep_settlesOwn ⟨nofun, nofun, nofun, nofun, nofun, nofun, trivial⟩)
  · intro message other eventId hcarries hother
    cases message <;> cases other <;> simp only [ownIds, pairTraffic, carriesEventId_sent] at hcarries hother
    · rfl
    · exact absurd (hcarries.trans hother.symm) (by decide)
    · exact absurd (hcarries.trans hother.symm) (by decide)
    · rfl
  · intro message other messageId hcalled _
    cases message <;> cases hcalled
  · intro message other eventId _ _ hlacks
    cases message <;> simp [ownIds, pairTraffic, lacksEventId_sent] at hlacks
  · rintro message _ _ _ rfl fields _ hcontent hother property _
    rw [Json.obj.inj (Option.some_inj.mp (hcontent.symm.trans hother))]
  · intro message _ fields payload hcontent hpayload
    cases message <;> cases hcontent <;> cases hpayload <;> rfl

/-- The second event is acked and has no record. -/
theorem event_swallowed :
    EnvelopeContract mixedIds id ∧ ¬ NoneSwallowed mixedIds id ((Fleet.start .empty).run mixedIds pairActions) := by
  refine ⟨⟨?_, ?_⟩, fun h => ?_⟩
  · intro message other eventId hcarries hother
    cases message <;> cases other <;> simp_all [mixedIds, pairTraffic, carriesEventId_sent]
  · intro message other messageId hcalled hother
    cases message <;> cases other
    · rfl
    · cases hother
    · cases hcalled
    · rfl
  · obtain ⟨doc, hdoc, otherDoc, hotherDoc, hne, -⟩ := h true false rfl rfl (by decide)
    have hlength : ((Fleet.start .empty).run mixedIds pairActions).world.inbox.docs.length = 1 := rfl
    obtain ⟨only, honly⟩ := List.length_eq_one_iff.mp hlength
    rw [honly, List.mem_singleton] at hdoc hotherDoc
    exact hne (by rw [hdoc, hotherDoc])

end Sample

end WebhookIdp.Inbox
