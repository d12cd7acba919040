import WebhookIdp.Inbox.DistinctEvents

/-!
# Reading the inbox back

Nothing in the worker reads a record, but others will: whatever the processes do, every document they have put into
the inbox reads as the very record its handler has built, and every other document is as it was.
-/

namespace WebhookIdp.Inbox

section StoredRecords

variable [Platform] {ι μ ω : Type}

/-! ### Reading a document -/

def InboxRecordId.fromString (value : String) : Except DomainError InboxRecordId :=
  if h : Platform.validateUuid value = true then .ok ⟨value, h⟩
  else .error (.invalidIdentifier s!"InboxRecordId must be a valid UUID, got \"{value}\"")

theorem InboxRecordId.fromString_eq_ok_iff {value : String} {id : InboxRecordId} :
    InboxRecordId.fromString value = .ok id ↔ id.value = value := by
  rw [InboxRecordId.fromString]
  refine ⟨fun h => ?_, fun h => ?_⟩
  · split at h
    · cases h
      rfl
    · cases h
  · subst h
    rw [dif_pos id.valid]

structure RestoreInboxRecordProps where
  id : InboxRecordId
  dedupKey : DedupKey
  tenantId : TenantId
  correlationId : CorrelationId
  eventType : EventType
  payload : Json.Fields
  receivedAt : Date
  status : InboxRecordStatus

/-- A record as it was persisted. -/
def InboxRecord.restore (props : RestoreInboxRecordProps) : InboxRecord where
  id := props.id
  dedupKey := props.dedupKey
  tenantId := props.tenantId
  correlationId := props.correlationId
  eventType := props.eventType
  payload := props.payload
  receivedAt := props.receivedAt
  status := props.status

def toAggregate (doc : InboxRecordDoc) : Except DomainError InboxRecord := do
  let id ← InboxRecordId.fromString doc._id
  let dedupKey ← DedupKey.fromString doc.dedupKey
  let tenantId ← TenantId.fromString doc.tenantId
  let correlationId ← CorrelationId.fromString doc.correlationId
  let eventType ← EventType.fromString doc.eventType
  return InboxRecord.restore {
    id
    dedupKey
    tenantId
    correlationId
    eventType
    payload := doc.payload
    receivedAt := doc.receivedAt
    status := doc.status }

theorem toAggregate_eq_ok_iff {doc : InboxRecordDoc} {record : InboxRecord} :
    toAggregate doc = .ok record ↔ doc = toDocument record := by
  simp only [toAggregate, Throwing.bind_eq_ok_iff, InboxRecordId.fromString_eq_ok_iff, DedupKey.fromString,
    TenantId.fromString, CorrelationId.fromString, EventType.fromString, Text.NonBlank.fromString_eq_ok_iff]
  refine ⟨fun h => ?_, fun h => ?_⟩
  · obtain ⟨id, hid, dedupKey, hkey, tenantId, htenant, correlationId, hcorrelation, eventType, htype, hrecord⟩ := h
    cases hrecord
    simp [toDocument, InboxRecord.restore, hid, hkey, htenant, hcorrelation, htype]
  · subst h
    exact ⟨_, rfl, _, rfl, _, rfl, _, rfl, _, rfl, rfl⟩

/-! ### What the fleet stores -/

/-- The document can be read, and what is read is written as the document again. -/
def ReadsBack (doc : InboxRecordDoc) : Prop := ∃ record, toAggregate doc = .ok record ∧ toDocument record = doc

/-- The document reads as the record of a delivery. -/
def ReadsAsDelivered (traffic : Traffic ι μ ω) (doc : InboxRecordDoc) : Prop :=
  ∃ i record, recordOf (traffic.published i) (traffic.delivery i).generated = .ok record ∧
    toAggregate doc = .ok record

/-- Every task is at its stage, and every document is from before or reads as the record of a delivery. -/
structure Sourced (traffic : Traffic ι μ ω) (before : InboxCollection) (fleet : Fleet ι μ ω) : Prop where
  staged : Staged traffic False fleet
  source : ∀ doc ∈ fleet.world.inbox.docs, doc ∈ before.docs ∨ ReadsAsDelivered traffic doc

variable {traffic : Traffic ι μ ω} {before : InboxCollection} {fleet : Fleet ι μ ω} {doc : InboxRecordDoc}

/-- What a document must be for the value objects to take it. -/
theorem readsBack_iff : ReadsBack doc ↔ Platform.validateUuid doc._id = true ∧ Text.isBlank doc.dedupKey = false ∧
    Text.isBlank doc.tenantId = false ∧ Text.isBlank doc.correlationId = false ∧ Text.isBlank doc.eventType = false := by
  refine ⟨?_, fun ⟨hid, hkey, htenant, hcorrelation, htype⟩ => ?_⟩
  · rintro ⟨record, -, rfl⟩
    exact ⟨record.id.valid, record.dedupKey.nonBlank, record.tenantId.nonBlank, record.correlationId.nonBlank,
      record.eventType.nonBlank⟩
  · let record : InboxRecord := {
      id := ⟨doc._id, hid⟩
      dedupKey := ⟨doc.dedupKey, hkey⟩
      tenantId := ⟨doc.tenantId, htenant⟩
      correlationId := ⟨doc.correlationId, hcorrelation⟩
      eventType := ⟨doc.eventType, htype⟩
      payload := doc.payload
      receivedAt := doc.receivedAt
      status := doc.status }
    exact ⟨record, toAggregate_eq_ok_iff.mpr rfl, rfl⟩

theorem ReadsAsDelivered.readsBack (h : ReadsAsDelivered traffic doc) : ReadsBack doc := by
  obtain ⟨_, record, -, hread⟩ := h
  exact ⟨record, hread, (toAggregate_eq_ok_iff.mp hread).symm⟩

theorem sourced_start (traffic : Traffic ι μ ω) (inbox : InboxCollection) :
    Sourced traffic inbox (Fleet.start inbox) :=
  ⟨staged_start inbox, fun _ hdoc => Or.inl hdoc⟩

variable [DecidableEq ι] [DecidableEq μ] [DecidableEq ω]

theorem Sourced.step (h : Sourced traffic before fleet) (action : Action ι ω) :
    Sourced traffic before (fleet.step traffic action) := by
  refine ⟨h.staged.step False.elim, fun doc hdoc => ?_⟩
  obtain hsame | ⟨task, outcome, record, hnext, hinbox⟩ := inbox_step traffic fleet action
  · rw [hsame] at hdoc
    exact h.source doc hdoc
  · obtain ⟨next, hrunning⟩ := Fleet.nextCall_eq_some_iff.mp hnext
    obtain ⟨i, hrecord⟩ := (h.staged task _ hrunning).of_upsert
    rw [hinbox] at hdoc
    obtain hold | hnew := (attempted outcome fleet.world.inbox (toDocument record)).mem_cases hdoc
    · exact h.source doc hold
    · exact Or.inr ⟨i, record, hrecord, toAggregate_eq_ok_iff.mpr hnew⟩

theorem Sourced.run (h : Sourced traffic before fleet) (actions : List (Action ι ω)) :
    Sourced traffic before (fleet.run traffic actions) := by
  induction actions generalizing fleet with
  | nil => exact h
  | cons action rest ih => exact ih (h.step action)

/-- Whatever the processes do, an inbox that could be read can still be read, the documents it had are in it, and
every other document reads as the record of a delivery. -/
theorem inbox_reads_back (traffic : Traffic ι μ ω) (inbox : InboxCollection) (hinbox : ∀ doc ∈ inbox.docs, ReadsBack doc)
    (actions : List (Action ι ω)) :
    (∀ doc ∈ inbox.docs, doc ∈ ((Fleet.start inbox).run traffic actions).world.inbox.docs) ∧
      ∀ doc ∈ ((Fleet.start inbox).run traffic actions).world.inbox.docs,
        ReadsBack doc ∧ (doc ∈ inbox.docs ∨ ReadsAsDelivered traffic doc) := by
  refine ⟨fun doc hdoc => ?_, fun doc hdoc => ?_⟩
  · exact mem_of_extends (extends_run actions) hdoc
  · have hsource := ((sourced_start traffic inbox).run actions).source doc hdoc
    refine ⟨?_, hsource⟩
    obtain hold | hdelivered := hsource
    · exact hinbox doc hold
    · exact hdelivered.readsBack

end StoredRecords

section Sample

attribute [local instance] pairPlatform

/-- The inbox after the first of two events. -/
def earlierInbox : InboxCollection :=
  ((Fleet.start .empty).run (pairTraffic (sent (some "OrderService-1") "tenant-1" none) (sent none "tenant-2" (some "2")))
    [.deliver true, .move (.handler true) .completed]).world.inbox

/-- The second event is handled by a process that finds the first one's record. -/
theorem inbox_reads_back_sample :
    (∀ doc ∈ earlierInbox.docs, doc ∈ ((Fleet.start earlierInbox).run
        (pairTraffic (sent (some "OrderService-1") "tenant-1" none) (sent none "tenant-2" (some "2")))
        [.deliver false, .move (.handler false) .completed]).world.inbox.docs) ∧
      ∀ doc ∈ ((Fleet.start earlierInbox).run
          (pairTraffic (sent (some "OrderService-1") "tenant-1" none) (sent none "tenant-2" (some "2")))
          [.deliver false, .move (.handler false) .completed]).world.inbox.docs,
        ReadsBack doc ∧ (doc ∈ earlierInbox.docs ∨
          ReadsAsDelivered (pairTraffic (sent (some "OrderService-1") "tenant-1" none) (sent none "tenant-2" (some "2")))
            doc) := by
  have hreadable : ∀ doc ∈ earlierInbox.docs, ReadsBack doc := by
    simp only [readsBack_iff]
    decide
  exact inbox_reads_back _ earlierInbox hreadable [.deliver false, .move (.handler false) .completed]

end Sample

end WebhookIdp.Inbox
