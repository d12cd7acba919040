import WebhookIdp.Inbox.DistinctEvents
import WebhookIdp.Inbox.NothingLost
import WebhookIdp.Sandbox.Contract

/-!
# From the request to the record

The sandbox and the worker meet in the queue alone. Fed with what the sandbox publishes, the fleet records accepted
requests and nothing else, each of them at most once however often its message is delivered. Where every ack and nack
reaches its own message and the upserts persist, a request whose message has left the queue is recorded just when its
tenant id and its event type are not blank.
-/

namespace WebhookIdp.Sandbox

section Pipeline

variable [Platform] {ι μ ω : Type} {applicationName : String}

/-- A request the sandbox has accepted, with the UUIDs it has generated and the message it has published. -/
structure Post (applicationName : String) where
  body : Json
  generated : Generated
  message : QueueMessage
  accepted : SandboxController.create applicationName generated body = .ok (true, message)

namespace Post

def eventId (post : Post applicationName) : String := s!"{applicationName}-{post.generated.eventId.value}"

/-- The message as the worker consumes it. -/
def published (post : Post applicationName) : Inbox.Published where
  content := some post.message.content
  messageId := post.message.messageId

def HasTexts (post : Post applicationName) : Prop := HasText post.body "tenantId" ∧ HasText post.body "eventType"

/-- The inbox has a record that holds what the message says, and no other. -/
def RecordedOnce (post : Post applicationName) (inbox : Inbox.InboxCollection) : Prop :=
  ∃! doc, doc ∈ inbox.docs ∧ Records post.message post.eventId doc

end Post

/-- The messages of the posts, however they are delivered. -/
def trafficOf (posts : μ → Post applicationName) (delivery : ι → Inbox.Delivery μ ω) : Inbox.Traffic ι μ ω where
  message m := (posts m).published
  delivery := delivery

/-- No two posts have generated the same UUID for their event ids. -/
def DistinctEventIds (posts : μ → Post applicationName) : Prop :=
  Function.Injective fun m => (posts m).generated.eventId.value

/-! ### The record of one post -/

variable {post other : Post applicationName} {consumed : Inbox.Generated} {record : Inbox.InboxRecord}
  {doc : Inbox.InboxRecordDoc}

namespace Post

theorem exists_envelope (post : Post applicationName) : ∃ envelope : Envelope, post.message = envelope.toMessage ∧
    envelope.eventId = post.eventId ∧
    (post.HasTexts ↔ Text.isBlank envelope.tenantId = false ∧ Text.isBlank envelope.eventType = false) := by
  obtain ⟨envelope, hmessage, heventId, fields, hbody, htenant, htype⟩ := create_eq_ok post.accepted
  refine ⟨envelope, hmessage, heventId, ?_⟩
  rw [HasTexts, hbody, hasText_iff htenant, hasText_iff htype]

theorem records (huuid : Platform.UUIDsNotBlank) (h : Inbox.recordOf post.published consumed = .ok record) :
    Records post.message post.eventId (Inbox.toDocument record) := by
  obtain ⟨envelope, hmessage, heventId, -⟩ := post.exists_envelope
  rw [published, hmessage, envelope.recordOf_toMessage] at h
  rw [hmessage, ← heventId]
  exact envelope.records huuid h

theorem exists_recordOf_iff (huuid : Platform.UUIDsNotBlank) (post : Post applicationName) (consumed : Inbox.Generated) :
    (∃ record, Inbox.recordOf post.published consumed = .ok record) ↔ post.HasTexts := by
  obtain ⟨envelope, hmessage, -, htexts⟩ := post.exists_envelope
  rw [htexts, published, hmessage, envelope.recordOf_toMessage]
  exact envelope.exists_prepare_eq_ok_iff huuid consumed

theorem rebuildable (post : Post applicationName) {content : Json} (h : post.published.content = some content) :
    Inbox.Rebuildable content := by
  obtain ⟨envelope, hmessage, -⟩ := post.exists_envelope
  rw [published, hmessage] at h
  cases h
  rintro _ ⟨⟩
  exact envelope.not_constructs

theorem valid_of_hasTexts (h : post.HasTexts) : post.published.Valid post.eventId := by
  obtain ⟨envelope, hmessage, heventId, htexts⟩ := post.exists_envelope
  obtain ⟨htenant, htype⟩ := htexts.mp h
  refine ⟨_, rfl, ?_⟩
  rw [hmessage, ← heventId]
  refine ⟨_, rfl, ?_, .eventId rfl, envelope.nonBlank⟩
  exact {
    tenantId := ⟨_, rfl, htenant⟩
    eventType := ⟨_, rfl, htype⟩
    payload := ⟨_, rfl⟩
    correlationId := Or.inr ⟨_, rfl, envelope.validCorrelationId⟩ }

theorem uuid_eq_of_eventId_eq (h : post.eventId = other.eventId) :
    post.generated.eventId.value = other.generated.eventId.value := by
  have htext : applicationName ++ "-" ++ post.generated.eventId.value =
      applicationName ++ "-" ++ other.generated.eventId.value := h
  exact (String.append_right_inj _).mp htext

end Post

theorem eq_of_records {posts : μ → Post applicationName} (hdistinct : DistinctEventIds posts) {m n : μ}
    (hm : Records (posts m).message (posts m).eventId doc) (hn : Records (posts n).message (posts n).eventId doc) :
    m = n :=
  hdistinct (Post.uuid_eq_of_eventId_eq (hm.dedupKey.symm.trans hn.dedupKey))

/-! ### The inbox of a fleet -/

variable {posts : μ → Post applicationName} {delivery : ι → Inbox.Delivery μ ω} {fleet : Inbox.Fleet ι μ ω}

theorem exists_unique_post (huuid : Platform.UUIDsNotBlank) (hdistinct : DistinctEventIds posts)
    (htraced : Inbox.Traced (trafficOf posts delivery) fleet) (hdoc : doc ∈ fleet.world.inbox.docs) :
    ∃! m, Records (posts m).message (posts m).eventId doc := by
  obtain ⟨m, consumed, record, hrecord, rfl⟩ := htraced.origin doc hdoc
  have hrecords := (posts m).records huuid hrecord
  exact ⟨m, hrecords, fun n hn => eq_of_records hdistinct hn hrecords⟩

theorem recordedOnce_of_recorded (huuid : Platform.UUIDsNotBlank) (hdistinct : DistinctEventIds posts)
    (htraced : Inbox.Traced (trafficOf posts delivery) fleet) {m : μ}
    (h : Inbox.Recorded fleet.world.inbox (posts m).eventId) : (posts m).RecordedOnce fleet.world.inbox := by
  obtain ⟨doc, hdoc, hkey⟩ := h
  obtain ⟨n, hrecords, -⟩ := exists_unique_post huuid hdistinct htraced hdoc
  have hpost : m = n := hdistinct (Post.uuid_eq_of_eventId_eq (hkey.symm.trans hrecords.dedupKey))
  subst hpost
  refine ⟨doc, ⟨hdoc, hrecords⟩, fun other hother => ?_⟩
  exact DocumentStore.Collection.eq_of_index_eq _ hother.1 hdoc (hother.2.dedupKey.trans hkey.symm)

theorem hasTexts_of_records (huuid : Platform.UUIDsNotBlank) (hdistinct : DistinctEventIds posts)
    (htraced : Inbox.Traced (trafficOf posts delivery) fleet) (hdoc : doc ∈ fleet.world.inbox.docs) {m : μ}
    (h : Records (posts m).message (posts m).eventId doc) : (posts m).HasTexts := by
  obtain ⟨n, consumed, record, hrecord, rfl⟩ := htraced.origin doc hdoc
  have hpost : m = n := eq_of_records hdistinct h ((posts n).records huuid hrecord)
  subst hpost
  exact ((posts m).exists_recordOf_iff huuid consumed).mp ⟨record, hrecord⟩

variable [DecidableEq ι] [DecidableEq μ] [DecidableEq ω]

/-! ### Whole runs -/

/-- Whatever the fleet does from an empty inbox on, every document it holds records one accepted request. Where every
ack and nack reaches its own message or none, a request whose message has been acked is recorded once. -/
theorem posts_recorded_once (huuid : Platform.UUIDsNotBlank) (posts : μ → Post applicationName)
    (hdistinct : DistinctEventIds posts) (delivery : ι → Inbox.Delivery μ ω) (actions : List (Inbox.Action ι ω)) :
    (∀ doc ∈ ((Inbox.Fleet.start .empty).run (trafficOf posts delivery) actions).world.inbox.docs,
      ∃! m, Records (posts m).message (posts m).eventId doc) ∧
    (Inbox.Fleet.EveryStep (trafficOf posts delivery) (Inbox.SettlesOwn (trafficOf posts delivery))
        (Inbox.Fleet.start .empty) actions →
      ∀ m, ((Inbox.Fleet.start .empty).run (trafficOf posts delivery) actions).world.queue m = .acked →
        (posts m).RecordedOnce ((Inbox.Fleet.start .empty).run (trafficOf posts delivery) actions).world.inbox) := by
  have hstart := Inbox.traced_start (trafficOf posts delivery)
  have htraced := hstart.run actions
  refine ⟨fun doc hdoc => exists_unique_post huuid hdistinct htraced hdoc, fun hown m hacked => ?_⟩
  have hrecorded : Inbox.AckedRecorded (trafficOf posts delivery)
      ((Inbox.Fleet.start .empty).run (trafficOf posts delivery) actions) :=
    Inbox.AckedRecorded.run nofun hstart hown
  obtain ⟨consumed, record, hrecord, hstored⟩ := hrecorded m hacked
  rw [show record.dedupKey.value = (posts m).eventId from ((posts m).records huuid hrecord).dedupKey] at hstored
  exact recordedOnce_of_recorded huuid hdistinct htraced hstored

/-- Where every upsert persists and every ack and nack reaches its own message or none, a request whose message has
left the queue is recorded once if its texts are not blank, and has no record otherwise. -/
theorem posts_ingested (huuid : Platform.UUIDsNotBlank) (posts : μ → Post applicationName)
    (hdistinct : DistinctEventIds posts) (delivery : ι → Inbox.Delivery μ ω) (actions : List (Inbox.Action ι ω))
    (hsteps : Inbox.Fleet.EveryStep (trafficOf posts delivery) (fun fleet action =>
      Inbox.Persists fleet action ∧ Inbox.SettlesOwn (trafficOf posts delivery) fleet action)
      (Inbox.Fleet.start .empty) actions)
    (m : μ) (hleft : (((Inbox.Fleet.start .empty).run (trafficOf posts delivery) actions).world.queue m).HasLeft) :
    ((posts m).HasTexts →
      (posts m).RecordedOnce ((Inbox.Fleet.start .empty).run (trafficOf posts delivery) actions).world.inbox) ∧
    (¬ (posts m).HasTexts →
      ∀ doc ∈ ((Inbox.Fleet.start .empty).run (trafficOf posts delivery) actions).world.inbox.docs,
        ¬ Records (posts m).message (posts m).eventId doc) := by
  have htraced := (Inbox.traced_start (trafficOf posts delivery)).run actions
  have hsteady : Inbox.Fleet.EveryStep (trafficOf posts delivery) (Inbox.Steady (trafficOf posts delivery))
      (Inbox.Fleet.start .empty) actions := by
    refine hsteps.imp fun fleet action h => ⟨h.1, fun i content _ hcontent => ?_, h.2⟩
    exact (posts (delivery i).message).rebuildable hcontent
  have haccounted := (Inbox.accounted_start (trafficOf posts delivery) .empty).run huuid hsteady
  refine ⟨fun htexts => ?_, fun hblank doc hdoc hrecords => ?_⟩
  · have hrecorded := haccounted.nothingLost m _ hleft (Post.valid_of_hasTexts htexts)
    exact recordedOnce_of_recorded huuid hdistinct htraced hrecorded
  · exact hblank (hasTexts_of_records huuid hdistinct htraced hdoc hrecords)

end Pipeline

section Sample

attribute [local instance] Inbox.pairPlatform

theorem pairPlatform_uuidsNotBlank : Platform.UUIDsNotBlank := by
  intro value hvalue
  obtain htrue | hfalse := List.mem_pair.mp (List.contains_iff_mem.mp hvalue)
  · exact htrue ▸ Inbox.isBlank_pairId true
  · exact hfalse ▸ Inbox.isBlank_pairId false

def pairTenant : Bool → String
  | true => "tenant-1"
  | false => " "

def pairEnvelope (which : Bool) : Envelope where
  eventId := "OrderService" ++ "-" ++ Inbox.pairId which
  correlationId := Inbox.pairId which
  tenantId := pairTenant which
  eventType := "order.created"
  payload := [("orderId", .str "order-1")]
  nonBlank := isBlank_eventId "OrderService" (Inbox.pairId which)
  validCorrelationId := Inbox.isUUID_pairId which
  noSkippedKey := rfl

/-- A request with a tenant id, and one with a blank one. -/
def pairPost (which : Bool) : Post "OrderService" where
  body := sampleBody (pairTenant which)
  generated := {
    correlationId := (Inbox.pairGenerated which).correlationId
    eventId := (Inbox.pairGenerated which).correlationId }
  message := (pairEnvelope which).toMessage
  accepted := by cases which <;> rfl

theorem pairPost_distinct : DistinctEventIds pairPost := Inbox.pairId_injective

def pairDelivery (which : Bool) : Inbox.Delivery Bool Unit where
  worker := ()
  message := which
  generated := Inbox.pairGenerated which

/-- Both messages are delivered; the first is persisted and acked, the second is nacked. -/
def handlePair : List (Inbox.Action Bool Unit) :=
  [.deliver true, .deliver false, .move (.handler false) .completed, .move (.handler true) .completed,
    .move (.handler true) .completed]

theorem handlePair_acked :
    ((Inbox.Fleet.start .empty).run (trafficOf pairPost pairDelivery) handlePair).world.queue true = .acked := by
  rfl

theorem handlePair_settlesOwn : Inbox.Fleet.EveryStep (trafficOf pairPost pairDelivery)
    (Inbox.SettlesOwn (trafficOf pairPost pairDelivery)) (Inbox.Fleet.start .empty) handlePair :=
  (Inbox.numbered_start .empty).everyStep_settlesOwn ⟨nofun, nofun, nofun, nofun, nofun, trivial⟩

theorem posts_recorded_once_sample :
    (pairPost true).RecordedOnce
      ((Inbox.Fleet.start .empty).run (trafficOf pairPost pairDelivery) handlePair).world.inbox :=
  (posts_recorded_once pairPlatform_uuidsNotBlank pairPost pairPost_distinct pairDelivery handlePair).2
    handlePair_settlesOwn true handlePair_acked

theorem handlePair_steps : Inbox.Fleet.EveryStep (trafficOf pairPost pairDelivery) (fun fleet action =>
    Inbox.Persists fleet action ∧ Inbox.SettlesOwn (trafficOf pairPost pairDelivery) fleet action)
    (Inbox.Fleet.start .empty) handlePair := by
  obtain ⟨hdeliver, hdeliverOther, hnack, hupsert, hack, -⟩ := handlePair_settlesOwn
  refine ⟨⟨nofun, hdeliver⟩, ⟨nofun, hdeliverOther⟩, ⟨?_, hnack⟩, ⟨?_, hupsert⟩, ⟨?_, hack⟩, trivial⟩
  · intro task outcome record haction hnext
    cases haction
    cases hnext
  · intro task outcome record haction _
    cases haction
    exact Or.inr ⟨nofun, nofun⟩
  · intro task outcome record haction hnext
    cases haction
    cases hnext

theorem pairPost_blank : ¬ (pairPost false).HasTexts := by
  rintro ⟨⟨fields, text, hbody, htext, hblank⟩, -⟩
  cases hbody
  cases htext
  exact absurd hblank (by decide)

theorem handlePair_discarded :
    ((Inbox.Fleet.start .empty).run (trafficOf pairPost pairDelivery) handlePair).world.queue false = .discarded := by
  rfl

theorem handlePair_left :
    (((Inbox.Fleet.start .empty).run (trafficOf pairPost pairDelivery) handlePair).world.queue false).HasLeft := by
  rw [handlePair_discarded]
  trivial

/-- The request with the blank tenant id has left no record. -/
theorem posts_ingested_sample :
    ¬ ∃ doc ∈ ((Inbox.Fleet.start .empty).run (trafficOf pairPost pairDelivery) handlePair).world.inbox.docs,
      Records (pairPost false).message (pairPost false).eventId doc := by
  intro hrecorded
  obtain ⟨doc, hdoc, hrecords⟩ := hrecorded
  have hingested := posts_ingested pairPlatform_uuidsNotBlank pairPost pairPost_distinct pairDelivery handlePair
    handlePair_steps false handlePair_left
  exact hingested.2 pairPost_blank doc hdoc hrecords

end Sample

end WebhookIdp.Sandbox
