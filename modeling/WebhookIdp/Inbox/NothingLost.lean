import WebhookIdp.Inbox.Acceptance
import WebhookIdp.Inbox.DeliveryTags

/-!
# When a message leaves the queue without its record

The `catch` block of the adapter nacks without requeue whatever has failed, and an ack or a nack that is made after
a reconnect may reach another message. A valid message leaves the queue unrecorded only so: where each upsert finds
its dedup key recorded, or is not refused and has a fresh `_id`, every delivered body can be rebuilt, and every ack
and nack reaches its own message, no valid message is lost.
-/

namespace WebhookIdp.Inbox

section NothingLost

variable [Platform] {ι μ ω : Type}

/-- The body is a valid envelope, and the message has a usable dedup key. -/
def Published.Valid (message : Published) (key : String) : Prop :=
  ∃ body, message.content = some body ∧ Acceptable ⟨body, message.messageId⟩ key

/-- Every valid message that has left the queue has a record with its dedup key. -/
def NothingLost (traffic : Traffic ι μ ω) (fleet : Fleet ι μ ω) : Prop :=
  ∀ message key, (fleet.world.queue message).HasLeft → (traffic.message message).Valid key →
    Recorded fleet.world.inbox key

/-- The upsert that `action` makes, if any, does not fail for want of the database or a fresh id, unless there
is a record with its dedup key already. -/
def Persists (fleet : Fleet ι μ ω) (action : Action ι ω) : Prop :=
  ∀ task outcome record, action = .move task outcome →
    fleet.nextCall task = some (.repository (.upsertByDedupKey record)) →
    Recorded fleet.world.inbox record.dedupKey.value ∨
      (outcome ≠ .refused ∧ ∀ doc ∈ fleet.world.inbox.docs, doc._id ≠ record.id.value)

/-- The message that `action` delivers, if any, has no body that `plainToInstance` throws on. -/
def DeliversRebuildable (traffic : Traffic ι μ ω) (action : Action ι ω) : Prop :=
  ∀ i body, action = .deliver i → (traffic.published i).content = some body → Rebuildable body

/-- What a step must be so that it loses no message. -/
structure Steady (traffic : Traffic ι μ ω) (fleet : Fleet ι μ ω) (action : Action ι ω) : Prop where
  persists : Persists fleet action
  rebuildable : DeliversRebuildable traffic action
  settlesOwn : SettlesOwn traffic fleet action

variable {traffic : Traffic ι μ ω} {fleet : Fleet ι μ ω} {action : Action ι ω} {message : μ} {key : String}

/-! ### Upserts that store -/

omit [Platform] in
theorem recorded_findOneAndUpdate {inbox : InboxCollection} {doc : InboxRecordDoc}
    (hid : ∀ old ∈ inbox.docs, old._id ≠ doc._id) : Recorded (findOneAndUpdate inbox doc).2 doc.dedupKey := by
  rcases findOneAndUpdate_of_fresh hid with ⟨hfound, hsame⟩ | ⟨after, hdocs, hinserted⟩
  · rw [hsame]
    exact hfound
  · rw [hinserted]
    exact ⟨doc, by rw [hdocs]; simp, rfl⟩

omit [Platform] in
theorem recorded_attempt {inbox : InboxCollection} {doc : InboxRecordDoc} {outcome : Outcome}
    (houtcome : outcome ≠ .refused) (hid : ∀ old ∈ inbox.docs, old._id ≠ doc._id) :
    Recorded (attempt outcome inbox doc).2 doc.dedupKey := by
  have hdirect := recorded_findOneAndUpdate hid
  cases outcome with
  | completed => exact hdirect
  | refused => exact absurd rfl houtcome
  | unanswered => exact hdirect
  | raced =>
      rw [attempt]
      split
      · exact recorded_iff_mem.mpr ‹_›
      · exact hdirect

theorem Persists.stores (h : Persists fleet action) : Stores fleet action := by
  intro task outcome record haction hnext
  rcases h task outcome record haction hnext with hrecorded | ⟨houtcome, hid⟩
  · exact hrecorded.mono (attempted outcome fleet.world.inbox (toDocument record)).extends
  · exact recorded_attempt houtcome hid

/-! ### Accounting for every message -/

/-- Every task is at its stage, what is handled can be rebuilt, and no valid message is lost. -/
structure Accounted (traffic : Traffic ι μ ω) (fleet : Fleet ι μ ω) : Prop where
  staged : Staged traffic True fleet
  rebuildable : ∀ i program, fleet.tasks (.handler i) = .running program →
    ∀ body, (traffic.published i).content = some body → Rebuildable body
  nothingLost : NothingLost traffic fleet

theorem accounted_start (traffic : Traffic ι μ ω) (inbox : InboxCollection) :
    Accounted traffic (Fleet.start inbox) := by
  exact ⟨staged_start inbox, nofun, fun _ _ hleft => absurd hleft id⟩

theorem recorded_of_settled (huuid : Platform.UUIDsNotBlank) {i : ι} {inbox : InboxCollection}
    (h : Settled traffic i inbox) (hvalid : (traffic.published i).Valid key)
    (hrebuilt : ∀ body, (traffic.published i).content = some body → Rebuildable body) : Recorded inbox key := by
  obtain ⟨body, hbody, hacceptable⟩ := hvalid
  obtain ⟨record, hrecord, rfl⟩ :=
    (exists_recordOf_iff huuid _ (traffic.delivery i).generated key).mpr ⟨hacceptable, hrebuilt body hbody⟩
  refine h record ?_
  rwa [← hbody] at hrecord

/-- A message that an ack or a nack takes off the queue was recorded before, if it is valid. -/
theorem Accounted.recorded_of_settles (huuid : Platform.UUIDsNotBlank) (h : Accounted traffic fleet) {i : ι}
    {outcome : Outcome} {worker : ω} {tag : Nat} (hown : SettlesOwn traffic fleet (.move (.handler i) outcome))
    (hsettles : Settles fleet (.handler i) worker tag) (hsettled : Settled traffic i fleet.world.inbox)
    (hheld : fleet.world.queue message = .unacked worker tag) (hvalid : (traffic.message message).Valid key) :
    Recorded fleet.world.inbox key := by
  have hmessage := hown i outcome worker tag message rfl hsettles hheld
  subst hmessage
  obtain ⟨op, next, hrunning⟩ : ∃ op next, fleet.tasks (.handler i) = .running (.call op next) := by
    obtain ⟨_, -, hack | ⟨_, hnack⟩⟩ := hsettles
    · exact ⟨_, Fleet.nextCall_eq_some_iff.mp hack⟩
    · exact ⟨_, Fleet.nextCall_eq_some_iff.mp hnack⟩
  exact recorded_of_settled huuid hsettled hvalid (h.rebuildable i _ hrunning)

variable [DecidableEq ι] [DecidableEq μ] [DecidableEq ω]

theorem Accounted.rebuildable_step (h : Accounted traffic fleet) (hdelivers : DeliversRebuildable traffic action) {i : ι}
    {program : Process ω Unit} (hrunning : (fleet.step traffic action).tasks (.handler i) = .running program) :
    ∀ body, (traffic.published i).content = some body → Rebuildable body := by
  rcases tasks_step hrunning with
    hold | ⟨j, rfl, htask, -⟩ | ⟨_, htask, -⟩ | ⟨op, next, outcome, -, hcall, -⟩
  · exact h.rebuildable i program hold
  · cases htask
    exact fun body hbody => hdelivers i body rfl hbody
  · cases htask
  · exact h.rebuildable i _ hcall

/-! ### Whole runs -/

theorem Accounted.step (huuid : Platform.UUIDsNotBlank) (h : Accounted traffic fleet)
    (hsteady : Steady traffic fleet action) : Accounted traffic (fleet.step traffic action) := by
  refine ⟨h.staged.step fun _ => hsteady.persists.stores,
    fun i program hrunning => h.rebuildable_step hsteady.rebuildable hrunning, fun message key hleft hvalid => ?_⟩
  have hbefore : Recorded fleet.world.inbox key := by
    have hqueue := queue_step traffic fleet action message
    generalize (fleet.step traffic action).world.queue message = holding at hqueue hleft
    cases hqueue with
    | kept => exact h.nothingLost message key hleft hvalid
    | requeued => exact absurd hleft id
    | delivered _ _ => exact absurd hleft id
    | acked haction hnext hheld =>
        obtain ⟨next, hrunning⟩ := Fleet.nextCall_eq_some_iff.mp hnext
        obtain ⟨i, record, rfl, -, hrecord, hstored⟩ := (h.staged _ _ hrunning).of_ack
        exact h.recorded_of_settles huuid (haction ▸ hsteady.settlesOwn) ⟨_, rfl, Or.inl hnext⟩
          (settled_of_recorded hrecord hstored) hheld hvalid
    | discarded haction hnext hheld =>
        obtain ⟨next, hrunning⟩ := Fleet.nextCall_eq_some_iff.mp hnext
        obtain ⟨i, rfl, hsettled⟩ := (h.staged _ _ hrunning).of_nack
        exact h.recorded_of_settles huuid (haction ▸ hsteady.settlesOwn) ⟨_, rfl, Or.inr ⟨false, hnext⟩⟩
          (hsettled trivial) hheld hvalid
  exact hbefore.mono (extends_step action)

theorem Accounted.run (huuid : Platform.UUIDsNotBlank) (h : Accounted traffic fleet) {actions : List (Action ι ω)}
    (hsteady : Fleet.EveryStep traffic (Steady traffic) fleet actions) :
    Accounted traffic (fleet.run traffic actions) := by
  induction actions generalizing fleet with
  | nil => exact h
  | cons action rest ih => exact ih (h.step huuid hsteady.1) hsteady.2

/-- In every run whose steps are all steady, every valid message that has left the queue has its record. -/
theorem nothing_lost (huuid : Platform.UUIDsNotBlank) (traffic : Traffic ι μ ω) (inbox : InboxCollection)
    (actions : List (Action ι ω)) (hsteady : Fleet.EveryStep traffic (Steady traffic) (Fleet.start inbox) actions) :
    NothingLost traffic ((Fleet.start inbox).run traffic actions) :=
  ((accounted_start traffic inbox).run huuid hsteady).nothingLost

/-! ### What each condition is for -/

/-- A valid message without a record is lost by the ack or nack that reaches it, whatever it was made for. -/
theorem lost_of_settled {task : Task ι ω} {worker : ω} {consumed : ConsumeMessage}
    (hnext : fleet.nextCall task = some (.ack worker consumed) ∨
      fleet.nextCall task = some (.nack worker consumed false))
    (hheld : fleet.world.queue message = .unacked worker consumed.deliveryTag)
    (hvalid : (traffic.message message).Valid key) (hnew : ¬ Recorded fleet.world.inbox key) :
    ¬ NothingLost traffic (fleet.step traffic (.move task .completed)) := by
  obtain ⟨holding, hleft, hworld⟩ : ∃ holding : Holding ω, holding.HasLeft ∧
      (fleet.step traffic (.move task .completed)).world =
        fleet.world.settle worker consumed.deliveryTag holding := by
    rcases hnext with hack | hnack
    · obtain ⟨next, hrunning⟩ := Fleet.nextCall_eq_some_iff.mp hack
      exact ⟨.acked, trivial, world_move hrunning .completed⟩
    · obtain ⟨next, hrunning⟩ := Fleet.nextCall_eq_some_iff.mp hnack
      exact ⟨.discarded, trivial, world_move hrunning .completed⟩
  intro h
  refine hnew ?_
  have hqueue : (fleet.world.settle worker consumed.deliveryTag holding).queue message = holding := if_pos hheld
  have hrecorded := h message key
  rw [hworld, hqueue] at hrecorded
  exact hrecorded hleft hvalid

/-- A refused upsert of a message whose key is new loses it: the nack that follows drops the message. -/
theorem lost_of_refused {i : ι} {tag : Nat} {record : InboxRecord}
    (hrunning : fleet.tasks (.handler i) =
      .running (persisting (traffic.delivery i).worker (traffic.consumed i tag) record))
    (hheld : fleet.world.queue (traffic.delivery i).message = .unacked (traffic.delivery i).worker tag)
    (hvalid : (traffic.published i).Valid key) (hnew : ¬ Recorded fleet.world.inbox key) :
    ¬ NothingLost traffic (fleet.run traffic [.move (.handler i) .refused, .move (.handler i) .completed]) := by
  have hfailed : (fleet.step traffic (.move (.handler i) .refused)).world = fleet.world := world_move hrunning .refused
  have hnacking : (fleet.step traffic (.move (.handler i) .refused)).nextCall (.handler i) =
      some (.nack (traffic.delivery i).worker (traffic.consumed i tag) false) := by
    refine Fleet.nextCall_eq_some_iff.mpr ⟨.done, ?_⟩
    rw [Fleet.step, Fleet.move, hrunning]
    exact Function.update_self ..
  refine lost_of_settled (Or.inr hnacking) ?_ hvalid ?_
  · rw [hfailed]
    exact hheld
  · rw [hfailed]
    exact hnew

/-- A valid message whose body cannot be rebuilt is lost as soon as it is delivered and nacked. -/
theorem lost_of_not_rebuildable {i : ι} {body : Json} (hbody : (traffic.published i).content = some body)
    (hthrows : ¬ Rebuildable body) (hidle : fleet.tasks (.handler i) = .idle)
    (hready : fleet.world.queue (traffic.delivery i).message = .ready)
    (hopen : fleet.world.channelOpen (traffic.delivery i).worker = true)
    (hvalid : (traffic.published i).Valid key) (hnew : ¬ Recorded fleet.world.inbox key) :
    ¬ NothingLost traffic (fleet.run traffic [.deliver i, .move (.handler i) .completed]) := by
  have hdelivered : fleet.step traffic (.deliver i) = {
      world := fleet.world.deliver (traffic.delivery i).worker (traffic.delivery i).message
      tasks := Function.update fleet.tasks (.handler i)
        (.running (traffic.handling i (fleet.world.delivered (traffic.delivery i).worker + 1))) } := by
    rw [Fleet.step, Fleet.deliver, hidle]
    exact if_pos ⟨hready, hopen⟩
  have hhandling : traffic.handling i (fleet.world.delivered (traffic.delivery i).worker + 1) =
      nacking (traffic.delivery i).worker
        (traffic.consumed i (fleet.world.delivered (traffic.delivery i).worker + 1)) := by
    rw [handling_eq]
    split
    · rfl
    · rename_i record hrecord
      have hcontent : traffic.published i = ⟨some body, (traffic.published i).messageId⟩ := by rw [← hbody]
      rw [hcontent] at hrecord
      exact absurd (acceptable_of_recordOf hrecord).2 hthrows
  show ¬ NothingLost traffic ((fleet.step traffic (.deliver i)).step traffic (.move (.handler i) .completed))
  rw [hdelivered, hhandling]
  refine lost_of_settled (Or.inr (Fleet.nextCall_eq_some_iff.mpr ⟨.done, Function.update_self ..⟩))
    (Function.update_self ..) hvalid hnew

end NothingLost

section Sample

attribute [local instance] samplePlatform

/-- The message is delivered, persisted and acked. -/
theorem nothing_lost_sample :
    NothingLost sampleTraffic ((Fleet.start .empty).run sampleTraffic
      [.deliver (), .move (.handler ()) .completed, .move (.handler ()) .completed]) := by
  have hown : Fleet.EveryStep sampleTraffic (SettlesOwn sampleTraffic) (Fleet.start .empty)
      [.deliver (), .move (.handler ()) .completed, .move (.handler ()) .completed] :=
    (numbered_start .empty).everyStep_settlesOwn ⟨nofun, nofun, nofun, trivial⟩
  refine nothing_lost samplePlatform_uuidsNotBlank sampleTraffic .empty _
    ⟨⟨nofun, ?_, hown.1⟩, ⟨?_, nofun, hown.2.1⟩, ⟨?_, nofun, hown.2.2.1⟩, trivial⟩
  · rintro i body - hbody fields rfl
    cases hbody
    decide
  · intro task outcome record haction _
    cases haction
    exact Or.inr ⟨nofun, nofun⟩
  · intro task outcome record haction hnext
    cases haction
    cases hnext

/-- The message is delivered, its upsert is refused, and the nack drops it. -/
theorem message_lost_when_refused :
    ¬ NothingLost sampleTraffic ((Fleet.start .empty).run sampleTraffic
      [.deliver (), .move (.handler ()) .refused, .move (.handler ()) .completed]) := by
  intro h
  have hvalid : sampleMessage.Valid "OrderService-1" := by
    refine ⟨_, rfl, _, rfl, ?_, KeyedBy.eventId rfl, by decide⟩
    exact {
      tenantId := ⟨"tenant-1", rfl, by decide⟩
      eventType := ⟨"order.created", rfl, by decide⟩
      payload := ⟨_, rfl⟩
      correlationId := Or.inr ⟨_, rfl, by decide⟩ }
  have hrecorded := h () "OrderService-1" trivial hvalid
  revert hrecorded
  decide

end Sample

end WebhookIdp.Inbox
