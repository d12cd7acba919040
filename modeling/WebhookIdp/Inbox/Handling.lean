import WebhookIdp.Inbox.Worker

/-!
# How far a delivery has come

A handler that finds no record in its message nacks it. One that builds a record upserts it, and acks the
message when the upsert is answered; every failure on the way, that of the ack too, leads to the nack. The
stages are an invariant of the fleet: a handler about to ack has its record in the inbox.
-/

namespace WebhookIdp.Inbox

open Concurrent (Program)
open IngestEventUseCase

section Handling

variable [Platform] {ι μ ω : Type}

/-! ### The form of a handler -/

/-- The `catch` block of the adapter. -/
def nacking (worker : ω) (message : ConsumeMessage) : Process ω Unit := Process.request (.nack worker message false)

/-- What is left once the upsert has been answered. -/
def acking (worker : ω) (message : ConsumeMessage) : Process ω Unit :=
  .call (.ack worker message) fun answer =>
    match answer with
    | .ok _ => .done (.ok ())
    | .error _ => nacking worker message

/-- What is left of a handler that has built its record. -/
def persisting (worker : ω) (message : ConsumeMessage) (record : InboxRecord) : Process ω Unit :=
  .call (.repository (.upsertByDedupKey record)) fun answer =>
    match answer with
    | .ok _ => acking worker message
    | .error _ => nacking worker message

theorem handle_eq (message : BrokerMessage) (generated : Generated) :
    IngestionRuntimeService.handle message generated =
      match parseEnvelope message.body >>= fun envelope =>
          prepare (envelope.toInput message.brokerMessageId) generated with
      | .error exception => .done (.error exception)
      | .ok record => .call (.upsertByDedupKey record) fun answer => .done (answer.map fun _ => ()) := by
  rw [IngestionRuntimeService.handle]
  rcases parseEnvelope message.body with exception | envelope
  · rfl
  show (execute (envelope.toInput message.brokerMessageId) generated >>= fun _ => _) =
    match prepare (envelope.toInput message.brokerMessageId) generated with
      | .error exception => .done (.error exception)
      | .ok record => .call (.upsertByDedupKey record) fun answer => .done (answer.map fun _ => ())
  rw [execute_eq]
  rcases prepare (envelope.toInput message.brokerMessageId) generated with exception | record
  · rfl
  · apply Program.call_congr
    intro answer
    cases answer <;> rfl

theorem handling_eq (traffic : Traffic ι μ ω) (i : ι) (deliveryTag : Nat) :
    traffic.handling i deliveryTag = match recordOf (traffic.published i) (traffic.delivery i).generated with
      | .error _ => nacking (traffic.delivery i).worker (traffic.consumed i deliveryTag)
      | .ok record => persisting (traffic.delivery i).worker (traffic.consumed i deliveryTag) record := by
  rw [Traffic.handling, RabbitMqBrokerConsumerAdapter.handleMessage, recordOf]
  rcases hcontent : parseContent (traffic.published i).content with exception | body
  · have hconsumed : parseContent (traffic.consumed i deliveryTag).content = .error exception := hcontent
    rw [hconsumed]
    rfl
  have hconsumed : parseContent (traffic.consumed i deliveryTag).content = .ok body := hcontent
  rw [hconsumed]
  show tryCatch ((IngestionRuntimeService.handle { body, brokerMessageId := (traffic.published i).messageId }
      (traffic.delivery i).generated).embed .repository >>= fun _ => _) _ = match parseEnvelope body >>= _ with
    | .error _ => nacking (traffic.delivery i).worker (traffic.consumed i deliveryTag)
    | .ok record => persisting (traffic.delivery i).worker (traffic.consumed i deliveryTag) record
  rw [handle_eq]
  rcases parseEnvelope body >>= fun envelope => prepare (envelope.toInput (traffic.published i).messageId)
    (traffic.delivery i).generated with exception | record
  · rfl
  · apply Program.call_congr
    intro answer
    rcases answer with exception | result
    · rfl
    · apply Program.call_congr
      intro answer
      cases answer <;> rfl

def Call.Closes : Call ω → Prop
  | .closeChannel _ => True
  | .closeConnection _ => True
  | .closeApplication _ => True
  | .exit _ => True
  | _ => False

theorem shutdown_onlyCalls (worker : ω) : (shutdown worker : Process ω Unit).OnlyCalls Call.Closes := by
  have hrequest (op : Call ω) (hop : op.Closes) : (Process.request op).OnlyCalls Call.Closes :=
    ⟨hop, fun _ => trivial⟩
  have hdisconnect : (RabbitMqBrokerConsumerAdapter.disconnect worker : Process ω Unit).OnlyCalls Call.Closes :=
    (hrequest (.closeChannel worker) trivial).bind fun _ => hrequest (.closeConnection worker) trivial
  exact hdisconnect.bind fun _ => (hrequest (.closeApplication worker) trivial).bind fun _ =>
    hrequest (.exit worker) trivial

/-! ### The stages of a delivery -/

/-- If the message has a record, the inbox has one under its dedup key. -/
def Settled (traffic : Traffic ι μ ω) (i : ι) (inbox : InboxCollection) : Prop :=
  ∀ record, recordOf (traffic.published i) (traffic.delivery i).generated = .ok record →
    Recorded inbox record.dedupKey.value

/-- The programs that run; where `careful` holds, a message is nacked only once it is settled. -/
inductive Stage (traffic : Traffic ι μ ω) (careful : Prop) (inbox : InboxCollection) :
    Task ι ω → Process ω Unit → Prop
  | persisting {i : ι} {tag : Nat} {record : InboxRecord}
      (hrecord : recordOf (traffic.published i) (traffic.delivery i).generated = .ok record) :
      Stage traffic careful inbox (.handler i) (persisting (traffic.delivery i).worker (traffic.consumed i tag) record)
  | acking {i : ι} {tag : Nat} {record : InboxRecord}
      (hrecord : recordOf (traffic.published i) (traffic.delivery i).generated = .ok record)
      (hstored : Recorded inbox record.dedupKey.value) :
      Stage traffic careful inbox (.handler i) (acking (traffic.delivery i).worker (traffic.consumed i tag))
  | nacking {i : ι} {tag : Nat} (hsettled : careful → Settled traffic i inbox) :
      Stage traffic careful inbox (.handler i) (nacking (traffic.delivery i).worker (traffic.consumed i tag))
  | done {task : Task ι ω} (result : Except Exception Unit) : Stage traffic careful inbox task (.done result)
  | closing {worker : ω} {program : Process ω Unit} (h : program.OnlyCalls Call.Closes) :
      Stage traffic careful inbox (.shutdown worker) program

variable {traffic : Traffic ι μ ω} {careful : Prop} {inbox after : InboxCollection} {i : ι} {task : Task ι ω}
  {worker : ω}

theorem settled_of_recorded {record : InboxRecord}
    (hrecord : recordOf (traffic.published i) (traffic.delivery i).generated = .ok record)
    (hstored : Recorded inbox record.dedupKey.value) : Settled traffic i inbox := by
  intro record' hrecord'
  rw [hrecord] at hrecord'
  cases hrecord'
  exact hstored

theorem Settled.mono (h : Settled traffic i inbox)
    (hextends : FirstWrite.Extends (byDedupKey inbox) (byDedupKey after)) : Settled traffic i after :=
  fun record hrecord => (h record hrecord).mono hextends

theorem Stage.mono {program : Process ω Unit} (h : Stage traffic careful inbox task program)
    (hextends : FirstWrite.Extends (byDedupKey inbox) (byDedupKey after)) :
    Stage traffic careful after task program := by
  cases h with
  | persisting hrecord => exact Stage.persisting hrecord
  | acking hrecord hstored => exact Stage.acking hrecord (hstored.mono hextends)
  | nacking hsettled => exact Stage.nacking fun hcareful => (hsettled hcareful).mono hextends
  | done result => exact Stage.done result
  | closing h => exact Stage.closing h

/-- Only a handler whose record is stored is about to ack, and it acks its own message. -/
theorem Stage.of_ack {message : ConsumeMessage} {next : Except Exception Unit → Process ω Unit}
    (h : Stage traffic careful inbox task (.call (Call.ack worker message) next)) :
    ∃ i record, task = .handler i ∧ message.toPublished = traffic.published i ∧
      recordOf (traffic.published i) (traffic.delivery i).generated = .ok record ∧
      Recorded inbox record.dedupKey.value := by
  generalize hprogram : (Program.call (Call.ack worker message) next : Process ω Unit) = program at h
  cases h with
  | persisting _ => cases hprogram
  | @acking i tag record hrecord hstored =>
      cases hprogram
      exact ⟨i, record, rfl, rfl, hrecord, hstored⟩
  | nacking _ => cases hprogram
  | done _ => cases hprogram
  | closing hcloses =>
      subst hprogram
      exact absurd hcloses.1 id

theorem Stage.of_nack {message : ConsumeMessage} {requeue : Bool}
    {next : Except Exception Unit → Process ω Unit}
    (h : Stage traffic careful inbox task (.call (Call.nack worker message requeue) next)) :
    ∃ i, task = .handler i ∧ (careful → Settled traffic i inbox) := by
  generalize hprogram : (Program.call (Call.nack worker message requeue) next : Process ω Unit) = program at h
  cases h with
  | persisting _ => cases hprogram
  | acking _ _ => cases hprogram
  | @nacking i tag hsettled =>
      cases hprogram
      exact ⟨i, rfl, hsettled⟩
  | done _ => cases hprogram
  | closing hcloses =>
      subst hprogram
      exact absurd hcloses.1 id

theorem Stage.of_upsert {record : InboxRecord}
    {next : Except Exception UpsertInboxRecordResult → Process ω Unit}
    (h : Stage traffic careful inbox task (.call (Call.repository (.upsertByDedupKey record)) next)) :
    ∃ i, recordOf (traffic.published i) (traffic.delivery i).generated = .ok record := by
  generalize hprogram :
    (Program.call (Call.repository (.upsertByDedupKey record)) next : Process ω Unit) = program at h
  cases h with
  | @persisting i tag record hrecord =>
      cases hprogram
      exact ⟨i, hrecord⟩
  | acking _ _ => cases hprogram
  | nacking _ => cases hprogram
  | done _ => cases hprogram
  | closing hcloses =>
      subst hprogram
      exact absurd hcloses.1 id

theorem stage_handling (i : ι) (tag : Nat) :
    Stage traffic careful inbox (.handler i) (traffic.handling i tag) := by
  rw [handling_eq]
  split
  · rename_i exception herror
    refine Stage.nacking fun _ record hrecord => ?_
    rw [herror] at hrecord
    cases hrecord
  · exact Stage.persisting ‹_›

/-- Every task that runs is at one of the stages. -/
def Staged (traffic : Traffic ι μ ω) (careful : Prop) (fleet : Fleet ι μ ω) : Prop :=
  ∀ task program, fleet.tasks task = .running program → Stage traffic careful fleet.world.inbox task program

theorem staged_start (inbox : InboxCollection) : Staged traffic careful (Fleet.start inbox) := nofun

/-! ### What a step does -/

variable [DecidableEq ι] [DecidableEq μ] [DecidableEq ω] {fleet : Fleet ι μ ω}

/-- What one step does to a fleet. -/
inductive Stepped (traffic : Traffic ι μ ω) (fleet : Fleet ι μ ω) : Action ι ω → Fleet ι μ ω → Prop
  | skipped (action : Action ι ω) : Stepped traffic fleet action fleet
  | delivered {i : ι} (hidle : fleet.tasks (.handler i) = .idle)
      (hready : fleet.world.queue (traffic.delivery i).message = .ready)
      (hopen : fleet.world.channelOpen (traffic.delivery i).worker = true) :
      Stepped traffic fleet (.deliver i)
        { world := fleet.world.deliver (traffic.delivery i).worker (traffic.delivery i).message
          tasks := Function.update fleet.tasks (.handler i)
            (.running (traffic.handling i (fleet.world.delivered (traffic.delivery i).worker + 1))) }
  | signalled {worker : ω} (hidle : fleet.tasks (.shutdown worker) = .idle) :
      Stepped traffic fleet (.signal worker)
        { fleet with tasks := Function.update fleet.tasks (.shutdown worker) (.running (shutdown worker)) }
  | moved {task : Task ι ω} {op : Call ω} {next : Except Exception op.Answer → Process ω Unit}
      (outcome : Outcome) (hrunning : fleet.tasks task = .running (.call op next)) :
      Stepped traffic fleet (.move task outcome)
        { world := (perform op outcome fleet.world).2
          tasks := Fleet.answered traffic fleet.tasks task op (next (perform op outcome fleet.world).1) }
  | disconnected (worker : ω) :
      Stepped traffic fleet (.disconnect worker) { fleet with world := fleet.world.requeue worker }
  | crashed (worker : ω) :
      Stepped traffic fleet (.crash worker)
        { world := fleet.world.close worker, tasks := killTasks traffic worker fleet.tasks }

theorem stepped (traffic : Traffic ι μ ω) (fleet : Fleet ι μ ω) (action : Action ι ω) :
    Stepped traffic fleet action (fleet.step traffic action) := by
  cases action with
  | deliver i =>
      rw [Fleet.step, Fleet.deliver]
      split
      · dsimp only
        split
        · rename_i hidle hready
          exact Stepped.delivered hidle hready.1 hready.2
        · exact Stepped.skipped _
      · exact Stepped.skipped _
  | signal worker =>
      rw [Fleet.step, Fleet.signal]
      split
      · exact Stepped.signalled ‹_›
      · exact Stepped.skipped _
  | move task outcome =>
      rw [Fleet.step, Fleet.move]
      split
      · exact Stepped.moved outcome ‹_›
      · exact Stepped.skipped _
  | disconnect worker => exact Stepped.disconnected worker
  | crash worker => exact Stepped.crashed worker

theorem running_update {tasks : Task ι ω → Status ω} {started task : Task ι ω} {first program : Process ω Unit}
    (h : Function.update tasks started (.running first) task = .running program) :
    (task = started ∧ program = first) ∨ tasks task = .running program := by
  by_cases htask : task = started
  · subst htask
    rw [Function.update_self] at h
    cases h
    exact Or.inl ⟨rfl, rfl⟩
  · rw [Function.update_of_ne htask] at h
    exact Or.inr h

omit [DecidableEq ι] [DecidableEq μ] in
theorem running_killTasks {tasks : Task ι ω → Status ω} {worker : ω} {task : Task ι ω} {program : Process ω Unit}
    (h : killTasks traffic worker tasks task = .running program) : tasks task = .running program := by
  unfold killTasks at h
  split at h
  · cases h
  · exact h

omit [DecidableEq μ] in
theorem running_answered {tasks : Task ι ω → Status ω} {task mover : Task ι ω} {op : Call ω}
    {rest program : Process ω Unit}
    (h : Fleet.answered traffic tasks mover op rest task = .running program) :
    (task = mover ∧ program = rest) ∨ tasks task = .running program := by
  cases op with
  | exit worker => exact running_update (running_killTasks h)
  | _ => exact running_update h

/-- A task that runs was running, or has just started, or has just had the answer to a call. -/
theorem tasks_step {action : Action ι ω} {task : Task ι ω} {program : Process ω Unit}
    (h : (fleet.step traffic action).tasks task = .running program) :
    fleet.tasks task = .running program ∨
      (∃ i, action = .deliver i ∧ task = .handler i ∧
        (fleet.step traffic action).world = fleet.world.deliver (traffic.delivery i).worker (traffic.delivery i).message ∧
        program = traffic.handling i (fleet.world.delivered (traffic.delivery i).worker + 1)) ∨
      (∃ worker, task = .shutdown worker ∧ program = shutdown worker) ∨
      ∃ op next outcome, action = .move task outcome ∧ fleet.tasks task = .running (.call op next) ∧
        program = next (perform op outcome fleet.world).1 := by
  have hstep := stepped traffic fleet action
  generalize fleet.step traffic action = result at h hstep
  cases hstep with
  | skipped _ => exact Or.inl h
  | @delivered i _ _ _ =>
      rcases running_update h with ⟨htask, hprogram⟩ | hold
      · exact Or.inr (Or.inl ⟨i, rfl, htask, rfl, hprogram⟩)
      · exact Or.inl hold
  | @signalled worker _ =>
      rcases running_update h with ⟨htask, hprogram⟩ | hold
      · exact Or.inr (Or.inr (Or.inl ⟨worker, htask, hprogram⟩))
      · exact Or.inl hold
  | @moved mover op next outcome hrunning =>
      rcases running_answered h with ⟨rfl, hprogram⟩ | hold
      · exact Or.inr (Or.inr (Or.inr ⟨op, next, outcome, rfl, hrunning, hprogram⟩))
      · exact Or.inl hold
  | disconnected _ => exact Or.inl h
  | crashed _ => exact Or.inl (running_killTasks h)

theorem world_move {task : Task ι ω} {op : Call ω} {next : Except Exception op.Answer → Process ω Unit}
    (h : fleet.tasks task = .running (.call op next)) (outcome : Outcome) :
    (fleet.step traffic (.move task outcome)).world = (perform op outcome fleet.world).2 := by
  rw [Fleet.step, Fleet.move, h]

theorem inbox_step (traffic : Traffic ι μ ω) (fleet : Fleet ι μ ω) (action : Action ι ω) :
    (fleet.step traffic action).world.inbox = fleet.world.inbox ∨
      ∃ task outcome record, fleet.nextCall task = some (.repository (.upsertByDedupKey record)) ∧
        (fleet.step traffic action).world.inbox = (attempt outcome fleet.world.inbox (toDocument record)).2 := by
  have hstep := stepped traffic fleet action
  generalize fleet.step traffic action = result at hstep
  cases hstep with
  | @moved task op next outcome hrunning =>
      cases op with
      | repository call =>
          obtain ⟨record⟩ := call
          exact Or.inr ⟨task, outcome, record, Fleet.nextCall_eq_some_iff.mpr ⟨next, hrunning⟩, rfl⟩
      | ack worker message => exact Or.inl (inbox_settling _ _ _ _ outcome)
      | nack worker message requeue => exact Or.inl (inbox_settling _ _ _ _ outcome)
      | _ => exact Or.inl rfl
  | _ => exact Or.inl rfl

theorem extends_step (action : Action ι ω) :
    FirstWrite.Extends (byDedupKey fleet.world.inbox) (byDedupKey (fleet.step traffic action).world.inbox) := by
  rcases inbox_step traffic fleet action with hsame | ⟨task, outcome, record, -, hinbox⟩
  · rw [hsame]
    exact FirstWrite.Extends.refl _
  · rw [hinbox]
    exact (attempted outcome fleet.world.inbox (toDocument record)).extends

theorem extends_run (actions : List (Action ι ω)) :
    FirstWrite.Extends (byDedupKey fleet.world.inbox) (byDedupKey (fleet.run traffic actions).world.inbox) := by
  induction actions generalizing fleet with
  | nil => exact FirstWrite.Extends.refl _
  | cons action rest ih => exact (extends_step action).trans ih

/-! ### From stage to stage -/

/-- The upsert that `action` makes, if any, leaves a record with its key. -/
def Stores (fleet : Fleet ι μ ω) (action : Action ι ω) : Prop :=
  ∀ task outcome record, action = .move task outcome →
    fleet.nextCall task = some (.repository (.upsertByDedupKey record)) →
    Recorded (attempt outcome fleet.world.inbox (toDocument record)).2 record.dedupKey.value

omit [DecidableEq μ] in
theorem recorded_of_upserted {record : InboxRecord} {outcome : Outcome} {world : World μ ω}
    {result : UpsertInboxRecordResult}
    (h : (perform (.repository (.upsertByDedupKey record)) outcome world).1 = .ok result) :
    Recorded (perform (.repository (.upsertByDedupKey record)) outcome world).2.inbox
      record.dedupKey.value := by
  have hmap : (attempt outcome world.inbox (toDocument record)).1.map
      (fun updatedExisting => ({ inserted := !updatedExisting } : UpsertInboxRecordResult)) = .ok result := h
  rcases hanswer : (attempt outcome world.inbox (toDocument record)).1 with exception | updatedExisting
  · rw [hanswer] at hmap
    cases hmap
  · exact (attempted outcome world.inbox (toDocument record)).recorded hanswer

omit [DecidableEq ι] [DecidableEq μ] in
theorem Stage.answered {op : Call ω} {next : Except Exception op.Answer → Process ω Unit} {outcome : Outcome}
    (h : Stage traffic careful fleet.world.inbox task (.call op next))
    (hrunning : fleet.tasks task = .running (.call op next))
    (hstores : careful → Stores fleet (.move task outcome)) :
    Stage traffic careful (perform op outcome fleet.world).2.inbox task
      (next (perform op outcome fleet.world).1) := by
  have hnext := Fleet.nextCall_eq_some_iff.mpr ⟨next, hrunning⟩
  generalize hprogram : Program.call op next = program at h
  cases h with
  | @persisting i tag record hrecord =>
      cases hprogram
      rcases hanswer : (perform (.repository (.upsertByDedupKey record)) outcome fleet.world).1 with
        exception | result
      · refine Stage.nacking fun hcareful => settled_of_recorded hrecord ?_
        exact hstores hcareful _ _ _ rfl hnext
      · exact Stage.acking hrecord (recorded_of_upserted hanswer)
  | @acking i tag record hrecord hstored =>
      cases hprogram
      cases outcome with
      | completed => exact Stage.done _
      | _ => exact Stage.nacking fun _ => settled_of_recorded hrecord hstored
  | nacking hsettled =>
      cases hprogram
      exact Stage.done _
  | done result => cases hprogram
  | closing h =>
      subst hprogram
      exact Stage.closing (h.2 _)

theorem Staged.step (h : Staged traffic careful fleet) {action : Action ι ω}
    (hstores : careful → Stores fleet action) : Staged traffic careful (fleet.step traffic action) := by
  intro task program hrunning
  rcases tasks_step hrunning with
    hold | ⟨i, -, rfl, -, rfl⟩ | ⟨worker, rfl, rfl⟩ | ⟨op, next, outcome, rfl, hcall, rfl⟩
  · exact (h task program hold).mono (extends_step action)
  · exact stage_handling i _
  · exact Stage.closing (shutdown_onlyCalls worker)
  · rw [world_move hcall outcome]
    exact (h task _ hcall).answered hcall hstores

/-- Along a run whose steps all meet the condition, every task stays at one of the stages. -/
theorem Staged.run (h : Staged traffic careful fleet) {actions : List (Action ι ω)}
    (hstores : careful → Fleet.EveryStep traffic Stores fleet actions) :
    Staged traffic careful (fleet.run traffic actions) := by
  induction actions generalizing fleet with
  | nil => exact h
  | cons action rest ih => exact ih (h.step fun hcareful => (hstores hcareful).1) fun hcareful => (hstores hcareful).2

end Handling

/-! ### One message on its way -/

section Sample

@[reducible] def samplePlatform : Platform :=
  Platform.ofTable [] ["018f5b3e-9c1a-7c3e-8f3a-6b6b6b6b6b6b"]

attribute [local instance] samplePlatform

def sampleGenerated : Generated where
  id := ⟨"018f5b3e-9c1a-7c3e-8f3a-6b6b6b6b6b6b", by decide⟩
  correlationId := ⟨"018f5b3e-9c1a-7c3e-8f3a-6b6b6b6b6b6b", by decide, by decide⟩
  now := 0

def sampleMessage : Published where
  content := some (.obj [("eventId", .str "OrderService-1"),
    ("correlationId", .str "018f5b3e-9c1a-7c3e-8f3a-6b6b6b6b6b6b"), ("tenantId", .str "tenant-1"),
    ("eventType", .str "order.created"), ("payload", .obj [("orderId", .str "order-1")])])
  messageId := none

/-- One process, one message and one delivery of it. -/
def sampleTraffic : Traffic Unit Unit Unit where
  message _ := sampleMessage
  delivery _ := { worker := (), message := (), generated := sampleGenerated }

end Sample

end WebhookIdp.Inbox
