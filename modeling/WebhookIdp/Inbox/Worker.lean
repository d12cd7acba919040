import WebhookIdp.Inbox.Envelope

/-!
# The worker fleet and its queue

Worker processes take messages off one durable queue. Each delivery is handled by a program of its own, as
the adapter never awaits its handler, and a process that is told to stop runs its shutdown beside them. The
environment decides who moves next, how each call ends, when connections drop and when processes die. A
message that a lost connection held goes back to the queue; one that is acked, or nacked without requeue,
leaves it, as the queue is declared without a dead-letter exchange.

The broker numbers the deliveries of each channel from one on, and the wrapper that reconnects hands an ack or
a nack to the channel it has now. One that was due on the channel before may so settle another message, or find
none under its tag; the broker then closes the channel, which is a dropped connection like any other.
-/

namespace WebhookIdp.Inbox

open Concurrent (Program)

section Worker

variable [Platform]

/-! ### The programs of a process -/

/-- A message as a consumer receives it, under its number on the channel. -/
structure ConsumeMessage extends Published where
  deliveryTag : Nat

inductive Call (ω : Type) where
  | repository (call : RepositoryCall)
  | ack (worker : ω) (message : ConsumeMessage)
  | nack (worker : ω) (message : ConsumeMessage) (requeue : Bool)
  | closeChannel (worker : ω)
  | closeConnection (worker : ω)
  | closeApplication (worker : ω)
  | exit (worker : ω)

abbrev Call.Answer {ω : Type} : Call ω → Type
  | repository call => call.Answer
  | ack _ _ => Unit
  | nack _ _ _ => Unit
  | closeChannel _ => Unit
  | closeConnection _ => Unit
  | closeApplication _ => Unit
  | exit _ => Unit

variable {ι μ ω : Type}

abbrev Process (ω α : Type) := Program (Call ω) Call.Answer Exception α

def Process.request (op : Call ω) : Process ω op.Answer := Program.request op

open Process

namespace RabbitMqBrokerConsumerAdapter

def handleMessage (worker : ω) (message : Option ConsumeMessage) (handler : BrokerMessage → Process ω Unit) :
    Process ω Unit :=
  match message with
  | none => return ()
  | some message => do
      try
        let body ← (.done (parseContent message.content) : Process ω Json)
        handler { body, brokerMessageId := message.messageId }
        request (.ack worker message)
      catch _ =>
        request (.nack worker message false)

def disconnect (worker : ω) : Process ω Unit := do
  request (.closeChannel worker)
  request (.closeConnection worker)

end RabbitMqBrokerConsumerAdapter

def IngestionRuntimeService.stop (worker : ω) : Process ω Unit :=
  RabbitMqBrokerConsumerAdapter.disconnect worker

/-- What the process does on `SIGTERM` or `SIGINT`, once. -/
def shutdown (worker : ω) : Process ω Unit := do
  IngestionRuntimeService.stop worker
  request (.closeApplication worker)
  request (.exit worker)

/-! ### Messages and deliveries -/

/-- One delivery: the process and the message, and what handling it generates. -/
structure Delivery (μ ω : Type) where
  worker : ω
  message : μ
  generated : Generated

structure Traffic (ι μ ω : Type) where
  message : μ → Published
  delivery : ι → Delivery μ ω

namespace Traffic

variable (traffic : Traffic ι μ ω)

def published (i : ι) : Published := traffic.message (traffic.delivery i).message

def consumed (i : ι) (deliveryTag : Nat) : ConsumeMessage := { traffic.published i with deliveryTag }

/-- The program a delivery starts. -/
def handling (i : ι) (deliveryTag : Nat) : Process ω Unit :=
  let handler (message : BrokerMessage) :=
    (IngestionRuntimeService.handle message (traffic.delivery i).generated).embed .repository
  RabbitMqBrokerConsumerAdapter.handleMessage (traffic.delivery i).worker (some (traffic.consumed i deliveryTag)) handler

end Traffic

/-! ### The queue -/

inductive Holding (ω : Type) where
  | ready
  | unacked (worker : ω) (deliveryTag : Nat)
  | acked
  | discarded
  deriving DecidableEq

/-- The message is in the queue no more. -/
def Holding.HasLeft : Holding ω → Prop
  | ready => False
  | unacked _ _ => False
  | acked => True
  | discarded => True

structure World (μ ω : Type) where
  inbox : InboxCollection
  queue : μ → Holding ω
  channelOpen : ω → Bool
  /-- How many messages have been delivered on the channel a process has now. -/
  delivered : ω → Nat

variable [DecidableEq ω]

/-- The message is delivered under the next number of the channel. -/
def World.deliver [DecidableEq μ] (world : World μ ω) (worker : ω) (message : μ) : World μ ω :=
  { world with
    queue := Function.update world.queue message (.unacked worker (world.delivered worker + 1))
    delivered := Function.update world.delivered worker (world.delivered worker + 1) }

/-- What the broker has delivered on the channel under the tag, if it still waits for it, is settled. -/
def World.settle (world : World μ ω) (worker : ω) (deliveryTag : Nat) (holding : Holding ω) : World μ ω :=
  { world with queue := fun message =>
      if world.queue message = .unacked worker deliveryTag then holding else world.queue message }

/-- A call that settles a delivery throws when the channel is closed under it. -/
def settling (world : World μ ω) (worker : ω) (deliveryTag : Nat) (holding : Holding ω) :
    Outcome → Except Exception Unit × World μ ω
  | .completed => (.ok (), world.settle worker deliveryTag holding)
  | _ => (.error .channelClosed, world)

omit [Platform] in
@[simp] theorem inbox_settling (world : World μ ω) (worker : ω) (deliveryTag : Nat) (holding : Holding ω)
    (outcome : Outcome) : (settling world worker deliveryTag holding outcome).2.inbox = world.inbox := by
  cases outcome <;> rfl

/-- Everything a process holds unacked goes back to the queue, and its next channel counts from the beginning. -/
def World.requeue (world : World μ ω) (worker : ω) : World μ ω :=
  { world with
    queue := fun message =>
      match world.queue message with
      | .unacked holder deliveryTag => if holder = worker then .ready else .unacked holder deliveryTag
      | holding => holding
    delivered := Function.update world.delivered worker 0 }

def World.close (world : World μ ω) (worker : ω) : World μ ω :=
  { world.requeue worker with channelOpen := Function.update world.channelOpen worker false }

def perform : Concurrent.Interface (Call ω) Call.Answer Exception Outcome (World μ ω)
  | .repository call, outcome, world =>
      ((performRepository call outcome world.inbox).1,
        { world with inbox := (performRepository call outcome world.inbox).2 })
  | .ack worker message, outcome, world => settling world worker message.deliveryTag .acked outcome
  | .nack worker message requeue, outcome, world =>
      settling world worker message.deliveryTag (if requeue then .ready else .discarded) outcome
  | .closeChannel worker, _, world => (.ok (), world.close worker)
  | .closeConnection worker, _, world => (.ok (), world.close worker)
  | .closeApplication _, _, world => (.ok (), world)
  | .exit worker, _, world => (.ok (), world.close worker)

/-! ### The fleet -/

variable [DecidableEq ι] (traffic : Traffic ι μ ω)

/-- What runs in a process: the handler of a delivery or the shutdown. -/
inductive Task (ι ω : Type) where
  | handler (delivery : ι)
  | shutdown (worker : ω)
  deriving DecidableEq

inductive Status (ω : Type) where
  | idle
  | running (program : Process ω Unit)
  | killed

structure Fleet (ι μ ω : Type) where
  world : World μ ω
  tasks : Task ι ω → Status ω

/-- No message has been delivered, and the inbox holds what earlier runs have left. -/
def Fleet.start (inbox : InboxCollection) : Fleet ι μ ω where
  world := { inbox, queue := fun _ => .ready, channelOpen := fun _ => true, delivered := fun _ => 0 }
  tasks _ := .idle

def Task.worker : Task ι ω → ω
  | handler i => (traffic.delivery i).worker
  | shutdown worker => worker

def killTasks (worker : ω) (tasks : Task ι ω → Status ω) (task : Task ι ω) : Status ω :=
  if task.worker traffic = worker then .killed else tasks task

inductive Action (ι ω : Type) where
  | deliver (delivery : ι)
  | signal (worker : ω)
  | move (task : Task ι ω) (outcome : Outcome)
  | disconnect (worker : ω)
  | crash (worker : ω)

namespace Fleet

def nextCall (fleet : Fleet ι μ ω) (task : Task ι ω) : Option (Call ω) :=
  match fleet.tasks task with
  | .running (.call op _) => some op
  | _ => none

omit [DecidableEq ι] [DecidableEq ω] in
theorem nextCall_eq_some_iff {fleet : Fleet ι μ ω} {task : Task ι ω} {op : Call ω} :
    fleet.nextCall task = some op ↔ ∃ next, fleet.tasks task = .running (.call op next) := by
  unfold nextCall
  refine ⟨fun h => ?_, fun ⟨next, h⟩ => by rw [h]⟩
  split at h
  · cases h
    exact ⟨_, ‹_›⟩
  · cases h

variable [DecidableEq μ]

def deliver (fleet : Fleet ι μ ω) (i : ι) : Fleet ι μ ω :=
  match fleet.tasks (.handler i) with
  | .idle =>
      let delivery := traffic.delivery i
      if fleet.world.queue delivery.message = .ready ∧ fleet.world.channelOpen delivery.worker = true then
        { world := fleet.world.deliver delivery.worker delivery.message
          tasks := Function.update fleet.tasks (.handler i)
            (.running (traffic.handling i (fleet.world.delivered delivery.worker + 1))) }
      else fleet
  | _ => fleet

def signal (fleet : Fleet ι μ ω) (worker : ω) : Fleet ι μ ω :=
  match fleet.tasks (.shutdown worker) with
  | .idle => { fleet with tasks := Function.update fleet.tasks (.shutdown worker) (.running (Inbox.shutdown worker)) }
  | _ => fleet

/-- The tasks once a task has the answer to its call; after `process.exit` none of the process is left. -/
def answered (tasks : Task ι ω → Status ω) (task : Task ι ω) (op : Call ω) (rest : Process ω Unit) :
    Task ι ω → Status ω :=
  match op with
  | .exit worker => killTasks traffic worker (Function.update tasks task (.running rest))
  | _ => Function.update tasks task (.running rest)

def move (fleet : Fleet ι μ ω) (task : Task ι ω) (outcome : Outcome) : Fleet ι μ ω :=
  match fleet.tasks task with
  | .running (.call op next) =>
      { world := (perform op outcome fleet.world).2
        tasks := answered traffic fleet.tasks task op (next (perform op outcome fleet.world).1) }
  | _ => fleet

def step (fleet : Fleet ι μ ω) : Action ι ω → Fleet ι μ ω
  | .deliver i => fleet.deliver traffic i
  | .signal worker => fleet.signal worker
  | .move task outcome => fleet.move traffic task outcome
  | .disconnect worker => { fleet with world := fleet.world.requeue worker }
  | .crash worker =>
      { world := fleet.world.close worker, tasks := killTasks traffic worker fleet.tasks }

def run (fleet : Fleet ι μ ω) (actions : List (Action ι ω)) : Fleet ι μ ω :=
  actions.foldl (step traffic) fleet

/-- Every step along the actions satisfies `p`, in the state it is made in. -/
def EveryStep (p : Fleet ι μ ω → Action ι ω → Prop) (fleet : Fleet ι μ ω) : List (Action ι ω) → Prop
  | [] => True
  | action :: rest => p fleet action ∧ EveryStep p (fleet.step traffic action) rest

variable {traffic} {p q : Fleet ι μ ω → Action ι ω → Prop} {fleet : Fleet ι μ ω} {actions : List (Action ι ω)}

theorem EveryStep.imp (h : EveryStep traffic p fleet actions) (himp : ∀ fleet action, p fleet action → q fleet action) :
    EveryStep traffic q fleet actions := by
  induction actions generalizing fleet with
  | nil => trivial
  | cons action rest ih => exact ⟨himp fleet action h.1, ih h.2⟩

end Fleet

end Worker

end WebhookIdp.Inbox
