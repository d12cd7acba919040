import WebhookIdp.Inbox.DeliveryTags

/-!
# Who holds a message

A message the broker waits for is with a process whose channel is open and whose handler of it still has a call to
make, however the processes are told to stop, killed or cut off. So no message is stranded: where nothing is left to
do, every message is in the queue or has left it.
-/

namespace WebhookIdp.Inbox

open Concurrent (Program)

section Custody

variable [Platform] {ι μ ω : Type}

/-- An ack or nack that `action` makes throws only if the channel is closed under it. -/
def Answers (fleet : Fleet ι μ ω) (action : Action ι ω) : Prop :=
  ∀ task outcome worker tag, action = .move task outcome → Settles fleet task worker tag →
    fleet.world.channelOpen worker = true → outcome = .completed

/-- The delivery is of the message to the process, whose channel is open, and its handler has a call to make. -/
structure Holds (traffic : Traffic ι μ ω) (fleet : Fleet ι μ ω) (message : μ) (worker : ω) (i : ι) : Prop where
  message : (traffic.delivery i).message = message
  process : (traffic.delivery i).worker = worker
  channelOpen : fleet.world.channelOpen worker = true
  calling : ∃ op, fleet.nextCall (.handler i) = some op

/-- The handler that holds a message has it under the tag the broker waits for. -/
structure HoldsUnder (traffic : Traffic ι μ ω) (fleet : Fleet ι μ ω) (message : μ) (worker : ω) (tag : Nat) (i : ι) :
    Prop where
  message : (traffic.delivery i).message = message
  process : (traffic.delivery i).worker = worker
  channelOpen : fleet.world.channelOpen worker = true
  carries : ∃ program, fleet.tasks (.handler i) = .running program ∧ Carries worker (traffic.consumed i tag) program

/-- Every message the broker waits for is held. -/
def Custody (traffic : Traffic ι μ ω) (fleet : Fleet ι μ ω) : Prop :=
  ∀ message worker tag, fleet.world.queue message = .unacked worker tag →
    ∃ i, HoldsUnder traffic fleet message worker tag i

variable {traffic : Traffic ι μ ω} {fleet after : Fleet ι μ ω} {message : μ} {worker : ω} {tag : Nat} {i : ι}

theorem custody_start (inbox : InboxCollection) : Custody traffic (Fleet.start inbox) := nofun

theorem HoldsUnder.holds (h : HoldsUnder traffic fleet message worker tag i) : Holds traffic fleet message worker i := by
  obtain ⟨program, hrunning, hcarries⟩ := h.carries
  obtain ⟨op, next, rfl⟩ := hcarries.exists_call
  exact ⟨h.message, h.process, h.channelOpen, op, Fleet.nextCall_eq_some_iff.mpr ⟨next, hrunning⟩⟩

theorem HoldsUnder.kept (h : HoldsUnder traffic fleet message worker tag i)
    (hchannel : after.world.channelOpen worker = fleet.world.channelOpen worker)
    (htask : after.tasks (.handler i) = fleet.tasks (.handler i)) : HoldsUnder traffic after message worker tag i :=
  ⟨h.message, h.process, hchannel.trans h.channelOpen, htask ▸ h.carries⟩

variable [DecidableEq ω]

omit [Platform] in
theorem not_held_of_settled {world : World μ ω} {holding : Holding ω}
    (hholding : ∀ worker tag, holding ≠ .unacked worker tag) :
    (world.settle worker tag holding).queue message ≠ .unacked worker tag := by
  intro hheld
  unfold World.settle at hheld
  dsimp only at hheld
  split at hheld
  · exact hholding worker tag hheld
  · exact absurd hheld ‹_›

variable [DecidableEq ι]

/-! ### One call -/

/-- The handler that holds a message has moved, and the broker still waits for the message. -/
theorem HoldsUnder.moved (h : HoldsUnder traffic fleet message worker tag i) {op : Call ω}
    {next : Except Exception op.Answer → Process ω Unit} {outcome : Outcome}
    (hrunning : fleet.tasks (.handler i) = .running (.call op next))
    (hanswers : Answers fleet (.move (.handler i) outcome))
    (hheld : (perform op outcome fleet.world).2.queue message = .unacked worker tag) :
    HoldsUnder traffic {
      world := (perform op outcome fleet.world).2
      tasks := Function.update fleet.tasks (.handler i) (.running (next (perform op outcome fleet.world).1)) }
      message worker tag i := by
  obtain ⟨-, hchannel, -⟩ := of_queue_perform hheld
  refine ⟨h.message, h.process, hchannel.trans h.channelOpen, _, Function.update_self .., ?_⟩
  obtain ⟨program, hprogram, hcarries⟩ := h.carries
  rw [hrunning] at hprogram
  cases hprogram
  have hsettles (hnext : Settles fleet (.handler i) worker tag) : outcome = .completed :=
    hanswers (.handler i) outcome worker tag rfl hnext h.channelOpen
  have hnext := Fleet.nextCall_eq_some_iff.mpr ⟨next, hrunning⟩
  generalize hcall : Program.call op next = call at hcarries
  cases hcarries with
  | persisting record =>
      cases hcall
      dsimp only
      split
      · exact .acking
      · exact .nacking
  | acking =>
      cases hcall
      cases hsettles ⟨_, rfl, Or.inl hnext⟩
      exact absurd hheld (not_held_of_settled nofun)
  | nacking =>
      cases hcall
      cases hsettles ⟨_, rfl, Or.inr ⟨false, hnext⟩⟩
      exact absurd hheld (not_held_of_settled nofun)

omit [DecidableEq ι] in
theorem ne_of_queue_exit {holder : ω} {outcome : Outcome}
    (hheld : (perform (.exit holder) outcome fleet.world).2.queue message = .unacked worker tag) : worker ≠ holder :=
  (of_queue_requeue hheld).2

theorem Custody.held_move [DecidableEq μ] (h : Custody traffic fleet) {task : Task ι ω} {op : Call ω}
    {next : Except Exception op.Answer → Process ω Unit} {outcome : Outcome}
    (hrunning : fleet.tasks task = .running (.call op next)) (hanswers : Answers fleet (.move task outcome))
    (hheld : (perform op outcome fleet.world).2.queue message = .unacked worker tag) :
    ∃ i, HoldsUnder traffic {
      world := (perform op outcome fleet.world).2
      tasks := Fleet.answered traffic fleet.tasks task op (next (perform op outcome fleet.world).1) }
      message worker tag i := by
  obtain ⟨hbefore, hchannel, -⟩ := of_queue_perform hheld
  obtain ⟨i, hholds⟩ := h message worker tag hbefore
  refine ⟨i, ?_⟩
  have hanswered : Fleet.answered traffic fleet.tasks task op (next (perform op outcome fleet.world).1) (.handler i) =
      Function.update fleet.tasks task (.running (next (perform op outcome fleet.world).1)) (.handler i) := by
    cases op with
    | exit holder =>
        have hne : (Task.handler i : Task ι ω).worker traffic ≠ holder := by
          show (traffic.delivery i).worker ≠ holder
          rw [hholds.process]
          exact ne_of_queue_exit hheld
        exact if_neg hne
    | _ => rfl
  by_cases htask : task = .handler i
  · subst htask
    exact (hholds.moved hrunning hanswers hheld).kept rfl hanswered
  · exact hholds.kept hchannel (hanswered.trans (Function.update_of_ne (Ne.symm htask) ..))

theorem Custody.step [DecidableEq μ] (h : Custody traffic fleet) {action : Action ι ω}
    (hanswers : Answers fleet action) : Custody traffic (fleet.step traffic action) := by
  intro message worker tag hheld
  have hstep := stepped traffic fleet action
  generalize fleet.step traffic action = result at hstep hheld
  cases hstep with
  | skipped _ => exact h message worker tag hheld
  | @delivered j hidle _ hopen =>
      rcases queue_deliver fleet.world (traffic.delivery j).worker (traffic.delivery j).message message with
        ⟨hmessage, hunacked⟩ | hsame
      · obtain ⟨rfl, rfl⟩ := Holding.unacked.inj (hunacked.symm.trans hheld)
        exact ⟨j, hmessage.symm, rfl, hopen, _, Function.update_self .., carries_handling traffic j _⟩
      · obtain ⟨i, hholds⟩ := h message worker tag (hsame.symm.trans hheld)
        have hother : i ≠ j := by
          rintro rfl
          obtain ⟨program, hrunning, -⟩ := hholds.carries
          rw [hidle] at hrunning
          cases hrunning
        exact ⟨i, hholds.kept rfl (Function.update_of_ne (by simpa using hother) ..)⟩
  | signalled _ =>
      obtain ⟨i, hholds⟩ := h message worker tag hheld
      exact ⟨i, hholds.kept rfl (by simp)⟩
  | moved outcome hrunning => exact h.held_move hrunning hanswers hheld
  | disconnected holder =>
      obtain ⟨i, hholds⟩ := h message worker tag (of_queue_requeue hheld).1
      exact ⟨i, hholds.kept rfl rfl⟩
  | crashed holder =>
      obtain ⟨hbefore, hne⟩ := of_queue_requeue hheld
      obtain ⟨i, hholds⟩ := h message worker tag hbefore
      have halive : (Task.handler i : Task ι ω).worker traffic ≠ holder := by
        show (traffic.delivery i).worker ≠ holder
        rw [hholds.process]
        exact hne
      exact ⟨i, hholds.kept (Function.update_of_ne hne ..) (if_neg halive)⟩

theorem Custody.run [DecidableEq μ] (h : Custody traffic fleet) {actions : List (Action ι ω)}
    (hanswers : Fleet.EveryStep traffic Answers fleet actions) : Custody traffic (fleet.run traffic actions) := by
  induction actions generalizing fleet with
  | nil => exact h
  | cons action rest ih => exact ih (h.step hanswers.1) hanswers.2

/-- In every run whose acks and nacks throw only on a closed channel, every message the broker waits for is held, and
once no task has a call left to make, every message is in the queue or has left it. -/
theorem no_message_stranded [DecidableEq μ] (traffic : Traffic ι μ ω) (inbox : InboxCollection)
    (actions : List (Action ι ω)) (hanswers : Fleet.EveryStep traffic Answers (Fleet.start inbox) actions) :
    (∀ message worker tag, ((Fleet.start inbox).run traffic actions).world.queue message = .unacked worker tag →
      ∃ i, Holds traffic ((Fleet.start inbox).run traffic actions) message worker i) ∧
    ((∀ task, ((Fleet.start inbox).run traffic actions).nextCall task = none) →
      ∀ message, ((Fleet.start inbox).run traffic actions).world.queue message = .ready ∨
        (((Fleet.start inbox).run traffic actions).world.queue message).HasLeft) := by
  have hcustody : Custody traffic ((Fleet.start inbox).run traffic actions) := (custody_start inbox).run hanswers
  refine ⟨fun message worker tag hheld => ?_, fun hquiet message => ?_⟩
  · obtain ⟨i, hholds⟩ := hcustody message worker tag hheld
    exact ⟨i, hholds.holds⟩
  · cases hholding : ((Fleet.start inbox).run traffic actions).world.queue message with
    | ready => exact Or.inl rfl
    | unacked worker tag =>
        obtain ⟨i, hholds⟩ := hcustody message worker tag hholding
        obtain ⟨op, hcalling⟩ := hholds.holds.calling
        rw [hquiet] at hcalling
        cases hcalling
    | acked => exact Or.inr trivial
    | discarded => exact Or.inr trivial

end Custody

section Sample

attribute [local instance] samplePlatform

/-- The message is delivered and persisted, and its process dies before the ack. -/
theorem no_message_stranded_sample :
    ((Fleet.start .empty).run sampleTraffic
      [.deliver (), .move (.handler ()) .completed, .crash ()]).world.queue () = .ready ∨
    (((Fleet.start .empty).run sampleTraffic
      [.deliver (), .move (.handler ()) .completed, .crash ()]).world.queue ()).HasLeft := by
  refine (no_message_stranded sampleTraffic .empty
    [.deliver (), .move (.handler ()) .completed, .crash ()] ⟨nofun, ?_, nofun, trivial⟩).2 ?_ ()
  · intro task outcome worker tag haction hsettles
    cases haction
    obtain ⟨_, -, hack | ⟨_, hnack⟩⟩ := hsettles
    · cases hack
    · cases hnack
  · intro task
    cases task <;> rfl

end Sample

end WebhookIdp.Inbox
