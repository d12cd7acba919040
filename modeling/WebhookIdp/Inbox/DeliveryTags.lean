import WebhookIdp.Inbox.Handling

/-!
# Which message an ack reaches

A channel numbers its deliveries, and the next channel begins again. An ack or a nack that is made on a later
channel than its message came on finds another message under its tag, or none. Where no connection drops while a
handler of its process has a call to make, every ack and every nack reaches its own message.
-/

namespace WebhookIdp.Inbox

open Concurrent (Program)

section DeliveryTags

variable [Platform] {ι μ ω : Type}

/-- The task is about to ack or nack what its process was delivered under the tag. -/
def Settles (fleet : Fleet ι μ ω) (task : Task ι ω) (worker : ω) (tag : Nat) : Prop :=
  ∃ message, message.deliveryTag = tag ∧
    (fleet.nextCall task = some (.ack worker message) ∨ ∃ requeue, fleet.nextCall task = some (.nack worker message requeue))

/-- The ack or nack that `action` makes, if any, reaches the message it is made for or none. -/
def SettlesOwn (traffic : Traffic ι μ ω) (fleet : Fleet ι μ ω) (action : Action ι ω) : Prop :=
  ∀ i outcome worker tag message, action = .move (.handler i) outcome → Settles fleet (.handler i) worker tag →
    fleet.world.queue message = .unacked worker tag → (traffic.delivery i).message = message

/-- The connection that `action` drops, if any, is that of a process whose handlers have no call to make. -/
def DropsIdle (traffic : Traffic ι μ ω) (fleet : Fleet ι μ ω) (action : Action ι ω) : Prop :=
  ∀ worker i, action = .disconnect worker → (traffic.delivery i).worker = worker → fleet.nextCall (.handler i) = none

variable {traffic : Traffic ι μ ω} {fleet : Fleet ι μ ω} {action : Action ι ω} {message : μ} {world : World μ ω}
  {worker : ω} {tag : Nat}

/-! ### What a handler was given -/

/-- What a handler that has not returned has left to do with its message. -/
inductive Carries (worker : ω) (message : ConsumeMessage) : Process ω Unit → Prop
  | persisting (record : InboxRecord) : Carries worker message (persisting worker message record)
  | acking : Carries worker message (acking worker message)
  | nacking : Carries worker message (nacking worker message)

variable {consumed : ConsumeMessage} {op : Call ω} {next : Except Exception op.Answer → Process ω Unit}

theorem carries_handling (traffic : Traffic ι μ ω) (i : ι) (tag : Nat) :
    Carries (traffic.delivery i).worker (traffic.consumed i tag) (traffic.handling i tag) := by
  rw [handling_eq]
  split
  · exact .nacking
  · exact .persisting _

theorem Carries.exists_call {program : Process ω Unit} (h : Carries worker consumed program) :
    ∃ op next, program = .call op next := by
  cases h <;> exact ⟨_, _, rfl⟩

theorem Carries.answered (h : Carries worker consumed (.call op next)) (answer : Except Exception op.Answer) :
    Carries worker consumed (next answer) ∨ ∃ result, next answer = .done result := by
  generalize hprogram : Program.call op next = program at h
  cases h with
  | persisting record =>
      cases hprogram
      cases answer with
      | ok result => exact Or.inl .acking
      | error exception => exact Or.inl .nacking
  | acking =>
      cases hprogram
      cases answer with
      | ok result => exact Or.inr ⟨_, rfl⟩
      | error exception => exact Or.inl .nacking
  | nacking =>
      cases hprogram
      exact Or.inr ⟨_, rfl⟩

theorem Carries.of_ack {message : ConsumeMessage} {holder : ω} {next : Except Exception Unit → Process ω Unit}
    (h : Carries worker consumed (.call (Call.ack holder message) next)) : holder = worker ∧ message = consumed := by
  generalize hprogram : (Program.call (Call.ack holder message) next : Process ω Unit) = program at h
  cases h <;> cases hprogram
  exact ⟨rfl, rfl⟩

theorem Carries.of_nack {message : ConsumeMessage} {holder : ω} {requeue : Bool}
    {next : Except Exception Unit → Process ω Unit}
    (h : Carries worker consumed (.call (Call.nack holder message requeue) next)) :
    holder = worker ∧ message = consumed := by
  generalize hprogram : (Program.call (Call.nack holder message requeue) next : Process ω Unit) = program at h
  cases h <;> cases hprogram
  exact ⟨rfl, rfl⟩

/-! ### Tags -/

/-- As long as the channel is open, it has got as far as the tag, and holds no other message under it. -/
def OwnTag (traffic : Traffic ι μ ω) (world : World μ ω) (i : ι) (tag : Nat) : Prop :=
  world.channelOpen (traffic.delivery i).worker = true → tag ≤ world.delivered (traffic.delivery i).worker ∧
    ∀ message, world.queue message = .unacked (traffic.delivery i).worker tag → (traffic.delivery i).message = message

/-- What is held was delivered on an open channel, and a handler with a call to make has a tag of its own. -/
structure Numbered (traffic : Traffic ι μ ω) (fleet : Fleet ι μ ω) : Prop where
  held : ∀ message worker tag, fleet.world.queue message = .unacked worker tag →
    fleet.world.channelOpen worker = true ∧ tag ≤ fleet.world.delivered worker
  carried : ∀ i op next, fleet.tasks (.handler i) = .running (.call op next) → ∃ tag,
    Carries (traffic.delivery i).worker (traffic.consumed i tag) (.call op next) ∧ OwnTag traffic fleet.world i tag

theorem numbered_start (inbox : InboxCollection) : Numbered traffic (Fleet.start inbox) := ⟨nofun, nofun⟩

/-- A tag stays its delivery's own where the channel goes on and nothing more is held on it. -/
theorem OwnTag.kept {i : ι} {after : World μ ω} (h : OwnTag traffic world i tag)
    (hchannel : after.channelOpen (traffic.delivery i).worker = true →
      world.channelOpen (traffic.delivery i).worker = true ∧
        after.delivered (traffic.delivery i).worker = world.delivered (traffic.delivery i).worker)
    (hqueue : ∀ message, after.queue message = .unacked (traffic.delivery i).worker tag →
      world.queue message = .unacked (traffic.delivery i).worker tag) : OwnTag traffic after i tag := by
  intro hopen
  obtain ⟨hbefore, hdelivered⟩ := hchannel hopen
  obtain ⟨hle, hown⟩ := h hbefore
  exact ⟨hdelivered ▸ hle, fun message hheld => hown message (hqueue message hheld)⟩

theorem Numbered.settlesOwn (h : Numbered traffic fleet) (action : Action ι ω) : SettlesOwn traffic fleet action := by
  rintro i outcome worker _ message - ⟨consumed, rfl, hack | ⟨requeue, hnack⟩⟩ hheld
  · obtain ⟨next, hrunning⟩ := Fleet.nextCall_eq_some_iff.mp hack
    obtain ⟨tag, hcarries, hown⟩ := h.carried i _ next hrunning
    obtain ⟨rfl, rfl⟩ := hcarries.of_ack
    exact (hown (h.held message _ _ hheld).1).2 message hheld
  · obtain ⟨next, hrunning⟩ := Fleet.nextCall_eq_some_iff.mp hnack
    obtain ⟨tag, hcarries, hown⟩ := h.carried i _ next hrunning
    obtain ⟨rfl, rfl⟩ := hcarries.of_nack
    exact (hown (h.held message _ _ hheld).1).2 message hheld

/-! ### What a step does to a message in the queue -/

/-- A step leaves a message where it is, puts it back, delivers it or settles it. -/
inductive QueueStepped (traffic : Traffic ι μ ω) (fleet : Fleet ι μ ω) (action : Action ι ω) (message : μ) :
    Holding ω → Prop
  | kept : QueueStepped traffic fleet action message (fleet.world.queue message)
  | requeued : QueueStepped traffic fleet action message .ready
  | delivered {i : ι} (tag : Nat) (hmessage : (traffic.delivery i).message = message) :
      QueueStepped traffic fleet action message (.unacked (traffic.delivery i).worker tag)
  | acked {task : Task ι ω} {outcome : Outcome} {worker : ω} {consumed : ConsumeMessage}
      (haction : action = .move task outcome) (hnext : fleet.nextCall task = some (.ack worker consumed))
      (hheld : fleet.world.queue message = .unacked worker consumed.deliveryTag) :
      QueueStepped traffic fleet action message .acked
  | discarded {task : Task ι ω} {outcome : Outcome} {worker : ω} {consumed : ConsumeMessage}
      (haction : action = .move task outcome) (hnext : fleet.nextCall task = some (.nack worker consumed false))
      (hheld : fleet.world.queue message = .unacked worker consumed.deliveryTag) :
      QueueStepped traffic fleet action message .discarded

variable [DecidableEq ω]

omit [Platform] in
theorem queue_deliver [DecidableEq μ] (world : World μ ω) (worker : ω) (delivered message : μ) :
    (message = delivered ∧
        (world.deliver worker delivered).queue message = .unacked worker (world.delivered worker + 1)) ∨
      (world.deliver worker delivered).queue message = world.queue message := by
  by_cases hmessage : message = delivered
  · subst hmessage
    exact Or.inl ⟨rfl, Function.update_self ..⟩
  · exact Or.inr (Function.update_of_ne hmessage ..)

omit [Platform] in
theorem queue_settling (world : World μ ω) (worker : ω) (tag : Nat) (holding : Holding ω) (outcome : Outcome)
    (message : μ) : (settling world worker tag holding outcome).2.queue message = world.queue message ∨
      (world.queue message = .unacked worker tag ∧
        (settling world worker tag holding outcome).2.queue message = holding) := by
  cases outcome with
  | completed =>
      show (if world.queue message = .unacked worker tag then holding else world.queue message) = world.queue message ∨
        (world.queue message = .unacked worker tag ∧
          (if world.queue message = .unacked worker tag then holding else world.queue message) = holding)
      by_cases hheld : world.queue message = .unacked worker tag
      · exact Or.inr ⟨hheld, if_pos hheld⟩
      · exact Or.inl (if_neg hheld)
  | _ => exact Or.inl rfl

omit [Platform] in
theorem queue_requeue (world : World μ ω) (worker : ω) (message : μ) :
    (world.requeue worker).queue message = world.queue message ∨ (world.requeue worker).queue message = .ready := by
  rw [World.requeue]
  dsimp only
  split
  · rename_i holder tag hholder
    split
    · exact Or.inr rfl
    · exact Or.inl hholder.symm
  · exact Or.inl rfl

/-! ### What a call leaves of the queue -/

omit [Platform] in
theorem of_queue_requeue {holder : ω} (h : (world.requeue holder).queue message = .unacked worker tag) :
    world.queue message = .unacked worker tag ∧ worker ≠ holder := by
  unfold World.requeue at h
  dsimp only at h
  split at h
  · split at h
    · cases h
    · rename_i hheld hworker
      cases h
      exact ⟨hheld, hworker⟩
  · rename_i hnone
    exact absurd h (hnone worker tag)

omit [Platform] in
theorem of_queue_settling {holder : ω} {settled : Nat} {holding : Holding ω} {outcome : Outcome}
    (hholding : ∀ worker tag, holding ≠ .unacked worker tag)
    (h : (settling world holder settled holding outcome).2.queue message = .unacked worker tag) :
    world.queue message = .unacked worker tag := by
  rcases queue_settling world holder settled holding outcome message with hsame | ⟨-, hsettled⟩
  · exact hsame.symm.trans h
  · exact absurd (hsettled.symm.trans h) (hholding worker tag)

theorem of_queue_perform {outcome : Outcome}
    (h : (perform op outcome world).2.queue message = .unacked worker tag) :
    world.queue message = .unacked worker tag ∧
      (perform op outcome world).2.channelOpen worker = world.channelOpen worker ∧
      (perform op outcome world).2.delivered worker = world.delivered worker := by
  have hclose {holder : ω} (h : (world.close holder).queue message = .unacked worker tag) :
      world.queue message = .unacked worker tag ∧ (world.close holder).channelOpen worker = world.channelOpen worker ∧
        (world.close holder).delivered worker = world.delivered worker := by
    obtain ⟨hheld, hne⟩ := of_queue_requeue h
    exact ⟨hheld, Function.update_of_ne hne .., Function.update_of_ne hne ..⟩
  cases op with
  | repository call => exact ⟨h, rfl, rfl⟩
  | ack holder consumed =>
      have hholding (worker : ω) (tag : Nat) : (Holding.acked : Holding ω) ≠ .unacked worker tag := nofun
      exact ⟨of_queue_settling hholding h, by cases outcome <;> rfl, by cases outcome <;> rfl⟩
  | nack holder consumed requeue =>
      have hholding (worker : ω) (tag : Nat) :
          (if requeue then Holding.ready else .discarded : Holding ω) ≠ .unacked worker tag := by
        cases requeue <;> exact nofun
      exact ⟨of_queue_settling hholding h, by cases outcome <;> rfl, by cases outcome <;> rfl⟩
  | closeChannel holder => exact hclose h
  | closeConnection holder => exact hclose h
  | closeApplication holder => exact ⟨h, rfl, rfl⟩
  | exit holder => exact hclose h

omit [Platform] in
theorem delivered_deliver_self [DecidableEq μ] (world : World μ ω) (worker : ω) (message : μ) :
    (world.deliver worker message).delivered worker = world.delivered worker + 1 :=
  Function.update_self ..

omit [Platform] in
theorem le_delivered_deliver [DecidableEq μ] (world : World μ ω) (holder : ω) (message : μ) (worker : ω) :
    world.delivered worker ≤ (world.deliver holder message).delivered worker := by
  by_cases hworker : worker = holder
  · subst hworker
    rw [delivered_deliver_self]
    exact Nat.le_succ _
  · exact (Function.update_of_ne hworker ..).ge

theorem of_channelOpen_perform {outcome : Outcome} (h : (perform op outcome world).2.channelOpen worker = true) :
    world.channelOpen worker = true ∧ (perform op outcome world).2.delivered worker = world.delivered worker := by
  have hclose {holder : ω} (h : (world.close holder).channelOpen worker = true) :
      world.channelOpen worker = true ∧ (world.close holder).delivered worker = world.delivered worker := by
    by_cases hne : worker = holder
    · subst hne
      exact absurd ((Function.update_self ..).symm.trans h) Bool.false_ne_true
    · exact ⟨(Function.update_of_ne hne ..).symm.trans h, Function.update_of_ne hne ..⟩
  cases op with
  | repository call => exact ⟨h, rfl⟩
  | ack holder consumed => cases outcome <;> exact ⟨h, rfl⟩
  | nack holder consumed requeue => cases outcome <;> exact ⟨h, rfl⟩
  | closeChannel holder => exact hclose h
  | closeConnection holder => exact hclose h
  | closeApplication holder => exact ⟨h, rfl⟩
  | exit holder => exact hclose h

variable [DecidableEq ι]

theorem queue_step [DecidableEq μ] (traffic : Traffic ι μ ω) (fleet : Fleet ι μ ω) (action : Action ι ω) (message : μ) :
    QueueStepped traffic fleet action message ((fleet.step traffic action).world.queue message) := by
  have hkept {holding : Holding ω} (h : holding = fleet.world.queue message) :
      QueueStepped traffic fleet action message holding := h ▸ .kept
  have hrequeue (worker : ω) :
      QueueStepped traffic fleet action message ((fleet.world.requeue worker).queue message) := by
    rcases queue_requeue fleet.world worker message with hsame | hready
    · exact hkept hsame
    · exact hready ▸ .requeued
  have hstep := stepped traffic fleet action
  generalize fleet.step traffic action = result at hstep
  cases hstep with
  | skipped _ => exact .kept
  | @delivered i _ _ _ =>
      rcases queue_deliver fleet.world (traffic.delivery i).worker (traffic.delivery i).message message with
        ⟨hmessage, hunacked⟩ | hsame
      · exact hunacked ▸ .delivered _ hmessage.symm
      · exact hkept hsame
  | signalled _ => exact .kept
  | @moved task op next outcome hrunning =>
      have hnext := Fleet.nextCall_eq_some_iff.mpr ⟨next, hrunning⟩
      cases op with
      | repository call => exact .kept
      | ack worker consumed =>
          rcases queue_settling fleet.world worker consumed.deliveryTag .acked outcome message with
            hsame | ⟨hheld, hacked⟩
          · exact hkept hsame
          · exact hacked ▸ .acked rfl hnext hheld
      | nack worker consumed requeue =>
          rcases queue_settling fleet.world worker consumed.deliveryTag (if requeue then .ready else .discarded) outcome
            message with hsame | ⟨hheld, hnacked⟩
          · exact hkept hsame
          · cases requeue with
            | true => exact hnacked ▸ .requeued
            | false => exact hnacked ▸ .discarded rfl hnext hheld
      | closeChannel worker => exact hrequeue worker
      | closeConnection worker => exact hrequeue worker
      | closeApplication worker => exact .kept
      | exit worker => exact hrequeue worker
  | disconnected worker => exact hrequeue worker
  | crashed worker => exact hrequeue worker

/-! ### Where connections drop idle -/

variable [DecidableEq μ]

theorem Numbered.held_step (h : Numbered traffic fleet) (action : Action ι ω)
    (hheld : (fleet.step traffic action).world.queue message = .unacked worker tag) :
    (fleet.step traffic action).world.channelOpen worker = true ∧
      tag ≤ (fleet.step traffic action).world.delivered worker := by
  have hstep := stepped traffic fleet action
  generalize fleet.step traffic action = result at hstep hheld ⊢
  cases hstep with
  | skipped _ => exact h.held message worker tag hheld
  | @delivered i _ _ hopen =>
      have hmono := le_delivered_deliver fleet.world (traffic.delivery i).worker (traffic.delivery i).message worker
      rcases queue_deliver fleet.world (traffic.delivery i).worker (traffic.delivery i).message message with
        ⟨-, hunacked⟩ | hsame
      · cases hunacked.symm.trans hheld
        exact ⟨hopen, (delivered_deliver_self ..).ge⟩
      · obtain ⟨hchannel, hle⟩ := h.held message worker tag (hsame.symm.trans hheld)
        exact ⟨hchannel, hle.trans hmono⟩
  | signalled _ => exact h.held message worker tag hheld
  | moved outcome hrunning =>
      obtain ⟨hbefore, hchannel, hdelivered⟩ := of_queue_perform hheld
      rw [hchannel, hdelivered]
      exact h.held message worker tag hbefore
  | disconnected holder =>
      obtain ⟨hbefore, hne⟩ := of_queue_requeue hheld
      obtain ⟨hchannel, hle⟩ := h.held message worker tag hbefore
      exact ⟨hchannel, hle.trans (Function.update_of_ne hne ..).ge⟩
  | crashed holder =>
      obtain ⟨hbefore, hne⟩ := of_queue_requeue hheld
      obtain ⟨hchannel, hle⟩ := h.held message worker tag hbefore
      exact ⟨(Function.update_of_ne hne ..).trans hchannel, hle.trans (Function.update_of_ne hne ..).ge⟩

theorem OwnTag.step {i : ι} (hown : OwnTag traffic fleet.world i tag) (hdrops : DropsIdle traffic fleet action)
    (hnext : fleet.nextCall (.handler i) ≠ none) : OwnTag traffic (fleet.step traffic action).world i tag := by
  have hclose {holder : ω} : OwnTag traffic (fleet.world.close holder) i tag := by
    refine hown.kept (fun hopen => ?_) fun message hheld => (of_queue_requeue hheld).1
    by_cases hne : (traffic.delivery i).worker = holder
    · subst hne
      exact absurd ((Function.update_self ..).symm.trans hopen) Bool.false_ne_true
    · exact ⟨(Function.update_of_ne hne ..).symm.trans hopen, Function.update_of_ne hne ..⟩
  have hstep := stepped traffic fleet action
  generalize fleet.step traffic action = result at hstep
  cases hstep with
  | skipped _ => exact hown
  | @delivered j _ _ hopen =>
      intro hchannel
      obtain ⟨hle, hmessages⟩ := hown hchannel
      refine ⟨hle.trans (le_delivered_deliver ..), fun message hheld => ?_⟩
      rcases queue_deliver fleet.world (traffic.delivery j).worker (traffic.delivery j).message message with
        ⟨-, hunacked⟩ | hsame
      · -- the new delivery has the next number of its channel
        obtain ⟨hworker, htag⟩ := Holding.unacked.inj (hunacked.symm.trans hheld)
        rw [hworker] at htag
        omega
      · exact hmessages message (hsame.symm.trans hheld)
  | signalled _ => exact hown
  | moved outcome hrunning =>
      exact hown.kept of_channelOpen_perform fun message hheld => (of_queue_perform hheld).1
  | disconnected holder =>
      have hne : (traffic.delivery i).worker ≠ holder := fun hworker => hnext (hdrops holder i rfl hworker)
      exact hown.kept (fun hopen => ⟨hopen, Function.update_of_ne hne ..⟩) fun message hheld => (of_queue_requeue hheld).1
  | crashed holder => exact hclose

omit [DecidableEq ι] in
theorem Numbered.ownTag_deliver (h : Numbered traffic fleet) (i : ι) :
    OwnTag traffic (fleet.world.deliver (traffic.delivery i).worker (traffic.delivery i).message) i
      (fleet.world.delivered (traffic.delivery i).worker + 1) := by
  refine fun _ => ⟨(delivered_deliver_self ..).ge, fun message hheld => ?_⟩
  rcases queue_deliver fleet.world (traffic.delivery i).worker (traffic.delivery i).message message with
    ⟨hmessage, -⟩ | hsame
  · exact hmessage.symm
  · have hle := (h.held message _ _ (hsame.symm.trans hheld)).2
    omega

theorem Numbered.step (h : Numbered traffic fleet) (hdrops : DropsIdle traffic fleet action) :
    Numbered traffic (fleet.step traffic action) := by
  refine ⟨fun message worker tag hheld => h.held_step action hheld, fun i op next hrunning => ?_⟩
  have hcalls {op : Call ω} {next : Except Exception op.Answer → Process ω Unit}
      (hcall : fleet.tasks (.handler i) = .running (.call op next)) : fleet.nextCall (.handler i) ≠ none := by
    rw [Fleet.nextCall_eq_some_iff.mpr ⟨next, hcall⟩]
    exact nofun
  rcases tasks_step hrunning with
    hold | ⟨j, rfl, htask, hworld, hprogram⟩ | ⟨_, htask, -⟩ | ⟨op', next', outcome, rfl, hcall, hprogram⟩
  · obtain ⟨tag, hcarries, hown⟩ := h.carried i op next hold
    exact ⟨tag, hcarries, hown.step hdrops (hcalls hold)⟩
  · cases htask
    rw [hprogram, hworld]
    exact ⟨_, carries_handling traffic i _, h.ownTag_deliver i⟩
  · cases htask
  · obtain ⟨tag, hcarries, hown⟩ := h.carried i op' next' hcall
    refine ⟨tag, ?_, hown.step hdrops (hcalls hcall)⟩
    rcases hcarries.answered (perform op' outcome fleet.world).1 with hkept | ⟨result, hdone⟩
    · exact hprogram ▸ hkept
    · rw [hdone] at hprogram
      cases hprogram

/-- Where every connection drops idle, every ack and nack reaches its own message or none. -/
theorem Numbered.everyStep_settlesOwn (h : Numbered traffic fleet) {actions : List (Action ι ω)}
    (hdrops : Fleet.EveryStep traffic (DropsIdle traffic) fleet actions) :
    Fleet.EveryStep traffic (SettlesOwn traffic) fleet actions := by
  induction actions generalizing fleet with
  | nil => trivial
  | cons action rest ih => exact ⟨h.settlesOwn action, ih (h.step hdrops.1) hdrops.2⟩

end DeliveryTags

end WebhookIdp.Inbox
