import WebhookIdp.Inbox.Handling

/-!
# Ack after persist

Whatever is delivered, redelivered, crashes or fails, a process that acks a message has the message's
record in the inbox before it does, and the record stays.
-/

namespace WebhookIdp.Inbox

section AckAfterPersist

variable [Platform] {ι μ ω : Type}

theorem Staged.recorded_of_ack {traffic : Traffic ι μ ω} {careful : Prop} {fleet : Fleet ι μ ω} {task : Task ι ω}
    {worker : ω} {message : ConsumeMessage} (h : Staged traffic careful fleet)
    (hack : fleet.nextCall task = some (.ack worker message)) :
    ∃ key, dedupKeyOf message.toPublished = .ok key ∧ Recorded fleet.world.inbox key.value := by
  obtain ⟨next, hrunning⟩ := Fleet.nextCall_eq_some_iff.mp hack
  obtain ⟨i, record, -, hpublished, hrecord, hstored⟩ := (h task _ hrunning).of_ack
  rw [hpublished]
  exact ⟨record.dedupKey, dedupKeyOf_of_recordOf hrecord, hstored⟩

variable [DecidableEq ι] [DecidableEq μ] [DecidableEq ω]

/-- In every run of any number of processes, a message about to be acked resolves to a dedup key, and a record
with that key is in the inbox already and in every later state. -/
theorem acked_message_recorded (traffic : Traffic ι μ ω) (inbox : InboxCollection) (before : List (Action ι ω))
    (task : Task ι ω) (worker : ω) (message : ConsumeMessage)
    (hack : ((Fleet.start inbox).run traffic before).nextCall task = some (.ack worker message)) :
    ∃ key doc, dedupKeyOf message.toPublished = .ok key ∧ doc.dedupKey = key.value ∧
      doc ∈ ((Fleet.start inbox).run traffic before).world.inbox.docs ∧
      ∀ after, doc ∈ ((Fleet.start inbox).run traffic (before ++ after)).world.inbox.docs := by
  have hstaged : Staged traffic False ((Fleet.start inbox).run traffic before) :=
    (staged_start inbox).run False.elim
  obtain ⟨key, hkey, doc, hdoc, hdocKey⟩ := hstaged.recorded_of_ack hack
  refine ⟨key, doc, hkey, hdocKey, hdoc, fun after => ?_⟩
  rw [Fleet.run, List.foldl_append]
  exact mem_of_extends (extends_run after) hdoc

end AckAfterPersist

section Sample

attribute [local instance] samplePlatform

/-- The message is delivered, and its upsert is answered. -/
theorem acked_message_recorded_sample :
    ∃ key doc, dedupKeyOf (sampleTraffic.consumed () 1).toPublished = .ok key ∧ doc.dedupKey = key.value ∧
      doc ∈ ((Fleet.start .empty).run sampleTraffic
        [.deliver (), .move (.handler ()) .completed]).world.inbox.docs ∧
      ∀ after, doc ∈ ((Fleet.start .empty).run sampleTraffic
        ([.deliver (), .move (.handler ()) .completed] ++ after)).world.inbox.docs :=
  acked_message_recorded sampleTraffic .empty [.deliver (), .move (.handler ()) .completed] (.handler ()) ()
    (sampleTraffic.consumed () 1) rfl

end Sample

end WebhookIdp.Inbox
