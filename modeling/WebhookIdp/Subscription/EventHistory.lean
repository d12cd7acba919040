import WebhookIdp.Base.EventLog
import WebhookIdp.Subscription.Sequential

/-!
# The events published about a subscription

The events of a subscription are its history. `next` is the life cycle they tell: what the status is after
an event, where the event can happen at all. The log of a run of requests, handled one after the other,
replays to the status that is stored, although no request reads it: an aggregate read back from its
document starts with no event recorded, and the events of a request are published after its save.
-/

namespace WebhookIdp.Subscription

open EventLog (replay eventsAbout Extends)

section History

/-- The status after an event; nothing where the event cannot happen in the status before. -/
def DomainEvent.next : Option SubscriptionStatus → DomainEvent → Option SubscriptionStatus
  | none, .SubscriptionCreated _ _ => some .ACTIVE
  | some .ACTIVE, .SubscriptionPaused _ _ => some .PAUSED
  | some .PAUSED, .SubscriptionResumed _ _ => some .ACTIVE
  | some .ACTIVE, .SubscriptionDeleted _ _ => some .DELETED
  | some .PAUSED, .SubscriptionDeleted _ _ => some .DELETED
  | _, _ => none

/-- `clock.now()` at the transition. -/
def DomainEvent.occurredAt : DomainEvent → Date
  | .SubscriptionCreated _ occurredAt => occurredAt
  | .SubscriptionPaused _ occurredAt => occurredAt
  | .SubscriptionResumed _ occurredAt => occurredAt
  | .SubscriptionDeleted _ occurredAt => occurredAt

/-- The events of one subscription. -/
abbrev history (id : String) (events : List DomainEvent) : List DomainEvent :=
  eventsAbout DomainEvent.aggregateId id events

/-- Pauses and resumptions in turn; the next one is a pause if the subscription is active. -/
def Alternating : (active : Bool) → List DomainEvent → Prop
  | _, [] => True
  | true, .SubscriptionPaused _ _ :: rest => Alternating false rest
  | false, .SubscriptionResumed _ _ :: rest => Alternating true rest
  | _, _ :: _ => False

/-- One creation, then pauses and resumptions in turn, then at most one deletion and nothing after it. -/
def InOrder (events : List DomainEvent) : Prop :=
  ∃ id createdAt middle last, events = .SubscriptionCreated id createdAt :: middle ++ last ∧
    Alternating true middle ∧ (last = [] ∨ ∃ id deletedAt, last = [.SubscriptionDeleted id deletedAt])

variable {status : SubscriptionStatus} {events : List DomainEvent} {state : Option SubscriptionStatus}

theorem eq_nil_of_replay_deleted (h : replay DomainEvent.next (some .DELETED) events = some state) :
    events = [] := by
  cases events with
  | nil => rfl
  | cons event events =>
      rw [EventLog.replay_cons] at h
      cases event <;> cases h

theorem alternating_of_replay (active : Bool)
    (h : replay DomainEvent.next (some (if active then .ACTIVE else .PAUSED)) events = some state) :
    ∃ middle last, events = middle ++ last ∧ Alternating active middle ∧
      (last = [] ∨ ∃ id deletedAt, last = [.SubscriptionDeleted id deletedAt]) := by
  induction events generalizing active with
  | nil => exact ⟨[], [], rfl, by cases active <;> trivial, Or.inl rfl⟩
  | cons event events ih =>
      rw [EventLog.replay_cons] at h
      have hdeleted : replay DomainEvent.next (some .DELETED) events = some state →
          ∀ id deletedAt, event = .SubscriptionDeleted id deletedAt →
          ∃ middle last, event :: events = middle ++ last ∧ Alternating active middle ∧
            (last = [] ∨ ∃ id deletedAt, last = [.SubscriptionDeleted id deletedAt]) := by
        intro hrest id deletedAt hevent
        subst hevent
        rw [eq_nil_of_replay_deleted hrest]
        exact ⟨[], _, rfl, by cases active <;> trivial, Or.inr ⟨id, deletedAt, rfl⟩⟩
      cases active with
      | true =>
          cases event with
          | SubscriptionPaused id pausedAt =>
              obtain ⟨middle, last, rfl, hmiddle, hlast⟩ := ih false h
              exact ⟨.SubscriptionPaused id pausedAt :: middle, last, rfl, hmiddle, hlast⟩
          | SubscriptionDeleted id deletedAt => exact hdeleted h id deletedAt rfl
          | _ => cases h
      | false =>
          cases event with
          | SubscriptionResumed id resumedAt =>
              obtain ⟨middle, last, rfl, hmiddle, hlast⟩ := ih true h
              exact ⟨.SubscriptionResumed id resumedAt :: middle, last, rfl, hmiddle, hlast⟩
          | SubscriptionDeleted id deletedAt => exact hdeleted h id deletedAt rfl
          | _ => cases h

theorem inOrder_of_replay (h : replay DomainEvent.next none events = some (some status)) : InOrder events := by
  cases events with
  | nil => cases h
  | cons event events =>
      rw [EventLog.replay_cons] at h
      cases event with
      | SubscriptionCreated id createdAt =>
          obtain ⟨middle, last, rfl, hmiddle, hlast⟩ := alternating_of_replay true h
          exact ⟨id, createdAt, middle, last, rfl, hmiddle, hlast⟩
      | _ => cases h

end History

section Runs

variable [Platform]

/-! ### What one request publishes -/

/-- The stored status of every subscription, and what was published. -/
def World.log (world : World) : EventLog.Log String SubscriptionStatus DomainEvent where
  state id := (world.stored id).map fun record => record.status
  events := world.published

theorem log_state (world : World) (id : String) :
    world.log.state id = (world.stored id).map fun record => record.status := rfl

theorem CreateSubscriptionInput.updatedAt_of_create {input : CreateSubscriptionInput} {tenantId : TenantId}
    {targetUrl : TargetUrl} {id : SubscriptionId} {now : Date} {result : WebhookSubscription}
    (h : input.create tenantId targetUrl id now = .ok result) : result.updatedAt = now := by
  obtain ⟨_, -, hrest⟩ := Throwing.bind_eq_ok_iff.mp h
  obtain ⟨_, -, hrest⟩ := Throwing.bind_eq_ok_iff.mp hrest
  obtain ⟨_, -, hcreate⟩ := Throwing.bind_eq_ok_iff.mp hrest
  obtain ⟨-, rfl⟩ := WebhookSubscription.create_eq_ok_iff.mp hcreate
  rfl

theorem log_state_of_found {world : World} {id : SubscriptionId} {tenantId : TenantId}
    {loaded : WebhookSubscription}
    (h : SubscriptionMongoRepository.findByIdAndTenant world.subscriptions id tenantId = .ok (some loaded)) :
    loaded.id.value = id.value ∧ loaded.domainEvents = [] ∧ world.log.state id.value = some loaded.status := by
  obtain ⟨record, hstored, -, hread⟩ := SubscriptionMongoRepository.stored_of_found h
  obtain ⟨hid, -, hevents⟩ := toAggregate_eq_ok hread
  refine ⟨hid.trans ((DocumentStore.Collection.get?_eq_some_iff _).mp hstored).2, hevents, ?_⟩
  rw [log_state, World.stored, hstored, Option.map_some, status_of_toAggregate_eq_ok hread]

/-- A request that has decided what to save has recorded at most one event, which is about the subscription,
leads from the stored status to the new one and carries the new `updatedAt`. -/
theorem Decides.events_cases {world : World} {request : Request} {subscription : WebhookSubscription}
    (h : Decides world.subscriptions request subscription)
    (hfresh : ∀ id, request.generatedId = some id → world.stored id = none) :
    (subscription.domainEvents = [] ∧ world.log.state subscription.id.value = some subscription.status) ∨
      ∃ event, subscription.domainEvents = [event] ∧ event.aggregateId = subscription.id.value ∧
        event.occurredAt = subscription.updatedAt ∧
        DomainEvent.next (world.log.state subscription.id.value) event = some subscription.status := by
  cases h with
  | @create input id now tenantId targetUrl _ _ _ _ hcreate =>
      obtain ⟨hid, -, -, hstatus, -, hevents⟩ := CreateSubscriptionInput.create_eq_ok hcreate
      have hnone : world.stored subscription.id.value = none := by
        rw [hid]
        exact hfresh id.value rfl
      refine Or.inr ⟨_, hevents, by rw [hid]; rfl, ?_, ?_⟩
      · exact (CreateSubscriptionInput.updatedAt_of_create hcreate).symm
      · rw [log_state, hnone, hstatus]
        rfl
  | @update input clock id tenantId loaded subscription hid _ hfound happly =>
      obtain ⟨hloadedId, hnone, hstate⟩ := log_state_of_found hfound
      have happlied := UpdateSubscriptionInput.apply_eq_ok happly
      rw [happlied.id, hloadedId, hstate]
      rcases hstatus : input.status with _ | status
      · obtain ⟨hsame, hevents⟩ := happlied.status_none hstatus
        rw [hevents, hsame]
        exact Or.inl ⟨hnone, rfl⟩
      · obtain ⟨hnew, hevents⟩ := happlied.status_some status hstatus
        have hupdated : subscription.updatedAt = clock 2 := by
          rw [happlied.updatedAt, hstatus]
          rfl
        rw [hnew, hupdated]
        rcases hevents with ⟨rfl, hpaused, hevents⟩ | ⟨rfl, hactive, hevents⟩
        · rw [hnone] at hevents
          exact Or.inr ⟨_, hevents, hloadedId, rfl, by rw [hpaused]; rfl⟩
        · rw [hnone] at hevents
          exact Or.inr ⟨_, hevents, hloadedId, rfl, by rw [hactive]; rfl⟩
  | @delete input now id tenantId loaded hid _ hfound =>
      obtain ⟨hloadedId, hnone, hstate⟩ := log_state_of_found hfound
      rw [WebhookSubscription.delete_id, hloadedId, hstate, WebhookSubscription.delete_status]
      by_cases hdeleted : loaded.status = .DELETED
      · rw [WebhookSubscription.delete_of_deleted hdeleted, hdeleted]
        exact Or.inl ⟨hnone, rfl⟩
      · rw [WebhookSubscription.delete_of_not_deleted hdeleted, WebhookSubscription.record, hnone]
        refine Or.inr ⟨_, rfl, hloadedId, rfl, ?_⟩
        cases hstatus : loaded.status with
        | DELETED => exact absurd hstatus hdeleted
        | _ => rfl

/-- A request handled alone extends the log. -/
theorem serve_extends {request : Request} {order : NaturalOrder} {world : World}
    (hfresh : ∀ id, request.generatedId = some id → world.stored id = none) :
    Extends DomainEvent.next DomainEvent.aggregateId world.log (serve request order world).2.log := by
  rcases serve_cases request order world with hidle | ⟨subscription, hwrote⟩
  · rw [hidle.unchanged]
    exact Extends.refl _
  · have hcases := hwrote.decides.events_cases hfresh
    have habout : ∀ event ∈ subscription.domainEvents, event.aggregateId = subscription.id.value := by
      rcases hcases with ⟨hnone, -⟩ | ⟨event, hone, hid, -⟩
      · simp [hnone]
      · simp [hone, hid]
    refine ⟨subscription.domainEvents, hwrote.published, fun id => ?_⟩
    by_cases hid : id = subscription.id.value
    · subst hid
      rw [EventLog.eventsAbout_eq_self habout, log_state (serve request order world).2,
        hwrote.stored_self, Option.map_some]
      rcases hcases with ⟨hnone, hstate⟩ | ⟨event, hone, -, -, hnext⟩
      · rw [hnone, hstate]
        rfl
      · rw [hone, EventLog.replay_cons, hnext]
        rfl
    · have hother : ∀ event ∈ subscription.domainEvents, event.aggregateId ≠ id := by
        intro event hevent
        rw [habout event hevent]
        exact Ne.symm hid
      rw [EventLog.eventsAbout_eq_nil hother, log_state (serve request order world).2,
        hwrote.stored_of_ne hid]
      rfl

/-! ### Runs of requests -/

def generatedIds (requests : List (Request × NaturalOrder)) : List String :=
  requests.filterMap fun entry => entry.1.generatedId

theorem Decides.generated_or_stored {world : World} {request : Request} {subscription : WebhookSubscription}
    (h : Decides world.subscriptions request subscription) :
    request.generatedId = some subscription.id.value ∨ world.stored subscription.id.value ≠ none := by
  cases h with
  | create _ _ _ hcreate =>
      rw [(CreateSubscriptionInput.create_eq_ok hcreate).1]
      exact Or.inl rfl
  | update _ _ hfound happly =>
      obtain ⟨record, hstored, -, hread⟩ := SubscriptionMongoRepository.stored_of_found hfound
      have hrecord := (DocumentStore.Collection.get?_eq_some_iff _).mp hstored
      rw [(UpdateSubscriptionInput.apply_eq_ok happly).id, (toAggregate_eq_ok hread).1, hrecord.2, World.stored,
        hstored]
      exact Or.inr nofun
  | delete _ _ hfound =>
      obtain ⟨record, hstored, -, hread⟩ := SubscriptionMongoRepository.stored_of_found hfound
      have hrecord := (DocumentStore.Collection.get?_eq_some_iff _).mp hstored
      rw [WebhookSubscription.delete_id, (toAggregate_eq_ok hread).1, hrecord.2, World.stored, hstored]
      exact Or.inr nofun

theorem serve_stored_eq_none {request : Request} {order : NaturalOrder} {world : World} {id : String}
    (hnone : world.stored id = none) (hid : request.generatedId ≠ some id) :
    (serve request order world).2.stored id = none := by
  rcases serve_cases request order world with hidle | ⟨subscription, hwrote⟩
  · rw [hidle.unchanged]
    exact hnone
  · have hne : id ≠ subscription.id.value := by
      rintro rfl
      rcases hwrote.decides.generated_or_stored with hgenerated | hstored
      · exact hid hgenerated
      · exact hstored hnone
    rw [hwrote.stored_of_ne hne]
    exact hnone

theorem generatedIds_cons (entry : Request × NaturalOrder) (requests : List (Request × NaturalOrder)) :
    generatedIds (entry :: requests) = entry.1.generatedId.toList ++ generatedIds requests := by
  rw [generatedIds, List.filterMap_cons]
  cases entry.1.generatedId <;> rfl

theorem serveAll_stored_eq_none {requests : List (Request × NaturalOrder)} {world : World} {id : String}
    (hnone : world.stored id = none) (hid : id ∉ generatedIds requests) :
    (serveAll world requests).stored id = none := by
  induction requests generalizing world with
  | nil => exact hnone
  | cons entry requests ih =>
      rw [generatedIds_cons, List.mem_append, Option.mem_toList, not_or] at hid
      exact ih (serve_stored_eq_none hnone hid.1) hid.2

theorem serveAll_extends {requests : List (Request × NaturalOrder)} {world : World}
    (hdistinct : (generatedIds requests).Nodup) (hunused : ∀ id ∈ generatedIds requests, world.stored id = none) :
    Extends DomainEvent.next DomainEvent.aggregateId world.log (serveAll world requests).log := by
  induction requests generalizing world with
  | nil => exact Extends.refl _
  | cons entry requests ih =>
      rw [generatedIds_cons] at hdistinct hunused
      obtain ⟨-, hrest, hdisjoint⟩ := List.nodup_append.mp hdistinct
      refine Extends.trans (serve_extends fun id hid => ?_) (ih hrest fun id hid => ?_)
      · exact hunused id (List.mem_append_left _ (Option.mem_toList.mpr hid))
      · refine serve_stored_eq_none (hunused id (List.mem_append_right _ hid)) fun hgenerated => ?_
        exact hdisjoint id (Option.mem_toList.mpr hgenerated) id hid rfl

/-- What a request handled alone publishes: nothing when it fails, changes fields only or repeats a deletion,
and otherwise at most the event of the transition it stored. -/
structure Publishes (request : Request) (before : World) (outcome : Except Exception Response × World) : Prop where
  rejected : ∀ exception, outcome.1 = .error exception → outcome.2.published = before.published
  fieldsOnly : ∀ input clock, request = .update input clock → input.status = none →
    outcome.2.published = before.published
  repeatedDelete : ∀ input now record, request = .delete input now → before.stored input.id = some record →
    record.status = .DELETED → outcome.2.published = before.published
  transition : outcome.2.published = before.published ∨ ∃ event record,
    outcome.2.published = before.published ++ [event] ∧
      outcome.2.stored event.aggregateId = some record ∧ record.updatedAt = event.occurredAt ∧
      event.next ((before.stored event.aggregateId).map fun earlier => earlier.status) = some record.status

theorem serve_publishes {request : Request} {order : NaturalOrder} {world : World}
    (hfresh : ∀ id, request.generatedId = some id → world.stored id = none) :
    Publishes request world (serve request order world) := by
  rcases serve_cases request order world with hidle | ⟨subscription, hwrote⟩
  · have hsame : (serve request order world).2.published = world.published := by
      rw [hidle.unchanged]
    exact ⟨fun _ _ => hsame, fun _ _ _ _ => hsame, fun _ _ _ _ _ _ => hsame, Or.inl hsame⟩
  · have hsilent : subscription.domainEvents = [] →
        (serve request order world).2.published = world.published := by
      intro hnone
      rw [hwrote.published, hnone, List.append_nil]
    refine ⟨fun exception hfailed => ?_, fun input clock hrequest hstatus => ?_,
      fun input now record hrequest hstored hdeleted => ?_, ?_⟩
    · rw [serve_of_error hfailed]
    · have hdecides := hwrote.decides
      rw [hrequest] at hdecides
      cases hdecides with
      | update _ _ hfound happly =>
          apply hsilent
          rw [((UpdateSubscriptionInput.apply_eq_ok happly).status_none hstatus).2]
          exact (log_state_of_found hfound).2.1
    · have hdecides := hwrote.decides
      rw [hrequest] at hdecides
      cases hdecides with
      | delete hid _ hfound =>
          apply hsilent
          obtain ⟨-, hnone, hstate⟩ := log_state_of_found hfound
          rw [hid, log_state, hstored, Option.map_some, Option.some.injEq, hdeleted] at hstate
          rw [WebhookSubscription.delete_of_deleted hstate.symm, hnone]
    · rcases hwrote.decides.events_cases hfresh with ⟨hnone, -⟩ | ⟨event, hone, hid, hat, hnext⟩
      · exact Or.inl (hsilent hnone)
      · refine Or.inr ⟨event, toDocument subscription, ?_, ?_, hat.symm, ?_⟩
        · rw [hwrote.published, hone]
        · rw [hid]
          exact hwrote.stored_self
        · rw [hid]
          exact hnext

/-- After any sequence of requests, the events published for a subscription are its life so far and replay to
the stored status, and each request along the way published what it did to the store. -/
theorem event_history (requests : List (Request × NaturalOrder)) (hdistinct : (generatedIds requests).Nodup) :
    (∀ id record, (serveAll .initial requests).stored id = some record →
      InOrder (history id (serveAll .initial requests).published) ∧
        replay DomainEvent.next none (history id (serveAll .initial requests).published) =
          some (some record.status)) ∧
      ∀ earlier entry later, requests = earlier ++ entry :: later →
        Publishes entry.1 (serveAll .initial earlier) (serve entry.1 entry.2 (serveAll .initial earlier)) := by
  refine ⟨fun id record hstored => ?_, fun earlier entry later hsplit => ?_⟩
  · have hextends : Extends DomainEvent.next DomainEvent.aggregateId World.initial.log
        (serveAll .initial requests).log := serveAll_extends hdistinct fun _ _ => rfl
    have hreplay := hextends.replay_eq (fun _ => rfl) rfl id
    rw [log_state, hstored] at hreplay
    exact ⟨inOrder_of_replay hreplay, hreplay⟩
  · subst hsplit
    rw [generatedIds, List.filterMap_append, List.nodup_append] at hdistinct
    refine serve_publishes fun id hid => serveAll_stored_eq_none rfl fun hmem => ?_
    refine hdistinct.2.2 id hmem id ?_ rfl
    exact List.mem_filterMap.mpr ⟨entry, List.mem_cons_self, hid⟩

end Runs

section Sample

attribute [local instance] samplePlatform

def lifeOfSample : List (Request × NaturalOrder) :=
  let patch : UpdateSubscriptionInput :=
    { id := sampleKey.id, tenantId := sampleKey.tenantId, targetUrl := none, eventTypes := none, status := none }
  [.create sampleInput sampleId 0, .update { patch with status := some .PAUSED } fun _ => 1,
    .update { patch with status := some .PAUSED } fun _ => 2,
    .update { patch with eventTypes := some ["order.paid"] } fun _ => 3,
    .update { patch with status := some .ACTIVE } fun _ => 4, .delete sampleKey 5, .delete sampleKey 6].map
    fun request => (request, .insertion)

example : (serveAll .initial lifeOfSample).published =
    [.SubscriptionCreated sampleKey.id 0, .SubscriptionPaused sampleKey.id 1,
      .SubscriptionResumed sampleKey.id 4, .SubscriptionDeleted sampleKey.id 5] := by decide +kernel

theorem event_history_sample : ∃ record, (serveAll .initial lifeOfSample).stored sampleKey.id = some record ∧
    InOrder (history sampleKey.id (serveAll .initial lifeOfSample).published) := by
  have hstored : ((serveAll .initial lifeOfSample).stored sampleKey.id).isSome = true := by decide +kernel
  obtain ⟨record, hrecord⟩ := Option.isSome_iff_exists.mp hstored
  exact ⟨record, hrecord, ((event_history lifeOfSample (by decide)).1 _ _ hrecord).1⟩

end Sample

end WebhookIdp.Subscription
