import WebhookIdp.Subscription.Provenance

/-!
# Published events announce stored versions

A use case publishes after its save. So along every interleaving an event that is published tells of a version that
was stored before: it is about that subscription, which then had the status and the time the event says.
-/

namespace WebhookIdp.Subscription

open Concurrent (System)

section Announced

variable [Platform] {ι : Type} [DecidableEq ι]

omit [Platform] in
/-- The event tells how the version came to be. -/
def DomainEvent.Announces (record : SubscriptionRecord) : DomainEvent → Prop
  | .SubscriptionCreated aggregateId occurredAt =>
      record._id = aggregateId ∧ record.status = .ACTIVE ∧ record.createdAt = occurredAt ∧ record.updatedAt = occurredAt
  | .SubscriptionPaused aggregateId occurredAt =>
      record._id = aggregateId ∧ record.status = .PAUSED ∧ record.updatedAt = occurredAt
  | .SubscriptionResumed aggregateId occurredAt =>
      record._id = aggregateId ∧ record.status = .ACTIVE ∧ record.updatedAt = occurredAt
  | .SubscriptionDeleted aggregateId occurredAt =>
      record._id = aggregateId ∧ record.status = .DELETED ∧ record.updatedAt = occurredAt

/-! ### What a request has recorded -/

theorem domainEvents_of_found {store : SubscriptionStore} {id : SubscriptionId} {tenantId : TenantId}
    {loaded : WebhookSubscription}
    (h : SubscriptionMongoRepository.findByIdAndTenant store id tenantId = .ok (some loaded)) : loaded.domainEvents = [] := by
  obtain ⟨record, -, hread⟩ := SubscriptionMongoRepository.rehydrate_eq_ok_some_iff.mp h
  exact (toAggregate_eq_ok hread).2.2

/-- An update records at most one event, with the status it sets and at its last reading of the clock. -/
theorem UpdateSubscriptionInput.Applied.announces {input : UpdateSubscriptionInput} {clock : Nat → Date}
    {loaded saved : WebhookSubscription} (h : input.Applied clock loaded saved) (hloaded : loaded.domainEvents = [])
    {event : DomainEvent} (hevent : event ∈ saved.domainEvents) : event.Announces (toDocument saved) := by
  have hid : (toDocument saved)._id = loaded.id.value := congrArg SubscriptionId.value h.id
  cases hstatus : input.status with
  | none =>
      rw [(h.status_none hstatus).2, hloaded] at hevent
      cases hevent
  | some status =>
      have hat : (toDocument saved).updatedAt = clock 2 := by
        refine h.updatedAt.trans ?_
        rw [hstatus]
        rfl
      obtain ⟨hsaved, ⟨rfl, -, hevents⟩ | ⟨rfl, -, hevents⟩⟩ := h.status_some status hstatus
      · rw [hevents, hloaded, List.nil_append, List.mem_singleton] at hevent
        rw [hevent]
        exact ⟨hid, hsaved, hat⟩
      · rw [hevents, hloaded, List.nil_append, List.mem_singleton] at hevent
        rw [hevent]
        exact ⟨hid, hsaved, hat⟩

theorem Decides.announces {store : SubscriptionStore} {request : Request} {saved : WebhookSubscription}
    (h : Decides store request saved) {event : DomainEvent} (hevent : event ∈ saved.domainEvents) :
    event.Announces (toDocument saved) := by
  cases h with
  | create _ _ _ hcreate =>
      obtain ⟨_, -, hrest⟩ := Throwing.bind_eq_ok_iff.mp hcreate
      obtain ⟨_, -, hrest⟩ := Throwing.bind_eq_ok_iff.mp hrest
      obtain ⟨_, -, hcreated⟩ := Throwing.bind_eq_ok_iff.mp hrest
      obtain ⟨-, rfl⟩ := WebhookSubscription.create_eq_ok_iff.mp hcreated
      rw [List.mem_singleton.mp hevent]
      exact ⟨rfl, rfl, rfl, rfl⟩
  | update _ _ hfound happly =>
      exact (UpdateSubscriptionInput.apply_eq_ok happly).announces (domainEvents_of_found hfound) hevent
  | @delete _ now _ _ loaded _ _ hfound =>
      have hloaded := domainEvents_of_found hfound
      by_cases hdeleted : loaded.status = .DELETED
      · rw [WebhookSubscription.delete_of_deleted hdeleted, hloaded] at hevent
        cases hevent
      · rw [WebhookSubscription.delete_of_not_deleted hdeleted, WebhookSubscription.record, hloaded] at hevent
        rw [WebhookSubscription.delete_of_not_deleted hdeleted, List.mem_singleton.mp hevent]
        exact ⟨rfl, rfl, rfl⟩

/-! ### Publishing after the save -/

section Requests

variable {start : Requests ι} {i : ι}

theorem nextCall_of_publishing {saved : WebhookSubscription} (hstart : start.client i = publishing saved)
    {schedule : List (ι × NaturalOrder)} {op : RepositoryCall}
    (hnext : (start.run perform schedule).nextCall i = some op) : op = .publishAll saved.domainEvents := by
  obtain ⟨-, hwaiting⟩ | ⟨before, order, after, rfl, -, hclient⟩ := System.run_of_call hstart schedule
  · rw [System.nextCall, hwaiting] at hnext
    exact (Option.some.inj hnext).symm
  · rw [List.append_cons, System.run_append, System.nextCall_run_of_done after hclient] at hnext
    cases hnext

theorem stored_of_saving {saved : WebhookSubscription} (hstart : start.client i = saving saved)
    {schedule : List (ι × NaturalOrder)} {events : List DomainEvent}
    (hnext : (start.run perform schedule).nextCall i = some (.publishAll events)) :
    saved.domainEvents = events ∧ ∃ before, before <+: schedule ∧
      toDocument saved ∈ (start.run perform before).state.subscriptions.docs := by
  rw [saving_eq] at hstart
  obtain ⟨-, hwaiting⟩ | ⟨before, order, after, rfl, hbefore, hclient⟩ := System.run_of_call hstart schedule
  · rw [System.nextCall, hwaiting] at hnext
    cases hnext
  · have hstate : (start.run perform (before ++ [(i, order)])).state =
        (perform (.save saved) order (start.run perform before).state).2 := by
      rw [System.run_concat]
      exact System.state_step_of_call ((System.client_run_of_not_mem hbefore).trans hstart)
    rw [List.append_cons, System.run_append] at hnext
    obtain ⟨-, store, hsave, hperform⟩ | ⟨-, hperform⟩ :=
      perform_save_cases (start.run perform before).state order saved
    · rw [hperform] at hclient hstate
      cases nextCall_of_publishing hclient hnext
      refine ⟨rfl, before ++ [(i, order)], ⟨after, by simp⟩, ?_⟩
      rw [hstate]
      exact (SubscriptionStore.mem_save hsave).mpr (Or.inl rfl)
    · rw [hperform] at hclient
      rw [System.nextCall_run_of_done after hclient] at hnext
      cases hnext

/-- What a request is about to publish was decided on with a version that has been stored. -/
theorem stored_of_publishes (requests : ι → Request) (world : World) {schedule : List (ι × NaturalOrder)}
    {events : List DomainEvent}
    (hnext : ((Requests.start requests world).run perform schedule).nextCall i = some (.publishAll events)) :
    ∃ before read saved, before <+: schedule ∧ Decides read (requests i) saved ∧ saved.domainEvents = events ∧
      toDocument saved ∈ ((Requests.start requests world).run perform before).state.subscriptions.docs := by
  have hform := execute_form (requests i)
  have hclient : (Requests.start requests world).client i = (requests i).execute := rfl
  generalize (requests i).execute = program at hform hclient
  cases hform with
  | refused error =>
      rw [System.nextCall_run_of_done schedule hclient] at hnext
      cases hnext
  | @query op respond h =>
      obtain ⟨-, hwaiting⟩ | ⟨before, order, after, rfl, -, hdone⟩ := System.run_of_call hclient schedule
      · rw [System.nextCall, hwaiting] at hnext
        exact absurd (Option.some.inj hnext) h.ne_publishAll
      · rw [List.append_cons, System.run_append, System.nextCall_run_of_done after hdone] at hnext
        cases hnext
  | @transaction op decide h =>
      obtain ⟨-, hwaiting⟩ | ⟨before, order, after, rfl, -, hnow⟩ := System.run_of_call hclient schedule
      · rw [System.nextCall, hwaiting] at hnext
        exact absurd (Option.some.inj hnext) h.ne_publishAll
      · rw [List.append_cons, System.run_append] at hnext
        cases hdecide : (perform op order ((Requests.start requests world).run perform before).state).1 >>= decide with
        | error exception =>
            simp only [hdecide] at hnow
            rw [System.nextCall_run_of_done after hnow] at hnext
            cases hnext
        | ok saved =>
            simp only [hdecide] at hnow
            obtain ⟨hevents, middle, hmiddle, hstored⟩ := stored_of_saving hnow hnext
            rw [← System.run_append] at hstored
            have hprefix : before ++ [(i, order)] ++ middle <+: before ++ (i, order) :: after := by
              rw [List.append_cons before (i, order) after]
              exact (List.prefix_append_right_inj _).mpr hmiddle
            exact ⟨_, _, saved, hprefix, h.decides hdecide, hevents, hstored⟩

end Requests

/-! ### Whole runs -/

theorem published_step (s : Requests ι) (move : ι × NaturalOrder) :
    (s.step perform move).state.published = s.state.published ∨
      ∃ events, s.nextCall move.1 = some (.publishAll events) ∧
        (s.step perform move).state.published = s.state.published ++ events := by
  cases hclient : s.client move.1 with
  | done result =>
      rw [System.step_of_done hclient]
      exact Or.inl rfl
  | call op next =>
      rw [System.state_step_of_call hclient, System.nextCall, hclient]
      cases op with
      | publishAll events => exact Or.inr ⟨events, rfl, rfl⟩
      | save subscription =>
          obtain ⟨-, store, -, hperform⟩ | ⟨-, hperform⟩ := perform_save_cases s.state move.2 subscription
          · rw [hperform]
            exact Or.inl rfl
          · rw [hperform]
            exact Or.inl rfl
      | _ => exact Or.inl rfl

/-- Whatever is published along an interleaving of HTTP requests announces a version that was stored before. -/
theorem published_events_announce_versions (https : ι → HttpRequest) (world : World) (schedule : List (ι × NaturalOrder))
    {event : DomainEvent} (h : event ∈ ((HttpRequests.start https world).run perform schedule).state.published) :
    event ∈ world.published ∨ ∃ before record, before <+: schedule ∧
      record ∈ ((HttpRequests.start https world).run perform before).state.subscriptions.docs ∧ event.Announces record := by
  obtain ⟨requests, -, hsame⟩ := exists_requests https world
  simp only [(hsame _).1] at h ⊢
  induction schedule using List.reverseRecOn with
  | nil => exact Or.inl h
  | append_singleton schedule move ih =>
      have hearlier (hold : event ∈ ((Requests.start requests world).run perform schedule).state.published) :
          event ∈ world.published ∨ ∃ before record, before <+: schedule ++ [move] ∧
            record ∈ ((Requests.start requests world).run perform before).state.subscriptions.docs ∧
            event.Announces record := by
        obtain hinitial | ⟨before, record, hbefore, hrecord⟩ := ih hold
        · exact Or.inl hinitial
        · exact Or.inr ⟨before, record, hbefore.trans (List.prefix_append _ _), hrecord⟩
      rw [System.run_concat] at h
      obtain hkept | ⟨events, hnext, hpublished⟩ :=
        published_step ((Requests.start requests world).run perform schedule) move
      · rw [hkept] at h
        exact hearlier h
      · rw [hpublished, List.mem_append] at h
        obtain hold | hnew := h
        · exact hearlier hold
        · obtain ⟨before, _, saved, hbefore, hdecides, rfl, hstored⟩ := stored_of_publishes requests world hnext
          exact Or.inr ⟨before, _, hbefore.trans (List.prefix_append _ _), hstored, hdecides.announces hnew⟩

end Announced

section Sample

attribute [local instance] samplePlatform

/-- The owner deletes the sample subscription, which is published. -/
theorem published_events_announce_versions_sample :
    DomainEvent.SubscriptionDeleted sampleKey.id 0 ∈ sampleWorld.published ∨ ∃ before record,
      before <+: [(SampleCaller.owner, NaturalOrder.insertion), (.owner, .insertion), (.owner, .insertion)] ∧
      record ∈ ((HttpRequests.start threeCallers sampleWorld).run perform before).state.subscriptions.docs ∧
      (DomainEvent.SubscriptionDeleted sampleKey.id 0).Announces record :=
  published_events_announce_versions threeCallers sampleWorld
    [(.owner, .insertion), (.owner, .insertion), (.owner, .insertion)] (.tail _ (.head _))

end Sample

end WebhookIdp.Subscription
