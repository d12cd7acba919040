import WebhookIdp.Subscription.UseCases

/-!
# What an update does to its subscription

The mutations of a PATCH are applied one after the other, each only if its field is given. `Applied` says
field by field what comes of them.
-/

namespace WebhookIdp.Subscription

variable [Platform]

/-- What `subscription` becomes when the fields of `input` are applied to it. -/
structure UpdateSubscriptionInput.Applied (input : UpdateSubscriptionInput) (clock : Nat → Date)
    (subscription result : WebhookSubscription) : Prop where
  id : result.id = subscription.id
  tenantId : result.tenantId = subscription.tenantId
  createdByClientId : result.createdByClientId = subscription.createdByClientId
  createdByUserId : result.createdByUserId = subscription.createdByUserId
  createdAt : result.createdAt = subscription.createdAt
  targetUrl_none : input.targetUrl = none → result.targetUrl = subscription.targetUrl
  targetUrl_some : ∀ targetUrl, input.targetUrl = some targetUrl →
    TargetUrl.fromString targetUrl = .ok result.targetUrl ∧ subscription.status ≠ .DELETED
  eventTypes_none : input.eventTypes = none →
    result.subscribedEventTypes = subscription.subscribedEventTypes
  eventTypes_some : ∀ eventTypes, input.eventTypes = some eventTypes →
    eventTypes.mapM EventType.fromString = .ok result.subscribedEventTypes ∧
      subscription.status ≠ .DELETED ∧ result.subscribedEventTypes ≠ []
  status_none : input.status = none →
    result.status = subscription.status ∧ result.domainEvents = subscription.domainEvents
  status_some : ∀ status, input.status = some status → result.status = status ∧
    ((status = .ACTIVE ∧ subscription.status = .PAUSED ∧ result.domainEvents =
        subscription.domainEvents ++ [.SubscriptionResumed subscription.id.value (clock 2)]) ∨
      (status = .PAUSED ∧ subscription.status = .ACTIVE ∧ result.domainEvents =
        subscription.domainEvents ++ [.SubscriptionPaused subscription.id.value (clock 2)]))
  updatedAt : result.updatedAt =
    if input.status.isSome then clock 2 else if input.eventTypes.isSome then clock 1
    else if input.targetUrl.isSome then clock 0 else subscription.updatedAt

namespace UpdateSubscriptionInput

variable {input : UpdateSubscriptionInput} {clock : Nat → Date} {subscription result : WebhookSubscription}

theorem applyTargetUrl_eq_ok (h : input.applyTargetUrl clock subscription = .ok result) :
    ∃ targetUrl updatedAt, result = { subscription with targetUrl, updatedAt } ∧
      (input.targetUrl = none → targetUrl = subscription.targetUrl ∧ updatedAt = subscription.updatedAt) ∧
      ∀ text, input.targetUrl = some text →
        TargetUrl.fromString text = .ok targetUrl ∧ subscription.status ≠ .DELETED ∧ updatedAt = clock 0 := by
  rw [applyTargetUrl] at h
  split at h
  · cases h
    refine ⟨_, _, rfl, fun _ => ⟨rfl, rfl⟩, fun text hsome => ?_⟩
    simp_all
  · rename_i text hsome
    obtain ⟨targetUrl, htarget, hupdate⟩ := Throwing.bind_eq_ok_iff.mp h
    obtain ⟨hstatus, rfl⟩ := WebhookSubscription.updateTargetUrl_eq_ok_iff.mp hupdate
    refine ⟨targetUrl, clock 0, rfl, by simp [hsome], fun other hother => ?_⟩
    rw [hsome, Option.some.injEq] at hother
    subst hother
    exact ⟨htarget, hstatus, rfl⟩

theorem applyEventTypes_eq_ok (h : input.applyEventTypes clock subscription = .ok result) :
    ∃ subscribedEventTypes updatedAt, result = { subscription with subscribedEventTypes, updatedAt } ∧
      (input.eventTypes = none →
        subscribedEventTypes = subscription.subscribedEventTypes ∧ updatedAt = subscription.updatedAt) ∧
      ∀ texts, input.eventTypes = some texts →
        texts.mapM EventType.fromString = .ok subscribedEventTypes ∧ subscription.status ≠ .DELETED ∧
          subscribedEventTypes ≠ [] ∧ updatedAt = clock 1 := by
  rw [applyEventTypes] at h
  split at h
  · cases h
    refine ⟨_, _, rfl, fun _ => ⟨rfl, rfl⟩, fun texts hsome => ?_⟩
    simp_all
  · rename_i texts hsome
    obtain ⟨eventTypes, htypes, hupdate⟩ := Throwing.bind_eq_ok_iff.mp h
    obtain ⟨hstatus, hempty, rfl⟩ := WebhookSubscription.updateSubscribedEventTypes_eq_ok_iff.mp hupdate
    refine ⟨eventTypes, clock 1, rfl, by simp [hsome], fun other hother => ?_⟩
    rw [hsome, Option.some.injEq] at hother
    subst hother
    exact ⟨htypes, hstatus, hempty, rfl⟩

theorem applyStatus_eq_ok (h : input.applyStatus clock subscription = .ok result) :
    ∃ status domainEvents updatedAt, result = { subscription with status, domainEvents, updatedAt } ∧
      (input.status = none → status = subscription.status ∧ domainEvents = subscription.domainEvents ∧
        updatedAt = subscription.updatedAt) ∧
      ∀ requested, input.status = some requested → status = requested ∧ updatedAt = clock 2 ∧
        ((requested = .ACTIVE ∧ subscription.status = .PAUSED ∧ domainEvents =
            subscription.domainEvents ++ [.SubscriptionResumed subscription.id.value (clock 2)]) ∨
          (requested = .PAUSED ∧ subscription.status = .ACTIVE ∧ domainEvents =
            subscription.domainEvents ++ [.SubscriptionPaused subscription.id.value (clock 2)])) := by
  rw [applyStatus] at h
  split at h
  · cases h
    refine ⟨_, _, _, rfl, fun _ => ⟨rfl, rfl, rfl⟩, fun requested hsome => ?_⟩
    simp_all
  · rename_i status hsome
    cases status with
    | ACTIVE =>
        obtain ⟨hpaused, rfl⟩ := WebhookSubscription.resume_eq_ok_iff.mp h
        refine ⟨_, _, _, rfl, by simp [hsome], fun requested hrequested => ?_⟩
        rw [hsome, Option.some.injEq] at hrequested
        subst hrequested
        exact ⟨rfl, rfl, Or.inl ⟨rfl, hpaused, rfl⟩⟩
    | PAUSED =>
        obtain ⟨hactive, rfl⟩ := WebhookSubscription.pause_eq_ok_iff.mp h
        refine ⟨_, _, _, rfl, by simp [hsome], fun requested hrequested => ?_⟩
        rw [hsome, Option.some.injEq] at hrequested
        subst hrequested
        exact ⟨rfl, rfl, Or.inr ⟨rfl, hactive, rfl⟩⟩
    | DELETED => cases h

theorem apply_eq_ok (h : input.apply clock subscription = .ok result) :
    input.Applied clock subscription result := by
  obtain ⟨first, hfirst, hrest⟩ := Throwing.bind_eq_ok_iff.mp h
  obtain ⟨second, hsecond, hthird⟩ := Throwing.bind_eq_ok_iff.mp hrest
  obtain ⟨targetUrl, firstAt, rfl, hurlNone, hurlSome⟩ := applyTargetUrl_eq_ok hfirst
  obtain ⟨eventTypes, secondAt, rfl, htypesNone, htypesSome⟩ := applyEventTypes_eq_ok hsecond
  obtain ⟨status, domainEvents, thirdAt, rfl, hstatusNone, hstatusSome⟩ := applyStatus_eq_ok hthird
  exact {
    id := rfl
    tenantId := rfl
    createdByClientId := rfl
    createdByUserId := rfl
    createdAt := rfl
    targetUrl_none := fun hnone => (hurlNone hnone).1
    targetUrl_some := fun text hsome => ⟨(hurlSome text hsome).1, (hurlSome text hsome).2.1⟩
    eventTypes_none := fun hnone => (htypesNone hnone).1
    eventTypes_some := fun texts hsome =>
      ⟨(htypesSome texts hsome).1, (htypesSome texts hsome).2.1, (htypesSome texts hsome).2.2.1⟩
    status_none := fun hnone => ⟨(hstatusNone hnone).1, (hstatusNone hnone).2.1⟩
    status_some := fun requested hsome => ⟨(hstatusSome requested hsome).1, (hstatusSome requested hsome).2.2⟩
    updatedAt := by
      show thirdAt = _
      rcases hstatus : input.status with _ | requested
      · rw [(hstatusNone hstatus).2.2]
        rcases htypes : input.eventTypes with _ | texts
        · rw [(htypesNone htypes).2]
          rcases hurl : input.targetUrl with _ | text
          · exact (hurlNone hurl).2
          · exact (hurlSome text hurl).2.2
        · exact (htypesSome texts htypes).2.2.2
      · exact (hstatusSome requested hstatus).2.1 }

theorem Applied.events_about (h : input.Applied clock subscription result) (hnone : subscription.domainEvents = []) :
    ∀ event ∈ result.domainEvents, event.aggregateId = subscription.id.value := by
  intro event hevent
  rcases hstatus : input.status with _ | status
  · rw [(h.status_none hstatus).2, hnone] at hevent
    cases hevent
  · obtain ⟨-, hevents⟩ := h.status_some status hstatus
    rcases hevents with ⟨-, -, hevents⟩ | ⟨-, -, hevents⟩ <;>
    · rw [hevents, hnone, List.nil_append, List.mem_singleton] at hevent
      rw [hevent]
      rfl

end UpdateSubscriptionInput

end WebhookIdp.Subscription
