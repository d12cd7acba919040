import WebhookIdp.Subscription.UseCases

/-!
# The life of one aggregate

The methods of the aggregate once more, as the statements they are made of: an assignment made before a statement
that throws stays made. Along any sequence of calls, whether they return or throw, the aggregate is what the
functions on records make of it, and what it has recorded is what has been pulled and what is pending.
-/

namespace WebhookIdp.Subscription

/-- The readings of a clock that never goes backwards. -/
structure Clock where
  reading : Nat → Date
  monotone : ∀ m n, m ≤ n → reading m ≤ reading n

section Life

variable [Platform]

/-- The aggregate, the number of times it has read the clock, and every event it has recorded. -/
structure Lifetime where
  subscription : WebhookSubscription
  readings : Nat
  recorded : List DomainEvent

abbrev Method := ExceptT DomainError (StateM Lifetime)

/-! ### The methods, statement by statement -/

namespace Method

def this : Method WebhookSubscription := do return (← get).subscription

def assign (f : WebhookSubscription → WebhookSubscription) : Method Unit :=
  modify fun lifetime => { lifetime with subscription := f lifetime.subscription }

def now (clock : Clock) : Method Date := do
  let lifetime ← get
  set { lifetime with readings := lifetime.readings + 1 }
  return clock.reading lifetime.readings

def record (event : DomainEvent) : Method Unit :=
  modify fun lifetime => {
    lifetime with
    subscription := lifetime.subscription.record event
    recorded := lifetime.recorded ++ [event] }

def pause (clock : Clock) : Method Unit := do
  let status := (← this).status
  if status ≠ .ACTIVE then
    throw (.invalidStatusTransition s!"Cannot pause a subscription in status {status}")
  assign fun this => { this with status := .PAUSED }
  let now ← now clock
  assign fun this => { this with updatedAt := now }
  record (.SubscriptionPaused (← this).id.value (← this).updatedAt)

def resume (clock : Clock) : Method Unit := do
  let status := (← this).status
  if status ≠ .PAUSED then
    throw (.invalidStatusTransition s!"Cannot resume a subscription in status {status}")
  assign fun this => { this with status := .ACTIVE }
  let now ← now clock
  assign fun this => { this with updatedAt := now }
  record (.SubscriptionResumed (← this).id.value (← this).updatedAt)

def delete (clock : Clock) : Method Unit := do
  if (← this).status = .DELETED then
    return
  assign fun this => { this with status := .DELETED }
  let now ← now clock
  assign fun this => { this with updatedAt := now }
  record (.SubscriptionDeleted (← this).id.value (← this).updatedAt)

def assertMutable : Method Unit := do
  if (← this).status = .DELETED then
    throw (.invalidStatusTransition "Cannot update a deleted subscription")

def updateTargetUrl (targetUrl : TargetUrl) (clock : Clock) : Method Unit := do
  assertMutable
  assign fun this => { this with targetUrl := targetUrl }
  let now ← now clock
  assign fun this => { this with updatedAt := now }

def updateSubscribedEventTypes (eventTypes : List EventType) (clock : Clock) : Method Unit := do
  assertMutable
  MonadExcept.ofExcept (assertNonEmptyEventTypes eventTypes)
  assign fun this => { this with subscribedEventTypes := eventTypes }
  let now ← now clock
  assign fun this => { this with updatedAt := now }

def pullDomainEvents : Method (List DomainEvent) := do
  let events := (← this).domainEvents
  assign fun this => { this with domainEvents := [] }
  return events

end Method

/-! ### What a method leaves -/

namespace Lifetime

variable (clock : Clock) (lifetime : Lifetime)

/-- How a method ends that has the result of a function on records: a method that throws leaves everything, one that
returns has read the clock and recorded `events`. -/
def ending (result : Except DomainError WebhookSubscription) (events : List DomainEvent) :
    Except DomainError Unit × Lifetime :=
  match result with
  | .error error => (.error error, lifetime)
  | .ok subscription =>
      (.ok (), { subscription, readings := lifetime.readings + 1, recorded := lifetime.recorded ++ events })

theorem run_pause : Method.pause clock lifetime =
    lifetime.ending (lifetime.subscription.pause (clock.reading lifetime.readings))
      [.SubscriptionPaused lifetime.subscription.id.value (clock.reading lifetime.readings)] := by
  obtain ⟨⟨⟨params, id, status, createdAt, updatedAt⟩, events⟩, readings, recorded⟩ := lifetime
  cases status <;> rfl

theorem run_resume : Method.resume clock lifetime =
    lifetime.ending (lifetime.subscription.resume (clock.reading lifetime.readings))
      [.SubscriptionResumed lifetime.subscription.id.value (clock.reading lifetime.readings)] := by
  obtain ⟨⟨⟨params, id, status, createdAt, updatedAt⟩, events⟩, readings, recorded⟩ := lifetime
  cases status <;> rfl

/-- Deleting twice does not read the clock again. -/
theorem run_delete : Method.delete clock lifetime =
    if lifetime.subscription.status = .DELETED then (.ok (), lifetime)
    else lifetime.ending (.ok (lifetime.subscription.delete (clock.reading lifetime.readings)))
      [.SubscriptionDeleted lifetime.subscription.id.value (clock.reading lifetime.readings)] := by
  obtain ⟨⟨⟨params, id, status, createdAt, updatedAt⟩, events⟩, readings, recorded⟩ := lifetime
  cases status <;> rfl

theorem run_updateTargetUrl (targetUrl : TargetUrl) : Method.updateTargetUrl targetUrl clock lifetime =
    lifetime.ending (lifetime.subscription.updateTargetUrl targetUrl (clock.reading lifetime.readings)) [] := by
  obtain ⟨⟨⟨params, id, status, createdAt, updatedAt⟩, events⟩, readings, recorded⟩ := lifetime
  unfold ending
  rw [List.append_nil]
  cases status <;> rfl

theorem run_updateSubscribedEventTypes (eventTypes : List EventType) :
    Method.updateSubscribedEventTypes eventTypes clock lifetime =
      lifetime.ending (lifetime.subscription.updateSubscribedEventTypes eventTypes (clock.reading lifetime.readings))
        [] := by
  obtain ⟨⟨⟨params, id, status, createdAt, updatedAt⟩, events⟩, readings, recorded⟩ := lifetime
  unfold ending
  rw [List.append_nil]
  cases status <;> cases eventTypes <;> rfl

theorem run_pullDomainEvents : Method.pullDomainEvents lifetime =
    (.ok lifetime.subscription.pullDomainEvents.1,
      { lifetime with subscription := lifetime.subscription.pullDomainEvents.2 }) := rfl

end Lifetime

/-! ### Calls -/

inductive MethodCall where
  | pause
  | resume
  | delete
  | updateTargetUrl (targetUrl : TargetUrl)
  | updateSubscribedEventTypes (eventTypes : List EventType)
  | pullDomainEvents

def Method.silently (method : Method Unit) : Method (List DomainEvent) := do
  method
  return []

/-- The call of a method, with the events it returns. -/
def MethodCall.invoke (clock : Clock) : MethodCall → Method (List DomainEvent)
  | pause => (Method.pause clock).silently
  | resume => (Method.resume clock).silently
  | delete => (Method.delete clock).silently
  | updateTargetUrl targetUrl => (Method.updateTargetUrl targetUrl clock).silently
  | updateSubscribedEventTypes eventTypes => (Method.updateSubscribedEventTypes eventTypes clock).silently
  | pullDomainEvents => Method.pullDomainEvents

/-- What a call makes of the record. -/
def MethodCall.apply (now : Date) (subscription : WebhookSubscription) :
    MethodCall → Except DomainError WebhookSubscription
  | pause => subscription.pause now
  | resume => subscription.resume now
  | delete => .ok (subscription.delete now)
  | updateTargetUrl targetUrl => subscription.updateTargetUrl targetUrl now
  | updateSubscribedEventTypes eventTypes => subscription.updateSubscribedEventTypes eventTypes now
  | pullDomainEvents => .ok subscription.pullDomainEvents.2

/-- `after` is `before` with fields changed at `now` and `events` recorded. -/
structure Changed (before : WebhookSubscription) (now : Date) (events : List DomainEvent)
    (after : WebhookSubscription) : Prop where
  not_deleted : before.status ≠ .DELETED
  createdAt : after.createdAt = before.createdAt
  updatedAt : after.updatedAt = now
  eventTypes : before.subscribedEventTypes ≠ [] → after.subscribedEventTypes ≠ []
  domainEvents : after.domainEvents = before.domainEvents ++ events

/-- How a call can end. -/
inductive Outcome (clock : Clock) (lifetime : Lifetime) : Except DomainError (List DomainEvent) → Lifetime → Prop where
  | threw (error : DomainError) : Outcome clock lifetime (.error error) lifetime
  | ignored : Outcome clock lifetime (.ok []) lifetime
  | changed {subscription : WebhookSubscription} {events : List DomainEvent}
      (h : Changed lifetime.subscription (clock.reading lifetime.readings) events subscription) :
      Outcome clock lifetime (.ok [])
        { subscription, readings := lifetime.readings + 1, recorded := lifetime.recorded ++ events }
  | pulled : Outcome clock lifetime (.ok lifetime.subscription.domainEvents)
      { lifetime with subscription := { lifetime.subscription with domainEvents := [] } }

section Outcomes

variable {clock : Clock} {lifetime : Lifetime}

theorem run_silently (method : Method Unit) :
    method.silently lifetime = (((method lifetime).1.map fun _ => []), (method lifetime).2) := by
  unfold Method.silently
  simp only [bind, ExceptT.bind, ExceptT.mk, StateT.bind, ExceptT.bindCont]
  cases method lifetime with
  | mk result after => cases result <;> rfl

theorem outcome_of_ending {method : Method Unit} {result : Except DomainError WebhookSubscription}
    {events : List DomainEvent} (h : method lifetime = lifetime.ending result events)
    (hchanged : ∀ subscription, result = .ok subscription →
      Changed lifetime.subscription (clock.reading lifetime.readings) events subscription) :
    Outcome clock lifetime (method.silently lifetime).1 (method.silently lifetime).2 := by
  rw [run_silently, h]
  cases result with
  | error error => exact .threw error
  | ok subscription => exact .changed (hchanged subscription rfl)

theorem subscription_invoke (clock : Clock) (lifetime : Lifetime) (call : MethodCall) :
    (call.invoke clock lifetime).2.subscription =
      match call.apply (clock.reading lifetime.readings) lifetime.subscription with
      | .ok subscription => subscription
      | .error _ => lifetime.subscription := by
  have hending (result : Except DomainError WebhookSubscription) (events : List DomainEvent) :
      (lifetime.ending result events).2.subscription =
        match result with
        | .ok subscription => subscription
        | .error _ => lifetime.subscription := by
    cases result <;> rfl
  cases call with
  | pause => rw [MethodCall.invoke, run_silently, Lifetime.run_pause, hending]; rfl
  | resume => rw [MethodCall.invoke, run_silently, Lifetime.run_resume, hending]; rfl
  | delete =>
      rw [MethodCall.invoke, run_silently, Lifetime.run_delete]
      split
      · rename_i hdeleted
        exact (WebhookSubscription.delete_of_deleted hdeleted).symm
      · rfl
  | updateTargetUrl targetUrl =>
      rw [MethodCall.invoke, run_silently, Lifetime.run_updateTargetUrl, hending]
      rfl
  | updateSubscribedEventTypes eventTypes =>
      rw [MethodCall.invoke, run_silently, Lifetime.run_updateSubscribedEventTypes, hending]
      rfl
  | pullDomainEvents => rfl

theorem outcome_invoke (clock : Clock) (lifetime : Lifetime) (call : MethodCall) :
    Outcome clock lifetime (call.invoke clock lifetime).1 (call.invoke clock lifetime).2 := by
  cases call with
  | pause =>
      refine outcome_of_ending (Lifetime.run_pause clock lifetime) fun subscription hok => ?_
      obtain ⟨hstatus, rfl⟩ := WebhookSubscription.pause_eq_ok_iff.mp hok
      exact ⟨by simp [hstatus], rfl, rfl, id, rfl⟩
  | resume =>
      refine outcome_of_ending (Lifetime.run_resume clock lifetime) fun subscription hok => ?_
      obtain ⟨hstatus, rfl⟩ := WebhookSubscription.resume_eq_ok_iff.mp hok
      exact ⟨by simp [hstatus], rfl, rfl, id, rfl⟩
  | delete =>
      by_cases hdeleted : lifetime.subscription.status = .DELETED
      · rw [MethodCall.invoke, run_silently, Lifetime.run_delete, if_pos hdeleted]
        exact .ignored
      · have hrun := Lifetime.run_delete clock lifetime
        rw [if_neg hdeleted] at hrun
        refine outcome_of_ending hrun fun subscription hok => ?_
        cases hok
        rw [WebhookSubscription.delete_of_not_deleted hdeleted]
        exact ⟨hdeleted, rfl, rfl, id, rfl⟩
  | updateTargetUrl targetUrl =>
      refine outcome_of_ending (Lifetime.run_updateTargetUrl clock lifetime targetUrl) fun subscription hok => ?_
      obtain ⟨hstatus, rfl⟩ := WebhookSubscription.updateTargetUrl_eq_ok_iff.mp hok
      exact ⟨hstatus, rfl, rfl, id, (List.append_nil _).symm⟩
  | updateSubscribedEventTypes eventTypes =>
      refine outcome_of_ending (Lifetime.run_updateSubscribedEventTypes clock lifetime eventTypes)
        fun subscription hok => ?_
      obtain ⟨hstatus, hne, rfl⟩ := WebhookSubscription.updateSubscribedEventTypes_eq_ok_iff.mp hok
      exact ⟨hstatus, rfl, rfl, fun _ => hne, (List.append_nil _).symm⟩
  | pullDomainEvents => exact .pulled

end Outcomes

/-! ### Sequences of calls -/

def Lifetime.create (params : CreateWebhookSubscriptionParams) (id : SubscriptionId) (clock : Clock) :
    Except DomainError Lifetime := do
  let subscription ← WebhookSubscription.create params id (clock.reading 0)
  return { subscription, readings := 1, recorded := subscription.domainEvents }

/-- An aggregate with what the pulls so far have returned. -/
structure Session extends Lifetime where
  pulled : List DomainEvent

namespace Session

def start (lifetime : Lifetime) : Session := { lifetime with pulled := [] }

/-- One call; what it throws is caught. -/
def step (clock : Clock) (session : Session) (call : MethodCall) : Session :=
  match call.invoke clock session.toLifetime with
  | (.ok events, lifetime) => { lifetime with pulled := session.pulled ++ events }
  | (.error _, lifetime) => { lifetime with pulled := session.pulled }

def run (clock : Clock) (session : Session) (calls : List MethodCall) : Session := calls.foldl (step clock) session

variable {clock : Clock} {session : Session}

/-- What one call can do. -/
theorem step_cases (clock : Clock) (session : Session) (call : MethodCall) :
    session.step clock call = session ∨
    (∃ subscription events, Changed session.subscription (clock.reading session.readings) events subscription ∧
      session.step clock call = {
        subscription, readings := session.readings + 1, recorded := session.recorded ++ events
        pulled := session.pulled }) ∨
    session.step clock call = {
      session with
      subscription := { session.subscription with domainEvents := [] }
      pulled := session.pulled ++ session.subscription.domainEvents } := by
  have houtcome := outcome_invoke clock session.toLifetime call
  unfold step
  generalize call.invoke clock session.toLifetime = ended at houtcome
  obtain ⟨result, after⟩ := ended
  dsimp only at houtcome
  cases houtcome with
  | threw error => exact Or.inl rfl
  | ignored =>
      refine Or.inl ?_
      show ({ session with pulled := session.pulled ++ [] } : Session) = session
      rw [List.append_nil]
  | changed h =>
      refine Or.inr (Or.inl ⟨_, _, h, ?_⟩)
      dsimp only
      rw [List.append_nil]
  | pulled => exact Or.inr (Or.inr rfl)

/-- What holds of a session at every point. -/
structure Lawful (clock : Clock) (session : Session) : Prop where
  eventTypes : session.subscription.subscribedEventTypes ≠ []
  created_le : session.subscription.createdAt ≤ session.subscription.updatedAt
  updated_le : session.subscription.updatedAt ≤ clock.reading session.readings
  accounted : session.pulled ++ session.subscription.domainEvents = session.recorded

theorem lawful_start {params : CreateWebhookSubscriptionParams} {id : SubscriptionId} {lifetime : Lifetime}
    (h : Lifetime.create params id clock = .ok lifetime) : Lawful clock (start lifetime) := by
  obtain ⟨subscription, hcreate, hlifetime⟩ := Throwing.bind_eq_ok_iff.mp h
  cases hlifetime
  obtain ⟨hne, rfl⟩ := WebhookSubscription.create_eq_ok_iff.mp hcreate
  exact ⟨hne, Int.le_refl _, clock.monotone 0 1 (by omega), rfl⟩

theorem Lawful.step (h : Lawful clock session) (call : MethodCall) : Lawful clock (session.step clock call) := by
  obtain hstep | ⟨subscription, events, hchanged, hstep⟩ | hstep := step_cases clock session call
  · rw [hstep]
    exact h
  · rw [hstep]
    have hcreated := h.created_le
    have hupdated := h.updated_le
    refine ⟨hchanged.eventTypes h.eventTypes, ?_, ?_, ?_⟩
    · show subscription.createdAt ≤ subscription.updatedAt
      rw [hchanged.createdAt, hchanged.updatedAt]
      exact Int.le_trans hcreated hupdated
    · show subscription.updatedAt ≤ clock.reading (session.readings + 1)
      rw [hchanged.updatedAt]
      exact clock.monotone _ _ (Nat.le_succ _)
    · show session.pulled ++ subscription.domainEvents = session.recorded ++ events
      rw [hchanged.domainEvents, ← List.append_assoc, h.accounted]
  · rw [hstep]
    refine ⟨h.eventTypes, h.created_le, h.updated_le, ?_⟩
    rw [List.append_nil]
    exact h.accounted

theorem Lawful.run (h : Lawful clock session) (calls : List MethodCall) : Lawful clock (session.run clock calls) := by
  induction calls generalizing session with
  | nil => exact h
  | cons call rest ih => exact ih (h.step call)

theorem Lawful.updatedAt_le_step (h : Lawful clock session) (call : MethodCall) :
    session.subscription.updatedAt ≤ (session.step clock call).subscription.updatedAt := by
  obtain hstep | ⟨subscription, events, hchanged, hstep⟩ | hstep := step_cases clock session call
  · exact Int.le_of_eq (congrArg (fun s : Session => s.subscription.updatedAt) hstep.symm)
  · rw [hstep]
    show _ ≤ subscription.updatedAt
    rw [hchanged.updatedAt]
    exact h.updated_le
  · have hkept := congrArg (fun s : Session => s.subscription.updatedAt) hstep
    exact Int.le_of_eq hkept.symm

theorem Lawful.updatedAt_le_run (h : Lawful clock session) (calls : List MethodCall) :
    session.subscription.updatedAt ≤ (session.run clock calls).subscription.updatedAt := by
  induction calls generalizing session with
  | nil => exact Int.le_refl _
  | cons call rest ih => exact Int.le_trans (h.updatedAt_le_step call) (ih (h.step call))

theorem step_of_deleted (h : session.subscription.status = .DELETED) (call : MethodCall) :
    (session.step clock call).subscription.toRestoreWebhookSubscriptionProps =
        session.subscription.toRestoreWebhookSubscriptionProps ∧
      (session.step clock call).recorded = session.recorded := by
  obtain hstep | ⟨subscription, events, hchanged, -⟩ | hstep := step_cases clock session call
  · rw [hstep]
    exact ⟨rfl, rfl⟩
  · exact absurd h hchanged.not_deleted
  · rw [hstep]
    exact ⟨rfl, rfl⟩

/-- A pull brings what has been pulled up to what has been recorded, and nothing is left to pull. -/
theorem Lawful.pull (h : Lawful clock session) :
    (session.step clock .pullDomainEvents).pulled = session.recorded ∧
      (session.step clock .pullDomainEvents).subscription.domainEvents = [] ∧
      (session.step clock .pullDomainEvents).recorded = session.recorded := by
  have hstep : session.step clock .pullDomainEvents =
      { session with
        subscription := session.subscription.pullDomainEvents.2
        pulled := session.pulled ++ session.subscription.pullDomainEvents.1 } := by
    rw [Session.step, MethodCall.invoke, Lifetime.run_pullDomainEvents]
  rw [hstep]
  exact ⟨h.accounted, rfl, rfl⟩

theorem subscription_step (clock : Clock) (session : Session) (call : MethodCall) :
    (session.step clock call).subscription = (call.invoke clock session.toLifetime).2.subscription := by
  unfold step
  cases call.invoke clock session.toLifetime with
  | mk result after => cases result <;> rfl

theorem subscription_of_threw {call : MethodCall} {error : DomainError} {lifetime after : Lifetime}
    (h : call.invoke clock lifetime = (.error error, after)) : after = lifetime := by
  have houtcome := outcome_invoke clock lifetime call
  rw [h] at houtcome
  cases houtcome with
  | threw => rfl

/-- What an aggregate is to uphold at every point of its life. -/
structure Upholds (clock : Clock) (session : Session) : Prop where
  eventTypes_ne_nil : session.subscription.subscribedEventTypes ≠ []
  created_le_updated : session.subscription.createdAt ≤ session.subscription.updatedAt
  updated_never_decreases : ∀ calls,
    session.subscription.updatedAt ≤ (session.run clock calls).subscription.updatedAt
  threw_unchanged : ∀ (call : MethodCall) error after, call.invoke clock session.toLifetime = (.error error, after) →
    after.subscription = session.subscription ∧ after.recorded = session.recorded
  deleted_unchanged : session.subscription.status = .DELETED → ∀ call,
    (session.step clock call).subscription.toRestoreWebhookSubscriptionProps =
        session.subscription.toRestoreWebhookSubscriptionProps ∧
      (session.step clock call).recorded = session.recorded
  pulled_once : session.pulled ++ session.subscription.domainEvents = session.recorded
  pull_complete : (session.step clock .pullDomainEvents).pulled = session.recorded ∧
    (session.step clock .pullDomainEvents).subscription.domainEvents = [] ∧
    (session.step clock .pullDomainEvents).recorded = session.recorded
  as_on_records : ∀ call, (session.step clock call).subscription =
    match call.apply (clock.reading session.readings) session.subscription with
    | .ok subscription => subscription
    | .error _ => session.subscription

/-- After any calls on a new subscription. -/
theorem upholds_run {params : CreateWebhookSubscriptionParams} {id : SubscriptionId} {lifetime : Lifetime}
    (h : Lifetime.create params id clock = .ok lifetime) (calls : List MethodCall) :
    Upholds clock ((start lifetime).run clock calls) := by
  have hlawful := (lawful_start h).run calls
  refine ⟨hlawful.eventTypes, hlawful.created_le, hlawful.updatedAt_le_run, fun call error after hthrew => ?_,
    fun hdeleted call => step_of_deleted hdeleted call, hlawful.accounted, hlawful.pull, fun call => ?_⟩
  · rw [subscription_of_threw hthrew]
    exact ⟨rfl, rfl⟩
  · rw [subscription_step, subscription_invoke]

end Session

end Life

section Sample

attribute [local instance] samplePlatform

def tickingClock : Clock := ⟨fun n => n, fun _ _ h => Int.ofNat_le.mpr h⟩

theorem canonical_inbound : ∃ raw url, Platform.newURL raw = some url ∧ URL.Accepted url ∧
    url.href = "https://client.example.com/inbound" :=
  ⟨"https://client.example.com/inbound", URL.https "client.example.com" "/inbound", rfl, ⟨rfl, rfl, rfl, by decide⟩, rfl⟩

theorem client_nonBlank : Text.isBlank "client-1" = false := by decide

theorem eventType_nonBlank : Text.isBlank "order.created" = false := by decide

def inboundTarget : TargetUrl := ⟨"https://client.example.com/inbound", canonical_inbound⟩

def sampleParams : CreateWebhookSubscriptionParams where
  tenantId := sampleTenant
  createdByClientId := ⟨"client-1", client_nonBlank⟩
  createdByUserId := none
  targetUrl := inboundTarget
  subscribedEventTypes := [⟨"order.created", eventType_nonBlank⟩]

def sampleLifetime : Lifetime where
  subscription := {
    sampleParams with
    id := sampleId
    status := .ACTIVE
    createdAt := 0
    updatedAt := 0
    domainEvents := [.SubscriptionCreated sampleId.value 0] }
  readings := 1
  recorded := [.SubscriptionCreated sampleId.value 0]

theorem create_sampleParams : Lifetime.create sampleParams sampleId tickingClock = .ok sampleLifetime := rfl

theorem upholds_run_sample :
    Session.Upholds tickingClock ((Session.start sampleLifetime).run tickingClock
      [.resume, .pause, .pullDomainEvents, .updateSubscribedEventTypes [], .delete, .updateTargetUrl inboundTarget,
        .pullDomainEvents]) :=
  Session.upholds_run create_sampleParams _

end Sample

end WebhookIdp.Subscription
