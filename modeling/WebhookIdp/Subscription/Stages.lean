import WebhookIdp.Subscription.Transactions

/-!
# Requests along a run

A writing request waits, then has decided what to save, then has saved it and publishes, and is done. What
it saves was decided on what was stored when it made its lookup.
-/

namespace WebhookIdp.Subscription

variable [Platform]

open Concurrent (Program System)

section Stages

variable {ι : Type} [DecidableEq ι] {start : Requests ι} {i : ι} {schedule : List (ι × NaturalOrder)}
  {op : RepositoryCall} {decide : op.Answer → Except Exception WebhookSubscription}
  {subscription : WebhookSubscription}

/-- Along the schedule the request has made its lookup, and decided to save `subscription`. -/
def Decided (start : Requests ι) (i : ι) (op : RepositoryCall)
    (decide : op.Answer → Except Exception WebhookSubscription) (schedule : List (ι × NaturalOrder))
    (subscription : WebhookSubscription) : Prop :=
  ∃ before order after, schedule = before ++ (i, order) :: after ∧ i ∉ before.map Prod.fst ∧
    ((perform op order (start.run perform before).state).1 >>= decide) = .ok subscription

/-- The programs that are left of a request once it has decided. -/
inductive Committing (subscription : WebhookSubscription) : UseCase Response → Prop
  | saving : Committing subscription (saving subscription)
  | failed (exception : Exception) : Committing subscription (.done (.error exception))
  | publishing : Committing subscription (publishing subscription)
  | saved : Committing subscription (.done (.ok (.subscription subscription.drained)))

theorem Committing.answered {op : RepositoryCall} {next : Except Exception op.Answer → UseCase Response}
    (h : Committing subscription (.call op next)) (answer : Except Exception op.Answer) :
    Committing subscription (next answer) := by
  generalize hprogram : Program.call op next = program at h
  cases h with
  | saving =>
      rw [saving_eq] at hprogram
      cases hprogram
      cases answer with
      | error exception => exact Committing.failed exception
      | ok _ => exact Committing.publishing
  | failed exception => cases hprogram
  | publishing =>
      cases hprogram
      cases answer with
      | error exception => exact Committing.failed exception
      | ok _ => exact Committing.saved
  | saved => cases hprogram

theorem Committing.run (h : Committing subscription (start.client i)) (schedule : List (ι × NaturalOrder)) :
    Committing subscription ((start.run perform schedule).client i) :=
  System.client_run_invariant (fun _ _ hcall => hcall.answered) h schedule

/-- How far a writing request has come. -/
theorem transaction_run (hstart : start.client i = transaction op decide)
    (schedule : List (ι × NaturalOrder)) :
    (i ∉ schedule.map Prod.fst ∧ (start.run perform schedule).client i = transaction op decide) ∨
      (∃ exception, (start.run perform schedule).client i = .done (.error exception)) ∨
      ∃ subscription, Decided start i op decide schedule subscription ∧
        Committing subscription ((start.run perform schedule).client i) := by
  rcases System.run_of_call hstart schedule with hwaiting | ⟨before, order, after, rfl, hbefore, hclient⟩
  · exact Or.inl hwaiting
  · refine Or.inr ?_
    rw [List.append_cons, System.run_append]
    rcases hdecide : (perform op order (start.run perform before).state).1 >>= decide with exception | result
    · simp only [hdecide] at hclient
      exact Or.inl ⟨exception, System.client_run_of_done after hclient⟩
    · simp only [hdecide] at hclient
      have hcommit : Committing result ((start.run perform (before ++ [(i, order)])).client i) :=
        hclient ▸ Committing.saving
      exact Or.inr ⟨result, ⟨before, order, after, List.append_cons .. ▸ rfl, hbefore, hdecide⟩,
        hcommit.run after⟩

/-- The programs that can be left of a request. -/
inductive Pending (request : Request) : UseCase Response → Prop
  | done (result : Except Exception Response) : Pending request (.done result)
  | transaction {op : RepositoryCall} {decide : op.Answer → Except Exception WebhookSubscription}
      (h : request.Transacts op decide) : Pending request (transaction op decide)
  | query {op : RepositoryCall} {respond : op.Answer → Except Exception Response}
      (h : request.Queries op respond) : Pending request (query op respond)
  | saving (subscription : WebhookSubscription) : Pending request (saving subscription)
  | publishing (subscription : WebhookSubscription) : Pending request (publishing subscription)

theorem pending_execute (request : Request) : Pending request request.execute := by
  have hform := execute_form request
  generalize request.execute = program at hform
  cases hform with
  | refused error => exact Pending.done _
  | transaction h => exact Pending.transaction h
  | query h => exact Pending.query h

theorem Pending.answered {request : Request} {op : RepositoryCall}
    {next : Except Exception op.Answer → UseCase Response} (h : Pending request (.call op next))
    (answer : Except Exception op.Answer) : Pending request (next answer) := by
  generalize hprogram : Program.call op next = program at h
  cases h with
  | done result => cases hprogram
  | @transaction op decide h =>
      cases hprogram
      dsimp only
      cases answer >>= decide with
      | error exception => exact Pending.done _
      | ok result => exact Pending.saving result
  | query h =>
      cases hprogram
      exact Pending.done _
  | saving subscription =>
      rw [saving_eq] at hprogram
      cases hprogram
      cases answer with
      | error exception => exact Pending.done _
      | ok _ => exact Pending.publishing subscription
  | publishing subscription =>
      cases hprogram
      exact Pending.done _

theorem Pending.step {request : Request} (h : Pending request (start.client i)) (move : ι × NaturalOrder) :
    Pending request ((start.step perform move).client i) :=
  System.client_step_invariant (fun _ _ hcall => hcall.answered) h move

theorem Pending.run {request : Request} (h : Pending request (start.client i))
    (schedule : List (ι × NaturalOrder)) : Pending request ((start.run perform schedule).client i) :=
  System.client_run_invariant (fun _ _ hcall => hcall.answered) h schedule

theorem done_of_published {request : Request} (h : Pending request (start.client i))
    {schedule : List (ι × NaturalOrder)} {events : List DomainEvent}
    (hpublished : .publishAll events ∈ System.calls perform i start schedule) :
    ∃ result, (start.run perform schedule).client i = .done result := by
  induction schedule generalizing start with
  | nil => cases hpublished
  | cons move rest ih =>
      rw [System.calls, List.mem_append] at hpublished
      rcases hpublished with hfirst | hrest
      · by_cases hi : move.1 = i
        · subst hi
          rw [if_pos rfl, Option.mem_toList, System.nextCall] at hfirst
          generalize hclient : start.client move.1 = program at h hfirst
          cases h with
          | done result => cases hfirst
          | transaction h => exact absurd (Option.some.inj hfirst) h.ne_publishAll
          | query h => exact absurd (Option.some.inj hfirst) h.ne_publishAll
          | saving subscription =>
              rw [saving_eq] at hfirst
              cases hfirst
          | publishing subscription =>
              have hnext : (start.step perform move).client move.1 = _ := System.client_step_of_call hclient
              exact ⟨_, System.client_run_of_done rest hnext⟩
        · rw [if_neg hi] at hfirst
          cases hfirst
      · exact ih (h.step move) hrest

theorem step_store_cases (s : Requests ι) (move : ι × NaturalOrder) :
    (s.step perform move).state.subscriptions = s.state.subscriptions ∨
      ∃ subscription, s.nextCall move.1 = some (.save subscription) ∧
        s.state.subscriptions.save subscription = some (s.step perform move).state.subscriptions := by
  rcases hclient : s.client move.1 with result | ⟨op, next⟩
  · rw [System.step_of_done hclient]
    exact Or.inl rfl
  rw [System.state_step_of_call hclient, System.nextCall, hclient]
  rcases perform_docs_cases op move.2 s.state with hsame | ⟨subscription, rfl, hsave⟩
  · exact Or.inl hsame
  · exact Or.inr ⟨subscription, rfl, hsave⟩

/-- A request about to save has made its lookup, and decided on what was stored then. -/
theorem decided_of_saves (requests : ι → Request) (world : World) {i : ι} {schedule : List (ι × NaturalOrder)}
    {subscription : WebhookSubscription}
    (hnext : ((Requests.start requests world).run perform schedule).nextCall i = some (.save subscription)) :
    ∃ before order after, schedule = before ++ (i, order) :: after ∧ i ∉ before.map Prod.fst ∧
      Decides ((Requests.start requests world).run perform before).state.subscriptions (requests i)
        subscription := by
  generalize hstart : Requests.start requests world = start at hnext ⊢
  have hprogram : start.client i = (requests i).execute := by
    rw [← hstart]
    rfl
  have hform := execute_form (requests i)
  rw [← hprogram] at hform
  rw [System.nextCall] at hnext
  generalize hclient : start.client i = program at hform
  cases hform with
  | refused error =>
      rw [System.client_run_of_done schedule hclient] at hnext
      cases hnext
  | @query op respond h =>
      rcases System.run_of_call hclient schedule with ⟨-, hwaiting⟩ | ⟨before, order, after, rfl, -, hdone⟩
      · rw [hwaiting] at hnext
        exact absurd (Option.some.inj hnext) (h.ne_save subscription)
      · rw [List.append_cons, System.run_append, System.client_run_of_done after hdone] at hnext
        cases hnext
  | @transaction op decide h =>
      rcases transaction_run hclient schedule with ⟨-, hwaiting⟩ | ⟨exception, hfailed⟩ | ⟨decided, hdecided, hcommit⟩
      · rw [hwaiting] at hnext
        exact absurd (Option.some.inj hnext) (h.ne_save subscription)
      · rw [hfailed] at hnext
        cases hnext
      · generalize (start.run perform schedule).client i = rest at hnext hcommit
        cases hcommit with
        | saving =>
            rw [saving_eq] at hnext
            cases hnext
            obtain ⟨before, order, after, hsplit, hbefore, hdecide⟩ := hdecided
            exact ⟨before, order, after, hsplit, hbefore, h.decides hdecide⟩
        | failed exception => cases hnext
        | publishing => cases hnext
        | saved => cases hnext

end Stages

end WebhookIdp.Subscription
