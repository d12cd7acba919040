import WebhookIdp.Subscription.Transactions

/-!
# Requests handled one after the other

What a request does when no other request runs in between, from its arrival to its answer.
-/

namespace WebhookIdp.Subscription

variable [Platform]

/-- Handle one request to completion. -/
def serve (request : Request) (order : NaturalOrder) (world : World) : Except Exception Response × World :=
  request.execute.eval (fun op => perform op order) world

/-- Handle the requests of a list, each to completion before the next. -/
def serveAll (world : World) (requests : List (Request × NaturalOrder)) : World :=
  requests.foldl (fun world request => (serve request.1 request.2 world).2) world

def World.initial : World := { subscriptions := .empty, published := [] }

variable {request : Request} {order : NaturalOrder} {world : World} {subscription : WebhookSubscription}

/-- How a writing request ends: either everything is saved and published, or the unique index refuses the save
and nothing happens. -/
theorem eval_saveAndPublish_cases (order : NaturalOrder) (world : World) (subscription : WebhookSubscription) :
    (∃ store, world.subscriptions.save subscription = some store ∧
      (saveAndPublish subscription).eval (fun op => perform op order) world =
        (.ok subscription.drained,
          { subscriptions := store, published := world.published ++ subscription.domainEvents })) ∨
    (world.subscriptions.Conflicts (toDocument subscription) ∧
      (saveAndPublish subscription).eval (fun op => perform op order) world = (.error duplicateKeyError, world)) := by
  rcases perform_save_cases world order subscription with ⟨-, store, hsave, hperform⟩ | ⟨hconflict, hperform⟩
  · refine Or.inl ⟨store, hsave, ?_⟩
    have hsaved : (UseCase.request (.save subscription)).eval (fun op => perform op order) world =
        (.ok (), { world with subscriptions := store }) := hperform
    exact Concurrent.Program.eval_bind_of_ok hsaved
  · refine Or.inr ⟨hconflict, ?_⟩
    have hrefused : (UseCase.request (.save subscription)).eval (fun op => perform op order) world =
        (.error duplicateKeyError, world) := hperform
    exact Concurrent.Program.eval_bind_of_error hrefused

theorem eval_saving_cases (order : NaturalOrder) (world : World) (subscription : WebhookSubscription) :
    (∃ store, world.subscriptions.save subscription = some store ∧
      (saving subscription).eval (fun op => perform op order) world =
        (.ok (.subscription subscription.drained),
          { subscriptions := store, published := world.published ++ subscription.domainEvents })) ∨
    (world.subscriptions.Conflicts (toDocument subscription) ∧
      (saving subscription).eval (fun op => perform op order) world = (.error duplicateKeyError, world)) := by
  rcases eval_saveAndPublish_cases order world subscription with ⟨store, hsave, heval⟩ | ⟨hconflict, heval⟩
  · exact Or.inl ⟨store, hsave, Concurrent.Program.eval_bind_of_ok heval⟩
  · exact Or.inr ⟨hconflict, Concurrent.Program.eval_bind_of_error heval⟩

/-- The request saved `subscription`, which it had decided on, and published its events. -/
structure Wrote (request : Request) (world : World) (subscription : WebhookSubscription)
    (outcome : Except Exception Response × World) : Prop where
  decides : Decides world.subscriptions request subscription
  saved : world.subscriptions.save subscription = some outcome.2.subscriptions
  answer : outcome.1 = .ok (.subscription subscription.drained)
  published : outcome.2.published = world.published ++ subscription.domainEvents

/-- The request changed nothing: it failed, or it only reads. -/
structure Idle (request : Request) (world : World) (outcome : Except Exception Response × World) : Prop where
  unchanged : outcome.2 = world
  failed_or_reads : (∃ exception, outcome.1 = .error exception) ∨ ∃ op respond, request.Queries op respond

theorem serve_cases (request : Request) (order : NaturalOrder) (world : World) :
    Idle request world (serve request order world) ∨
      ∃ subscription, Wrote request world subscription (serve request order world) := by
  have hform := execute_form request
  unfold serve
  generalize request.execute = program at hform ⊢
  cases hform with
  | refused error => exact Or.inl ⟨rfl, Or.inl ⟨_, rfl⟩⟩
  | @query op respond hquery => exact Or.inl ⟨hquery.state_eq order world, Or.inr ⟨op, respond, hquery⟩⟩
  | @transaction op decide htransacts =>
      rw [transaction, Concurrent.Program.eval, htransacts.state_eq order world]
      generalize hanswer : (perform op order world).1 >>= decide = answer
      cases answer with
      | error exception => exact Or.inl ⟨rfl, Or.inl ⟨exception, rfl⟩⟩
      | ok subscription =>
          have hdecides := htransacts.decides hanswer
          rcases eval_saving_cases order world subscription with ⟨store, hsave, heval⟩ | ⟨-, heval⟩
          · right
            refine ⟨subscription, ?_⟩
            simp only [heval]
            exact ⟨hdecides, hsave, rfl, rfl⟩
          · left
            simp only [heval]
            exact ⟨rfl, Or.inl ⟨_, rfl⟩⟩

theorem serve_of_error {exception : Exception} (h : (serve request order world).1 = .error exception) :
    (serve request order world).2 = world := by
  rcases serve_cases request order world with hidle | ⟨subscription, hwrote⟩
  · exact hidle.unchanged
  · rw [hwrote.answer] at h
    cases h

/-! ### What a save leaves stored -/

namespace SubscriptionStore

variable {store store' : SubscriptionStore} {id : String}

theorem get?_save_of_ne (h : store.save subscription = some store') (hne : id ≠ subscription.id.value) :
    store'.get? id = store.get? id := by
  apply Option.ext
  intro record
  simp only [DocumentStore.Collection.get?_eq_some_iff, mem_save h]
  constructor
  · rintro ⟨rfl | ⟨hold, -⟩, hid⟩
    · exact absurd hid.symm hne
    · exact ⟨hold, hid⟩
  · rintro ⟨hold, rfl⟩
    exact ⟨Or.inr ⟨hold, hne⟩, rfl⟩

end SubscriptionStore

theorem Wrote.stored_self {outcome : Except Exception Response × World}
    (h : Wrote request world subscription outcome) :
    outcome.2.stored subscription.id.value = some (toDocument subscription) :=
  SubscriptionStore.get?_save_self h.saved

theorem Wrote.stored_of_ne {outcome : Except Exception Response × World} {id : String}
    (h : Wrote request world subscription outcome) (hne : id ≠ subscription.id.value) :
    outcome.2.stored id = world.stored id :=
  SubscriptionStore.get?_save_of_ne h.saved hne

theorem SubscriptionMongoRepository.stored_of_found {store : SubscriptionStore} {id : SubscriptionId}
    {tenantId : TenantId} (h : findByIdAndTenant store id tenantId = .ok (some subscription)) :
    ∃ record, store.get? id.value = some record ∧ record.tenantId = tenantId.value ∧
      toAggregate record = .ok subscription := by
  obtain ⟨record, hfind, hread⟩ := rehydrate_eq_ok_some_iff.mp h
  have hkey := List.find?_some hfind
  rw [Bool.and_eq_true, beq_iff_eq, beq_iff_eq] at hkey
  exact ⟨record, (DocumentStore.Collection.get?_eq_some_iff _).mpr ⟨List.mem_of_find?_eq_some hfind, hkey.1⟩,
    hkey.2, hread⟩

end WebhookIdp.Subscription
