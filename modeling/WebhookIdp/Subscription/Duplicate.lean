import WebhookIdp.Subscription.Stages

/-!
# Requests that would store a target URL twice

Two calls can meet a second subscription with the tenant and target URL of a request: the duplicate check
of a POST and any save. Either way the request fails and changes nothing. Only the duplicate check throws
`DuplicateSubscriptionError`; a save that meets the unique index throws the error of the database driver,
which no layer above translates.
-/

namespace WebhookIdp.Subscription

open Concurrent (Program System)

section Duplicate

variable [Platform]

/-- With this call the request is about to leave the tenant with two stored subscriptions of one target
URL: its save conflicts with a stored one, or its duplicate check finds one. -/
def WouldDuplicate (world : World) : RepositoryCall → Prop
  | .save subscription => world.subscriptions.Conflicts (toDocument subscription)
  | .findByTenantAndTargetUrl tenantId targetUrl =>
      ∃ record ∈ world.subscriptions.docs, record.tenantAndTargetUrl = (tenantId.value, targetUrl.value)
  | _ => False

instance (world : World) : DecidablePred (WouldDuplicate world)
  | .save subscription => inferInstanceAs (Decidable (world.subscriptions.Conflicts (toDocument subscription)))
  | .findByTenantAndTargetUrl tenantId targetUrl => inferInstanceAs (Decidable (∃ record ∈ world.subscriptions.docs,
      record.tenantAndTargetUrl = (tenantId.value, targetUrl.value)))
  | .findByIdAndTenant _ _ => isFalse id
  | .list _ _ _ => isFalse id
  | .publishAll _ => isFalse id

variable {ι : Type} [DecidableEq ι]

/-- The move ends the request with an exception, changes neither the store nor what was published, and the
request publishes nothing in any run that continues. -/
structure Refused (start : Requests ι) (schedule : List (ι × NaturalOrder)) (move : ι × NaturalOrder)
    (exception : Exception) : Prop where
  thrown : (start.run perform (schedule ++ [move])).client move.1 = .done (.error exception)
  unchanged : (start.run perform (schedule ++ [move])).state = (start.run perform schedule).state
  silent : ∀ rest events,
    .publishAll events ∉ System.calls perform move.1 start (schedule ++ move :: rest)

/-- The request is refused with `DuplicateSubscriptionError`, answered with status 409. -/
def RefusedAsDuplicate (start : Requests ι) (schedule : List (ι × NaturalOrder)) (move : ι × NaturalOrder) :
    Prop :=
  ∃ message, Refused start schedule move (.application (.duplicateSubscription message)) ∧
    (DomainExceptionFilter.resolve (.application (.duplicateSubscription message))).status = 409

variable {requests : ι → Request} {world : World} {schedule : List (ι × NaturalOrder)}
  {move : ι × NaturalOrder}

theorem refused_of_failed {op : RepositoryCall}
    {next : Except Exception op.Answer → UseCase Response} {exception : Exception}
    (hclient : ((Requests.start requests world).run perform schedule).client move.1 = .call op next)
    (hop : ∀ events, op ≠ .publishAll events)
    (hstate : (perform op move.2 ((Requests.start requests world).run perform schedule).state).2 =
      ((Requests.start requests world).run perform schedule).state)
    (hnext : next (perform op move.2 ((Requests.start requests world).run perform schedule).state).1 =
      .done (.error exception)) :
    Refused (Requests.start requests world) schedule move exception := by
  have hthrown : ((Requests.start requests world).run perform (schedule ++ [move])).client move.1 =
      .done (.error exception) := by
    rw [System.run_concat, System.client_step_of_call hclient, hnext]
  refine ⟨hthrown, ?_, fun rest events hpublished => ?_⟩
  · rw [System.run_concat, System.state_step_of_call hclient, hstate]
  · rw [List.append_cons, System.calls_append, System.calls_of_done rest hthrown, List.append_nil,
      System.calls_append, List.mem_append] at hpublished
    rcases hpublished with hbefore | hmove
    · obtain ⟨result, hdone⟩ := done_of_published (pending_execute (requests move.1)) hbefore
      rw [hclient] at hdone
      cases hdone
    · rw [System.calls, System.calls, List.append_nil, if_pos rfl, Option.mem_toList, System.nextCall,
        hclient] at hmove
      exact hop events (Option.some.inj hmove)

/-- The duplicate check finds the stored subscription unless that one cannot be read back. -/
theorem findByTenantAndTargetUrl_cases (hurl : URL.ReparsesSerialised) {store : SubscriptionStore}
    {tenantId : TenantId} {targetUrl : TargetUrl}
    (h : ∃ record ∈ store.docs, record.tenantAndTargetUrl = (tenantId.value, targetUrl.value)) :
    (Text.length targetUrl.value ≤ MAX_LENGTH ∧ ∃ existing,
      SubscriptionMongoRepository.findByTenantAndTargetUrl store tenantId targetUrl = .ok (some existing)) ∨
    (MAX_LENGTH < Text.length targetUrl.value ∧ ∃ error,
      SubscriptionMongoRepository.findByTenantAndTargetUrl store tenantId targetUrl = .error error) := by
  obtain ⟨record, hmem, hindex⟩ := h
  have hmatch : (record.tenantId == tenantId.value && record.targetUrl == targetUrl.value) = true := by
    rw [Bool.and_eq_true, beq_iff_eq, beq_iff_eq]
    exact Prod.mk.inj hindex
  have hsome : (store.docs.find? fun record =>
      record.tenantId == tenantId.value && record.targetUrl == targetUrl.value).isSome :=
    List.find?_isSome.mpr ⟨record, hmem, hmatch⟩
  obtain ⟨found, hfind⟩ := Option.isSome_iff_exists.mp hsome
  have hfound := List.find?_some hfind
  rw [Bool.and_eq_true, beq_iff_eq, beq_iff_eq] at hfound
  obtain ⟨writer, hwriter⟩ := store.written found (List.mem_of_find?_eq_some hfind)
  have htarget : writer.targetUrl.value = targetUrl.value := by
    rw [← hfound.2, ← hwriter]
    rfl
  rw [SubscriptionMongoRepository.findByTenantAndTargetUrl, hfind, ← hwriter]
  rcases Nat.lt_or_ge MAX_LENGTH (Text.length targetUrl.value) with hlong | hshort
  · refine Or.inr ⟨hlong, ?_⟩
    rcases hread : toAggregate (toDocument writer) with error | aggregate
    · exact ⟨error, by rw [SubscriptionMongoRepository.rehydrate, Option.mapM_some, hread]; rfl⟩
    · have hlength := ((toAggregate_toDocument_eq_ok_iff hurl).mp hread).1
      rw [htarget] at hlength
      omega
  · refine Or.inl ⟨hshort, writer.drained, ?_⟩
    rw [SubscriptionMongoRepository.rehydrate_eq_ok_some_iff]
    exact ⟨_, rfl, toAggregate_toDocument hurl (htarget ▸ hshort)⟩

theorem Request.Transacts.of_wouldDuplicate (hurl : URL.ReparsesSerialised) {request : Request}
    {op : RepositoryCall} {decide : op.Answer → Except Exception WebhookSubscription} {world : World}
    (h : request.Transacts op decide) (hduplicate : WouldDuplicate world op) (order : NaturalOrder) :
    ∃ tenantId targetUrl, op = .findByTenantAndTargetUrl tenantId targetUrl ∧
      ((Text.length targetUrl.value ≤ MAX_LENGTH ∧ ∃ message,
          (perform op order world).1 >>= decide = .error (.application (.duplicateSubscription message))) ∨
        (MAX_LENGTH < Text.length targetUrl.value ∧ ∃ error,
          (perform op order world).1 >>= decide = .error (.domain error))) := by
  cases h with
  | @create _ _ _ tenantId targetUrl htenant htarget =>
      refine ⟨tenantId, targetUrl, rfl, ?_⟩
      rcases findByTenantAndTargetUrl_cases hurl hduplicate with ⟨hshort, existing, hfound⟩ | ⟨hlong, error, hfound⟩
      · exact Or.inl ⟨hshort, _, by rw [perform, hfound]; rfl⟩
      · exact Or.inr ⟨hlong, error, by rw [perform, hfound]; rfl⟩
  | update hid htenant => exact absurd hduplicate id
  | delete hid htenant => exact absurd hduplicate id

theorem Request.Queries.not_wouldDuplicate {request : Request} {op : RepositoryCall}
    {respond : op.Answer → Except Exception Response} {world : World} (h : request.Queries op respond) :
    ¬ WouldDuplicate world op := by
  cases h <;> exact id

theorem not_refusedAsDuplicate {start : Requests ι} {exception : Exception}
    (h : Refused start schedule move exception)
    (hother : ∀ message, exception ≠ .application (.duplicateSubscription message)) :
    ¬ RefusedAsDuplicate start schedule move := by
  intro hrefused
  obtain ⟨message, hduplicate, -⟩ := hrefused
  have hthrown := h.thrown.symm.trans hduplicate.thrown
  cases hthrown
  exact hother message rfl

/-- In every interleaving, a request about to store a target URL twice is refused. It is refused as a
duplicate exactly when the call that meets the stored subscription is the duplicate check of a POST, and
the URL is one that can be read back. -/
theorem refused_as_duplicate_iff (hurl : URL.ReparsesSerialised) (requests : ι → Request) (world : World)
    (schedule : List (ι × NaturalOrder)) (move : ι × NaturalOrder) (op : RepositoryCall)
    (hnext : ((Requests.start requests world).run perform schedule).nextCall move.1 = some op)
    (hduplicate : WouldDuplicate ((Requests.start requests world).run perform schedule).state op) :
    (∃ exception, Refused (Requests.start requests world) schedule move exception) ∧
      (RefusedAsDuplicate (Requests.start requests world) schedule move ↔
        ∃ tenantId targetUrl, op = .findByTenantAndTargetUrl tenantId targetUrl ∧
          Text.length targetUrl.value ≤ MAX_LENGTH) := by
  have hpending : Pending (requests move.1) (((Requests.start requests world).run perform schedule).client move.1) :=
    Pending.run (pending_execute (requests move.1)) schedule
  rw [System.nextCall] at hnext
  generalize hclient : ((Requests.start requests world).run perform schedule).client move.1 = program at hnext hpending
  cases hpending with
  | done result => cases hnext
  | @transaction op decide h =>
      cases hnext
      obtain ⟨tenantId, targetUrl, hop, hanswer⟩ := h.of_wouldDuplicate hurl hduplicate move.2
      rcases hanswer with ⟨hshort, message, herror⟩ | ⟨hlong, error, herror⟩
      · have hrefused : Refused (Requests.start requests world) schedule move
            (.application (.duplicateSubscription message)) :=
          refused_of_failed hclient (fun events => h.ne_publishAll) (h.state_eq move.2 _) (by simp only [herror])
        exact ⟨⟨_, hrefused⟩, fun _ => ⟨tenantId, targetUrl, hop, hshort⟩, fun _ => ⟨message, hrefused, rfl⟩⟩
      · have hrefused : Refused (Requests.start requests world) schedule move (.domain error) :=
          refused_of_failed hclient (fun events => h.ne_publishAll) (h.state_eq move.2 _) (by simp only [herror])
        refine ⟨⟨_, hrefused⟩, iff_of_false (not_refusedAsDuplicate hrefused fun _ h => by cases h) fun hcheck => ?_⟩
        obtain ⟨tenantId', targetUrl', hop', hshort⟩ := hcheck
        have hsame := hop.symm.trans hop'
        cases hsame
        omega
  | query h =>
      cases hnext
      exact absurd hduplicate h.not_wouldDuplicate
  | saving subscription =>
      have hcall := hclient.trans (saving_eq subscription)
      rw [saving_eq] at hnext
      cases hnext
      rcases perform_save_cases ((Requests.start requests world).run perform schedule).state move.2 subscription with
        ⟨hfree, -⟩ | ⟨-, hperform⟩
      · exact absurd hduplicate hfree
      · have hrefused : Refused (Requests.start requests world) schedule move duplicateKeyError :=
          refused_of_failed hcall (fun _ h => by cases h) (by rw [hperform]) (by rw [hperform])
        refine ⟨⟨_, hrefused⟩, iff_of_false (not_refusedAsDuplicate hrefused fun _ h => by cases h) fun hcheck => ?_⟩
        obtain ⟨_, _, hop, -⟩ := hcheck
        cases hop
  | publishing subscription =>
      cases hnext
      exact absurd hduplicate id

end Duplicate

section Sample

attribute [local instance] samplePlatform

def sampleTarget : TargetUrl where
  value := "https://client.example.com/inbound"
  canonical := ⟨"https://client.example.com/inbound", URL.https "client.example.com" "/inbound", by decide,
    ⟨rfl, rfl, rfl, by decide⟩, rfl⟩

/-- A POST of a target URL that the tenant has already. -/
theorem create_taken_url_refused :
    RefusedAsDuplicate (Requests.start (fun _ : Unit => .create sampleInput otherId 1) sampleWorld) []
      ((), .insertion) := by
  refine (refused_as_duplicate_iff samplePlatform_reparsesSerialised _ sampleWorld [] ((), .insertion)
    (.findByTenantAndTargetUrl sampleTenant sampleTarget) rfl ?_).2.mpr ⟨_, _, rfl, by decide⟩
  decide

def failureStatus : UseCase Response → Option Nat
  | .done (.error exception) => some (DomainExceptionFilter.resolve exception).status
  | _ => none

def patchToTakenUrl : Request :=
  .update
    { id := "018f5b3e-9c1b-7c3e-8f3a-6b6b6b6b6b6b", tenantId := "tenant-1"
      targetUrl := some "https://client.example.com/inbound", eventTypes := none, status := none }
    fun _ => 1

/-- A PATCH to a target URL that the tenant has already is answered with status 500. -/
theorem patch_taken_url_not_refused_as_duplicate :
    (∃ op, ((Requests.start (fun _ : Unit => patchToTakenUrl) twoSubscriptions).run perform
        [((), .insertion)]).nextCall () = some op ∧
      WouldDuplicate ((Requests.start (fun _ : Unit => patchToTakenUrl) twoSubscriptions).run perform
        [((), .insertion)]).state op) ∧
      ¬ RefusedAsDuplicate (Requests.start (fun _ : Unit => patchToTakenUrl) twoSubscriptions)
        [((), .insertion)] ((), .insertion) := by
  refine ⟨⟨_, rfl, by decide⟩, fun hrefused => ?_⟩
  obtain ⟨message, hrefused, -⟩ := hrefused
  have hstatus : failureStatus (((Requests.start (fun _ : Unit => patchToTakenUrl) twoSubscriptions).run perform
      [((), .insertion), ((), .insertion)]).client ()) = some 500 := by decide
  have hthrown := hrefused.thrown
  rw [List.singleton_append] at hthrown
  rw [hthrown] at hstatus
  cases hstatus

end Sample

end WebhookIdp.Subscription
