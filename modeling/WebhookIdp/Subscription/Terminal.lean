import Mathlib.Data.List.Induction
import WebhookIdp.Subscription.Stages

/-!
# When DELETED is terminal in the store

The guard that keeps a deleted subscription deleted is checked on the copy a request loaded, and `save`
replaces the whole document by `_id`. A request that loaded its copy before the deletion can therefore
bring the subscription back. As long as no save overwrites a deleted version from such a stale copy,
every later version is the deleted one.
-/

namespace WebhookIdp.Subscription

open Concurrent (Program System)

/-- A version that is deleted with the same target URL and event types. -/
structure SameDeleted (deleted later : SubscriptionRecord) : Prop where
  status : later.status = .DELETED
  targetUrl : later.targetUrl = deleted.targetUrl
  subscribedEventTypes : later.subscribedEventTypes = deleted.subscribedEventTypes

theorem SameDeleted.trans {a b c : SubscriptionRecord} (hab : SameDeleted a b) (hbc : SameDeleted b c) :
    SameDeleted a c :=
  ⟨hbc.status, hbc.targetUrl.trans hab.targetUrl,
    hbc.subscribedEventTypes.trans hab.subscribedEventTypes⟩

section Terminal

variable [Platform]

/-- A PATCH or DELETE request on the subscription `id`. -/
inductive Request.On (id : String) : Request → Prop
  | update {input : UpdateSubscriptionInput} {clock : Nat → Date} (h : input.id = id) :
      On id (.update input clock)
  | delete {input : SubscriptionKeyInput} {now : Date} (h : input.id = id) : On id (.delete input now)

def Request.isDelete : Request → Bool
  | .delete _ _ => true
  | _ => false

/-! ### What a request on one subscription saves -/

variable {store : SubscriptionStore} {request : Request} {subscription : WebhookSubscription} {id : String}

theorem Decides.loaded (hurl : URL.ReparsesSerialised) (h : Decides store request subscription)
    (hon : request.On id) :
    ∃ loaded, store.get? id = some (toDocument loaded) ∧ subscription.id.value = id ∧
      ((∃ input clock, request = .update input clock ∧ input.Applied clock loaded subscription) ∨
        ∃ input now, request = .delete input now ∧ subscription = loaded.delete now) := by
  cases h with
  | create => cases hon
  | @update input clock _ _ loaded _ hid htenant hfound happly =>
      cases hon with
      | update hinput =>
          have happlied := UpdateSubscriptionInput.apply_eq_ok happly
          obtain ⟨-, hloaded, -⟩ := SubscriptionMongoRepository.findByIdAndTenant_eq_ok_some hurl hfound
          have hstored := SubscriptionMongoRepository.get?_of_found hurl hfound
          rw [hid, hinput] at hstored hloaded
          exact ⟨loaded, hstored, by rw [happlied.id, hloaded], Or.inl ⟨input, clock, rfl, happlied⟩⟩
  | @delete input now _ _ loaded hid htenant hfound =>
      cases hon with
      | delete hinput =>
          obtain ⟨-, hloaded, -⟩ := SubscriptionMongoRepository.findByIdAndTenant_eq_ok_some hurl hfound
          have hstored := SubscriptionMongoRepository.get?_of_found hurl hfound
          rw [hid, hinput] at hstored hloaded
          refine ⟨loaded, hstored, ?_, Or.inr ⟨input, now, rfl, rfl⟩⟩
          rw [← hloaded, WebhookSubscription.delete]
          split <;> rfl

/-- An update of a deleted subscription that succeeds changes nothing. -/
theorem UpdateSubscriptionInput.Applied.sameDeleted {input : UpdateSubscriptionInput} {clock : Nat → Date}
    {loaded : WebhookSubscription} (h : input.Applied clock loaded subscription)
    (hdeleted : loaded.status = .DELETED) : SameDeleted (toDocument loaded) (toDocument subscription) := by
  have hurl : input.targetUrl = none := by
    apply Option.eq_none_iff_forall_ne_some.mpr
    intro text htext
    exact (h.targetUrl_some text htext).2 hdeleted
  have htypes : input.eventTypes = none := by
    apply Option.eq_none_iff_forall_ne_some.mpr
    intro texts htexts
    exact (h.eventTypes_some texts htexts).2.1 hdeleted
  have hstatus : input.status = none := by
    apply Option.eq_none_iff_forall_ne_some.mpr
    intro status hsome
    rcases (h.status_some status hsome).2 with ⟨-, hpaused, -⟩ | ⟨-, hactive, -⟩
    · rw [hdeleted] at hpaused
      cases hpaused
    · rw [hdeleted] at hactive
      cases hactive
  refine ⟨(h.status_none hstatus).1.trans hdeleted, ?_, ?_⟩
  · show subscription.targetUrl.value = loaded.targetUrl.value
    rw [h.targetUrl_none hurl]
  · show subscription.subscribedEventTypes.map _ = loaded.subscribedEventTypes.map _
    rw [h.eventTypes_none htypes]

theorem Decides.sameDeleted_of_deleted (hurl : URL.ReparsesSerialised) (h : Decides store request subscription)
    (hon : request.On id) {loaded : SubscriptionRecord} (hloaded : store.get? id = some loaded)
    (hdeleted : loaded.status = .DELETED) : SameDeleted loaded (toDocument subscription) := by
  obtain ⟨aggregate, hstored, -, hdecided⟩ := h.loaded hurl hon
  rw [hstored] at hloaded
  cases hloaded
  rcases hdecided with ⟨input, clock, -, happlied⟩ | ⟨input, now, -, rfl⟩
  · exact happlied.sameDeleted hdeleted
  · rw [WebhookSubscription.delete_of_deleted hdeleted]
    exact ⟨hdeleted, rfl, rfl⟩

theorem Decides.sameDeleted_of_delete (hurl : URL.ReparsesSerialised) (h : Decides store request subscription)
    (hon : request.On id) {loaded : SubscriptionRecord} (hloaded : store.get? id = some loaded)
    (hdelete : request.isDelete = true) : SameDeleted loaded (toDocument subscription) := by
  obtain ⟨aggregate, hstored, -, hdecided⟩ := h.loaded hurl hon
  rw [hstored] at hloaded
  cases hloaded
  rcases hdecided with ⟨input, clock, rfl, -⟩ | ⟨input, now, -, rfl⟩
  · cases hdelete
  · refine ⟨WebhookSubscription.delete_status, ?_, ?_⟩ <;>
      rw [WebhookSubscription.delete] <;> split <;> rfl

/-! ### Runs -/

variable {ι : Type} [DecidableEq ι]

/-- The version of a subscription that a request finds with its first call. -/
def loadedVersion (start : Requests ι) (id : String) (i : ι) (schedule : List (ι × NaturalOrder)) :
    Option SubscriptionRecord :=
  (System.stateAtFirstMove perform i start schedule).bind fun world => world.stored id

def savesNext (s : Requests ι) (i : ι) : Bool :=
  match s.nextCall i with
  | some (.save _) => true
  | _ => false

/-- If request `i` saves next and the stored version is deleted, then the version it loaded was deleted as
well, or it is a DELETE that loaded the target URL and the event types that are still stored. -/
def SavesNoStaleCopy (requests : ι → Request) (world : World) (id : String) (i : ι)
    (before : List (ι × NaturalOrder)) : Prop :=
  savesNext ((Requests.start requests world).run perform before) i = true →
    ∀ deleted ∈ ((Requests.start requests world).run perform before).state.stored id,
      deleted.status = .DELETED →
      ∃ loaded ∈ loadedVersion (Requests.start requests world) id i before, loaded.status = .DELETED ∨
        ((requests i).isDelete = true ∧ loaded.targetUrl = deleted.targetUrl ∧
          loaded.subscribedEventTypes = deleted.subscribedEventTypes)

instance (requests : ι → Request) (world : World) (id : String) (i : ι) (before : List (ι × NaturalOrder)) :
    Decidable (SavesNoStaleCopy requests world id i before) :=
  inferInstanceAs (Decidable (_ → _))

/-- Every version that a run stores after a deleted one is that deleted one. -/
def StaysDeleted (start : Requests ι) (id : String) (schedule : List (ι × NaturalOrder)) : Prop :=
  ∀ before after deleted, schedule = before ++ after →
    (start.run perform before).state.stored id = some deleted → deleted.status = .DELETED →
    ∃ later, (start.run perform schedule).state.stored id = some later ∧ SameDeleted deleted later

variable {requests : ι → Request} {world : World}

theorem StaysDeleted.step (hurl : URL.ReparsesSerialised) (hon : ∀ i, (requests i).On id)
    {schedule : List (ι × NaturalOrder)} (h : StaysDeleted (Requests.start requests world) id schedule)
    {move : ι × NaturalOrder} (hfresh : SavesNoStaleCopy requests world id move.1 schedule)
    {deleted : SubscriptionRecord}
    (hstored : ((Requests.start requests world).run perform schedule).state.stored id = some deleted)
    (hdeleted : deleted.status = .DELETED) :
    ∃ later, (((Requests.start requests world).run perform schedule).step perform move).state.stored id =
      some later ∧ SameDeleted deleted later := by
  rcases step_store_cases ((Requests.start requests world).run perform schedule) move with
    hsame | ⟨subscription, hnext, hsave⟩
  · refine ⟨deleted, ?_, hdeleted, rfl, rfl⟩
    rw [World.stored, hsame]
    exact hstored
  · obtain ⟨before, order, after, rfl, hbefore, hdecides⟩ := decided_of_saves requests world hnext
    have hsaves : savesNext ((Requests.start requests world).run perform (before ++ (move.1, order) :: after))
        move.1 = true := by
      rw [savesNext, hnext]
    obtain ⟨loaded, hloaded, hcopy⟩ := hfresh hsaves deleted hstored hdeleted
    rw [Option.mem_def, loadedVersion, System.stateAtFirstMove_of_first hbefore, Option.bind_some] at hloaded
    obtain ⟨-, -, hid, -⟩ := hdecides.loaded hurl (hon move.1)
    have hsaved := SubscriptionStore.get?_save_self hsave
    rw [hid] at hsaved
    refine ⟨toDocument subscription, hsaved, ?_⟩
    rcases hcopy with hcopy | ⟨hdelete, htarget, htypes⟩
    · obtain ⟨later, hlater, hkept⟩ := h before _ loaded rfl hloaded hcopy
      rw [hstored] at hlater
      cases hlater
      have hagain := hdecides.sameDeleted_of_deleted hurl (hon move.1) hloaded hcopy
      exact ⟨hagain.status, hagain.targetUrl.trans hkept.targetUrl.symm,
        hagain.subscribedEventTypes.trans hkept.subscribedEventTypes.symm⟩
    · have hagain := hdecides.sameDeleted_of_delete hurl (hon move.1) hloaded hdelete
      exact ⟨hagain.status, hagain.targetUrl.trans htarget, hagain.subscribedEventTypes.trans htypes⟩

theorem staysDeleted_run (hurl : URL.ReparsesSerialised) (hon : ∀ i, (requests i).On id)
    (schedule : List (ι × NaturalOrder))
    (hfresh : ∀ before move after, schedule = before ++ move :: after →
      SavesNoStaleCopy requests world id move.1 before) :
    StaysDeleted (Requests.start requests world) id schedule := by
  induction schedule using List.reverseRecOn with
  | nil =>
      intro before after deleted hsplit hstored hdeleted
      obtain ⟨rfl, -⟩ := List.append_eq_nil_iff.mp hsplit.symm
      exact ⟨deleted, hstored, hdeleted, rfl, rfl⟩
  | append_singleton schedule move ih =>
      have hbefore : StaysDeleted (Requests.start requests world) id schedule := by
        apply ih
        intro before earlier after hsplit
        apply hfresh before earlier (after ++ [move])
        rw [hsplit]
        simp
      intro before after deleted hsplit hstored hdeleted
      rcases List.eq_nil_or_concat after with rfl | ⟨rest, last, rfl⟩
      · rw [List.append_nil] at hsplit
        rw [hsplit]
        exact ⟨deleted, hstored, hdeleted, rfl, rfl⟩
      · rw [List.concat_eq_append, ← List.append_assoc] at hsplit
        obtain ⟨hschedule, hmove⟩ := List.append_inj' hsplit rfl
        obtain ⟨middle, hmiddle, hkept⟩ := hbefore before rest deleted hschedule hstored hdeleted
        rw [System.run_concat]
        obtain ⟨later, hlater, hstep⟩ := hbefore.step hurl hon (hfresh schedule move [] rfl) hmiddle hkept.status
        exact ⟨later, hlater, hkept.trans hstep⟩

/-- Once the stored version of the subscription is deleted, every later stored version is deleted with
the same target URL and event types, in every run in which no save overwrites a deleted version from a
stale copy. -/
theorem deleted_is_terminal (hurl : URL.ReparsesSerialised) (requests : ι → Request) (id : String)
    (hon : ∀ i, (requests i).On id) (world : World) (schedule : List (ι × NaturalOrder))
    (hfresh : ∀ before move after, schedule = before ++ move :: after →
      SavesNoStaleCopy requests world id move.1 before)
    (before between after : List (ι × NaturalOrder)) (hsplit : schedule = before ++ between ++ after)
    (deleted : SubscriptionRecord)
    (hstored : ((Requests.start requests world).run perform before).state.stored id = some deleted)
    (hdeleted : deleted.status = .DELETED) :
    ∃ later, ((Requests.start requests world).run perform (before ++ between)).state.stored id = some later ∧
      later.status = .DELETED ∧ later.targetUrl = deleted.targetUrl ∧
      later.subscribedEventTypes = deleted.subscribedEventTypes := by
  have hrun : StaysDeleted (Requests.start requests world) id (before ++ between) := by
    apply staysDeleted_run hurl hon
    intro early move rest hearly
    apply hfresh early move (rest ++ after)
    rw [hsplit, hearly]
    simp
  obtain ⟨later, hlater, hkept⟩ := hrun before between deleted rfl hstored hdeleted
  exact ⟨later, hlater, hkept.status, hkept.targetUrl, hkept.subscribedEventTypes⟩

end Terminal

section Sample

attribute [local instance] samplePlatform

/-- Two DELETE requests, one after the other. -/
theorem deleted_is_terminal_sample :
    ∃ later, ((Requests.start (fun _ : Bool => .delete sampleKey 1) sampleWorld).run perform
        ([(true, .insertion), (true, .insertion)] ++ [(false, .insertion), (false, .insertion)])).state.stored
          sampleKey.id = some later ∧
      later.status = .DELETED ∧ later.targetUrl = "https://client.example.com/inbound" ∧
      later.subscribedEventTypes = ["order.created"] := by
  obtain ⟨deleted, hstored, hdeleted, htarget, htypes⟩ : ∃ deleted,
      ((Requests.start (fun _ : Bool => .delete sampleKey 1) sampleWorld).run perform
        [(true, .insertion), (true, .insertion)]).state.stored sampleKey.id = some deleted ∧
      deleted.status = .DELETED ∧ deleted.targetUrl = "https://client.example.com/inbound" ∧
      deleted.subscribedEventTypes = ["order.created"] := ⟨_, rfl, by decide, by decide, by decide⟩
  rw [← htarget, ← htypes]
  refine deleted_is_terminal samplePlatform_reparsesSerialised _ sampleKey.id (fun _ => .delete rfl) sampleWorld
    [(true, .insertion), (true, .insertion), (false, .insertion), (false, .insertion)] ?_ _ _ [] rfl deleted
    hstored hdeleted
  intro before move after hsplit
  rcases before with _ | ⟨_, _ | ⟨_, _ | ⟨_, _ | ⟨_, before⟩⟩⟩⟩
  · cases hsplit
    decide
  · cases hsplit
    decide
  · cases hsplit
    decide
  · cases hsplit
    decide
  · simp at hsplit

def deleteAndPause (isDelete : Bool) : Request :=
  if isDelete then .delete sampleKey 1
  else .update { sampleKey with targetUrl := none, eventTypes := none, status := some .PAUSED } fun _ => 2

/-- The update loads the subscription before it is deleted and saves after the deletion. -/
theorem stale_update_revives_deleted :
    (((Requests.start deleteAndPause sampleWorld).run perform
        [(false, .insertion), (true, .insertion), (true, .insertion)]).state.stored
          sampleKey.id).map (fun record => record.status) = some .DELETED ∧
      (((Requests.start deleteAndPause sampleWorld).run perform
        [(false, .insertion), (true, .insertion), (true, .insertion), (false, .insertion)]).state.stored
          sampleKey.id).map (fun record => record.status) = some .PAUSED := by
  decide

end Sample

end WebhookIdp.Subscription
