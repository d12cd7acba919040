import Mathlib.Data.List.Induction
import Mathlib.Logic.Relation
import WebhookIdp.Subscription.HttpIsolation
import WebhookIdp.Subscription.Stages

/-!
# Where stored versions come from

HTTP requests take the store through the states the requests to their use cases take it through. So whatever is
stored at any moment of an interleaving goes back, over versions that were stored before, to a document that was
there at the start or that a POST has created: requests make no version up, and none of them touches what a document
says of its owner, its creator and its creation.
-/

namespace WebhookIdp.Subscription

open Concurrent (Program System)

section Provenance

variable [Platform] {ι : Type} [DecidableEq ι]

/-! ### HTTP requests as requests to the use cases -/

/-- A request that is rejected before it makes a call. -/
def blankRequest : Request := .get { id := "", tenantId := "" }

theorem execute_blankRequest : ∃ error, blankRequest.execute = .done (.error (.domain error)) := by
  have hform := execute_form blankRequest
  generalize blankRequest.execute = program at hform
  cases hform with
  | refused error => exact ⟨error, rfl⟩
  | transaction h => cases h
  | query h =>
      cases h with
      | @get _ _ tenantId _ htenant =>
          have hblank := tenantId.nonBlank
          rw [htenant] at hblank
          exact absurd hblank (by decide)

theorem HttpRequest.exists_request (http : HttpRequest) :
    ∃ request R, request.execute.Alike R http.handle ∧ (http.Asks request ∨ request = blankRequest) := by
  obtain ⟨error, hblank⟩ := execute_blankRequest
  have hrefused (exception : Exception) (hdone : http.handle = .done (.error exception)) :
      ∃ request R, request.execute.Alike R http.handle ∧ (http.Asks request ∨ request = blankRequest) := by
    refine ⟨blankRequest, fun _ _ => True, ?_, Or.inr rfl⟩
    rw [hblank, hdone]
    exact .done trivial
  obtain ⟨exception, -, hdone⟩ | ⟨identity, hidentity, ⟨exception, hdone, -⟩ | ⟨request, R, hadmitted, halike⟩⟩ :=
    http.handle_cases
  · exact hrefused exception hdone
  · exact hrefused exception hdone
  · exact ⟨request, R, halike, Or.inl ⟨identity, R, hidentity, hadmitted⟩⟩

/-- Along every schedule HTTP requests and some requests to the use cases are in the same state and about to make the
same calls. -/
theorem exists_requests (https : ι → HttpRequest) (world : World) :
    ∃ requests : ι → Request, (∀ i, (https i).Asks (requests i) ∨ requests i = blankRequest) ∧
      ∀ schedule, ((HttpRequests.start https world).run perform schedule).state =
          ((Requests.start requests world).run perform schedule).state ∧
        ∀ i, ((HttpRequests.start https world).run perform schedule).nextCall i =
          ((Requests.start requests world).run perform schedule).nextCall i := by
  choose requests R halike hasks using fun i => (https i).exists_request
  refine ⟨requests, hasks, fun schedule => ?_⟩
  have hstart : System.Alike R (Requests.start requests world) (HttpRequests.start https world) := ⟨rfl, halike⟩
  have hrun : System.Alike R ((Requests.start requests world).run perform schedule)
      ((HttpRequests.start https world).run perform schedule) := hstart.run schedule
  exact ⟨hrun.state, hrun.nextCall⟩

/-! ### One step -/

variable {https : ι → HttpRequest} {world : World}

/-- A step leaves the stored subscriptions alone, or saves what a request has decided on at its lookup. -/
theorem http_step_cases (https : ι → HttpRequest) (world : World) (schedule : List (ι × NaturalOrder))
    (move : ι × NaturalOrder) :
    ((HttpRequests.start https world).run perform (schedule ++ [move])).state.subscriptions =
        ((HttpRequests.start https world).run perform schedule).state.subscriptions ∨
      ∃ before request saved, before <+: schedule ∧ (https move.1).Asks request ∧
        Decides ((HttpRequests.start https world).run perform before).state.subscriptions request saved ∧
        ((HttpRequests.start https world).run perform schedule).state.subscriptions.save saved =
          some ((HttpRequests.start https world).run perform (schedule ++ [move])).state.subscriptions := by
  obtain ⟨requests, hasks, hsame⟩ := exists_requests https world
  rw [(hsame _).1, (hsame _).1, System.run_concat]
  obtain hstore | ⟨saved, hnext, hsave⟩ := step_store_cases ((Requests.start requests world).run perform schedule) move
  · exact Or.inl hstore
  · obtain ⟨before, order, after, rfl, -, hdecides⟩ := decided_of_saves requests world hnext
    refine Or.inr ⟨before, requests move.1, saved, List.prefix_append _ _, ?_, ?_, hsave⟩
    · obtain hask | hblank := hasks move.1
      · exact hask
      · rw [hblank] at hdecides
        cases hdecides
    · rw [(hsame before).1]
      exact hdecides

/-! ### Versions -/

/-- A document of the start, or one a POST has made. -/
inductive Origin (https : ι → HttpRequest) (world : World) : SubscriptionRecord → Prop
  | stored {record : SubscriptionRecord} (h : record ∈ world.subscriptions.docs) : Origin https world record
  | created {i : ι} {input : CreateSubscriptionInput} {id : SubscriptionId} {now : Date} {tenantId : TenantId}
      {targetUrl : TargetUrl} {subscription : WebhookSubscription} (hasks : (https i).Asks (.create input id now))
      (htenant : tenantId.value = input.tenantId) (htarget : TargetUrl.fromString input.targetUrl = .ok targetUrl)
      (hcreate : input.create tenantId targetUrl id now = .ok subscription) :
      Origin https world (toDocument subscription)

/-- The second version is what a PATCH or DELETE of the same tenant makes of the first. -/
inductive Revises (https : ι → HttpRequest) : SubscriptionRecord → SubscriptionRecord → Prop
  | update {i : ι} {old : SubscriptionRecord} {input : UpdateSubscriptionInput} {clock : Nat → Date}
      {loaded subscription : WebhookSubscription} (hasks : (https i).Asks (.update input clock))
      (hid : input.id = old._id) (htenant : input.tenantId = old.tenantId) (hread : toAggregate old = .ok loaded)
      (happly : input.apply clock loaded = .ok subscription) : Revises https old (toDocument subscription)
  | delete {i : ι} {old : SubscriptionRecord} {input : SubscriptionKeyInput} {now : Date} {loaded : WebhookSubscription}
      (hasks : (https i).Asks (.delete input now)) (hid : input.id = old._id) (htenant : input.tenantId = old.tenantId)
      (hread : toAggregate old = .ok loaded) : Revises https old (toDocument (loaded.delete now))

/-- The versions that requests can make of the documents of the start. -/
def Version (https : ι → HttpRequest) (world : World) (record : SubscriptionRecord) : Prop :=
  ∃ origin, Origin https world origin ∧ Relation.ReflTransGen (Revises https) origin record

omit [DecidableEq ι] in
theorem version_of_decides {store : SubscriptionStore} {i : ι} {request : Request} {saved : WebhookSubscription}
    (hstore : ∀ record ∈ store.docs, Version https world record) (hasks : (https i).Asks request)
    (h : Decides store request saved) : Version https world (toDocument saved) := by
  have hfound {id : SubscriptionId} {tenantId : TenantId} {loaded : WebhookSubscription}
      (hloaded : SubscriptionMongoRepository.findByIdAndTenant store id tenantId = .ok (some loaded)) :
      ∃ old, Version https world old ∧ id.value = old._id ∧ tenantId.value = old.tenantId ∧ toAggregate old = .ok loaded := by
    obtain ⟨old, hfind, hread⟩ := SubscriptionMongoRepository.rehydrate_eq_ok_some_iff.mp hloaded
    have hkey := List.find?_some hfind
    rw [Bool.and_eq_true, beq_iff_eq, beq_iff_eq] at hkey
    exact ⟨old, hstore old (List.mem_of_find?_eq_some hfind), hkey.1.symm, hkey.2.symm, hread⟩
  cases h with
  | create htenant htarget _ hcreate => exact ⟨_, .created hasks htenant htarget hcreate, .refl⟩
  | update hid htenant hloaded happly =>
      obtain ⟨old, ⟨origin, horigin, hversions⟩, hidOld, htenantOld, hread⟩ := hfound hloaded
      refine ⟨origin, horigin, hversions.tail ?_⟩
      exact .update hasks (hid.symm.trans hidOld) (htenant.symm.trans htenantOld) hread happly
  | delete hid htenant hloaded =>
      obtain ⟨old, ⟨origin, horigin, hversions⟩, hidOld, htenantOld, hread⟩ := hfound hloaded
      refine ⟨origin, horigin, hversions.tail ?_⟩
      exact .delete hasks (hid.symm.trans hidOld) (htenant.symm.trans htenantOld) hread

/-- A save may be decided on any earlier state, so the induction carries all of them. -/
theorem versions_run (https : ι → HttpRequest) (world : World) (schedule : List (ι × NaturalOrder)) :
    ∀ before, before <+: schedule →
      ∀ record ∈ ((HttpRequests.start https world).run perform before).state.subscriptions.docs,
        Version https world record := by
  induction schedule using List.reverseRecOn with
  | nil =>
      intro before hbefore record hrecord
      rw [List.prefix_nil.mp hbefore] at hrecord
      exact ⟨record, .stored hrecord, .refl⟩
  | append_singleton schedule move ih =>
      intro before hbefore record hrecord
      obtain rfl | hearlier := List.prefix_concat_iff.mp hbefore
      · obtain hsame | ⟨read, request, saved, hread, hasks, hdecides, hsave⟩ := http_step_cases https world schedule move
        · rw [hsame] at hrecord
          exact ih schedule (List.prefix_refl _) record hrecord
        · obtain rfl | ⟨hold, -⟩ := (SubscriptionStore.mem_save hsave).mp hrecord
          · exact version_of_decides (ih read hread) hasks hdecides
          · exact ih schedule (List.prefix_refl _) record hold
      · exact ih before hearlier record hrecord

/-- Along every interleaving nothing is stored but versions. -/
theorem stored_versions (https : ι → HttpRequest) (world : World) (schedule : List (ι × NaturalOrder))
    {record : SubscriptionRecord}
    (h : record ∈ ((HttpRequests.start https world).run perform schedule).state.subscriptions.docs) :
    Version https world record :=
  versions_run https world schedule schedule (List.prefix_refl _) record h

/-! ### What no request changes -/

/-- Two versions of one subscription: what they say of its owner, its creator and its creation is the same. -/
structure SameIdentity (old new : SubscriptionRecord) : Prop where
  _id : new._id = old._id
  tenantId : new.tenantId = old.tenantId
  createdByClientId : new.createdByClientId = old.createdByClientId
  createdByUserId : new.createdByUserId = old.createdByUserId
  createdAt : new.createdAt = old.createdAt

omit [Platform] in
theorem SameIdentity.refl (record : SubscriptionRecord) : SameIdentity record record := ⟨rfl, rfl, rfl, rfl, rfl⟩

omit [Platform] in
theorem SameIdentity.symm {a b : SubscriptionRecord} (h : SameIdentity a b) : SameIdentity b a :=
  ⟨h._id.symm, h.tenantId.symm, h.createdByClientId.symm, h.createdByUserId.symm, h.createdAt.symm⟩

omit [Platform] in
theorem SameIdentity.trans {a b c : SubscriptionRecord} (hab : SameIdentity a b) (hbc : SameIdentity b c) :
    SameIdentity a c :=
  ⟨hbc._id.trans hab._id, hbc.tenantId.trans hab.tenantId, hbc.createdByClientId.trans hab.createdByClientId,
    hbc.createdByUserId.trans hab.createdByUserId, hbc.createdAt.trans hab.createdAt⟩

theorem sameIdentity_of_read {record : SubscriptionRecord} {subscription : WebhookSubscription}
    (h : toAggregate record = .ok subscription) : SameIdentity record (toDocument subscription) := by
  simp only [toAggregate, Throwing.bind_eq_ok_iff] at h
  obtain ⟨_, hid, _, htenant, _, hclient, user, hread, _, -, _, -, hresult⟩ := h
  cases hresult
  exact ⟨SubscriptionId.fromString_eq_ok_iff.mp hid, Text.NonBlank.fromString_eq_ok_iff.mp htenant,
    Text.NonBlank.fromString_eq_ok_iff.mp hclient, map_value_of_mapM hread, rfl⟩

omit [DecidableEq ι] in
theorem Revises.sameIdentity {old new : SubscriptionRecord} (h : Revises https old new) : SameIdentity old new := by
  cases h with
  | @update _ _ _ _ loaded subscription _ _ _ hread happly =>
      have happlied := UpdateSubscriptionInput.apply_eq_ok happly
      refine (sameIdentity_of_read hread).trans ⟨?_, ?_, ?_, ?_, happlied.createdAt⟩
      · exact congrArg SubscriptionId.value happlied.id
      · exact congrArg Text.NonBlank.value happlied.tenantId
      · exact congrArg Text.NonBlank.value happlied.createdByClientId
      · exact congrArg (Option.map fun userId => userId.value) happlied.createdByUserId
  | delete _ _ _ hread =>
      refine (sameIdentity_of_read hread).trans ?_
      rw [WebhookSubscription.delete]
      split <;> exact ⟨rfl, rfl, rfl, rfl, rfl⟩

omit [DecidableEq ι] in
theorem Version.sameIdentity {record : SubscriptionRecord} (h : Version https world record) :
    ∃ origin, Origin https world origin ∧ SameIdentity origin record := by
  obtain ⟨origin, horigin, hversions⟩ := h
  refine ⟨origin, horigin, ?_⟩
  clear horigin
  induction hversions with
  | refl => exact .refl origin
  | tail _ hrevises ih => exact ih.trans hrevises.sameIdentity

theorem sameIdentity_of_create {input : CreateSubscriptionInput} {id : SubscriptionId} {now : Date}
    {tenantId tenantId' : TenantId} {targetUrl targetUrl' : TargetUrl} {first second : WebhookSubscription}
    (htenant : tenantId.value = input.tenantId) (htenant' : tenantId'.value = input.tenantId)
    (hfirst : input.create tenantId targetUrl id now = .ok first)
    (hsecond : input.create tenantId' targetUrl' id now = .ok second) :
    SameIdentity (toDocument first) (toDocument second) := by
  rw [CreateSubscriptionInput.toDocument_of_create htenant hfirst,
    CreateSubscriptionInput.toDocument_of_create htenant' hsecond]
  exact ⟨rfl, rfl, rfl, rfl, rfl⟩

omit [DecidableEq ι] in
theorem Origin.sameIdentity (hfresh : FreshNewIds https world.subscriptions) {a b : SubscriptionRecord}
    (ha : Origin https world a) (hb : Origin https world b) (hid : a._id = b._id) : SameIdentity a b := by
  have hclash {i : ι} {input : CreateSubscriptionInput} {id : SubscriptionId} {now : Date} {tenantId : TenantId}
      {targetUrl : TargetUrl} {subscription : WebhookSubscription} {record : SubscriptionRecord}
      (hasks : (https i).Asks (.create input id now)) (hcreate : input.create tenantId targetUrl id now = .ok subscription)
      (hstored : record ∈ world.subscriptions.docs) : record._id ≠ (toDocument subscription)._id := by
    have hnew : (toDocument subscription)._id = id.value :=
      congrArg SubscriptionId.value (CreateSubscriptionInput.create_eq_ok hcreate).1
    rw [hnew]
    exact hfresh.unused i id.value (hasks.newId rfl) record hstored
  cases ha with
  | stored ha =>
      cases hb with
      | stored hb =>
          have hsame : some a = some b := by
            rw [← world.subscriptions.get?_eq_some_iff.mpr ⟨ha, rfl⟩, ← world.subscriptions.get?_eq_some_iff.mpr ⟨hb, rfl⟩, hid]
          cases hsame
          exact .refl a
      | created hasks _ _ hcreate => exact absurd hid (hclash hasks hcreate ha)
  | @created i input id now _ _ first hasks htenant _ hcreate =>
      cases hb with
      | stored hb => exact absurd hid.symm (hclash hasks hcreate hb)
      | @created j input' id' now' _ _ second hasks' htenant' _ hcreate' =>
          have hidFirst : (toDocument first)._id = id.value :=
            congrArg SubscriptionId.value (CreateSubscriptionInput.create_eq_ok hcreate).1
          have hidSecond : (toDocument second)._id = id'.value :=
            congrArg SubscriptionId.value (CreateSubscriptionInput.create_eq_ok hcreate').1
          have hids : id.value = id'.value := by
            rw [← hidFirst, ← hidSecond, hid]
          obtain rfl := hfresh.distinct i j id.value (hasks.newId rfl) (hids ▸ hasks'.newId rfl)
          cases hasks.unique hasks'
          exact sameIdentity_of_create htenant htenant' hcreate hcreate'

theorem exists_doc_of_step (https : ι → HttpRequest) (world : World) (schedule : List (ι × NaturalOrder))
    (move : ι × NaturalOrder) {record : SubscriptionRecord}
    (h : record ∈ ((HttpRequests.start https world).run perform schedule).state.subscriptions.docs) :
    ∃ later ∈ ((HttpRequests.start https world).run perform (schedule ++ [move])).state.subscriptions.docs,
      later._id = record._id := by
  obtain hsame | ⟨-, -, saved, -, -, -, hsave⟩ := http_step_cases https world schedule move
  · rw [hsame]
    exact ⟨record, h, rfl⟩
  · by_cases hid : record._id = saved.id.value
    · exact ⟨toDocument saved, (SubscriptionStore.mem_save hsave).mpr (Or.inl rfl), hid.symm⟩
    · exact ⟨record, (SubscriptionStore.mem_save hsave).mpr (Or.inr ⟨h, hid⟩), rfl⟩

/-- Whatever is stored at some moment of an interleaving stays stored, under the same owner, creator and creation. -/
theorem identity_kept (https : ι → HttpRequest) (world : World) (hfresh : FreshNewIds https world.subscriptions)
    (first rest : List (ι × NaturalOrder)) {record : SubscriptionRecord}
    (h : record ∈ ((HttpRequests.start https world).run perform first).state.subscriptions.docs) :
    ∃ later ∈ ((HttpRequests.start https world).run perform (first ++ rest)).state.subscriptions.docs,
      SameIdentity record later := by
  obtain ⟨later, hlater, hid⟩ : ∃ later ∈ ((HttpRequests.start https world).run perform
      (first ++ rest)).state.subscriptions.docs, later._id = record._id := by
    induction rest using List.reverseRecOn with
    | nil =>
        rw [List.append_nil]
        exact ⟨record, h, rfl⟩
    | append_singleton rest move ih =>
        obtain ⟨middle, hmiddle, hmiddleId⟩ := ih
        obtain ⟨later, hlater, hlaterId⟩ := exists_doc_of_step https world (first ++ rest) move hmiddle
        rw [← List.append_assoc]
        exact ⟨later, hlater, hlaterId.trans hmiddleId⟩
  obtain ⟨origin, horigin, hsame⟩ := (versions_run https world first first (List.prefix_refl _) record h).sameIdentity
  obtain ⟨origin', horigin', hsame'⟩ :=
    (versions_run https world (first ++ rest) _ (List.prefix_refl _) later hlater).sameIdentity
  have hids : origin._id = origin'._id := by
    rw [← hsame._id, ← hsame'._id, hid]
  exact ⟨later, hlater, hsame.symm.trans ((horigin.sameIdentity hfresh horigin' hids).trans hsame')⟩

end Provenance

section Sample

attribute [local instance] samplePlatform

def sampleRecord : SubscriptionRecord where
  _id := sampleKey.id
  tenantId := "tenant-1"
  createdByClientId := "client-1"
  createdByUserId := none
  targetUrl := "https://client.example.com/inbound"
  subscribedEventTypes := ["order.created"]
  status := .ACTIVE
  createdAt := 0
  updatedAt := 0

/-- The owner's DELETE is saved between the two calls of the other tenant's POST. -/
theorem stored_versions_sample :
    { sampleRecord with status := .DELETED } ∈ ((HttpRequests.start threeCallers sampleWorld).run perform
        [(.owner, .insertion), (.stranger, .insertion), (.owner, .insertion),
          (.stranger, .insertion)]).state.subscriptions.docs ∧
      Version threeCallers sampleWorld { sampleRecord with status := .DELETED } := by
  have hstored : { sampleRecord with status := .DELETED } ∈ ((HttpRequests.start threeCallers sampleWorld).run perform
      [(.owner, .insertion), (.stranger, .insertion), (.owner, .insertion),
        (.stranger, .insertion)]).state.subscriptions.docs := .head _
  exact ⟨hstored, stored_versions threeCallers sampleWorld _ hstored⟩

/-- The owner's DELETE leaves the document, with the same owner, creator and creation. -/
theorem identity_kept_sample :
    ∃ later ∈ ((HttpRequests.start threeCallers sampleWorld).run perform
        ([(.owner, .insertion)] ++ [(.stranger, .insertion), (.owner, .insertion)])).state.subscriptions.docs,
      SameIdentity sampleRecord later :=
  identity_kept threeCallers sampleWorld threeCallers_fresh [(.owner, .insertion)]
    [(.stranger, .insertion), (.owner, .insertion)] (.head _)

end Sample

end WebhookIdp.Subscription
