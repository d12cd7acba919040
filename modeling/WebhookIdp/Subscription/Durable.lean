import WebhookIdp.Subscription.HttpIsolation
import WebhookIdp.Subscription.Replies

/-!
# What has been shown stays found

A caller that has been shown a subscription may come back for it. Nothing takes a document away or gives it to another
tenant, so a later request of that tenant that names the id finds it, whatever is still under way, deletions included:
it may fail for another reason, but is never answered with a 404.
-/

namespace WebhookIdp.Subscription

open Concurrent (System)
open Randomised

section Durable

variable [Platform]

def World.Keeps (id tenant : String) (before after : World) : Prop := before.Stores id tenant → after.Stores id tenant

def ResponseDto.ids : ResponseDto → List String
  | .subscription item => [item.Id]
  | .page data => data.Items.map SubscriptionResponseDto.Id

variable {http : HttpRequest} {world later : World} {id tenant : String}

theorem keeps_of_kept (h : ∀ record ∈ world.subscriptions.docs, ∃ last ∈ later.subscriptions.docs,
    last._id = record._id ∧ last.tenantId = record.tenantId) : World.Keeps id tenant world later := by
  intro hstores
  obtain ⟨record, hrecord, hid, htenant⟩ := hstores
  obtain ⟨last, hlast, hlastId, hlastTenant⟩ := h record hrecord
  exact ⟨last, hlast, hlastId.trans hid, hlastTenant.trans htenant⟩

/-! ### What a response shows is stored -/

omit [Platform] in
theorem ResponseDto.SameButTargetUrl.ids {data masked : ResponseDto} (h : data.SameButTargetUrl masked) :
    masked.ids = data.ids := by
  cases h with
  | @subscription item masked h =>
      rw [ResponseDto.ids, h]
      rfl
  | @page data Items h =>
      show Items.map SubscriptionResponseDto.Id = data.Items.map SubscriptionResponseDto.Id
      rw [← List.forall₂_eq_eq_eq, List.forall₂_map_left_iff, List.forall₂_map_right_iff]
      exact h.flip.imp fun masked item hsame => by rw [show _ = _ from hsame]

theorem HttpEffect.stores {data : ResponseDto} {before after : World} (h : HttpEffect http data before after)
    (hid : id ∈ data.ids) : ∃ tenant, http.tenant = some tenant ∧ after.Stores id tenant := by
  cases h with
  | @wrote record before after _ htenant hdocs _ =>
      obtain rfl := List.mem_singleton.mp hid
      refine ⟨record.tenantId, htenant, record, ?_, rfl, rfl⟩
      rw [hdocs]
      exact DocumentStore.mem_replaceDoc.mpr (Or.inl rfl)
  | @found record world _ htenant hstored =>
      obtain rfl := List.mem_singleton.mp hid
      exact ⟨record.tenantId, htenant, record, hstored, rfl, rfl⟩
  | @listed query dto tenant page records world _ _ htenant _ hrecords hitems =>
      rw [ResponseDto.ids, hitems, List.map_map] at hid
      obtain ⟨record, hrecord, rfl⟩ := List.mem_map.mp hid
      have hmatching := hrecords.mem_iff.mp (List.mem_of_mem_drop (List.mem_of_mem_take hrecord))
      rw [List.mem_filter, ListSubscriptionsQueryDto.selects, Bool.and_eq_true, Bool.and_eq_true,
        beq_iff_eq] at hmatching
      exact ⟨tenant, htenant, record, hmatching.1, rfl, hmatching.2.1.1⟩

/-! ### Whole runs -/

variable {ι : Type} [DecidableEq ι] {https : ι → HttpRequest} {store : SubscriptionStore}

theorem keeps_run (hfresh : FreshNewIds https store) (first rest : List (ι × NaturalOrder)) :
    World.Keeps id tenant
      ((HttpRequests.start https { subscriptions := store, published := [] }).run perform first).state
      ((HttpRequests.start https { subscriptions := store, published := [] }).run perform (first ++ rest)).state := by
  rw [System.run_append]
  refine (hfresh.safe.run hfresh.compatible first).run_related hfresh.compatible (fun _ hstores => hstores)
    (fun hfirst hrest hstores => hrest (hfirst hstores)) (fun i op before answer after _ hguarantee => ?_) rest
  obtain ⟨request, -, hentitled, order, hperform⟩ := hguarantee
  have hkept := kept_of_entitled hentitled order
  rw [hperform] at hkept
  exact keeps_of_kept hkept

theorem stores_of_answer (hurl : URL.ReparsesSerialised) (hfresh : FreshNewIds https store)
    {schedule : List (ι × NaturalOrder)} {i : ι} {answer : Drawing HttpReply}
    (hanswer : HttpRequests.answer https
      ((HttpRequests.start https { subscriptions := store, published := [] }).run perform schedule) i = some answer)
    {draws : Nat → Draw} {data : ResponseDto} (hdata : (answer draws).1.body.Data = some data) (hid : id ∈ data.ids) :
    ∃ tenant, (https i).tenant = some tenant ∧
      ((HttpRequests.start https { subscriptions := store, published := [] }).run perform
        schedule).state.Stores id tenant := by
  obtain ⟨result, hdone, rfl⟩ := HttpRequests.answer_eq_some hanswer
  cases result with
  | error exception => cases hdata
  | ok real =>
      obtain ⟨masked, hmasked, hsame⟩ := (reply_ok (https i) real draws).data
      obtain rfl := Option.some.inj (hmasked.symm.trans hdata)
      rw [hsame.ids] at hid
      obtain ⟨first, order, rest, rfl, -, heffect, -⟩ :=
        System.takesEffect_of_ok (commits_handle_effect hurl (https i)) hdone
      obtain ⟨tenant, htenant, hstores⟩ := heffect.stores hid
      rw [List.append_cons]
      exact ⟨tenant, htenant, keeps_run hfresh (first ++ [(i, order)]) rest hstores⟩

theorem failsWith_of_later (https : ι → HttpRequest) (world : World) (before after : List (ι × NaturalOrder)) {j : ι}
    (hlater : j ∉ before.map Prod.fst) {exception : Exception}
    (hdone : ((HttpRequests.start https world).run perform (before ++ after)).client j = .done (.error exception)) :
    (https j).FailsWith (System.lastCall perform j ((HttpRequests.start https world).run perform before) after)
      (DomainExceptionFilter.resolve exception).status := by
  rw [System.run_append] at hdone
  have hthrows : ThrowsBy (fun last exception => (https j).FailsWith last (DomainExceptionFilter.resolve exception).status)
      none (((HttpRequests.start https world).run perform before).client j) := by
    rw [System.client_run_of_not_mem hlater]
    exact throwsBy_handle (https j)
  exact System.ends_of_done hthrows hdone exception rfl

/-- Whoever names what its tenant has been shown is not answered with a 404. -/
theorem shown_stays_found (hurl : URL.ReparsesSerialised) (https : ι → HttpRequest) (store : SubscriptionStore)
    (hfresh : FreshNewIds https store) (before after : List (ι × NaturalOrder)) {i j : ι}
    {shown reply : Drawing HttpReply} (draws draws' : Nat → Draw) {data : ResponseDto}
    (hshown : HttpRequests.answer https
      ((HttpRequests.start https { subscriptions := store, published := [] }).run perform before) i = some shown)
    (hdata : (shown draws).1.body.Data = some data) (hid : id ∈ data.ids) (hlater : j ∉ before.map Prod.fst)
    (htenant : (https j).tenant = (https i).tenant) (hroute : (https j).route.id? = some id)
    (hreply : HttpRequests.answer https
      ((HttpRequests.start https { subscriptions := store, published := [] }).run perform (before ++ after)) j =
        some reply) :
    (reply draws').1.status ≠ 404 := by
  obtain ⟨result, hdone, rfl⟩ := HttpRequests.answer_eq_some hreply
  cases result with
  | ok answered =>
      rw [(reply_ok (https j) answered draws').status]
      cases (https j).route <;> simp [Route.httpCode]
  | error exception =>
      obtain ⟨tenant, hown, hstores⟩ := stores_of_answer hurl hfresh hshown hdata hid
      have hlast := failsWith_of_later https { subscriptions := store, published := [] } before after hlater hdone
      intro hstatus
      change (DomainExceptionFilter.resolve exception).status = 404 at hstatus
      rw [hstatus] at hlast
      generalize hcall : System.lastCall perform j _ after = last at hlast
      cases hlast with
      | @notFound id' tenant' op found htenant' hroute' hmissing =>
          obtain ⟨first, order, rest, rfl, rfl⟩ := System.lastCall_eq_some hcall
          obtain rfl := Option.some.inj (hroute.symm.trans hroute')
          obtain rfl := Option.some.inj ((htenant.trans hown).symm.trans htenant')
          rw [← System.run_append] at hmissing
          exact hmissing (keeps_run hfresh before first hstores)
      | refused _ hrefused => simp at hrefused

end Durable

section Sample

attribute [local instance] samplePlatform

/-- The owner of the sample subscription deletes it and comes back for it. -/
def deleteAndGet (comesBack : Bool) : HttpRequest where
  headers := sampleHeaders "tenant-1"
  route := if comesBack then .getById sampleKey.id else .delete sampleKey.id
  generated := otherId
  clock := fun n => n

theorem deleteAndGet_fresh : FreshNewIds deleteAndGet sampleWorld.subscriptions := by
  have hnone (comesBack : Bool) : (deleteAndGet comesBack).newId = none := by
    cases comesBack <;> rfl
  refine ⟨fun i j id hi _ => ?_, fun i id hi => ?_⟩
  · rw [hnone] at hi
    cases hi
  · rw [hnone] at hi
    cases hi

theorem shown_stays_found_sample :
    ∃ reply, HttpRequests.answer deleteAndGet
      ((HttpRequests.start deleteAndGet { subscriptions := sampleWorld.subscriptions, published := [] }).run perform
        ([(false, .insertion), (false, .insertion), (false, .insertion)] ++ [(true, .insertion)])) true = some reply ∧
      (reply lowestDraws).1.status ≠ 404 :=
  ⟨_, rfl, shown_stays_found samplePlatform_reparsesSerialised deleteAndGet sampleWorld.subscriptions deleteAndGet_fresh
    [(false, .insertion), (false, .insertion), (false, .insertion)] [(true, .insertion)] (i := false) (j := true)
    lowestDraws lowestDraws rfl rfl (.head _) (by decide) rfl rfl rfl⟩

end Sample

end WebhookIdp.Subscription
