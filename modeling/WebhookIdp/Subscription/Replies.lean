import WebhookIdp.Base.LastCall
import WebhookIdp.Base.WaitFree
import WebhookIdp.Subscription.Atomic
import WebhookIdp.Subscription.Redaction

/-!
# What a reply says

Along every interleaving of requests the reply to one of them is either an envelope without data, and then the request
has changed nothing, or one whose data shows what the request has done to the store. Which status an envelope without
data has depends on the guard, the route and the last call of the request: a 404 means that the lookup found nothing,
and only the index and a `null` make an internal error of it.
-/

namespace WebhookIdp.Subscription

open Concurrent (Program System)
open Randomised

section Replies

variable [Platform] {ι : Type} {http : HttpRequest} {request : Request} {world : World}

/-! ### Why a request fails -/

/-- The tenant has a subscription of the id. -/
def World.Stores (world : World) (id tenant : String) : Prop :=
  ∃ record ∈ world.subscriptions.docs, record._id = id ∧ record.tenantId = tenant

def Route.id? : Route → Option String
  | .getById id => some id
  | .update id _ => some id
  | .delete id => some id
  | _ => none

def Request.id? : Request → Option String
  | .get input => some input.id
  | .update input _ => some input.id
  | .delete input _ => some input.id
  | _ => none

/-- What a use case throws, by its last call and the state it has made it in. -/
inductive Request.Throws (request : Request) : Option (RepositoryCall × World) → Exception → Prop
  | refused {last : Option (RepositoryCall × World)} {exception : Exception}
      (h : (DomainExceptionFilter.resolve exception).status ∈ [400, 409]) : Throws request last exception
  | notFound {id message : String} {op : RepositoryCall} {world : World} (hid : request.id? = some id)
      (hmissing : ¬ world.Stores id request.tenantId) :
      Throws request (some (op, world)) (.application (.subscriptionNotFound message))
  | conflict {read : SubscriptionStore} {saved : WebhookSubscription} {world : World}
      (hdecides : Decides read request saved) (hconflict : world.subscriptions.Conflicts (toDocument saved)) :
      Throws request (some (.save saved, world)) duplicateKeyError

/-- What the program throws depends on its last call. -/
abbrev ThrowsBy {α : Type} (throws : Option (RepositoryCall × World) → Exception → Prop) :
    Option (RepositoryCall × World) → UseCase α → Prop :=
  Program.Ends perform fun last result => ∀ exception, result = .error exception → throws last exception

theorem throwsBy_error {α : Type} {throws : Option (RepositoryCall × World) → Exception → Prop}
    {last : Option (RepositoryCall × World)} {exception : Exception} (h : throws last exception) :
    ThrowsBy throws last (.done (.error exception) : UseCase α) := by
  intro _ hthrown
  cases hthrown
  exact h

theorem Request.Throws.domain {last : Option (RepositoryCall × World)} (error : DomainError) :
    request.Throws last (.domain error) := by
  refine .refused ?_
  obtain h | h := DomainExceptionFilter.resolve_domain_status error <;> simp [h]

theorem not_stores_of_find {subscriptionId : SubscriptionId} {tenantId : TenantId}
    (h : SubscriptionMongoRepository.findByIdAndTenant world.subscriptions subscriptionId tenantId = .ok none) :
    ¬ world.Stores subscriptionId.value tenantId.value := by
  intro hstores
  obtain ⟨record, hrecord, hid, htenant⟩ := hstores
  rw [SubscriptionMongoRepository.findByIdAndTenant] at h
  cases hfind : world.subscriptions.docs.find? fun record =>
      record._id == subscriptionId.value && record.tenantId == tenantId.value with
  | none =>
      have hmiss := List.find?_eq_none.mp hfind record hrecord
      simp [hid, htenant] at hmiss
  | some found =>
      rw [hfind, SubscriptionMongoRepository.rehydrate, Option.mapM_some] at h
      obtain ⟨subscription, -, hsome⟩ := Throwing.bind_eq_ok_iff.mp h
      cases hsome

theorem throws_of_find {α : Type} {subscriptionId : SubscriptionId} {tenantId : TenantId}
    (hid : request.id? = some subscriptionId.value) (htenant : tenantId.value = request.tenantId)
    {order : NaturalOrder} {text : String} {next : WebhookSubscription → Except Exception α} {exception : Exception}
    (hnext : ∀ subscription, next subscription = .error exception → ∃ error, exception = .domain error)
    (herror : ((perform (.findByIdAndTenant subscriptionId tenantId) order world).1 >>= found text next) =
      .error exception) :
    request.Throws (some (.findByIdAndTenant subscriptionId tenantId, world)) exception := by
  change (raise (SubscriptionMongoRepository.findByIdAndTenant world.subscriptions subscriptionId tenantId) >>=
    found text next) = .error exception at herror
  cases hfind : SubscriptionMongoRepository.findByIdAndTenant world.subscriptions subscriptionId tenantId with
  | error error =>
      rw [hfind] at herror
      cases herror
      exact .domain error
  | ok answer =>
      rw [hfind] at herror
      cases answer with
      | none =>
          cases herror
          exact .notFound hid (htenant ▸ not_stores_of_find hfind)
      | some subscription =>
          obtain ⟨error, rfl⟩ := hnext subscription herror
          exact .domain error

theorem Request.Transacts.throws {op : RepositoryCall} {decide : op.Answer → Except Exception WebhookSubscription}
    (h : request.Transacts op decide) {order : NaturalOrder} {exception : Exception}
    (herror : ((perform op order world).1 >>= decide) = .error exception) :
    request.Throws (some (op, world)) exception := by
  cases h with
  | create _ _ =>
      obtain ⟨error, rfl⟩ | ⟨existing, hdecide⟩ := raise_bind_throws herror
      · exact .domain error
      · cases existing with
        | none =>
            obtain ⟨error, rfl⟩ := raise_throws hdecide
            exact .domain error
        | some _ =>
            cases hdecide
            exact .refused (by simp [DomainExceptionFilter.resolve, single])
  | @update input clock subscriptionId _ hid htenant =>
      have hlooked : (Request.update input clock).id? = some subscriptionId.value := congrArg some hid.symm
      refine throws_of_find hlooked htenant (fun _ hnext => ?_) herror
      exact raise_throws hnext
  | @delete input now subscriptionId _ hid htenant =>
      have hlooked : (Request.delete input now).id? = some subscriptionId.value := congrArg some hid.symm
      refine throws_of_find hlooked htenant (fun _ hnext => ?_) herror
      cases hnext

theorem Request.Queries.throws {op : RepositoryCall} {respond : op.Answer → Except Exception Response}
    (h : request.Queries op respond) {order : NaturalOrder} {exception : Exception}
    (herror : ((perform op order world).1 >>= respond) = .error exception) :
    request.Throws (some (op, world)) exception := by
  cases h with
  | @get input subscriptionId _ hid htenant =>
      have hlooked : (Request.get input).id? = some subscriptionId.value := congrArg some hid.symm
      refine throws_of_find hlooked htenant (fun _ hnext => ?_) herror
      cases hnext
  | list _ =>
      obtain ⟨error, rfl⟩ | ⟨result, hrespond⟩ := raise_bind_throws herror
      · exact .domain error
      · cases hrespond

theorem throwsBy_saving {read : SubscriptionStore} {saved : WebhookSubscription} (hdecides : Decides read request saved)
    (last : Option (RepositoryCall × World)) : ThrowsBy request.Throws last (saving saved) := by
  rw [saving_eq]
  intro order before
  obtain ⟨-, store, -, hperform⟩ | ⟨hconflict, hperform⟩ := perform_save_cases before order saved
  · rw [hperform]
    exact fun _ _ => nofun
  · rw [hperform]
    exact throwsBy_error (.conflict hdecides hconflict)

theorem throwsBy_execute (request : Request) : ThrowsBy request.Throws none request.execute := by
  have hform := execute_form request
  generalize request.execute = program at hform
  cases hform with
  | refused error => exact throwsBy_error (.domain error)
  | query h => exact fun order before _ hthrown => h.throws hthrown
  | @transaction op decide h =>
      intro order before
      cases hanswer : (perform op order before).1 >>= decide with
      | error exception =>
          simp only [hanswer]
          exact throwsBy_error (h.throws hanswer)
      | ok saved =>
          simp only [hanswer]
          exact throwsBy_saving (h.decides hanswer) _

/-! ### Replies -/

/-- The statuses a request can fail with, by its last call and the state it has made it in. -/
inductive HttpRequest.FailsWith (http : HttpRequest) : Option (RepositoryCall × World) → Nat → Prop
  | unauthorized {last : Option (RepositoryCall × World)} (h : http.tenant = none) : FailsWith http last 401
  | refused {last : Option (RepositoryCall × World)} {status : Nat} (h : http.tenant ≠ none)
      (hstatus : status ∈ [400, 409]) : FailsWith http last status
  | notFound {id tenant : String} {op : RepositoryCall} {world : World} (htenant : http.tenant = some tenant)
      (hroute : http.route.id? = some id) (hmissing : ¬ world.Stores id tenant) : FailsWith http (some (op, world)) 404
  | conflict {saved : WebhookSubscription} {world : World} (htenant : http.tenant = some saved.tenantId.value)
      (hwrites : http.MayWrite (toDocument saved)) (hconflict : world.subscriptions.Conflicts (toDocument saved)) :
      FailsWith http (some (.save saved, world)) 500
  | null {last : Option (RepositoryCall × World)} {id : String} {body : Json.Fields} {dto : UpdateSubscriptionDto}
      (h : http.tenant ≠ none) (hroute : http.route = .update id body)
      (hvalid : UpdateSubscriptionDto.validate body = .ok dto) (hnull : dto.targetUrl = .null ∨ dto.eventTypes = .null) :
      FailsWith http last 500

/-- A reply without data, by the last call of its request. -/
structure HttpReply.Fails (http : HttpRequest) (last : Option (RepositoryCall × World)) (reply : HttpReply) : Prop where
  status : http.FailsWith last reply.status
  statusCode : reply.body.StatusCode = reply.status
  data : reply.body.Data = none
  errors : reply.body.Errors ≠ []

/-- A reply with the data, but for the masked target URLs. -/
structure HttpReply.Shows (http : HttpRequest) (data : ResponseDto) (reply : HttpReply) : Prop where
  status : reply.status = http.route.httpCode
  statusCode : reply.body.StatusCode = reply.status
  code : reply.body.Code = "OK"
  errors : reply.body.Errors = []
  data : ∃ masked, reply.body.Data = some masked ∧ data.SameButTargetUrl masked

theorem reply_ok (http : HttpRequest) (data : ResponseDto) (draws : Nat → Draw) :
    (http.reply (.ok data) draws).1.Shows http data :=
  ⟨rfl, rfl, rfl, rfl, _, rfl, always_maskResponse data draws⟩

omit [Platform] in
theorem status_of_canActivate {headers : Headers} {exception : Exception}
    (h : IdentityGuard.canActivate headers = .error exception) : (DomainExceptionFilter.resolve exception).status = 401 := by
  unfold IdentityGuard.canActivate at h
  split at h
  · cases h
    rfl
  · split at h
    · cases h
      rfl
    · cases h

theorem HttpRequest.Admitted.id? {identity : ResolvedIdentity}
    {R : Except Exception Response → Except Exception ResponseDto → Prop} (h : http.Admitted identity request R) :
    request.id? = http.route.id? := by
  cases h <;> simp_all [Request.id?, Route.id?, UpdateSubscriptionDto.toInput]

theorem HttpRequest.Admitted.failsWith {identity : ResolvedIdentity}
    {R : Except Exception Response → Except Exception ResponseDto → Prop} (h : http.Admitted identity request R)
    (hidentity : IdentityGuard.canActivate http.headers = .ok identity) {last : Option (RepositoryCall × World)}
    {a : Except Exception Response} {b : Except Exception ResponseDto} (hab : R a b)
    (ha : ∀ exception, a = .error exception → request.Throws last exception) {exception : Exception}
    (hb : b = .error exception) : http.FailsWith last (DomainExceptionFilter.resolve exception).status := by
  have htenant : http.tenant = some request.tenantId := HttpRequest.Asks.tenant ⟨identity, R, hidentity, h⟩
  have hidentified : http.tenant ≠ none := by
    rw [htenant]
    exact Option.some_ne_none _
  have hsame (haError : a = .error exception) :
      http.FailsWith last (DomainExceptionFilter.resolve exception).status := by
    cases ha exception haError with
    | refused hstatus => exact .refused hidentified hstatus
    | notFound hid hmissing => exact .notFound htenant (h.id?.symm.trans hid) hmissing
    | conflict hdecides hconflict =>
        exact .conflict (htenant.trans (congrArg some hdecides.tenantId.symm)) (h.mayWrite hidentity hdecides) hconflict
  cases h with
  | @null _ _ dto hroute hvalid _ =>
      cases hab with
      | threw _ =>
          cases hb
          exact hsame rfl
      | @found loaded thrown happly =>
          cases hb
          have hmutated := dto.mutated_apply http.clock loaded
          rw [happly] at hmutated
          cases hmutated with
          | typeError hnull message => exact .null hidentified hroute hvalid (hnull.imp_right And.left)
          | refused _ error =>
              refine .refused hidentified ?_
              obtain hstatus | hstatus := DomainExceptionFilter.resolve_domain_status error <;> simp [hstatus]
  | _ =>
      cases hab with
      | threw _ =>
          cases hb
          exact hsame rfl
      | returned response => cases hb

/-- What a request fails with, however its calls fall. -/
theorem throwsBy_handle (http : HttpRequest) :
    ThrowsBy (fun last exception => http.FailsWith last (DomainExceptionFilter.resolve exception).status) none
      http.handle := by
  obtain ⟨exception, hrefused, hdone⟩ | ⟨identity, hidentity, hcases⟩ := http.handle_cases
  · rw [hdone]
    refine throwsBy_error ?_
    rw [status_of_canActivate hrefused]
    refine .unauthorized ?_
    rw [HttpRequest.tenant, hrefused]
    rfl
  · obtain ⟨exception, hdone, hstatus⟩ | ⟨request, R, hadmitted, halike⟩ := hcases
    · rw [hdone]
      refine throwsBy_error (.refused ?_ ?_)
      · rw [HttpRequest.tenant, hidentity]
        exact Option.some_ne_none _
      · rw [show _ = 400 from hstatus]
        decide
    · exact halike.ends (fun _ a b hab ha exception hb => hadmitted.failsWith hidentity hab ha hb)
        (throwsBy_execute request)

variable [DecidableEq ι] (https : ι → HttpRequest) (world : World) (schedule : List (ι × NaturalOrder)) (i : ι)

/-! ### Every request is answered -/

omit [DecidableEq ι] in
theorem within_execute (request : Request) : request.execute.Within 3 := by
  have hsaving (subscription : WebhookSubscription) : (saving subscription).Within 2 := by
    rw [saving_eq]
    intro answer
    cases answer with
    | error exception => trivial
    | ok _ => exact fun _ => trivial
  have hform := execute_form request
  generalize request.execute = program at hform
  cases hform with
  | refused error => trivial
  | query h => exact fun _ => trivial
  | @transaction op decide h =>
      intro answer
      dsimp only
      cases answer >>= decide with
      | error exception => trivial
      | ok saved => exact hsaving saved

omit [DecidableEq ι] in
theorem within_handle (http : HttpRequest) : http.handle.Within 3 := by
  obtain ⟨exception, -, hdone⟩ | ⟨identity, -, ⟨exception, hdone, -⟩ | ⟨request, R, -, halike⟩⟩ := http.handle_cases
  · rw [hdone]
    trivial
  · rw [hdone]
    trivial
  · exact halike.within (within_execute request)

/-- A request is answered once it has made three calls, whatever other requests do meanwhile. -/
theorem answered_within_three_calls (hcount : 3 ≤ (schedule.map Prod.fst).count i) :
    ∃ answer, HttpRequests.answer https ((HttpRequests.start https world).run perform schedule) i = some answer := by
  obtain ⟨result, hdone⟩ := System.done_of_within (s := HttpRequests.start https world) (within_handle (https i)) hcount
  unfold HttpRequests.answer
  rw [hdone]
  exact ⟨_, rfl⟩

/-- A request that is answered without data has failed as its last call says, and no call it has made has changed
anything. -/
theorem failure_changes_nothing {answer : Drawing HttpReply}
    (hanswer : HttpRequests.answer https ((HttpRequests.start https world).run perform schedule) i = some answer)
    (draws : Nat → Draw) (hdata : (answer draws).1.body.Data = none) :
    (answer draws).1.Fails (https i) (System.lastCall perform i (HttpRequests.start https world) schedule) ∧
      System.Leaves perform id i (HttpRequests.start https world) schedule := by
  obtain ⟨result, hdone, rfl⟩ := HttpRequests.answer_eq_some hanswer
  cases result with
  | error exception =>
      refine ⟨⟨?_, rfl, rfl, ?_⟩, ?_⟩
      · exact System.ends_of_done (s := HttpRequests.start https world) (throwsBy_handle (https i)) hdone exception rfl
      · exact DomainExceptionFilter.resolve_errors_ne_nil exception
      · have hcommits : (https i).handle.Commits perform World.subscriptions fun _ _ _ => True :=
          commits_handle fun _ _ _ _ _ _ _ _ => trivial
        exact System.leaves_of_error hcommits hdone
  | ok data =>
      obtain ⟨masked, hmasked, -⟩ := (reply_ok (https i) data draws).data
      rw [hmasked] at hdata
      cases hdata

/-- A request that is answered with data has done in one call what the data shows, and nothing to the stored
subscriptions in any other. -/
theorem data_shows_effect (hurl : URL.ReparsesSerialised) {answer : Drawing HttpReply}
    (hanswer : HttpRequests.answer https ((HttpRequests.start https world).run perform schedule) i = some answer)
    (draws : Nat → Draw) (hdata : (answer draws).1.body.Data ≠ none) :
    ∃ data, (answer draws).1.Shows (https i) data ∧
      System.TakesEffect perform World.subscriptions (HttpEffect (https i) data) i (HttpRequests.start https world)
        schedule := by
  obtain ⟨result, hdone, rfl⟩ := HttpRequests.answer_eq_some hanswer
  cases result with
  | error exception => exact absurd rfl hdata
  | ok data =>
      exact ⟨data, reply_ok (https i) data draws, System.takesEffect_of_ok (commits_handle_effect hurl (https i)) hdone⟩

end Replies

section Sample

attribute [local instance] samplePlatform

theorem answered_within_three_calls_sample :
    ∃ answer, HttpRequests.answer threeCallers ((HttpRequests.start threeCallers sampleWorld).run perform
      [(.owner, .insertion), (.stranger, .insertion), (.owner, .insertion), (.owner, .insertion)]) .owner = some answer :=
  answered_within_three_calls threeCallers sampleWorld
    [(.owner, .insertion), (.stranger, .insertion), (.owner, .insertion), (.owner, .insertion)] .owner (by decide)

/-- The owner gives its second subscription the URL of its first one. -/
def patchTaken : HttpRequest where
  headers := sampleHeaders "tenant-1"
  route := .update otherId.value [("targetUrl", .str "https://client.example.com/inbound")]
  generated := otherId
  clock := fun n => n

/-- The save of the PATCH meets the index, after another tenant has made its lookup. -/
theorem failure_changes_nothing_sample :
    ∃ answer : Drawing HttpReply,
      ((answer lowestDraws).1.Fails patchTaken (System.lastCall perform .owner
          (HttpRequests.start (Function.update threeCallers .owner patchTaken) twoSubscriptions)
          [(.owner, .insertion), (.stranger, .insertion), (.owner, .insertion)]) ∧
        System.Leaves perform id .owner
          (HttpRequests.start (Function.update threeCallers .owner patchTaken) twoSubscriptions)
          [(.owner, .insertion), (.stranger, .insertion), (.owner, .insertion)]) ∧
      (answer lowestDraws).1.status = 500 :=
  ⟨_, failure_changes_nothing (Function.update threeCallers .owner patchTaken) twoSubscriptions
    [(.owner, .insertion), (.stranger, .insertion), (.owner, .insertion)] .owner rfl lowestDraws rfl, rfl⟩

/-- The owner deletes the sample subscription while the other tenant makes its lookup. -/
theorem data_shows_effect_sample :
    ∃ answer : Drawing HttpReply, ∃ data, (answer lowestDraws).1.Shows (threeCallers .owner) data ∧
      System.TakesEffect perform World.subscriptions (HttpEffect (threeCallers .owner) data) .owner
        (HttpRequests.start threeCallers sampleWorld)
        [(.owner, .insertion), (.stranger, .insertion), (.owner, .insertion), (.owner, .insertion)] :=
  ⟨_, data_shows_effect threeCallers sampleWorld
    [(.owner, .insertion), (.stranger, .insertion), (.owner, .insertion), (.owner, .insertion)] .owner
    samplePlatform_reparsesSerialised rfl lowestDraws nofun⟩

end Sample

end WebhookIdp.Subscription
