import WebhookIdp.Base.Commit
import WebhookIdp.Subscription.Http
import WebhookIdp.Subscription.Listing
import WebhookIdp.Subscription.Updates

/-!
# Requests take effect in one call

Whatever other requests do in between, a request that is answered with an error has changed nothing, and one that is
answered with data has done what the answer shows in one call: it has written the document, or read it.
-/

namespace WebhookIdp.Subscription

open Concurrent (Program System)
open SubscriptionMongoRepository

section Atomic

variable [Platform]

/-! ### Use cases -/

/-- What the call that counts has done to the state, and what the answer has of it. -/
inductive Effect : Request → Response → World → World → Prop
  | wrote {request : Request} {read store : SubscriptionStore} {saved : WebhookSubscription} {before : World}
      (hdecides : Decides read request saved) (hsave : before.subscriptions.save saved = some store) :
      Effect request (.subscription saved.drained) before { before with subscriptions := store }
  | found {input : SubscriptionKeyInput} {id : SubscriptionId} {tenantId : TenantId} {subscription : WebhookSubscription}
      {world : World} (hid : id.value = input.id) (htenant : tenantId.value = input.tenantId)
      (hfind : findByIdAndTenant world.subscriptions id tenantId = .ok (some subscription)) :
      Effect (.get input) (.subscription subscription) world world
  | listed {input : ListSubscriptionsInput} {tenantId : TenantId} {order : NaturalOrder}
      {result : PaginatedResult WebhookSubscription} {world : World} (htenant : tenantId.value = input.tenantId)
      (hlist : list world.subscriptions order tenantId input.filters input.pagination = .ok result) :
      Effect (.list input) (.page result) world world

variable {request : Request}

theorem loaded_eq {store : SubscriptionStore} {id : SubscriptionId} {tenantId : TenantId} {loaded : WebhookSubscription}
    (h : findByIdAndTenant store id tenantId = .ok (some loaded)) :
    loaded.id.value = id.value ∧ loaded.tenantId.value = tenantId.value := by
  obtain ⟨record, hfind, hread⟩ := rehydrate_eq_ok_some_iff.mp h
  have hkey := List.find?_some hfind
  rw [Bool.and_eq_true, beq_iff_eq, beq_iff_eq] at hkey
  obtain ⟨hid, htenant, -⟩ := toAggregate_eq_ok hread
  exact ⟨hid.trans hkey.1, htenant.trans hkey.2⟩

theorem Decides.tenantId {store : SubscriptionStore} {subscription : WebhookSubscription}
    (h : Decides store request subscription) : subscription.tenantId.value = request.tenantId := by
  cases h with
  | create htenant _ _ hcreate =>
      rw [(CreateSubscriptionInput.create_eq_ok hcreate).2.1]
      exact htenant
  | update _ htenant hfound happly =>
      rw [(UpdateSubscriptionInput.apply_eq_ok happly).tenantId]
      exact (loaded_eq hfound).2.trans htenant
  | delete _ htenant hfound =>
      rw [WebhookSubscription.delete_tenantId]
      exact (loaded_eq hfound).2.trans htenant

theorem committed_publishing (subscription : WebhookSubscription) {q : Response → Prop}
    (h : q (.subscription subscription.drained)) :
    (publishing subscription).Committed perform World.subscriptions q :=
  fun _ _ => ⟨rfl, _, rfl, h⟩

theorem commits_saving {effect : Response → World → World → Prop} (subscription : WebhookSubscription)
    (heffect : ∀ before store, before.subscriptions.save subscription = some store →
      effect (.subscription subscription.drained) before { before with subscriptions := store }) :
    (saving subscription).Commits perform World.subscriptions effect := by
  rw [saving_eq]
  intro order before
  obtain ⟨-, store, hsave, hperform⟩ | ⟨-, hperform⟩ := perform_save_cases before order subscription
  · rw [hperform]
    exact Or.inr (committed_publishing subscription (heffect before store hsave))
  · rw [hperform]
    exact Or.inl ⟨rfl, _, rfl⟩

theorem Request.Queries.effect {op : RepositoryCall} {respond : op.Answer → Except Exception Response}
    {order : NaturalOrder} {world : World} {response : Response} (h : request.Queries op respond)
    (hok : ((perform op order world).1 >>= respond) = .ok response) : Effect request response world world := by
  cases h with
  | get hid htenant =>
      obtain ⟨subscription, hfind, hnext⟩ := found_eq_ok hok
      cases hnext
      exact .found hid htenant hfind
  | list htenant =>
      obtain ⟨result, hlist, hnext⟩ := Throwing.bind_eq_ok_iff.mp hok
      cases hnext
      exact .listed htenant (raise_eq_ok_iff.mp hlist)

theorem commits_execute (request : Request) :
    request.execute.Commits perform World.subscriptions (Effect request) := by
  have hform := execute_form request
  generalize request.execute = program at hform
  cases hform with
  | refused error => exact ⟨_, rfl⟩
  | @query op respond h =>
      intro order world
      rw [h.state_eq order world]
      cases hanswer : (perform op order world).1 >>= respond with
      | error exception => exact Or.inl ⟨rfl, exception, hanswer⟩
      | ok response => exact Or.inr ⟨response, hanswer, h.effect hanswer⟩
  | @transaction op decide h =>
      intro order world
      rw [h.state_eq order world]
      refine Or.inl ⟨rfl, ?_⟩
      cases hanswer : (perform op order world).1 >>= decide with
      | error exception =>
          simp only [hanswer]
          exact ⟨exception, rfl⟩
      | ok saved =>
          simp only [hanswer]
          exact commits_saving saved fun _ _ hsave => .wrote (h.decides hanswer) hsave

/-! ### Requests -/

omit [Platform] in
/-- What a response shows of a document. -/
def SubscriptionRecord.shown (record : SubscriptionRecord) : SubscriptionResponseDto where
  Id := record._id
  TargetUrl := record.targetUrl
  EventTypes := record.subscribedEventTypes
  Status := toString record.status
  CreatedAt := Date.toISOString record.createdAt
  UpdatedAt := Date.toISOString record.updatedAt

omit [Platform] in
/-- The document is one of the tenant that passes the filters of the query. -/
def ListSubscriptionsQueryDto.selects (dto : ListSubscriptionsQueryDto) (tenant : String)
    (record : SubscriptionRecord) : Bool :=
  record.tenantId == tenant
    && dto.status.value?.all (fun status => record.status == status)
    && dto.eventType.value?.all (fun eventType => record.subscribedEventTypes.contains eventType)

/-- The request writes, and `record` is what it may write: a POST the subscription that its body and headers describe,
under the id generated for it, a PATCH the one its route names, with what its body gives, a DELETE the one its route
names. -/
inductive HttpRequest.MayWrite (http : HttpRequest) (record : SubscriptionRecord) : Prop
  | create {body : Json.Fields} {identity : ResolvedIdentity} {dto : CreateSubscriptionDto} {targetUrl : TargetUrl}
      (hroute : http.route = .create body) (hidentity : IdentityGuard.canActivate http.headers = .ok identity)
      (hvalid : CreateSubscriptionDto.validate body = .ok dto)
      (htarget : TargetUrl.fromString dto.targetUrl = .ok targetUrl)
      (hrecord : record = {
        _id := http.generated.value
        tenantId := identity.tenantId
        createdByClientId := identity.clientId
        createdByUserId := identity.userId
        targetUrl := targetUrl.value
        subscribedEventTypes := dto.eventTypes
        status := .ACTIVE
        createdAt := http.clock 0
        updatedAt := http.clock 0 })
  | update {body : Json.Fields} {dto : UpdateSubscriptionDto} (hroute : http.route = .update record._id body)
      (hvalid : UpdateSubscriptionDto.validate body = .ok dto)
      (hreflects : (dto.toInput record._id record.tenantId).Reflects record)
  | delete (hroute : http.route = .delete record._id) (hstatus : record.status = .DELETED)

/-- What the call that counts has done to the state, and what the response shows of it. -/
inductive HttpEffect (http : HttpRequest) : ResponseDto → World → World → Prop
  | wrote {record : SubscriptionRecord} {before after : World} (hwrites : http.MayWrite record)
      (htenant : http.tenant = some record.tenantId)
      (hdocs : after.subscriptions.docs =
        DocumentStore.replaceDoc SubscriptionRecord._id record before.subscriptions.docs)
      (hpublished : after.published = before.published) :
      HttpEffect http (.subscription record.shown) before after
  | found {record : SubscriptionRecord} {world : World} (hroute : http.route = .getById record._id)
      (htenant : http.tenant = some record.tenantId) (hstored : record ∈ world.subscriptions.docs) :
      HttpEffect http (.subscription record.shown) world world
  -- the total is left out: the code asks for it in a second query, which another state may answer
  | listed {query : Json.Fields} {dto : ListSubscriptionsQueryDto} {tenant : String}
      {page : PaginatedSubscriptionsResponseDto} {records : List SubscriptionRecord} {world : World}
      (hroute : http.route = .list query) (hvalid : ListSubscriptionsQueryDto.validate query = .ok dto)
      (htenant : http.tenant = some tenant) (hpage : DenotesPage query page.Page page.PageSize)
      (hrecords : records.Perm (world.subscriptions.docs.filter (dto.selects tenant)))
      (hitems : page.Items = (Paging.page records page.PageSize (page.Page - 1)).map SubscriptionRecord.shown) :
      HttpEffect http (.page page) world world

variable {http : HttpRequest} {identity : ResolvedIdentity}

omit [Platform] in
theorem selects_eq_query {dto : ListSubscriptionsQueryDto} {eventType : Option EventType} {tenantId : TenantId}
    (h : dto.eventTypeFilter = .ok eventType) :
    dto.selects tenantId.value = SubscriptionMongoRepository.query tenantId { status := dto.status.value?, eventType } := by
  funext record
  unfold ListSubscriptionsQueryDto.eventTypeFilter at h
  unfold ListSubscriptionsQueryDto.selects SubscriptionMongoRepository.query
  cases hvalue : dto.eventType with
  | undefined =>
      rw [hvalue] at h
      cases h
      rfl
  | null =>
      rw [hvalue] at h
      cases h
  | value text =>
      rw [hvalue] at h
      obtain ⟨parsed, hparsed, rfl⟩ := Throwing.map_eq_ok_iff.mp (raise_eq_ok_iff.mp h)
      rw [← Text.NonBlank.fromString_eq_ok_iff.mp hparsed]
      rfl

omit [Platform] in
theorem denotesPage_of_ok {query : Json.Fields} {pagination : Pagination}
    (h : PaginationInterceptor.intercept query = .ok pagination) :
    DenotesPage query pagination.page pagination.pageSize := by
  obtain ⟨pagination', hok, hdenotes⟩ | ⟨fieldName, herror, -⟩ := intercept_cases query
  · rw [h] at hok
    cases hok
    exact (hdenotes _ _).mpr ⟨rfl, rfl⟩
  · rw [h] at herror
    cases herror

theorem HttpEffect.of_list (hurl : URL.ReparsesSerialised) {query : Json.Fields} {pagination : Pagination}
    {dto : ListSubscriptionsQueryDto} {eventType : Option EventType} (hroute : http.route = .list query)
    (hpagination : PaginationInterceptor.intercept query = .ok pagination)
    (hvalid : ListSubscriptionsQueryDto.validate query = .ok dto) (hfilter : dto.eventTypeFilter = .ok eventType)
    {tenantId : TenantId} (htenant : http.tenant = some tenantId.value) {order : NaturalOrder} {world : World}
    {result : PaginatedResult WebhookSubscription}
    (hlist : list world.subscriptions order tenantId { status := dto.status.value?, eventType } pagination = .ok result) :
    HttpEffect http (.page (toPaginatedSubscriptionsResponseDto result)) world world := by
  obtain ⟨hread, hpage, hsize, -⟩ := list_eq_ok_iff.mp hlist
  have hrecords : (order.arrange
      (matching world.subscriptions tenantId { status := dto.status.value?, eventType })).Perm
      (world.subscriptions.docs.filter (dto.selects tenantId.value)) := by
    rw [selects_eq_query hfilter]
    exact order.perm _
  have hitems := map_toDocument_items hurl (fun _ => mem_docs_of_mem_page) hread
  have hdenotes : DenotesPage query result.page result.pageSize := by
    rw [hpage, hsize]
    exact denotesPage_of_ok hpagination
  refine .listed hroute hvalid htenant hdenotes hrecords ?_
  show result.items.map toSubscriptionResponseDto =
    (Paging.page _ result.pageSize (result.page - 1)).map SubscriptionRecord.shown
  rw [hpage, hsize, ← hitems, List.map_map]
  rfl

theorem HttpRequest.Admitted.mayWrite {R : Except Exception Response → Except Exception ResponseDto → Prop}
    (h : http.Admitted identity request R) (hidentity : IdentityGuard.canActivate http.headers = .ok identity)
    {read : SubscriptionStore} {saved : WebhookSubscription} (hdecides : Decides read request saved) :
    http.MayWrite (toDocument saved) := by
  cases hdecides with
  | create htenant htarget _ hcreate =>
      have hrecord := CreateSubscriptionInput.toDocument_of_create htenant hcreate
      cases h with
      | create hroute hvalid => exact .create hroute hidentity hvalid htarget hrecord
  | @update input _ _ _ loaded _ hid _ hfound happly =>
      have happlied := UpdateSubscriptionInput.apply_eq_ok happly
      have hsaved : (toDocument saved)._id = input.id := by
        rw [← hid, ← (loaded_eq hfound).1, ← happlied.id]
        rfl
      cases h with
      | update hroute hvalid _ =>
          obtain ⟨htarget, heventTypes, hstatus⟩ := happlied.reflects
          exact .update (hroute.trans (by rw [hsaved]; rfl)) hvalid ⟨htarget, heventTypes, hstatus⟩
  | @delete input now _ _ loaded hid _ hfound =>
      have hsaved : (toDocument (loaded.delete now))._id = input.id := by
        have hkept : (loaded.delete now).id = loaded.id := WebhookSubscription.delete_id
        rw [← hid, ← (loaded_eq hfound).1, ← hkept]
        rfl
      cases h with
      | delete hroute => exact .delete (hroute.trans (by rw [hsaved])) WebhookSubscription.delete_status

theorem HttpRequest.Admitted.effect (hurl : URL.ReparsesSerialised)
    {R : Except Exception Response → Except Exception ResponseDto → Prop} (h : http.Admitted identity request R)
    (hidentity : IdentityGuard.canActivate http.headers = .ok identity) {response : Response} {data : ResponseDto}
    (hdata : R (.ok response) (.ok data)) {before after : World} (heffect : Effect request response before after) :
    HttpEffect http data before after := by
  have htenant : http.tenant = some request.tenantId := HttpRequest.Asks.tenant ⟨identity, R, hidentity, h⟩
  cases heffect with
  | @wrote _ _ store saved before hdecides hsave =>
      rw [← hdecides.tenantId] at htenant
      have hwrote : HttpEffect http (.subscription (toDocument saved).shown) before
          { before with subscriptions := store } :=
        .wrote (h.mayWrite hidentity hdecides) htenant (SubscriptionStore.docs_save hsave) rfl
      cases h with
      | null => cases hdata
      | _ =>
          cases hdata
          exact hwrote
  | @found input id tenantId subscription world hid hfoundTenant hfind =>
      obtain ⟨hmem, hstoredId, hstoredTenant, -⟩ := findByIdAndTenant_eq_ok_some hurl hfind
      cases h with
      | getById hroute =>
          cases hdata
          have hnamed : http.route = .getById (toDocument subscription)._id := by
            rw [hroute]
            exact congrArg Route.getById (hid.symm.trans hstoredId.symm)
          have hfound : HttpEffect http (.subscription (toDocument subscription).shown) before before :=
            .found hnamed (htenant.trans (congrArg some (hfoundTenant.symm.trans hstoredTenant.symm))) hmem
          exact hfound
      | null => cases hdata
  | @listed input tenantId order result world hlistTenant hlist =>
      cases h with
      | @list query pagination dto eventType hroute hpagination hvalid hfilter =>
          cases hdata
          exact .of_list hurl hroute hpagination hvalid hfilter (htenant.trans (congrArg some hlistTenant.symm)) hlist

theorem reads_get (input : SubscriptionKeyInput) :
    (Request.get input).execute.OnlyCalls fun op => ∀ order world, (perform op order world).2 = world := by
  have hform := execute_form (.get input)
  generalize (Request.get input).execute = program at hform
  cases hform with
  | refused error => trivial
  | transaction h => cases h
  | query h => exact ⟨h.state_eq, fun _ => trivial⟩

theorem commits_handle {effect : ResponseDto → World → World → Prop}
    (heffect : ∀ {identity request R} (_ : http.Admitted identity request R)
      (_ : IdentityGuard.canActivate http.headers = .ok identity) {response data} (_ : R (.ok response) (.ok data))
      {before after} (_ : Effect request response before after), effect data before after) : http.handle.Commits perform World.subscriptions effect := by
  obtain ⟨exception, -, hdone⟩ | ⟨identity, hidentity, hcases⟩ := http.handle_cases
  · rw [hdone]
    exact ⟨exception, rfl⟩
  · obtain ⟨exception, hdone, -⟩ | ⟨request, R, hadmitted, halike⟩ := hcases
    · rw [hdone]
      exact ⟨exception, rfl⟩
    · have hcommits (hthrow : ∀ e b, R (.error e) b → ∃ e', b = .error e')
          (hreturn : ∀ response b, R (.ok response) b → ∃ data, b = .ok data) :
          http.handle.Commits perform World.subscriptions effect := by
        refine halike.commits hthrow (fun response b hb => ?_) (commits_execute request)
        obtain ⟨data, rfl⟩ := hreturn response b hb
        exact ⟨data, rfl, fun _ _ => heffect hadmitted hidentity hb⟩
      cases hadmitted with
      | null _ _ _ =>
          refine halike.commits_of_throws (fun a b hab => ?_) (reads_get _)
          cases hab <;> exact ⟨_, rfl⟩
      | _ =>
          refine hcommits (fun e b hb => ?_) fun response b hb => ?_ <;> cases hb <;> exact ⟨_, rfl⟩

/-- A request whose result shows what it has done in one call. -/
theorem commits_handle_effect (hurl : URL.ReparsesSerialised) (http : HttpRequest) :
    http.handle.Commits perform World.subscriptions (HttpEffect http) :=
  commits_handle fun hadmitted hidentity _ _ hdata _ _ heffect => hadmitted.effect hurl hidentity hdata heffect

end Atomic

end WebhookIdp.Subscription
