import WebhookIdp.Subscription.Answers
import WebhookIdp.Subscription.Masking

/-!
# Writing a masked URL back

The target URL of a response is meant for display. The masked host of a DNS name is a host, though, so a PATCH
with what a GET returned replaces the stored URL, unless something else stops it.
-/

namespace WebhookIdp.Subscription

open Concurrent (Program)
open Randomised (Draw)

section WriteBack

variable [Platform]

/-- `*` is a character of a host name: the URL with its host masked parses to just that. -/
def URL.ReparsesMasked : Prop :=
  ∀ value url host, Platform.newURL value = some url → url.protocol = "https:" → url.username = "" →
    url.password = "" → IsDnsName url.hostname → IsMaskOf url.hostname host →
    Platform.newURL (url.withHost host) = some { url with hostname := host, href := url.withHost host }

/-! ### The masked URL -/

/-- A masked URL with the host of a DNS name passes the factory unless it is too long. -/
theorem TargetUrl.fromString_masked (hmask : URL.ReparsesMasked) {value host : String} {url : URL}
    (hparsed : Platform.newURL value = some url) (haccepted : URL.Accepted url) (hdns : IsDnsName url.hostname)
    (hhost : IsMaskOf url.hostname host) (hlength : Text.length (url.withHost host) ≤ MAX_LENGTH) :
    ∃ target, TargetUrl.fromString (url.withHost host) = .ok target := by
  obtain ⟨hprotocol, husername, hpassword, -⟩ := haccepted
  have hmasked := hmask value url host hparsed hprotocol husername hpassword hdns hhost
  have hguard := isPrivateOrReservedHost_of_isMaskOf hdns.not_ipv6 hhost
  refine ⟨⟨url.withHost host, _, _, hmasked, ⟨hprotocol, husername, hpassword, hguard⟩, rfl⟩, ?_⟩
  rw [TargetUrl.fromString_eq_ok_iff]
  exact ⟨hlength, _, hmasked, ⟨hprotocol, husername, hpassword, hguard⟩, rfl⟩

theorem TargetUrl.value_masked (hmask : URL.ReparsesMasked) {value host : String} {url : URL} {target : TargetUrl}
    (hparsed : Platform.newURL value = some url) (haccepted : URL.Accepted url) (hdns : IsDnsName url.hostname)
    (hhost : IsMaskOf url.hostname host) (h : TargetUrl.fromString (url.withHost host) = .ok target) :
    target.value = url.withHost host := by
  obtain ⟨hprotocol, husername, hpassword, -⟩ := haccepted
  obtain ⟨-, parsed, hparse, -, hvalue⟩ := TargetUrl.fromString_eq_ok_iff.mp h
  rw [hmask value url host hparsed hprotocol husername hpassword hdns hhost] at hparse
  cases hparse
  exact hvalue

/-! ### Writing it back -/

/-- The request fails, or it leaves the stored target URL as it is. -/
def Harmless {α : Type} (id : String) (world : World) (outcome : Except Exception α × World) : Prop :=
  (∃ exception, outcome.1 = .error exception) ∨
    (outcome.2.stored id).map SubscriptionRecord.targetUrl = (world.stored id).map SubscriptionRecord.targetUrl

variable {identity : ResolvedIdentity} {id : String} {order : NaturalOrder} {world : World}

theorem handle_getById_eq_ok {response : SubscriptionResponseDto}
    (h : (handle (SubscriptionsController.getById identity id) order world).1 = .ok response) :
    ∃ subscriptionId tenant loaded, subscriptionId.value = id ∧ tenant.value = identity.tenantId ∧
      SubscriptionMongoRepository.findByIdAndTenant world.subscriptions subscriptionId tenant = .ok (some loaded) ∧
      response = toSubscriptionResponseDto loaded := by
  unfold SubscriptionsController.getById GetSubscriptionUseCase.execute handle at h
  rcases handle_findOrThrow_cases id identity.tenantId order world with
    ⟨exception, -, hfailed⟩ | ⟨subscriptionId, tenant, loaded, hid, htenant, hfound, hok⟩
  · rw [Program.eval_bind_of_error hfailed] at h
    cases h
  · rw [Program.eval_bind_of_ok hok] at h
    cases h
    exact ⟨subscriptionId, tenant, loaded, hid, htenant, hfound, rfl⟩

theorem targetUrl_of_intercept {response masked : SubscriptionResponseDto} {draws : Nat → Draw}
    (h : (TargetUrlMaskingInterceptor.intercept (.ok (.subscription response)) draws).1 = .ok (.subscription masked)) :
    masked.TargetUrl = (maskTargetUrl response.TargetUrl draws).1 := by
  cases h
  rfl

/-- What the GET of a subscription under a DNS name shows of it. -/
structure ShowsMasked (id : String) (world : World) (identity : ResolvedIdentity) (record : SubscriptionRecord)
    (url : URL) (text : String) : Prop where
  found : ∃ subscriptionId tenant loaded, subscriptionId.value = id ∧ tenant.value = identity.tenantId ∧
    SubscriptionMongoRepository.findByIdAndTenant world.subscriptions subscriptionId tenant = .ok (some loaded) ∧
    toDocument loaded = record
  accepted : URL.Accepted url
  masked : ∃ host, IsMaskOf url.hostname host ∧ text = url.withHost host

theorem showsMasked_of_get (hurl : URL.ReparsesSerialised) {draws : Nat → Draw} {masked : SubscriptionResponseDto}
    {record : SubscriptionRecord} {url : URL}
    (hget : (TargetUrlMaskingInterceptor.intercept
      ((handle (SubscriptionsController.getById identity id) order world).1.map .subscription) draws).1 =
        .ok (.subscription masked))
    (hstored : world.stored id = some record) (hparsed : Platform.newURL record.targetUrl = some url)
    (hdns : IsDnsName url.hostname) : ShowsMasked id world identity record url masked.TargetUrl := by
  cases hresponse : (handle (SubscriptionsController.getById identity id) order world).1 with
  | error exception =>
      rw [hresponse] at hget
      cases hget
  | ok response =>
      rw [hresponse] at hget
      have htext := targetUrl_of_intercept hget
      obtain ⟨subscriptionId, tenant, loaded, hid, htenant, hfound, rfl⟩ := handle_getById_eq_ok hresponse
      have hdocument : toDocument loaded = record := by
        have hloaded := SubscriptionMongoRepository.get?_of_found hurl hfound
        rw [hid] at hloaded
        exact Option.some.inj (hloaded.symm.trans hstored)
      refine ⟨⟨subscriptionId, tenant, loaded, hid, htenant, hfound, hdocument⟩, ?_, ?_⟩
      · rw [← hdocument] at hparsed
        exact TargetUrl.accepted_of_parsed hurl hparsed
      · rw [← hdocument] at hparsed
        refine ⟨_, always_maskHostname hdns draws, htext.trans ?_⟩
        unfold maskTargetUrl
        rw [show Platform.newURL (toSubscriptionResponseDto loaded).TargetUrl = some url from hparsed]
        rfl

theorem conflicts_toDocument_iff {store : SubscriptionStore} {subscription : WebhookSubscription} :
    store.Conflicts (toDocument subscription) ↔ ∃ other ∈ store.docs, other._id ≠ subscription.id.value ∧
      other.tenantId = subscription.tenantId.value ∧ other.targetUrl = subscription.targetUrl.value := by
  refine exists_congr fun other => and_congr_right fun _ => ?_
  rw [SubscriptionRecord.tenantAndTargetUrl, SubscriptionRecord.tenantAndTargetUrl, Prod.mk.injEq, and_comm]
  rfl

theorem harmless_saveAndPublish_iff (subscription : WebhookSubscription) (order : NaturalOrder) (world : World) :
    Harmless subscription.id.value world
      (handle (do return toSubscriptionResponseDto (← saveAndPublish subscription)) order world) ↔
      world.subscriptions.Conflicts (toDocument subscription) ∨
        (world.stored subscription.id.value).map SubscriptionRecord.targetUrl = some subscription.targetUrl.value := by
  unfold handle
  rcases eval_saveAndPublish_cases order world subscription with ⟨store, hsave, heval⟩ | ⟨hconflict, heval⟩
  · have hnot : ¬ world.subscriptions.Conflicts (toDocument subscription) := by
      intro hconflict
      rw [SubscriptionStore.save_eq_none_iff.mpr hconflict] at hsave
      cases hsave
    have hafter : store.get? subscription.id.value = some (toDocument subscription) :=
      SubscriptionStore.get?_save_self hsave
    rw [Program.eval_bind_of_ok heval]
    constructor
    · rintro (⟨exception, herror⟩ | hstored)
      · cases herror
      · exact Or.inr (hstored.symm.trans (congrArg _ hafter))
    · rintro (hconflict | hstored)
      · exact absurd hconflict hnot
      · exact Or.inr ((congrArg _ hafter).trans hstored.symm)
  · rw [Program.eval_bind_of_error heval]
    exact iff_of_true (Or.inl ⟨_, rfl⟩) (Or.inl hconflict)

/-- Writing back what a GET returned is harmless exactly when the update is refused for something else, the masked
URL is too long, another subscription of the tenant has it, or it is the stored one. -/
theorem write_back_harmless_iff (hurl : URL.ReparsesSerialised) (hmask : URL.ReparsesMasked) {draws : Nat → Draw}
    {masked : SubscriptionResponseDto} {record : SubscriptionRecord} {url : URL} {body : Json.Fields}
    (hget : (TargetUrlMaskingInterceptor.intercept
      ((handle (SubscriptionsController.getById identity id) order world).1.map .subscription) draws).1 =
        .ok (.subscription masked))
    (hstored : world.stored id = some record) (hparsed : Platform.newURL record.targetUrl = some url)
    (hdns : IsDnsName url.hostname) (hbody : body.lookup "targetUrl" = some (.str masked.TargetUrl))
    (clock : Nat → Date) (order' : NaturalOrder) :
    Harmless id world (handle (SubscriptionsController.update identity id body clock) order' world) ↔
      (∀ dto, UpdateSubscriptionDto.validate body = .ok dto → ¬ dto.Admits record.status) ∨
        MAX_LENGTH < Text.length masked.TargetUrl ∨
        (∃ other ∈ world.subscriptions.docs, other._id ≠ id ∧ other.tenantId = record.tenantId ∧
          other.targetUrl = masked.TargetUrl) ∨
        record.targetUrl = masked.TargetUrl := by
  obtain ⟨⟨subscriptionId, tenant, loaded, hid, htenant, hfound, rfl⟩, haccepted, host, hhost, htext⟩ :=
    showsMasked_of_get hurl hget hstored hparsed hdns
  rw [htext] at hbody ⊢
  cases hvalid : UpdateSubscriptionDto.validate body with
  | error exception =>
      unfold SubscriptionsController.update
      rw [hvalid]
      exact iff_of_true (Or.inl ⟨exception, rfl⟩) (Or.inl nofun)
  | ok dto =>
      have hvalue := UpdateSubscriptionDto.targetUrl_of_validate hvalid hbody
      rw [handle_update_of_valid hvalid,
        handle_executeDto_of_found (handle_findOrThrow_of_found hid htenant hfound)]
      cases happly : dto.apply clock loaded with
      | error exception =>
          refine iff_of_true (Or.inl ⟨exception, rfl⟩) ?_
          by_cases hlength : MAX_LENGTH < Text.length (url.withHost host)
          · exact Or.inr (Or.inl hlength)
          · refine Or.inl fun other hother hadmits => ?_
            cases hother
            obtain ⟨target, htarget⟩ :=
              TargetUrl.fromString_masked hmask hparsed haccepted hdns hhost (Nat.not_lt.mp hlength)
            obtain ⟨result, hresult⟩ := UpdateSubscriptionDto.exists_apply_of_admits hvalue htarget hadmits clock
            rw [hresult] at happly
            cases happly
      | ok result =>
          obtain ⟨hadmits, htarget, hresultId, hresultTenant⟩ := UpdateSubscriptionDto.admits_of_apply hvalue happly
          have hresultUrl := TargetUrl.value_masked hmask hparsed haccepted hdns hhost htarget
          have hlength := (TargetUrl.fromString_eq_ok_iff.mp htarget).1
          have hid : result.id.value = id := by
            obtain ⟨-, hloadedId, -⟩ := SubscriptionMongoRepository.findByIdAndTenant_eq_ok_some hurl hfound
            rw [hresultId, hloadedId, hid]
          have hend := harmless_saveAndPublish_iff result order' world
          rw [conflicts_toDocument_iff, hid, hstored, hresultTenant, hresultUrl, Option.map_some,
            Option.some.injEq] at hend
          refine hend.trans ⟨fun h => Or.inr (Or.inr h), ?_⟩
          rintro (hrefused | hlong | h)
          · exact absurd hadmits (hrefused dto rfl)
          · omega
          · exact h

end WriteBack

/-! ### A platform that parses plain https URLs -/

section Sample

def isHostChar (c : Char) : Bool := c.isLower || c.isDigit || c == '-' || c == '.' || c == '*'

def isPathChar (c : Char) : Bool := c.isAlphanum || c == '/'

/-- `https://` followed by a host name and a path. -/
def parseHttps (value : String) : Option URL :=
  let rest := value.toList.drop 8
  let host := rest.takeWhile isHostChar
  let path := rest.dropWhile isHostChar
  if "https://".toList.isPrefixOf value.toList && "/".toList.isPrefixOf path && path.all isPathChar then
    some (URL.https (String.ofList host) (String.ofList path))
  else none

@[reducible] def httpsPlatform : Platform where
  newURL := parseHttps
  validateUuid value := value == "018f5b3e-9c1a-7c3e-8f3a-6b6b6b6b6b6b"
  isUUID value := value == "018f5b3e-9c1a-7c3e-8f3a-6b6b6b6b6b6b"

/-- A host name and a path that `parseHttps` takes. -/
structure PlainHttps (host path : String) : Prop where
  host : ∀ c ∈ host.toList, isHostChar c = true
  slash : "/".toList <+: path.toList
  path : ∀ c ∈ path.toList, isPathChar c = true

theorem parseHttps_of_plain {host path : String} (h : PlainHttps host path) :
    parseHttps ("https://" ++ host ++ path) = some (URL.https host path) := by
  obtain ⟨rest, hrest⟩ := h.slash
  have htext : ("https://" ++ host ++ path).toList = "https://".toList ++ (host.toList ++ '/' :: rest) := by
    rw [String.toList_append, String.toList_append, List.append_assoc, ← hrest]
    rfl
  have hafter : ("https://" ++ host ++ path).toList.drop 8 = host.toList ++ '/' :: rest := by
    rw [htext]
    exact List.drop_left' rfl
  have hhost : (host.toList ++ '/' :: rest).takeWhile isHostChar = host.toList := by
    rw [List.takeWhile_append_of_pos h.host, List.takeWhile_cons_of_neg (by decide), List.append_nil]
  have hpath : (host.toList ++ '/' :: rest).dropWhile isHostChar = path.toList := by
    rw [List.dropWhile_append_of_pos h.host, List.dropWhile_cons_of_neg (by decide), ← hrest]
    rfl
  have hprefix : "https://".toList.isPrefixOf ("https://" ++ host ++ path).toList = true := by
    rw [List.isPrefixOf_iff_prefix, htext]
    exact List.prefix_append _ _
  have hslash : "/".toList.isPrefixOf path.toList = true := List.isPrefixOf_iff_prefix.mpr h.slash
  have hall : path.toList.all isPathChar = true := List.all_eq_true.mpr h.path
  unfold parseHttps
  simp only [hafter, hhost, hpath, hprefix, hslash, hall, Bool.and_self, if_true, String.ofList_toList]

theorem plain_of_parseHttps {value : String} {url : URL} (h : parseHttps value = some url) :
    ∃ host path, PlainHttps host path ∧ url = URL.https host path := by
  unfold parseHttps at h
  dsimp only at h
  split at h
  · rename_i hchecks
    rw [Bool.and_eq_true, Bool.and_eq_true, List.isPrefixOf_iff_prefix, List.isPrefixOf_iff_prefix,
      List.all_eq_true] at hchecks
    refine ⟨_, _, ⟨?_, ?_, ?_⟩, (Option.some.inj h).symm⟩
    · rw [String.toList_ofList]
      exact fun c hc => List.mem_takeWhile_imp hc
    · rw [String.toList_ofList (l := List.dropWhile _ _)]
      exact hchecks.1.2
    · rw [String.toList_ofList]
      exact hchecks.2
  · cases h

theorem httpsPlatform_reparsesSerialised : @URL.ReparsesSerialised httpsPlatform := by
  intro value url hvalue
  obtain ⟨host, path, hplain, rfl⟩ := plain_of_parseHttps hvalue
  exact parseHttps_of_plain hplain

theorem httpsPlatform_reparsesMasked : @URL.ReparsesMasked httpsPlatform := by
  intro value url host hvalue _ _ _ _ hmask
  obtain ⟨hostname, path, hplain, rfl⟩ := plain_of_parseHttps hvalue
  have htext : (URL.https hostname path).withHost host = "https://" ++ host ++ path := by
    have hscheme : "https:" ++ "//" = "https://" := by decide
    have hport : ¬ 0 < Text.length "" := by decide
    simp only [URL.withHost, URL.https, hscheme, hport, if_false, String.append_empty]
  have hmasked : PlainHttps host path := by
    refine ⟨fun c hc => ?_, hplain.slash, hplain.path⟩
    obtain rfl | rfl | horiginal := mem_of_isMaskOf hmask hc
    · decide
    · decide
    · exact hplain.host c horiginal
  rw [htext]
  exact parseHttps_of_plain hmasked

attribute [local instance] httpsPlatform

def inboundWorld : World :=
  (serve (.create sampleInput ⟨"018f5b3e-9c1a-7c3e-8f3a-6b6b6b6b6b6b", by decide⟩ 0) .insertion World.initial).2

def lowestDraws : Nat → Draw := fun _ => ⟨0, by decide, by decide⟩

def inboundRecord : SubscriptionRecord where
  _id := "018f5b3e-9c1a-7c3e-8f3a-6b6b6b6b6b6b"
  tenantId := "tenant-1"
  createdByClientId := "client-1"
  createdByUserId := none
  targetUrl := "https://client.example.com/inbound"
  subscribedEventTypes := ["order.created"]
  status := .ACTIVE
  createdAt := 0
  updatedAt := 0

def maskedInbound : SubscriptionResponseDto where
  Id := "018f5b3e-9c1a-7c3e-8f3a-6b6b6b6b6b6b"
  TargetUrl := "https://****.exa***.**/inbound"
  EventTypes := ["order.created"]
  Status := "ACTIVE"
  CreatedAt := "1970-01-01T00:00:00.000Z"
  UpdatedAt := "1970-01-01T00:00:00.000Z"

theorem maskTargetUrl_inbound :
    (maskTargetUrl "https://client.example.com/inbound" lowestDraws).1 = "https://****.exa***.**/inbound" := by
  decide +kernel

theorem getById_inbound :
    (handle (SubscriptionsController.getById sampleIdentity sampleKey.id) .insertion inboundWorld).1 =
      .ok { maskedInbound with TargetUrl := "https://client.example.com/inbound" } := by rfl

theorem get_inbound : (TargetUrlMaskingInterceptor.intercept
    ((handle (SubscriptionsController.getById sampleIdentity sampleKey.id) .insertion inboundWorld).1.map
      .subscription) lowestDraws).1 = .ok (.subscription maskedInbound) := by
  rw [getById_inbound]
  show Except.ok (ResponseDto.subscription { maskedInbound with
    TargetUrl := (maskTargetUrl "https://client.example.com/inbound" lowestDraws).1 }) = _
  rw [maskTargetUrl_inbound]
  rfl

theorem parse_inbound : Platform.newURL inboundRecord.targetUrl = some (URL.https "client.example.com" "/inbound") :=
  rfl

theorem isDnsName_inbound : IsDnsName (URL.https "client.example.com" "/inbound").hostname := ⟨by decide, by decide, by decide⟩

theorem write_back_harmless_iff_sample :
    Harmless sampleKey.id inboundWorld (handle (SubscriptionsController.update sampleIdentity sampleKey.id
        [("targetUrl", .str maskedInbound.TargetUrl)] fun n => n) .insertion inboundWorld) ↔
      (∀ dto, UpdateSubscriptionDto.validate [("targetUrl", .str maskedInbound.TargetUrl)] = .ok dto →
          ¬ dto.Admits inboundRecord.status) ∨
        MAX_LENGTH < Text.length maskedInbound.TargetUrl ∨
        (∃ other ∈ inboundWorld.subscriptions.docs, other._id ≠ sampleKey.id ∧
          other.tenantId = inboundRecord.tenantId ∧ other.targetUrl = maskedInbound.TargetUrl) ∨
        inboundRecord.targetUrl = maskedInbound.TargetUrl :=
  write_back_harmless_iff httpsPlatform_reparsesSerialised httpsPlatform_reparsesMasked get_inbound rfl
    parse_inbound isDnsName_inbound rfl _ _

/-- A PATCH with what a GET returned stores a host of asterisks. -/
theorem masked_targetUrl_stored :
    (inboundWorld.stored sampleKey.id).map SubscriptionRecord.targetUrl = some "https://client.example.com/inbound" ∧
      (TargetUrlMaskingInterceptor.intercept
        ((handle (SubscriptionsController.getById sampleIdentity sampleKey.id) .insertion inboundWorld).1.map
          .subscription) lowestDraws).1 = .ok (.subscription maskedInbound) ∧
      ((handle (SubscriptionsController.update sampleIdentity sampleKey.id
        [("targetUrl", .str maskedInbound.TargetUrl)] fun n => n) .insertion inboundWorld).2.stored sampleKey.id).map
          SubscriptionRecord.targetUrl = some "https://****.exa***.**/inbound" ∧
      ¬ Harmless sampleKey.id inboundWorld (handle (SubscriptionsController.update sampleIdentity sampleKey.id
        [("targetUrl", .str maskedInbound.TargetUrl)] fun n => n) .insertion inboundWorld) := by
  have hbefore : (inboundWorld.stored sampleKey.id).map SubscriptionRecord.targetUrl =
      some "https://client.example.com/inbound" := rfl
  have hafter : ((handle (SubscriptionsController.update sampleIdentity sampleKey.id
      [("targetUrl", .str maskedInbound.TargetUrl)] fun n => n) .insertion inboundWorld).2.stored sampleKey.id).map
        SubscriptionRecord.targetUrl = some "https://****.exa***.**/inbound" := rfl
  refine ⟨hbefore, get_inbound, hafter, ?_⟩
  rintro (⟨exception, herror⟩ | hsame)
  · cases herror
  · rw [hbefore, hafter] at hsame
    revert hsame
    decide

end Sample

end WebhookIdp.Subscription
