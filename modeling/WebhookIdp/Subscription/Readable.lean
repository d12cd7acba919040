import WebhookIdp.Base.Safety
import WebhookIdp.Subscription.Stages

/-!
# Stored subscriptions that can be read back

`toAggregate` runs the checks of every value object again on the stored text. All of them pass on what
`toDocument` wrote except one: `TargetUrl.fromString` measured the text of the request and stored the
serialised URL, which can be longer than the limit. As long as no request brings such a URL, every
document that any interleaving of requests stores can be read back, found and listed.
-/

namespace WebhookIdp.Subscription

open Concurrent (Program System)

section Readable

variable [Platform]

/-- Reading the document back gives the aggregate it was written from. -/
def Readable (record : SubscriptionRecord) : Prop :=
  ∃ subscription, toAggregate record = .ok subscription ∧ toDocument subscription = record

theorem readable_toDocument_iff (hurl : URL.ReparsesSerialised) {subscription : WebhookSubscription} :
    Readable (toDocument subscription) ↔ Text.length subscription.targetUrl.value ≤ MAX_LENGTH := by
  refine ⟨fun h => ?_, fun h => ?_⟩
  · obtain ⟨_, hread, -⟩ := h
    exact length_le_of_toAggregate_eq_ok hread
  · exact ⟨subscription.drained, toAggregate_toDocument hurl h, rfl⟩

def Request.targetUrl? : Request → Option String
  | .create input _ _ => some input.targetUrl
  | .update input _ => input.targetUrl
  | _ => none

/-- If the URL the request brings is accepted, what is stored of it respects the limit too. -/
def Request.SerialisesShort (request : Request) : Prop :=
  ∀ text target, request.targetUrl? = some text → TargetUrl.fromString text = .ok target →
    Text.length target.value ≤ MAX_LENGTH

def World.Readable (world : World) : Prop :=
  ∀ record ∈ world.subscriptions.docs, Subscription.Readable record

/-! ### What a request decides to save is readable -/

theorem length_le_of_found (hurl : URL.ReparsesSerialised) {store : SubscriptionStore} {id : SubscriptionId}
    {tenantId : TenantId} {loaded : WebhookSubscription}
    (h : SubscriptionMongoRepository.findByIdAndTenant store id tenantId = .ok (some loaded)) :
    Text.length loaded.targetUrl.value ≤ MAX_LENGTH := by
  obtain ⟨record, hfind, hread⟩ := SubscriptionMongoRepository.rehydrate_eq_ok_some_iff.mp h
  have hmem := List.mem_of_find?_eq_some hfind
  obtain ⟨hdoc, -⟩ := SubscriptionStore.toDocument_of_mem hurl hmem hread
  have hlength := length_le_of_toAggregate_eq_ok hread
  rw [← hdoc] at hlength
  exact hlength

theorem Decides.length_le (hurl : URL.ReparsesSerialised) {store : SubscriptionStore} {request : Request}
    {subscription : WebhookSubscription} (h : Decides store request subscription)
    (hshort : request.SerialisesShort) : Text.length subscription.targetUrl.value ≤ MAX_LENGTH := by
  cases h with
  | create htenant htarget hfree hcreate =>
      obtain ⟨-, -, hresult, -⟩ := CreateSubscriptionInput.create_eq_ok hcreate
      rw [hresult]
      exact hshort _ _ rfl htarget
  | @update input _ _ _ _ _ hid htenant hfound happly =>
      have happlied := UpdateSubscriptionInput.apply_eq_ok happly
      cases htext : input.targetUrl with
      | none =>
          rw [happlied.targetUrl_none htext]
          exact length_le_of_found hurl hfound
      | some text =>
          obtain ⟨htarget, -⟩ := happlied.targetUrl_some text htext
          exact hshort text _ htext htarget
  | @delete _ now _ _ loaded hid htenant hfound =>
      have htarget : (loaded.delete now).targetUrl = loaded.targetUrl := by
        rw [WebhookSubscription.delete]
        split <;> rfl
      rw [htarget]
      exact length_le_of_found hurl hfound

/-! ### Every request keeps the stored documents readable -/

theorem save_readable (hurl : URL.ReparsesSerialised) {world : World} (hworld : world.Readable)
    {subscription : WebhookSubscription} (hlength : Text.length subscription.targetUrl.value ≤ MAX_LENGTH)
    (order : NaturalOrder) : (perform (.save subscription) order world).2.Readable := by
  rcases perform_save_cases world order subscription with ⟨-, store, hsave, hperform⟩ | ⟨-, hperform⟩
  · rw [hperform]
    intro record hrecord
    rcases (SubscriptionStore.mem_save hsave).mp hrecord with rfl | ⟨hold, -⟩
    · exact (readable_toDocument_iff hurl).mpr hlength
    · exact hworld record hold
  · rw [hperform]
    exact hworld

/-- Safety with respect to `World.Readable`, with nothing asked of the other requests. -/
abbrev KeepsReadable (program : UseCase Response) (world : World) : Prop :=
  Concurrent.Safe perform World.Readable (fun _ _ => True) (fun _ _ _ _ => True) (fun _ _ => True) program world

theorem keepsReadable_saving (hurl : URL.ReparsesSerialised) {subscription : WebhookSubscription}
    (hlength : Text.length subscription.targetUrl.value ≤ MAX_LENGTH) (world : World) :
    KeepsReadable (saving subscription) world := by
  rw [saving_eq]
  intro w order hw _
  refine ⟨save_readable hurl hw hlength order, trivial, ?_⟩
  cases (perform (.save subscription) order w).1 with
  | error exception => exact fun _ _ _ => trivial
  | ok _ => exact fun w' _ hw' _ => ⟨hw', trivial, fun _ _ _ => trivial⟩

theorem keepsReadable_execute (hurl : URL.ReparsesSerialised) {request : Request}
    (hshort : request.SerialisesShort) (world : World) : KeepsReadable request.execute world := by
  generalize hprogram : request.execute = program
  have hform := execute_form request
  rw [hprogram] at hform
  cases hform with
  | refused error => exact fun _ _ _ => trivial
  | @transaction op decide h =>
      intro w order hw _
      rw [h.state_eq order w]
      refine ⟨hw, trivial, ?_⟩
      rcases hdecide : (perform op order w).1 >>= decide with exception | subscription <;>
        simp only [hdecide]
      · exact fun _ _ _ => trivial
      · exact keepsReadable_saving hurl ((h.decides hdecide).length_le hurl hshort) _
  | query h =>
      intro w order hw _
      rw [h.state_eq order w]
      exact ⟨hw, trivial, fun _ _ _ => trivial⟩

/-- Along every interleaving of requests whose serialised target URLs respect the limit, every stored
document can be read back. -/
theorem stored_readable (hurl : URL.ReparsesSerialised) {ι : Type} [DecidableEq ι] (requests : ι → Request)
    (hshort : ∀ i, (requests i).SerialisesShort) (world : World) (hworld : world.Readable)
    (schedule : List (ι × NaturalOrder)) :
    ∀ record ∈ ((Requests.start requests world).run perform schedule).state.subscriptions.docs,
      Readable record := by
  have hstart : System.Safe perform World.Readable (fun _ _ _ => True) (fun _ _ _ _ _ => True)
      (fun _ _ _ => True) (Requests.start requests world) :=
    ⟨hworld, fun i => keepsReadable_execute hurl (hshort i) world⟩
  exact (hstart.run ⟨fun _ _ => trivial, fun _ {_ _ _} _ _ => trivial, fun _ _ _ _ _ _ _ _ _ => trivial⟩ schedule).1

/-! ### One create request on an empty store -/

theorem run_create {input : CreateSubscriptionInput} {id : SubscriptionId} {now : Date} {tenant : TenantId}
    {target : TargetUrl} {subscription : WebhookSubscription}
    (htenant : TenantId.fromString input.tenantId = .ok tenant)
    (htarget : TargetUrl.fromString input.targetUrl = .ok target)
    (hcreate : input.create tenant target id now = .ok subscription) (first second : NaturalOrder) :
    ((Requests.start (fun _ : Unit => .create input id now) ⟨.empty, []⟩).run perform
      [((), first), ((), second)]).state.subscriptions.docs = [toDocument subscription] := by
  generalize hstart : Requests.start (fun _ : Unit => .create input id now) ⟨.empty, []⟩ = start
  have hworld : start.state = ⟨.empty, []⟩ := by rw [← hstart]; rfl
  have hprogram : start.client () = transaction (.findByTenantAndTargetUrl tenant target)
      (unlessDuplicate input (raise (input.create tenant target id now))) := by
    rw [← hstart]
    exact execute_create htenant htarget
  have hlookup : (start.step perform ((), first)).client () = saving subscription := by
    rw [System.client_step_of_call hprogram, hworld, hcreate]
    rfl
  have hstate : (start.step perform ((), first)).state = ⟨.empty, []⟩ := by
    rw [System.state_step_of_call hprogram, hworld]
    rfl
  have hsaved : ((start.step perform ((), first)).step perform ((), second)).state =
      (perform (.save subscription) second ⟨.empty, []⟩).2 := by
    rw [System.state_step_of_call (hlookup.trans (saving_eq subscription)), hstate]
  rw [System.run_cons, System.run_cons, System.run_nil, hsaved]
  rcases perform_save_cases ⟨.empty, []⟩ second subscription with ⟨-, store, hsave, hperform⟩ | ⟨hconflict, -⟩
  · rw [hperform]
    exact SubscriptionStore.docs_save hsave
  · obtain ⟨_, hmem, -⟩ := hconflict
    cases hmem

/-- On an empty store the document a create request stores can be read back exactly when the serialised
target URL respects the limit that its text was checked against. -/
theorem create_readable_iff (hurl : URL.ReparsesSerialised) {input : CreateSubscriptionInput}
    {id : SubscriptionId} {now : Date} {tenant : TenantId} {target : TargetUrl}
    {subscription : WebhookSubscription} (htenant : TenantId.fromString input.tenantId = .ok tenant)
    (htarget : TargetUrl.fromString input.targetUrl = .ok target)
    (hcreate : input.create tenant target id now = .ok subscription) (first second : NaturalOrder) :
    (∀ record ∈ ((Requests.start (fun _ : Unit => .create input id now) ⟨.empty, []⟩).run perform
        [((), first), ((), second)]).state.subscriptions.docs, Readable record) ↔
      Text.length target.value ≤ MAX_LENGTH := by
  rw [run_create htenant htarget hcreate first second, List.forall_mem_singleton,
    readable_toDocument_iff hurl]
  obtain ⟨-, -, hresult, -⟩ := CreateSubscriptionInput.create_eq_ok hcreate
  rw [hresult]

end Readable

section Sample

attribute [local instance] samplePlatform

/-- `stored_readable` on one create request. -/
theorem stored_readable_sample :
    ((Requests.start (fun _ : Unit => .create sampleInput sampleId 0) emptyWorld).run perform
      [((), .insertion), ((), .insertion)]).state.Readable := by
  refine stored_readable samplePlatform_reparsesSerialised _ (fun _ => ?_) emptyWorld nofun _
  intro text target htext htarget
  cases htext
  obtain ⟨-, url, hparsed, -, hvalue⟩ := TargetUrl.fromString_eq_ok_iff.mp htarget
  have hknown : Platform.newURL sampleInput.targetUrl = some (URL.https "client.example.com" "/inbound") := by
    decide
  rw [hknown] at hparsed
  cases hparsed
  rw [hvalue]
  decide

end Sample

section LongUrl

/-- A path of 400 accented letters: each is one code unit in a request and six once serialised. -/
def longPath : String := String.ofList (List.replicate 400 'é')

theorem length_longPath : Text.length longPath = 400 := by
  have hletter : Text.codeUnits 'é' = 1 := by decide
  have hlength : Text.length longPath = 400 * Text.codeUnits 'é' := Text.length_replicate 400 'é'
  omega

def longUrl : URL := URL.https "a.co" ("/" ++ String.ofList (List.replicate 400 "%C3%A9".toList).flatten)

@[reducible] def longPlatform : Platform :=
  Platform.ofTable [(longUrl.href, longUrl), ("https://a.co/" ++ longPath, longUrl)]
    ["018f5b3e-9c1a-7c3e-8f3a-6b6b6b6b6b6b"]

attribute [local instance] longPlatform

theorem longPlatform_reparsesSerialised : URL.ReparsesSerialised := by
  apply URL.reparsesSerialised_ofTable
  intro entry hentry
  have hurl : entry.2 = longUrl := by
    rcases List.mem_pair.mp hentry with rfl | rfl <;> rfl
  rw [hurl]
  simp [Platform.newURL]

theorem longUrl_accepted : URL.Accepted longUrl := ⟨rfl, rfl, rfl, by decide⟩

def longTarget : TargetUrl where
  value := longUrl.href
  canonical := ⟨longUrl.href, longUrl, by simp [Platform.newURL], longUrl_accepted, rfl⟩

def longInput : CreateSubscriptionInput := { sampleInput with targetUrl := "https://a.co/" ++ longPath }

theorem fromString_longInput : TargetUrl.fromString longInput.targetUrl = .ok longTarget := by
  rw [TargetUrl.fromString_eq_ok_iff]
  refine ⟨?_, longUrl, ?_, longUrl_accepted, rfl⟩
  · have hhost : Text.length "https://a.co/" = 13 := by decide
    have htext : longInput.targetUrl = "https://a.co/" ++ longPath := rfl
    rw [htext, Text.length_append, length_longPath, hhost, MAX_LENGTH]
    omega
  · simp only [Platform.newURL, longInput]
    by_cases h : longUrl.href = "https://a.co/" ++ longPath <;> simp [h]

theorem length_longTarget : MAX_LENGTH < Text.length longTarget.value := by
  have hpath := Text.length_toList_le (String.ofList (List.replicate 400 "%C3%A9".toList).flatten)
  have hgroup : "%C3%A9".toList.length = 6 := by decide
  rw [String.toList_ofList, List.length_flatten, List.map_replicate, List.sum_replicate_nat, hgroup] at hpath
  have hvalue : longTarget.value = "https://" ++ "a.co" ++
      ("/" ++ String.ofList (List.replicate 400 "%C3%A9".toList).flatten) := rfl
  rw [hvalue, Text.length_append, Text.length_append "/", MAX_LENGTH]
  omega

def longSubscription : WebhookSubscription :=
  { tenantId := sampleTenant
    createdByClientId := ⟨"client-1", by decide⟩
    createdByUserId := none
    targetUrl := longTarget
    subscribedEventTypes := [⟨"order.created", by decide⟩]
    id := ⟨"018f5b3e-9c1a-7c3e-8f3a-6b6b6b6b6b6b", by decide⟩
    status := .ACTIVE
    createdAt := 0
    updatedAt := 0
    domainEvents := [.SubscriptionCreated "018f5b3e-9c1a-7c3e-8f3a-6b6b6b6b6b6b" 0] }

theorem create_longInput :
    longInput.create longSubscription.tenantId longTarget longSubscription.id 0 = .ok longSubscription := rfl

/-- A request that is accepted and leaves a document that cannot be read back. -/
theorem stored_unreadable_of_long_url :
    URL.ReparsesSerialised ∧ ∃ record ∈ ((Requests.start (fun _ : Unit =>
      .create longInput longSubscription.id 0) ⟨.empty, []⟩).run perform
        [((), .insertion), ((), .insertion)]).state.subscriptions.docs, ¬ Readable record := by
  refine ⟨longPlatform_reparsesSerialised, toDocument longSubscription, ?_, ?_⟩
  · have htenant : TenantId.fromString longInput.tenantId = .ok longSubscription.tenantId := rfl
    rw [run_create htenant fromString_longInput create_longInput]
    exact List.mem_singleton_self _
  · rw [readable_toDocument_iff longPlatform_reparsesSerialised]
    have hlength := length_longTarget
    exact Nat.not_le.mpr hlength

end LongUrl

end WebhookIdp.Subscription
