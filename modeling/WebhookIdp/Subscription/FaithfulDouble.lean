import WebhookIdp.Subscription.TestDouble

/-!
# Callers that cannot tell the test double from the real store

The two differ for a caller that does not save what it has done to an aggregate, that works on an old copy, or that
saves a target URL twice. A record of what the caller has seen and saved says which commands are none of these; along
a sequence of such commands both give the same answers.
-/

namespace WebhookIdp.Subscription

open Simulation (Machine answers AllAllowed)

section Disciplined

variable [Platform]

/-! ### Disciplined callers -/

/-- The test double with a record of what its caller has seen through each handle and has saved last under each id. -/
structure Tracked extends InMemory where
  seen : List Fields
  saved : List Fields

namespace Tracked

def start : Tracked := { InMemory.start with seen := [], saved := [] }

def present (s : Tracked) (handle : Nat) : Option Fields := (s.object handle).map fun object => object.2.fields

/-- The fields of the object that is stored under an id. -/
def stored (s : Tracked) (id : String) : Option Fields := do
  let place ← InMemorySubscriptionRepository.get s.store id
  let subscription ← s.heap[place]?
  return subscription.fields

def shown (s : Tracked) : Result → List Fields
  | .ok (some fields) => s.seen ++ [fields]
  | _ => s.seen

def seenAfter (s : Tracked) (after : InMemory) : Command → Result → List Fields
  | .mutate handle _ _, .ok _ =>
      (((after.object handle).map fun object => object.2.fields).map (s.seen.set handle)).getD s.seen
  | .mutate _ _ _, .error _ => s.seen
  | _, result => s.shown result

def savedAfter (s : Tracked) : Command → List Fields
  | .save handle =>
      match s.present handle with
      | some fields => DocumentStore.replaceDoc (fun fields => fields.id.value) fields s.saved
      | none => s.saved
  | _ => s.saved

def step : Machine Tracked Command Result := fun s command =>
  let (result, after) := s.toInMemory.step command
  (result, { after with seen := s.seenAfter after command result, saved := s.savedAfter command })

/-- The aggregate has the fields that were last seen through the handle. -/
def UpToDate (s : Tracked) (handle : Nat) : Prop := s.seen[handle]? = s.present handle

/-- The stored aggregate has the fields that were last saved, with a target URL short enough to be read back. -/
def InSync (s : Tracked) (fields : Fields) : Prop :=
  s.stored fields.id.value = some fields ∧ Text.length fields.targetUrl.value ≤ MAX_LENGTH

/-- What a caller keeps to. It mutates and saves an aggregate through a handle that shows its present fields, does not
save a target URL that it has saved for another subscription of the tenant, and looks for aggregates that have the
fields it has saved. -/
def Disciplined (s : Tracked) : Command → Prop
  | .create _ _ _ => True
  | .restore _ => True
  | .mutate handle _ _ => s.UpToDate handle
  | .save handle => s.UpToDate handle ∧ ∀ fields, s.present handle = some fields → ∀ other ∈ s.saved,
      other.tenantId = fields.tenantId → other.targetUrl = fields.targetUrl → other.id = fields.id
  | .findByIdAndTenant id tenantId => ∀ fields ∈ s.saved, fields.id = id → fields.tenantId = tenantId → s.InSync fields
  | .findByTenantAndTargetUrl tenantId targetUrl => ∀ fields ∈ s.saved, fields.tenantId = tenantId →
      (fields.targetUrl = targetUrl ∨ (s.stored fields.id.value).any fun now => now.targetUrl = targetUrl) →
      s.InSync fields

end Tracked

/-! ### How the two are related -/

def document (fields : Fields) : SubscriptionRecord := toDocument (WebhookSubscription.restore fields)

/-- An entry of the test double stands for what was saved under its id: its object has that id and tenant. -/
def Holds (heap : List WebhookSubscription) (entry : String × Nat) (fields : Fields) : Prop :=
  entry.1 = fields.id.value ∧ ∃ object, heap[entry.2]? = some object ∧ object.id = fields.id ∧
    object.tenantId = fields.tenantId

structure Related (s : Tracked) (t : Mongo) : Prop where
  seen : s.seen = t.handles.map WebhookSubscription.fields
  handles_length : s.handles.length = s.seen.length
  handles_lt : ∀ place ∈ s.handles, place < s.heap.length
  docs : t.store.docs = s.saved.map document
  store : List.Forall₂ (Holds s.heap) s.store s.saved

section Relation

variable {heap : List WebhookSubscription} {entry : String × Nat} {fields : Fields} {s : Tracked} {t : Mongo}
  {place handle : Nat} {object changed : WebhookSubscription}

theorem Holds.append (h : Holds heap entry fields) (object : WebhookSubscription) :
    Holds (heap ++ [object]) entry fields := by
  obtain ⟨hid, old, hold, hsame⟩ := h
  exact ⟨hid, old, by rw [List.getElem?_append_left (List.getElem?_eq_some_iff.mp hold).1]; exact hold, hsame⟩

theorem Holds.set (h : Holds heap entry fields) (hobject : heap[place]? = some object) (hid : changed.id = object.id)
    (htenant : changed.tenantId = object.tenantId) : Holds (heap.set place changed) entry fields := by
  obtain ⟨hkey, old, hold, hsame⟩ := h
  by_cases hplace : place = entry.2
  · subst hplace
    rw [hold] at hobject
    cases hobject
    refine ⟨hkey, changed, ?_, hid.trans hsame.1, htenant.trans hsame.2⟩
    exact List.getElem?_set_self (List.getElem?_eq_some_iff.mp hold).1
  · exact ⟨hkey, old, by rw [List.getElem?_set_ne hplace]; exact hold, hsame⟩

theorem Related.handle_cases (h : Related s t) (handle : Nat) :
    (∃ place object copy, s.handles[handle]? = some place ∧ s.heap[place]? = some object ∧
      s.object handle = some (place, object) ∧ t.handles[handle]? = some copy ∧
      s.seen[handle]? = some copy.fields) ∨
    (s.object handle = none ∧ t.handles[handle]? = none) := by
  have hlength : s.handles.length = t.handles.length := by
    rw [h.handles_length, h.seen, List.length_map]
  by_cases hlt : handle < s.handles.length
  · have hplace := List.getElem?_eq_getElem hlt
    have hheap := List.getElem?_eq_getElem (h.handles_lt _ (List.getElem_mem hlt))
    have hcopy := List.getElem?_eq_getElem (hlength ▸ hlt)
    refine Or.inl ⟨_, _, _, hplace, hheap, ?_, hcopy, ?_⟩
    · simp [InMemory.object, hplace, hheap]
    · rw [h.seen, List.getElem?_map, hcopy]
      rfl
  · refine Or.inr ⟨?_, List.getElem?_eq_none (by omega)⟩
    simp [InMemory.object, List.getElem?_eq_none (Nat.not_lt.mp hlt)]

theorem fields_eq_of_upToDate {copy : WebhookSubscription} (hobject : s.object handle = some (place, object))
    (hseen : s.seen[handle]? = some copy.fields) (hupToDate : s.UpToDate handle) : object.fields = copy.fields := by
  rw [Tracked.UpToDate, Tracked.present, hobject, hseen] at hupToDate
  exact (Option.some.inj hupToDate).symm

theorem Related.append (h : Related s t) (object : WebhookSubscription) :
    Related { s with heap := s.heap ++ [object] } t := by
  refine ⟨h.seen, h.handles_length, fun p hp => ?_, h.docs, h.store.imp fun _ _ hholds => hholds.append object⟩
  have hlt := h.handles_lt p hp
  rw [List.length_append]
  omega

theorem Related.given (h : Related s t) (hobject : s.heap[place]? = some object) {copy : WebhookSubscription}
    (hfields : object.fields = copy.fields) :
    Related { s with handles := s.handles ++ [place], seen := s.seen ++ [object.fields] }
      { t with handles := t.handles ++ [copy] } := by
  refine ⟨?_, ?_, fun p hp => ?_, h.docs, h.store⟩
  · rw [List.map_append, ← h.seen, List.map_singleton, hfields]
  · simp [h.handles_length]
  · obtain hold | hnew := List.mem_append.mp hp
    · exact h.handles_lt p hold
    · rw [List.mem_singleton.mp hnew]
      exact (List.getElem?_eq_some_iff.mp hobject).1

theorem Related.set (h : Related s t) {call : MethodCall} {now : Date} {changed' : WebhookSubscription}
    (hobject : s.heap[place]? = some object) (hok : call.apply now object = .ok changed)
    (hfields : changed.fields = changed'.fields) :
    Related { s with heap := s.heap.set place changed, seen := s.seen.set handle changed.fields }
      { t with handles := t.handles.set handle changed' } := by
  obtain ⟨hid, htenant⟩ := apply_eq_ok hok
  refine ⟨?_, ?_, fun p hp => ?_, h.docs, h.store.imp fun _ _ hholds => hholds.set hobject hid htenant⟩
  · show s.seen.set handle changed.fields = (t.handles.set handle changed').map WebhookSubscription.fields
    rw [List.map_set, ← h.seen, hfields]
  · rw [List.length_set]
    exact h.handles_length
  · rw [List.length_set]
    exact h.handles_lt p hp

/-- The unique index lets a save pass that takes no target URL from another subscription. -/
theorem Related.save_accepted (h : Related s t) {copy : WebhookSubscription}
    (hobject : s.object handle = some (place, object)) (hfields : object.fields = copy.fields)
    (hfree : ∀ fields, s.present handle = some fields → ∀ other ∈ s.saved, other.tenantId = fields.tenantId →
      other.targetUrl = fields.targetUrl → other.id = fields.id) : ∃ store, t.store.save copy = some store := by
  rw [← Option.isSome_iff_exists, ← Option.ne_none_iff_isSome, ne_eq, SubscriptionStore.save_eq_none_iff]
  intro hconflict
  obtain ⟨record, hrecord, hindex, hid⟩ := hconflict
  rw [h.docs] at hrecord
  obtain ⟨other, hother, rfl⟩ := List.mem_map.mp hrecord
  have hpresent : s.present handle = some copy.fields := by
    rw [Tracked.present, hobject, ← hfields]
    rfl
  obtain ⟨htenant, htarget⟩ := Prod.mk.inj hindex
  have hsame := hfree _ hpresent other hother (Text.NonBlank.value_injective htenant)
    (TargetUrl.value_injective htarget)
  exact hid (congrArg SubscriptionId.value hsame)

theorem Related.save (h : Related s t) {copy : WebhookSubscription} {store : SubscriptionStore}
    (hobject : s.heap[place]? = some object) (hfields : object.fields = copy.fields)
    (hsave : t.store.save copy = some store) :
    Related { s with
        store := InMemorySubscriptionRepository.save s.heap s.store place
        saved := DocumentStore.replaceDoc (fun fields => fields.id.value) object.fields s.saved }
      { t with store } := by
  refine ⟨h.seen, h.handles_length, h.handles_lt, ?_, ?_⟩
  · have hmap : (DocumentStore.replaceDoc (fun fields => fields.id.value) copy.fields s.saved).map document =
        DocumentStore.replaceDoc SubscriptionRecord._id (document copy.fields) (s.saved.map document) :=
      DocumentStore.map_replaceDoc document SubscriptionRecord._id (fun _ => rfl) copy.fields s.saved
    rw [SubscriptionStore.docs_save hsave, h.docs, hfields]
    exact hmap.symm
  · simp only [InMemorySubscriptionRepository.save, hobject]
    exact DocumentStore.replaceDoc_related h.store (fun _ _ hholds => hholds.1) ⟨rfl, object, hobject, rfl, rfl⟩

theorem Related.keys_nodup (h : Related s t) :
    (s.store.map Prod.fst).Nodup ∧ (s.saved.map fun fields => fields.id.value).Nodup := by
  have hids : (t.store.docs.map SubscriptionRecord._id) = s.saved.map fun fields => fields.id.value := by
    rw [h.docs, List.map_map]
    rfl
  have hkeys : s.store.map Prod.fst = s.saved.map fun fields => fields.id.value := by
    rw [← List.forall₂_eq_eq_eq, List.forall₂_map_left_iff, List.forall₂_map_right_iff]
    exact h.store.imp fun _ _ hholds => hholds.1
  rw [hkeys, ← hids]
  exact ⟨t.store.key_nodup, t.store.key_nodup⟩

theorem Related.stored_eq (h : Related s t) (hmem : entry ∈ s.store) (hholds : Holds s.heap entry fields)
    (hobject : s.heap[entry.2]? = some object) : s.stored fields.id.value = some object.fields := by
  have hentry : s.store.find? (fun e => e.1 = fields.id.value) = some entry :=
    (DocumentStore.find?_eq_some_iff_of_nodup h.keys_nodup.1).mpr ⟨hmem, hholds.1⟩
  simp [Tracked.stored, InMemorySubscriptionRepository.get, hentry, hobject]

end Relation

/-! ### What both find -/

section Finding

variable {heap : List WebhookSubscription} {fields : Fields} {s : Tracked} {t : Mongo}

/-- The two sides find nothing, or objects with the same fields. -/
inductive SameFound (heap : List WebhookSubscription) :
    Option Nat → Except DomainError (Option WebhookSubscription) → Prop where
  | missing : SameFound heap none (.ok none)
  | found {place : Nat} {object copy : WebhookSubscription} (hobject : heap[place]? = some object)
      (hfields : object.fields = copy.fields) : SameFound heap (some place) (.ok (some copy))

theorem sameFound_of_inSync (hurl : URL.ReparsesSerialised) {place : Nat} {object : WebhookSubscription}
    (hobject : heap[place]? = some object) (hlength : Text.length fields.targetUrl.value ≤ MAX_LENGTH)
    (hfields : object.fields = fields) :
    SameFound heap (some place) (SubscriptionMongoRepository.rehydrate (some (document fields))) := by
  have hshort : Text.length (WebhookSubscription.restore fields).targetUrl.value ≤ MAX_LENGTH := hlength
  have hread : toAggregate (document fields) = .ok (WebhookSubscription.restore fields) :=
    toAggregate_toDocument hurl hshort
  have hfound : SubscriptionMongoRepository.rehydrate (some (document fields)) =
      .ok (some (WebhookSubscription.restore fields)) :=
    SubscriptionMongoRepository.rehydrate_eq_ok_some_iff.mpr ⟨_, rfl, hread⟩
  rw [hfound]
  exact .found hobject hfields

theorem Related.sameFound_findByIdAndTenant (hurl : URL.ReparsesSerialised) (h : Related s t) {id : SubscriptionId}
    {tenantId : TenantId} (hallowed : s.Disciplined (.findByIdAndTenant id tenantId)) :
    SameFound s.heap (InMemorySubscriptionRepository.findByIdAndTenant s.heap s.store id tenantId)
      (SubscriptionMongoRepository.findByIdAndTenant t.store id tenantId) := by
  have hdocs : (t.store.docs.find? fun record => record._id == id.value && record.tenantId == tenantId.value) =
      ((s.saved.find? fun fields => fields.id.value = id.value).filter fun fields =>
        fields.tenantId.value == tenantId.value).map document := by
    rw [h.docs, List.find?_map, ← DocumentStore.find?_and_of_nodup h.keys_nodup.2]
    rfl
  have hentries := DocumentStore.find?_related (p := fun entry => entry.1 = id.value)
    (q := fun fields => fields.id.value = id.value) h.store fun entry _ fields _ hholds => by rw [hholds.1]
  rw [SubscriptionMongoRepository.findByIdAndTenant, hdocs]
  unfold InMemorySubscriptionRepository.findByIdAndTenant InMemorySubscriptionRepository.get
  generalize hentry : s.store.find? (fun entry => entry.1 = id.value) = entry? at hentries ⊢
  generalize hfields : s.saved.find? (fun fields => fields.id.value = id.value) = fields? at hentries ⊢
  cases hentries with
  | none => exact .missing
  | @some entry fields hholds =>
      have hsame := hholds
      obtain ⟨-, object, hobject, -, htenant⟩ := hsame
      simp only [Option.map_some, Option.bind_eq_bind, Option.bind_some, hobject, htenant]
      by_cases hown : fields.tenantId = tenantId
      · have hid : fields.id = id := SubscriptionId.value_injective (by simpa using List.find?_some hfields)
        obtain ⟨hstored, hlength⟩ := hallowed fields (List.mem_of_find?_eq_some hfields) hid hown
        rw [h.stored_eq (List.mem_of_find?_eq_some hentry) hholds hobject, Option.some_inj] at hstored
        simp only [Option.filter, hown, beq_self_eq_true, if_true, ne_eq, not_true_eq_false, if_false,
          Option.map_some]
        exact sameFound_of_inSync hurl hobject hlength hstored
      · have hother : (fields.tenantId.value == tenantId.value) = false :=
          beq_eq_false_iff_ne.mpr fun heq => hown (Text.NonBlank.value_injective heq)
        simp only [Option.filter, hother, hown, ne_eq, not_false_eq_true, if_true, Bool.false_eq_true, if_false]
        exact .missing

theorem Related.sameFound_findByTenantAndTargetUrl (hurl : URL.ReparsesSerialised) (h : Related s t)
    {tenantId : TenantId} {targetUrl : TargetUrl}
    (hallowed : s.Disciplined (.findByTenantAndTargetUrl tenantId targetUrl)) :
    SameFound s.heap (InMemorySubscriptionRepository.findByTenantAndTargetUrl s.heap s.store tenantId targetUrl)
      (SubscriptionMongoRepository.findByTenantAndTargetUrl t.store tenantId targetUrl) := by
  -- under the tenant, an aggregate that has the URL or was saved with it is in sync, so that it has both or neither
  have hsync : ∀ entry ∈ s.store, ∀ fields ∈ s.saved, ∀ object, Holds s.heap entry fields →
      s.heap[entry.2]? = some object → fields.tenantId = tenantId →
      (fields.targetUrl = targetUrl ∨ object.targetUrl = targetUrl) →
      object.fields = fields ∧ Text.length fields.targetUrl.value ≤ MAX_LENGTH := by
    intro entry hentry fields hfields object hholds hobject htenant heither
    have hstored := h.stored_eq hentry hholds hobject
    have hinSync := hallowed fields hfields htenant (heither.imp_right fun heq => by
      rw [hstored, Option.any_some, decide_eq_true_eq]
      exact heq)
    rw [Tracked.InSync, hstored, Option.some_inj] at hinSync
    exact hinSync
  have hdocs : (t.store.docs.find? fun record =>
      record.tenantId == tenantId.value && record.targetUrl == targetUrl.value) =
      (s.saved.find? fun fields => fields.tenantId = tenantId ∧ fields.targetUrl = targetUrl).map document := by
    rw [h.docs, List.find?_map]
    congr 2
    funext fields
    rw [Function.comp_apply, Bool.eq_iff_iff, Bool.and_eq_true, beq_iff_eq, beq_iff_eq, decide_eq_true_eq]
    exact and_congr Text.NonBlank.value_injective.eq_iff TargetUrl.value_injective.eq_iff
  have hentries := DocumentStore.find?_related
    (p := fun entry => s.heap[entry.2]?.any fun subscription =>
      decide (subscription.tenantId = tenantId ∧ subscription.targetUrl = targetUrl))
    (q := fun fields => fields.tenantId = tenantId ∧ fields.targetUrl = targetUrl) h.store
    fun entry hentry fields hfields hholds => by
      obtain ⟨-, object, hobject, -, htenant⟩ := id hholds
      rw [hobject, Option.any_some, decide_eq_decide, htenant]
      refine and_congr_right fun hown => ⟨fun hnow => ?_, fun hsaved => ?_⟩
      · rw [← (hsync entry hentry fields hfields object hholds hobject hown (Or.inr hnow)).1]
        exact hnow
      · have hsame := (hsync entry hentry fields hfields object hholds hobject hown (Or.inl hsaved)).1
        rw [← hsame] at hsaved
        exact hsaved
  rw [SubscriptionMongoRepository.findByTenantAndTargetUrl, hdocs]
  unfold InMemorySubscriptionRepository.findByTenantAndTargetUrl
  generalize hentry : s.store.find? _ = entry? at hentries ⊢
  generalize hfields : s.saved.find? _ = fields? at hentries ⊢
  cases hentries with
  | none => exact .missing
  | @some entry fields hholds =>
      obtain ⟨-, object, hobject, -⟩ := id hholds
      have hmatch : fields.tenantId = tenantId ∧ fields.targetUrl = targetUrl := by
        simpa using List.find?_some hfields
      obtain ⟨hsame, hlength⟩ := hsync entry (List.mem_of_find?_eq_some hentry) fields
        (List.mem_of_find?_eq_some hfields) object hholds hobject hmatch.1 (Or.inl hmatch.2)
      exact sameFound_of_inSync hurl hobject hlength hsame

end Finding

/-! ### One command -/

section Steps

variable {s : Tracked} {t : Mongo} {command : Command}

/-- The two sides answer a command alike and stay related. -/
def Agree (s : Tracked) (t : Mongo) (command : Command) : Prop :=
  (s.step command).1 = (t.step command).1 ∧ Related (s.step command).2 (t.step command).2

theorem made_eq (s : InMemory) (subscription : WebhookSubscription) : s.made subscription =
    (.ok (some subscription.fields),
      { s with heap := s.heap ++ [subscription], handles := s.handles ++ [s.heap.length] }) := by
  simp [InMemory.made, InMemory.given]

theorem Related.made (h : Related s t) (subscription : WebhookSubscription) :
    Related { s with
        heap := s.heap ++ [subscription]
        handles := s.handles ++ [s.heap.length]
        seen := s.seen ++ [subscription.fields] }
      { t with handles := t.handles ++ [subscription] } := by
  have hlast : (s.heap ++ [subscription])[s.heap.length]? = some subscription := by simp
  exact (h.append subscription).given hlast rfl

theorem Related.agree_create (h : Related s t) (params : CreateWebhookSubscriptionParams) (id : SubscriptionId)
    (now : Date) : Agree s t (.create params id now) := by
  unfold Agree Tracked.step InMemory.step Mongo.step
  cases hcreate : WebhookSubscription.create params id now with
  | error error =>
      simp only [hcreate]
      exact ⟨rfl, h⟩
  | ok subscription =>
      simp only [hcreate, made_eq]
      exact ⟨rfl, h.made subscription⟩

theorem Related.agree_restore (h : Related s t) (props : RestoreWebhookSubscriptionProps) :
    Agree s t (.restore props) := by
  unfold Agree Tracked.step InMemory.step Mongo.step
  simp only [made_eq]
  exact ⟨rfl, h.made (.restore props)⟩

theorem Related.agree_mutate (h : Related s t) {handle : Nat} {call : MethodCall} {now : Date}
    (hallowed : s.UpToDate handle) : Agree s t (.mutate handle call now) := by
  unfold Agree Tracked.step InMemory.step Mongo.step
  obtain ⟨place, object, copy, hplace, hheap, hobject, hcopy, hseen⟩ | ⟨hobject, hcopy⟩ := h.handle_cases handle
  · have hfields := fields_eq_of_upToDate hobject hseen hallowed
    obtain ⟨error, hthrew, hthrew'⟩ | ⟨changed, changed', hok, hok', hsame⟩ := apply_cases call now hfields
    · simp only [hobject, hcopy, hthrew, hthrew']
      exact ⟨trivial, h⟩
    · have hafter : ({ s.toInMemory with heap := s.heap.set place changed } : InMemory).object handle =
          some (place, changed) := by
        have hset := List.getElem?_set_self (List.getElem?_eq_some_iff.mp hheap).1 (a := changed)
        simp [InMemory.object, hplace, hset]
      simp only [hobject, hcopy, hok, hok', Tracked.seenAfter, hafter, Option.map_some, Option.getD_some]
      exact ⟨trivial, h.set hheap hok hsame⟩
  · simp only [hobject, hcopy, Tracked.seenAfter, Option.map_none, Option.getD_none]
    exact ⟨trivial, h⟩

theorem Related.agree_save (h : Related s t) {handle : Nat} (hallowed : s.Disciplined (.save handle)) :
    Agree s t (.save handle) := by
  unfold Agree Tracked.step InMemory.step Mongo.step
  obtain ⟨place, object, copy, -, hheap, hobject, hcopy, hseen⟩ | ⟨hobject, hcopy⟩ := h.handle_cases handle
  · have hfields := fields_eq_of_upToDate hobject hseen hallowed.1
    obtain ⟨store, hsave⟩ := h.save_accepted hobject hfields hallowed.2
    simp only [hobject, hcopy, hsave, Tracked.savedAfter, Tracked.present, Option.map_some]
    exact ⟨trivial, h.save hheap hfields hsave⟩
  · simp only [hobject, hcopy, Tracked.savedAfter, Tracked.present, Option.map_none]
    exact ⟨trivial, h⟩

theorem Related.agree_given (h : Related s t) {place? : Option Nat}
    {copy? : Except DomainError (Option WebhookSubscription)} (hfound : SameFound s.heap place? copy?) :
    (s.toInMemory.given place?).1 = (t.given copy?).1 ∧
      Related { (s.toInMemory.given place?).2 with seen := s.shown (s.toInMemory.given place?).1, saved := s.saved }
        (t.given copy?).2 := by
  cases hfound with
  | missing => exact ⟨rfl, h⟩
  | found hobject hfields =>
      simp only [InMemory.given, Mongo.given, hobject, Option.map_some, hfields]
      exact ⟨trivial, hfields ▸ h.given hobject hfields⟩

theorem Related.agree (hurl : URL.ReparsesSerialised) (h : Related s t) (hallowed : s.Disciplined command) :
    Agree s t command := by
  cases command with
  | create params id now => exact h.agree_create params id now
  | restore props => exact h.agree_restore props
  | mutate handle call now => exact h.agree_mutate hallowed
  | save handle => exact h.agree_save hallowed
  | findByIdAndTenant id tenantId => exact h.agree_given (h.sameFound_findByIdAndTenant hurl hallowed)
  | findByTenantAndTargetUrl tenantId targetUrl =>
      exact h.agree_given (h.sameFound_findByTenantAndTargetUrl hurl hallowed)

end Steps

/-! ### Sequences of commands -/

theorem related_start : Related .start .start := ⟨rfl, rfl, nofun, rfl, .nil⟩

/-- Keeping a record does not change the answers. -/
theorem answers_tracked (s : Tracked) (commands : List Command) :
    answers Tracked.step s commands = answers InMemory.step s.toInMemory commands := by
  induction commands generalizing s with
  | nil => rfl
  | cons command rest ih =>
      rw [answers, answers, ih]
      rfl

/-- To a disciplined caller the test double and the real store give the same answers. -/
theorem answers_inMemory_eq_mongo (hurl : URL.ReparsesSerialised) {commands : List Command}
    (hallowed : AllAllowed Tracked.step Tracked.Disciplined .start commands) :
    answers InMemory.step .start commands = answers Mongo.step .start commands := by
  have hsame := Simulation.answers_eq (fun _ _ _ hrelated hallowed => hrelated.agree hurl hallowed) related_start
    hallowed
  exact (answers_tracked .start commands).symm.trans hsame

end Disciplined

section Sample

attribute [local instance] samplePlatform

def savedSample : List Command := [.create sampleParams sampleId 0, .save 0]

def sampleSubscription (status : SubscriptionStatus) (updatedAt : Date) (events : List DomainEvent) :
    WebhookSubscription :=
  { sampleParams with id := sampleId, status, createdAt := 0, updatedAt, domainEvents := events }

def sampleDouble (object : WebhookSubscription) (saved : List Fields) : Tracked where
  heap := [object]
  store := saved.map fun fields => (fields.id.value, 0)
  handles := [0]
  seen := [object.fields]
  saved := saved

theorem create_sampleDouble : Tracked.step .start (.create sampleParams sampleId 0) =
    (.ok (some (sampleSubscription .ACTIVE 0 []).fields),
      sampleDouble (sampleSubscription .ACTIVE 0 [.SubscriptionCreated sampleId.value 0]) []) := rfl

theorem pause_sampleDouble (events : List DomainEvent) (saved : List Fields) :
    (sampleDouble (sampleSubscription .ACTIVE 0 events) saved).step (.mutate 0 .pause 1) =
      (.ok none, sampleDouble (sampleSubscription .PAUSED 1 (events ++ [.SubscriptionPaused sampleId.value 1])) saved) :=
  rfl

theorem save_sampleDouble {object : WebhookSubscription} {saved : List Fields} (hobject : object.fields.id = sampleId)
    (hsaved : saved = [] ∨ ∃ fields, saved = [fields] ∧ fields.id = sampleId) :
    (sampleDouble object saved).step (.save 0) = (.ok none, sampleDouble object [object.fields]) := by
  obtain rfl | ⟨fields, rfl, hold⟩ := hsaved
  · rfl
  · have hid : object.id = sampleId := hobject
    simp [Tracked.step, InMemory.step, InMemory.object, sampleDouble, InMemorySubscriptionRepository.save, hobject,
      hid, hold, Tracked.seenAfter, Tracked.shown, Tracked.savedAfter, Tracked.present, DocumentStore.replaceDoc]

theorem saving_sampleDouble {object : WebhookSubscription} {saved : List Fields} (hobject : object.fields.id = sampleId)
    (hsaved : saved = [] ∨ ∃ fields, saved = [fields] ∧ fields.id = sampleId) :
    (sampleDouble object saved).Disciplined (.save 0) := by
  refine ⟨rfl, fun fields hfields other hother _ _ => ?_⟩
  cases hfields
  obtain rfl | ⟨fields, rfl, hold⟩ := hsaved
  · cases hother
  · rw [List.mem_singleton.mp hother, hold]
    exact hobject.symm

theorem inSync_sampleDouble {object : WebhookSubscription}
    (hlength : Text.length object.targetUrl.value ≤ MAX_LENGTH) :
    (sampleDouble object [object.fields]).InSync object.fields := by
  refine ⟨?_, hlength⟩
  simp [Tracked.stored, sampleDouble, InMemorySubscriptionRepository.get]

theorem looking_sampleDouble {object : WebhookSubscription} {tenantId : TenantId} {targetUrl : TargetUrl}
    (hlength : Text.length object.targetUrl.value ≤ MAX_LENGTH) :
    (sampleDouble object [object.fields]).Disciplined (.findByTenantAndTargetUrl tenantId targetUrl) := by
  intro fields hfields _ _
  rw [List.mem_singleton.mp hfields]
  exact inSync_sampleDouble hlength

/-- A caller that saves what it has done before it looks. -/
theorem answers_inMemory_eq_mongo_sample :
    answers InMemory.step .start (savedSample ++ [.mutate 0 .pause 1, .save 0,
      .findByTenantAndTargetUrl sampleTenant inboundTarget]) =
    answers Mongo.step .start (savedSample ++ [.mutate 0 .pause 1, .save 0,
      .findByTenantAndTargetUrl sampleTenant inboundTarget]) := by
  refine answers_inMemory_eq_mongo samplePlatform_reparsesSerialised (.of_step create_sampleDouble trivial ?_)
  refine .of_step (save_sampleDouble rfl (Or.inl rfl)) (saving_sampleDouble rfl (Or.inl rfl)) ?_
  refine .of_step (pause_sampleDouble _ _) rfl ?_
  refine .of_step (save_sampleDouble rfl (Or.inr ⟨_, rfl, rfl⟩)) (saving_sampleDouble rfl (Or.inr ⟨_, rfl, rfl⟩)) ?_
  exact ⟨looking_sampleDouble (by decide), trivial⟩

/-- A pause that was not saved: the test double finds it. -/
theorem unsaved_pause_found : URL.ReparsesSerialised ∧
    ¬ ∀ commands, answers InMemory.step .start commands = answers Mongo.step .start commands := by
  refine ⟨samplePlatform_reparsesSerialised, fun hsame => ?_⟩
  have hstatus := congrArg (List.map fun result : Result =>
    (result.toOption.join.map fun fields => fields.status))
    (hsame (savedSample ++ [.mutate 0 .pause 1, .findByIdAndTenant sampleId sampleTenant]))
  revert hstatus
  decide

end Sample

end WebhookIdp.Subscription
