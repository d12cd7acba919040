import WebhookIdp.Subscription.TwoUpdates

/-!
# Two updates of one subscription

A PATCH loads the subscription, applies its fields to the copy and writes the whole document back. Two
of them run like two clients of a read-modify-write register that holds the aggregate, and the register
says when the fields of both are kept: when one saved before the other loaded its copy, or when the first
to save only set what was stored already.
-/

namespace WebhookIdp.Subscription

open Concurrent (System)
open ReadModifyWrite (Register WrittenBefore copyOf)

section LostUpdate

variable [Platform]

structure UpdateSubscriptionInput.Disjoint (a b : UpdateSubscriptionInput) : Prop where
  targetUrl : a.targetUrl = none ∨ b.targetUrl = none
  eventTypes : a.eventTypes = none ∨ b.eventTypes = none
  status : a.status = none ∨ b.status = none

namespace UpdateSubscriptionInput

variable {input other : UpdateSubscriptionInput} {clock : Nat → Date} {loaded result : WebhookSubscription}

theorem Reflects.of_agree {first second : WebhookSubscription} (h : input.Reflects (toDocument first))
    (htarget : input.targetUrl ≠ none → second.targetUrl = first.targetUrl)
    (htypes : input.eventTypes ≠ none → second.subscribedEventTypes = first.subscribedEventTypes)
    (hstatus : input.status ≠ none → second.status = first.status) : input.Reflects (toDocument second) := by
  refine ⟨fun text htext => ?_, fun texts htexts => ?_, fun status hsome => ?_⟩
  · have hkept := h.targetUrl text htext
    simpa only [toDocument, htarget (by simp [htext])] using hkept
  · have hkept := h.eventTypes texts htexts
    simpa only [toDocument, htypes (by simp [htexts])] using hkept
  · have hkept := h.status status hsome
    simpa only [toDocument, hstatus (by simp [hsome])] using hkept

theorem Applied.reflects_other_iff (h : input.Applied clock loaded result) (hdisjoint : other.Disjoint input) :
    other.Reflects (toDocument result) ↔ other.Reflects (toDocument loaded) := by
  have htarget : other.targetUrl ≠ none → result.targetUrl = loaded.targetUrl := fun hne =>
    h.targetUrl_none (hdisjoint.targetUrl.resolve_left hne)
  have htypes : other.eventTypes ≠ none → result.subscribedEventTypes = loaded.subscribedEventTypes := fun hne =>
    h.eventTypes_none (hdisjoint.eventTypes.resolve_left hne)
  have hstatus : other.status ≠ none → result.status = loaded.status := fun hne =>
    (h.status_none (hdisjoint.status.resolve_left hne)).1
  refine ⟨fun hr => ?_, fun hr => hr.of_agree htarget htypes hstatus⟩
  exact hr.of_agree (fun hne => (htarget hne).symm) (fun hne => (htypes hne).symm) fun hne => (hstatus hne).symm

end UpdateSubscriptionInput

variable {inputs : Bool → UpdateSubscriptionInput} {clocks : Bool → Nat → Date} {id : SubscriptionId}
  {tenantId : Bool → TenantId} {r : Register Bool WebhookSubscription} {s : Requests Bool}

/-! ### Two requests that succeed -/

theorem execute_update {input : UpdateSubscriptionInput} {clock : Nat → Date} {response : Response}
    {start : Requests Bool} {b : Bool} (hstart : start.client b = (Request.update input clock).execute)
    {schedule : List (Bool × NaturalOrder)}
    (hdone : (start.run perform schedule).client b = .done (.ok response)) :
    ∃ (id : SubscriptionId) (tenantId : TenantId), id.value = input.id ∧
      (Request.update input clock).execute = transaction (.findByIdAndTenant id tenantId)
        (found input.id fun subscription => raise (input.apply clock subscription)) := by
  have hform := execute_form (Request.update input clock)
  generalize (Request.update input clock).execute = program at hstart hform
  cases hform with
  | refused error =>
      rw [System.client_run_of_done schedule hstart] at hdone
      cases hdone
  | transaction h =>
      cases h with
      | update hid htenant => exact ⟨_, _, hid, rfl⟩
  | query h => cases h

variable {world : World}

theorem exists_found {start : Requests Bool} {schedule : List (Bool × NaturalOrder)}
    (hall : ∀ b, start.client b = patching inputs clocks id tenantId b)
    (hdone : ∀ b, ∃ response, (start.run perform schedule).client b = .done (.ok response)) :
    ∃ tenant loaded,
      SubscriptionMongoRepository.findByIdAndTenant start.state.subscriptions id tenant = .ok (some loaded) := by
  cases schedule with
  | nil =>
      obtain ⟨response, hresponse⟩ := hdone true
      rw [System.run_nil, hall true] at hresponse
      cases hresponse
  | cons move rest =>
      obtain ⟨response, hresponse⟩ := hdone move.1
      have hnext : (start.step perform move).client move.1 = _ := System.client_step_of_call (hall move.1)
      rcases hdecide : (perform (.findByIdAndTenant id (tenantId move.1)) move.2 start.state).1 >>=
          found (inputs move.1).id (fun loaded => raise ((inputs move.1).apply (clocks move.1) loaded)) with
        exception | result
      · simp only [hdecide] at hnext
        rw [System.run_cons, System.client_run_of_done rest hnext] at hresponse
        cases hresponse
      · obtain ⟨loaded, hfound, -⟩ := found_eq_ok hdecide
        exact ⟨tenantId move.1, loaded, hfound⟩

theorem exists_tracks (hurl : URL.ReparsesSerialised) (hid : (inputs true).id = (inputs false).id)
    {schedule : List (Bool × NaturalOrder)}
    (hdone : ∀ b, ∃ response, ((Requests.start (fun b => .update (inputs b) (clocks b)) world).run perform
      schedule).client b = .done (.ok response)) :
    ∃ (id : SubscriptionId) (tenantId : Bool → TenantId) (v : WebhookSubscription), id.value = (inputs true).id ∧
      Tracks inputs clocks id tenantId (ReadModifyWrite.start v)
        (Requests.start (fun b => .update (inputs b) (clocks b)) world) := by
  generalize hstart : Requests.start (fun b => .update (inputs b) (clocks b)) world = start at hdone ⊢
  have hexecute : ∀ b, start.client b = (Request.update (inputs b) (clocks b)).execute := by
    intro b
    rw [← hstart]
    rfl
  have hprogram : ∀ b, ∃ (id : SubscriptionId) (tenantId : TenantId), id.value = (inputs b).id ∧
      start.client b = transaction (.findByIdAndTenant id tenantId)
        (found (inputs b).id fun subscription => raise ((inputs b).apply (clocks b) subscription)) := by
    intro b
    obtain ⟨response, hresponse⟩ := hdone b
    rw [hexecute b]
    exact execute_update (hexecute b) hresponse
  choose id tenantId hvalue hclient using hprogram
  have hsame : id false = id true := by
    apply SubscriptionId.value_injective
    rw [hvalue, hvalue, hid]
  have hall : ∀ b, start.client b = patching inputs clocks (id true) tenantId b := by
    intro b
    rw [hclient b]
    cases b with
    | true => rfl
    | false => rw [hsame]; rfl
  obtain ⟨tenant, loaded, hfound⟩ := exists_found hall hdone
  obtain ⟨-, -, -, hevents⟩ := SubscriptionMongoRepository.findByIdAndTenant_eq_ok_some hurl hfound
  refine ⟨id true, tenantId, loaded, hvalue true, ?_, ?_, nofun, hall⟩
  · exact SubscriptionMongoRepository.get?_of_found hurl hfound
  · rw [ReadModifyWrite.start, WebhookSubscription.drained, ← hevents]

theorem Tracks.applied {v : WebhookSubscription} {order : List Bool}
    (h : Tracks inputs clocks id tenantId (ReadModifyWrite.run (modify inputs clocks) (ReadModifyWrite.start v) order) s)
    {b : Bool} {response : Response} (hdone : s.client b = .done (.ok response)) :
    2 ≤ order.count b ∧ ∃ result,
      (inputs b).apply (clocks b) (copyOf (modify inputs clocks) v b order) = .ok result := by
  have hexplained := ReadModifyWrite.explained_run (modify inputs clocks) v order
  have hfollows := h.client b
  rw [hdone] at hfollows
  rcases Nat.lt_trichotomy (order.count b) 1 with hcount | hcount | hcount
  · rw [hexplained.idle b (by omega)] at hfollows
    cases hfollows
  · rw [hexplained.holding b hcount] at hfollows
    obtain ⟨result, -, hsaving⟩ := hfollows
    rw [saving_eq] at hsaving
    cases hsaving
  · rw [hexplained.written b hcount] at hfollows
    obtain ⟨result, happly, -⟩ := hfollows
    exact ⟨hcount, result, happly⟩

/-- When request `c` saves last, the fields of the other one are kept if that one had saved before `c`
loaded its copy, or had only set what was stored at the start. -/
theorem reflects_other_iff {v : WebhookSubscription} {order : List Bool} {c : Bool}
    (hdisjoint : (inputs (!c)).Disjoint (inputs c))
    (happlied : ∀ b, ∃ result, (inputs b).apply (clocks b) (copyOf (modify inputs clocks) v b order) = .ok result)
    (hlast : WrittenBefore (!c) 1 c order) :
    (∀ b, (inputs b).Reflects (toDocument
        (ReadModifyWrite.run (modify inputs clocks) (ReadModifyWrite.start v) order).value)) ↔
      WrittenBefore (!c) 0 c order ∨ (inputs (!c)).Reflects (toDocument v) := by
  have hvalue := (ReadModifyWrite.explained_run (modify inputs clocks) v order).value_both c hlast
  obtain ⟨result, happly⟩ := happlied c
  have happlied_c := UpdateSubscriptionInput.apply_eq_ok happly
  rw [modify_eq happly] at hvalue
  rw [hvalue, toDocument_drained, Bool.forall_bool' c]
  rw [and_iff_right happlied_c.reflects, happlied_c.reflects_other_iff hdisjoint]
  by_cases hread : WrittenBefore (!c) 0 c order
  · have hfirst : copyOf (modify inputs clocks) v (!c) order = v := by
      apply if_neg
      rw [Bool.not_not]
      exact hread.not_written_back (by omega)
    obtain ⟨other, hother⟩ := happlied (!c)
    rw [hfirst] at hother
    have hcopy : copyOf (modify inputs clocks) v c order = other.drained :=
      (if_pos hread).trans (modify_eq hother)
    rw [hcopy, toDocument_drained]
    exact ⟨fun _ => Or.inl hread, fun _ => (UpdateSubscriptionInput.apply_eq_ok hother).reflects⟩
  · have hcopy : copyOf (modify inputs clocks) v c order = v := if_neg hread
    rw [hcopy]
    exact ⟨Or.inr, fun hor => hor.resolve_left hread⟩

/-- The final document has the fields of both updates exactly when, for the one that saved first, the other
loaded its copy after that save, or the fields it set were stored already at the start. In `WrittenBefore`
move 0 of a request is its lookup and move 1 its save. -/
theorem both_updates_kept_iff (hurl : URL.ReparsesSerialised) (inputs : Bool → UpdateSubscriptionInput)
    (clocks : Bool → Nat → Date) (hid : (inputs true).id = (inputs false).id)
    (hdisjoint : (inputs true).Disjoint (inputs false)) (world : World)
    (schedule : List (Bool × NaturalOrder))
    (hdone : ∀ b, ∃ response, ((Requests.start (fun b => .update (inputs b) (clocks b)) world).run perform
      schedule).client b = .done (.ok response)) :
    (∃ final, ((Requests.start (fun b => .update (inputs b) (clocks b)) world).run perform
        schedule).state.stored (inputs true).id = some final ∧ ∀ b, (inputs b).Reflects final) ↔
      ∀ b, WrittenBefore b 1 (!b) (schedule.map Prod.fst) →
        WrittenBefore b 0 (!b) (schedule.map Prod.fst) ∨
          ∃ initial, world.stored (inputs true).id = some initial ∧ (inputs b).Reflects initial := by
  obtain ⟨id, tenantId, v, hvalue, hstart⟩ := exists_tracks hurl hid hdone
  have htracks := (hstart.run hurl schedule).resolve_left fun hfailed => by
    obtain ⟨b, exception, hfailed⟩ := hfailed
    obtain ⟨response, hresponse⟩ := hdone b
    rw [hresponse] at hfailed
    cases hfailed
  have happlied := fun b => htracks.applied (hdone b).choose_spec
  have hinitial : world.stored (inputs true).id = some (toDocument v) := hvalue ▸ hstart.stored
  have hfinal := htracks.stored
  rw [hvalue] at hfinal
  simp only [hinitial, hfinal, Option.some.injEq, exists_eq_left']
  have hdisjoint' : ∀ c, (inputs (!c)).Disjoint (inputs c) := by
    intro c
    cases c with
    | true => exact ⟨hdisjoint.targetUrl.symm, hdisjoint.eventTypes.symm, hdisjoint.status.symm⟩
    | false => exact hdisjoint
  have hiff := fun c => reflects_other_iff (hdisjoint' c) fun b => (happlied b).2
  refine ⟨fun hboth b hfirst => ?_, fun hkept => ?_⟩
  · have hlast := hiff (!b)
    rw [Bool.not_not] at hlast
    exact (hlast hfirst).mp hboth
  · obtain ⟨c, hlast⟩ := (ReadModifyWrite.explained_run (modify inputs clocks) v (schedule.map Prod.fst)).order fun b => (happlied b).1
    have hother := hkept (!c)
    rw [Bool.not_not] at hother
    exact (hiff c hlast).mpr (hother hlast)

end LostUpdate

section Sample

attribute [local instance] samplePlatform

def sampleInputs (b : Bool) : UpdateSubscriptionInput :=
  if b then { sampleKey with targetUrl := none, eventTypes := none, status := some .PAUSED }
  else { sampleKey with targetUrl := none, eventTypes := some ["order.paid"], status := none }

def sampleRequests (b : Bool) : Request := .update (sampleInputs b) fun _ => 1

def sequentialSchedule : List (Bool × NaturalOrder) :=
  [(true, .insertion), (true, .insertion), (true, .insertion), (false, .insertion), (false, .insertion),
    (false, .insertion)]

/-- Both requests load the subscription before either saves. -/
def overlappingSchedule : List (Bool × NaturalOrder) :=
  [(true, .insertion), (false, .insertion), (true, .insertion), (true, .insertion), (false, .insertion),
    (false, .insertion)]

theorem sequential_kept :
    ∃ final, ((Requests.start sampleRequests sampleWorld).run perform sequentialSchedule).state.stored
      sampleKey.id = some final ∧ ∀ b, (sampleInputs b).Reflects final := by
  refine (both_updates_kept_iff samplePlatform_reparsesSerialised sampleInputs (fun _ _ => 1) rfl
    ⟨Or.inl rfl, Or.inl rfl, Or.inr rfl⟩ sampleWorld sequentialSchedule ?_).mpr ?_
  · intro b
    apply exists_of_succeeded
    cases b <;> decide
  · intro b hfirst
    cases b with
    | true => exact Or.inl ⟨[true, true, true], [false, false], rfl, rfl, by decide⟩
    | false =>
        have hread : WrittenBefore true 0 false (sequentialSchedule.map Prod.fst) :=
          ⟨[true, true, true], [false, false], rfl, rfl, by decide⟩
        exact absurd hread (hfirst.not_written_back (by omega))

/-- Both requests succeed and the pause of the first one is lost. -/
theorem overlapping_update_lost :
    (sampleInputs true).Disjoint (sampleInputs false) ∧
      (∀ b, ∃ response, ((Requests.start sampleRequests sampleWorld).run perform overlappingSchedule).client b =
        .done (.ok response)) ∧
      ¬ ∃ final, ((Requests.start sampleRequests sampleWorld).run perform overlappingSchedule).state.stored
        sampleKey.id = some final ∧ ∀ b, (sampleInputs b).Reflects final := by
  refine ⟨⟨Or.inl rfl, Or.inl rfl, Or.inr rfl⟩, fun b => ?_, fun hkept => ?_⟩
  · apply exists_of_succeeded
    cases b <;> decide
  · obtain ⟨final, hfinal, hreflects⟩ := hkept
    have hstatus : (((Requests.start sampleRequests sampleWorld).run perform overlappingSchedule).state.stored
        sampleKey.id).map (fun record => record.status) = some .ACTIVE := by decide
    have hpaused := (hreflects true).status .PAUSED rfl
    rw [hfinal, Option.map_some, hpaused] at hstatus
    cases hstatus

end Sample

end WebhookIdp.Subscription
