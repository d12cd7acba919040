import WebhookIdp.Base.CheckThenAct
import WebhookIdp.Subscription.Sequential

/-!
# Overlapping deletions

A DELETE checks on the copy it loaded whether the subscription is deleted already. Requests that delete the
same subscription run like the clients of a flag that each of them checks, raises and reports: the stored
status is the flag, and the published event is the report.
-/

namespace WebhookIdp.Subscription

open Concurrent (Program System)
open CheckThenAct (State Phase ChecksFirst step_self phase_step_of_ne)

def deletions (id : String) (events : List DomainEvent) : Nat :=
  events.countP fun event => match event with
    | .SubscriptionDeleted aggregateId _ => aggregateId == id
    | _ => false

section DeleteOnce

variable [Platform] {ι : Type} [DecidableEq ι]

/-- The copy a DELETE of the subscription `id` loaded, which was deleted already if `up`. -/
structure LoadedCopy (id : String) (up : Bool) (loaded : WebhookSubscription) : Prop where
  id : loaded.id.value = id
  domainEvents : loaded.domainEvents = []
  deleted : loaded.status = .DELETED ↔ up = true

/-- What is left of a DELETE of the subscription `id` in each phase. -/
def Deleting (id : String) (input : SubscriptionKeyInput) (now : Date) (program : UseCase Response) : Phase → Prop
  | .idle => ∃ subscriptionId tenantId, subscriptionId.value = id ∧
      program = transaction (.findByIdAndTenant subscriptionId tenantId)
        (found input.id fun subscription => .ok (subscription.delete now))
  | .checked up => ∃ loaded, LoadedCopy id up loaded ∧ program = saving (loaded.delete now)
  | .raised up => ∃ loaded, LoadedCopy id up loaded ∧ program = publishing (loaded.delete now)
  | .reported _ => ∃ response, program = .done (.ok response)

/-- The stored status, the published deletions and the requests are where the flag and its clients are. -/
structure DeletesAs (id : String) (inputs : ι → SubscriptionKeyInput) (now : ι → Date) (published : Nat)
    (r : State ι) (s : Requests ι) : Prop where
  stored : ∃ record, s.state.stored id = some record ∧ (record.status = .DELETED ↔ r.flag = true)
  deletions : deletions id s.state.published = published + r.reports
  client : ∀ i, Deleting id (inputs i) (now i) (s.client i) (r.phase i)

def NoneFailed (s : Requests ι) : Prop := ∀ i exception, s.client i ≠ .done (.error exception)

variable {id : String} {inputs : ι → SubscriptionKeyInput} {now : ι → Date} {published : Nat} {r : State ι}
  {s : Requests ι} {move : ι × NaturalOrder}

theorem NoneFailed.of_run (schedule : List (ι × NaturalOrder)) (h : NoneFailed (s.run perform schedule)) :
    NoneFailed s := by
  intro i exception hfailed
  exact h i exception (System.client_run_of_done schedule hfailed)

theorem LoadedCopy.deletions_delete {loaded : WebhookSubscription} {up : Bool} (h : LoadedCopy id up loaded)
    (now : Date) : deletions id (loaded.delete now).domainEvents = if up then 0 else 1 := by
  cases up with
  | true =>
      rw [WebhookSubscription.delete_of_deleted (h.deleted.mpr rfl), h.domainEvents]
      rfl
  | false =>
      have hstatus : loaded.status ≠ .DELETED := fun hdeleted => by
        have hfalse := h.deleted.mp hdeleted
        cases hfalse
      rw [WebhookSubscription.delete_of_not_deleted hstatus, WebhookSubscription.record, h.domainEvents,
        deletions, ← h.id]
      simp

theorem DeletesAs.of_mover (h : DeletesAs id inputs now published r s)
    (hstored : ∃ record, (s.step perform move).state.stored id = some record ∧
      (record.status = .DELETED ↔ (CheckThenAct.step r move.1).flag = true))
    (hdeletions : Subscription.deletions id (s.step perform move).state.published =
      published + (CheckThenAct.step r move.1).reports)
    (hself : Deleting id (inputs move.1) (now move.1) ((s.step perform move).client move.1)
      ((CheckThenAct.step r move.1).phase move.1)) :
    DeletesAs id inputs now published (CheckThenAct.step r move.1) (s.step perform move) := by
  refine ⟨hstored, hdeletions, fun i => ?_⟩
  by_cases hi : i = move.1
  · subst hi
    exact hself
  · rw [phase_step_of_ne hi, System.client_step_of_ne hi]
    exact h.client i

theorem DeletesAs.step_idle (h : DeletesAs id inputs now published r s) (hphase : r.phase move.1 = .idle)
    (hok : NoneFailed (s.step perform move)) :
    DeletesAs id inputs now published (CheckThenAct.step r move.1) (s.step perform move) := by
  obtain ⟨hnewPhase, hflag, hreports⟩ := (step_self r move.1).1 hphase
  have hclient := h.client move.1
  rw [hphase] at hclient
  obtain ⟨subscriptionId, tenantId, hid, hprogram⟩ := hclient
  have hnext : (s.step perform move).client move.1 = _ := System.client_step_of_call hprogram
  have hstate : (s.step perform move).state = s.state := System.state_step_of_call hprogram
  rcases hdecide : (perform (.findByIdAndTenant subscriptionId tenantId) move.2 s.state).1 >>=
      found (inputs move.1).id (fun loaded => .ok (loaded.delete (now move.1))) with exception | result
  · simp only [hdecide] at hnext
    exact absurd hnext (hok move.1 exception)
  · simp only [hdecide] at hnext
    obtain ⟨loaded, hfound, hresult⟩ := found_eq_ok hdecide
    cases hresult
    obtain ⟨record, hstored, -, hread⟩ := SubscriptionMongoRepository.stored_of_found hfound
    obtain ⟨current, hcurrent, hstatus⟩ := h.stored
    rw [hid] at hstored
    have hsame : current = record := Option.some.inj (hcurrent.symm.trans hstored)
    refine h.of_mover ?_ ?_ ?_
    · rw [hstate, hflag]
      exact h.stored
    · rw [hstate, hreports]
      exact h.deletions
    · rw [hnewPhase]
      refine ⟨loaded, ⟨?_, (toAggregate_eq_ok hread).2.2, ?_⟩, hnext⟩
      · rw [(toAggregate_eq_ok hread).1, ((DocumentStore.Collection.get?_eq_some_iff _).mp hstored).2]
      · rw [status_of_toAggregate_eq_ok hread, ← hsame]
        exact hstatus

theorem DeletesAs.step_checked (h : DeletesAs id inputs now published r s) {up : Bool}
    (hphase : r.phase move.1 = .checked up) (hok : NoneFailed (s.step perform move)) :
    DeletesAs id inputs now published (CheckThenAct.step r move.1) (s.step perform move) := by
  obtain ⟨hnewPhase, hflag, hreports⟩ := (step_self r move.1).2.1 up hphase
  have hclient := h.client move.1
  rw [hphase] at hclient
  obtain ⟨loaded, hloaded, hprogram⟩ := hclient
  have hcall := hprogram.trans (saving_eq _)
  have hnext : (s.step perform move).client move.1 = _ := System.client_step_of_call hcall
  have hstate : (s.step perform move).state = _ := System.state_step_of_call hcall
  rcases perform_save_cases s.state move.2 (loaded.delete (now move.1)) with
    ⟨-, store, hsave, hperform⟩ | ⟨-, hperform⟩
  · rw [hperform] at hnext hstate
    refine h.of_mover ⟨toDocument (loaded.delete (now move.1)), ?_, ?_⟩ ?_ ?_
    · rw [hstate, World.stored, ← hloaded.id, ← WebhookSubscription.delete_id]
      exact SubscriptionStore.get?_save_self hsave
    · rw [hflag]
      exact iff_of_true WebhookSubscription.delete_status rfl
    · rw [hstate, hreports]
      exact h.deletions
    · rw [hnewPhase]
      exact ⟨loaded, hloaded, hnext⟩
  · rw [hperform] at hnext
    exact absurd hnext (hok move.1 duplicateKeyError)

theorem DeletesAs.step_raised (h : DeletesAs id inputs now published r s) {up : Bool}
    (hphase : r.phase move.1 = .raised up) :
    DeletesAs id inputs now published (CheckThenAct.step r move.1) (s.step perform move) := by
  obtain ⟨hnewPhase, hflag, hreports⟩ := (step_self r move.1).2.2.1 up hphase
  have hclient := h.client move.1
  rw [hphase] at hclient
  obtain ⟨loaded, hloaded, hprogram⟩ := hclient
  have hnext : (s.step perform move).client move.1 = _ := System.client_step_of_call hprogram
  have hstate : (s.step perform move).state = _ := System.state_step_of_call hprogram
  refine h.of_mover ?_ ?_ ?_
  · rw [hstate, hflag]
    exact h.stored
  · rw [hstate, hreports, ← Nat.add_assoc, ← h.deletions, ← hloaded.deletions_delete (now move.1)]
    exact List.countP_append
  · rw [hnewPhase, hnext]
    exact ⟨_, rfl⟩

theorem DeletesAs.step (h : DeletesAs id inputs now published r s) (move : ι × NaturalOrder)
    (hok : NoneFailed (s.step perform move)) :
    DeletesAs id inputs now published (CheckThenAct.step r move.1) (s.step perform move) := by
  rcases hphase : r.phase move.1 with _ | up | up | up
  · exact h.step_idle hphase hok
  · exact h.step_checked hphase hok
  · exact h.step_raised hphase
  · have hclient := h.client move.1
    rw [hphase] at hclient
    obtain ⟨response, hdone⟩ := hclient
    rw [System.step_of_done hdone, (step_self r move.1).2.2.2 up hphase]
    exact h

/-- A run of deletions none of which fails is a run of the flag. -/
theorem DeletesAs.run (h : DeletesAs id inputs now published r s) (schedule : List (ι × NaturalOrder))
    (hok : NoneFailed (s.run perform schedule)) :
    DeletesAs id inputs now published (CheckThenAct.run r (schedule.map Prod.fst)) (s.run perform schedule) := by
  induction schedule generalizing r s with
  | nil => exact h
  | cons move rest ih =>
      have hstep : NoneFailed (s.step perform move) := NoneFailed.of_run rest hok
      exact ih (h.step move hstep) hok

omit [DecidableEq ι] in
theorem deletesAs_start {world : World} {record : SubscriptionRecord} (hid : ∀ i, (inputs i).id = id)
    (hstored : world.stored id = some record) (hstatus : record.status ≠ .DELETED)
    (hok : NoneFailed (Requests.start (fun i => .delete (inputs i) (now i)) world)) :
    DeletesAs id inputs now (deletions id world.published) CheckThenAct.start
      (Requests.start (fun i => .delete (inputs i) (now i)) world) := by
  refine ⟨⟨record, hstored, ?_⟩, rfl, fun i => ?_⟩
  · exact iff_of_false hstatus nofun
  · have hform := execute_form (.delete (inputs i) (now i))
    have hclient : (Requests.start (fun i => .delete (inputs i) (now i)) world).client i =
        (Request.delete (inputs i) (now i)).execute := rfl
    rw [hclient]
    generalize hprogram : (Request.delete (inputs i) (now i)).execute = program at hform hclient
    cases hform with
    | refused error => exact absurd hclient (hok i _)
    | transaction htransacts =>
        cases htransacts with
        | delete hkey htenant => exact ⟨_, _, hkey.trans (hid i), rfl⟩
    | query hqueries => cases hqueries

/-- However successful deletions of one subscription interleave, they publish one event exactly when one of
them alone makes its lookup before the first save. The moves of a request are its lookup, its save and its
publication. -/
theorem deletion_published_once_iff [Fintype ι] (id : String) (inputs : ι → SubscriptionKeyInput)
    (now : ι → Date) (hid : ∀ i, (inputs i).id = id) (world : World) (record : SubscriptionRecord)
    (hstored : world.stored id = some record) (hstatus : record.status ≠ .DELETED)
    (schedule : List (ι × NaturalOrder))
    (hok : ∀ i, ∃ response, ((Requests.start (fun i => .delete (inputs i) (now i)) world).run perform
      schedule).client i = .done (.ok response)) :
    deletions id ((Requests.start (fun i => .delete (inputs i) (now i)) world).run perform
        schedule).state.published = deletions id world.published + 1 ↔
      ∃ i, ChecksFirst (schedule.map Prod.fst) i ∧ ∀ j, ChecksFirst (schedule.map Prod.fst) j → j = i := by
  have hnone : NoneFailed ((Requests.start (fun i => .delete (inputs i) (now i)) world).run perform schedule) := by
    intro i exception hfailed
    obtain ⟨response, hdone⟩ := hok i
    rw [hfailed] at hdone
    cases hdone
  have hrun := (deletesAs_start hid hstored hstatus (NoneFailed.of_run schedule hnone)).run schedule hnone
  have hreported : ∀ i, ∃ up, (CheckThenAct.run CheckThenAct.start (schedule.map Prod.fst)).phase i =
      .reported up := by
    intro i
    have hclient := hrun.client i
    obtain ⟨response, hdone⟩ := hok i
    rw [hdone] at hclient
    rcases hphase : (CheckThenAct.run CheckThenAct.start (schedule.map Prod.fst)).phase i with _ | up | up | up
    · rw [hphase] at hclient
      obtain ⟨_, _, -, hcall⟩ := hclient
      cases hcall
    · rw [hphase] at hclient
      obtain ⟨_, -, hcall⟩ := hclient
      rw [saving_eq] at hcall
      cases hcall
    · rw [hphase] at hclient
      obtain ⟨_, -, hcall⟩ := hclient
      cases hcall
    · exact ⟨up, rfl⟩
  rw [hrun.deletions, Nat.add_left_cancel_iff]
  exact CheckThenAct.reports_eq_one_iff hreported

end DeleteOnce

section Sample

attribute [local instance] samplePlatform

def twoDeletions : Requests Bool := Requests.start (fun _ => .delete sampleKey 1) sampleWorld

/-- One deletion after the other publishes one event. -/
theorem one_after_the_other_once :
    deletions sampleKey.id (twoDeletions.run perform
      ([false, false, false, true, true, true].map fun i => (i, .insertion))).state.published = 1 := by
  refine (deletion_published_once_iff sampleKey.id (fun _ : Bool => sampleKey) (fun _ => 1) (fun _ => rfl)
    sampleWorld ((sampleWorld.stored sampleKey.id).get (by decide)) (Option.some_get _).symm (by decide) _
    fun i => ?_).mpr ⟨false, ?_, fun j hfirst => ?_⟩
  · cases i <;> exact exists_of_succeeded (by decide)
  · have hphase : (CheckThenAct.run CheckThenAct.start [false, false, false, true, true, true]).phase false =
        .reported false := by decide
    exact (CheckThenAct.checksFirst_iff_of_reported hphase).mpr rfl
  · cases j with
    | false => rfl
    | true =>
        have hphase : (CheckThenAct.run CheckThenAct.start [false, false, false, true, true, true]).phase true =
            .reported true := by decide
        cases (CheckThenAct.checksFirst_iff_of_reported hphase).mp hfirst

/-- Two deletions that both make their lookup before the first save publish two events. -/
theorem overlapping_deletions_published_twice :
    (∀ i, ∃ response, (twoDeletions.run perform
        ([false, true, false, true, false, true].map fun i => (i, .insertion))).client i = .done (.ok response)) ∧
      deletions sampleKey.id (twoDeletions.run perform
        ([false, true, false, true, false, true].map fun i => (i, .insertion))).state.published ≠
          deletions sampleKey.id sampleWorld.published + 1 := by
  refine ⟨fun i => ?_, by decide⟩
  cases i <;> exact exists_of_succeeded (by decide)

end Sample

end WebhookIdp.Subscription
