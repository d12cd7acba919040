import WebhookIdp.Base.ReadModifyWrite
import WebhookIdp.Subscription.Transactions

/-!
# Two updates as clients of a register

A PATCH loads the subscription, applies its fields to the copy and writes the whole document back. Unless
one of them fails, two of them run like two clients of a read-modify-write register that holds the aggregate.
-/

namespace WebhookIdp.Subscription

open Concurrent (System)
open ReadModifyWrite (Register Phase value_step_of_idle phase_step_of_idle value_step_of_holding
  phase_step_of_holding phase_step_of_ne)

section TwoUpdates

variable [Platform]

variable (inputs : Bool → UpdateSubscriptionInput) (clocks : Bool → Nat → Date)

/-- What request `b` makes of the subscription it loaded. -/
def modify (b : Bool) (subscription : WebhookSubscription) : WebhookSubscription :=
  match (inputs b).apply (clocks b) subscription with
  | .ok result => result.drained
  | .error _ => subscription

variable {inputs clocks}

theorem modify_eq {b : Bool} {subscription result : WebhookSubscription}
    (h : (inputs b).apply (clocks b) subscription = .ok result) :
    modify inputs clocks b subscription = result.drained := by
  rw [modify, h]

/-- The program of request `b`, which looks the subscription up under `id` and its tenant. -/
def patching (inputs : Bool → UpdateSubscriptionInput) (clocks : Bool → Nat → Date) (id : SubscriptionId)
    (tenantId : Bool → TenantId) (b : Bool) : UseCase Response :=
  transaction (.findByIdAndTenant id (tenantId b))
    (found (inputs b).id fun subscription => raise ((inputs b).apply (clocks b) subscription))

/-- What is left of request `b` in each phase of its client. -/
def Follows (inputs : Bool → UpdateSubscriptionInput) (clocks : Bool → Nat → Date) (id : SubscriptionId)
    (tenantId : Bool → TenantId) (b : Bool) (program : UseCase Response) : Phase WebhookSubscription → Prop
  | .idle => program = patching inputs clocks id tenantId b
  | .holding copy => ∃ result, (inputs b).apply (clocks b) copy = .ok result ∧ program = saving result
  | .written copy => ∃ result, (inputs b).apply (clocks b) copy = .ok result ∧
      (program = publishing result ∨ program = .done (.ok (.subscription result.drained)))

/-- The stored subscription and the two requests are where the register says. -/
structure Tracks (inputs : Bool → UpdateSubscriptionInput) (clocks : Bool → Nat → Date) (id : SubscriptionId)
    (tenantId : Bool → TenantId) (r : Register Bool WebhookSubscription) (s : Requests Bool) : Prop where
  stored : s.state.stored id.value = some (toDocument r.value)
  drained : r.value.drained = r.value
  copies : ∀ b copy, r.phase b = .holding copy → copy.id = id
  client : ∀ b, Follows inputs clocks id tenantId b (s.client b) (r.phase b)

def Failed (s : Requests Bool) : Prop := ∃ b exception, s.client b = .done (.error exception)

variable {id : SubscriptionId} {tenantId : Bool → TenantId} {r : Register Bool WebhookSubscription} {s : Requests Bool}

theorem Tracks.eq_value (hurl : URL.ReparsesSerialised) (h : Tracks inputs clocks id tenantId r s)
    {tenant : TenantId} {loaded : WebhookSubscription}
    (hfound : SubscriptionMongoRepository.findByIdAndTenant s.state.subscriptions id tenant = .ok (some loaded)) :
    loaded = r.value ∧ loaded.id = id := by
  obtain ⟨-, hid, -, hevents⟩ := SubscriptionMongoRepository.findByIdAndTenant_eq_ok_some hurl hfound
  have hstored := SubscriptionMongoRepository.get?_of_found hurl hfound
  have hdocument : toDocument loaded = toDocument r.value :=
    Option.some.inj (hstored.symm.trans h.stored)
  have hloaded : loaded.drained = loaded := by
    rw [WebhookSubscription.drained, ← hevents]
  refine ⟨?_, ?_⟩
  · calc loaded = loaded.drained := hloaded.symm
      _ = r.value.drained := toDocument_injective hdocument
      _ = r.value := h.drained
  · exact SubscriptionId.value_injective hid

theorem Tracks.step_idle (hurl : URL.ReparsesSerialised) (h : Tracks inputs clocks id tenantId r s)
    {move : Bool × NaturalOrder} (hphase : r.phase move.1 = .idle) :
    Failed (s.step perform move) ∨
      Tracks inputs clocks id tenantId (ReadModifyWrite.step (modify inputs clocks) r move.1)
        (s.step perform move) := by
  have hclient : s.client move.1 = patching inputs clocks id tenantId move.1 := by
    have hfollows := h.client move.1
    rw [hphase] at hfollows
    exact hfollows
  have hnext : (s.step perform move).client move.1 = _ := System.client_step_of_call hclient
  have hstate : (s.step perform move).state = s.state := System.state_step_of_call hclient
  rcases hdecide : (perform (.findByIdAndTenant id (tenantId move.1)) move.2 s.state).1 >>=
      found (inputs move.1).id (fun loaded => raise ((inputs move.1).apply (clocks move.1) loaded)) with
    exception | result
  · simp only [hdecide] at hnext
    exact Or.inl ⟨move.1, exception, hnext⟩
  · simp only [hdecide] at hnext
    obtain ⟨loaded, hfound, happly⟩ := found_eq_ok hdecide
    obtain ⟨rfl, hid⟩ := h.eq_value hurl hfound
    have hvalue : (ReadModifyWrite.step (modify inputs clocks) r move.1).value = r.value :=
      value_step_of_idle hphase
    have hholding : (ReadModifyWrite.step (modify inputs clocks) r move.1).phase move.1 = .holding r.value :=
      phase_step_of_idle hphase
    refine Or.inr ⟨?_, ?_, fun b copy hcopy => ?_, fun b => ?_⟩
    · rw [hvalue, hstate]
      exact h.stored
    · rw [hvalue]
      exact h.drained
    · by_cases hb : b = move.1
      · subst hb
        rw [hholding] at hcopy
        cases hcopy
        exact hid
      · rw [phase_step_of_ne hb] at hcopy
        exact h.copies b copy hcopy
    · by_cases hb : b = move.1
      · subst hb
        rw [hholding]
        exact ⟨result, raise_eq_ok_iff.mp happly, hnext⟩
      · rw [phase_step_of_ne hb, System.client_step_of_ne hb]
        exact h.client b

theorem Tracks.step_holding (h : Tracks inputs clocks id tenantId r s) {move : Bool × NaturalOrder}
    {copy : WebhookSubscription} (hphase : r.phase move.1 = .holding copy) :
    Failed (s.step perform move) ∨
      Tracks inputs clocks id tenantId (ReadModifyWrite.step (modify inputs clocks) r move.1)
        (s.step perform move) := by
  have hclient := h.client move.1
  rw [hphase] at hclient
  obtain ⟨result, happly, hsaving⟩ := hclient
  have hcall := hsaving.trans (saving_eq result)
  have hnext : (s.step perform move).client move.1 = _ := System.client_step_of_call hcall
  have hstate : (s.step perform move).state = _ := System.state_step_of_call hcall
  rcases perform_save_cases s.state move.2 result with ⟨-, store, hsave, hperform⟩ | ⟨-, hperform⟩
  · rw [hperform] at hnext hstate
    have hid : result.id = id := by
      rw [(UpdateSubscriptionInput.apply_eq_ok happly).id]
      exact h.copies move.1 copy hphase
    have hvalue := (value_step_of_holding hphase).trans (modify_eq happly)
    have hwritten : (ReadModifyWrite.step (modify inputs clocks) r move.1).phase move.1 = .written copy :=
      phase_step_of_holding hphase
    refine Or.inr ⟨?_, ?_, fun b copy' hcopy => ?_, fun b => ?_⟩
    · rw [hvalue, hstate, World.stored, ← hid, toDocument_drained]
      exact SubscriptionStore.get?_save_self hsave
    · rw [hvalue]
      rfl
    · by_cases hb : b = move.1
      · subst hb
        rw [hwritten] at hcopy
        cases hcopy
      · rw [phase_step_of_ne hb] at hcopy
        exact h.copies b copy' hcopy
    · by_cases hb : b = move.1
      · subst hb
        rw [hwritten]
        exact ⟨result, happly, Or.inl hnext⟩
      · rw [phase_step_of_ne hb, System.client_step_of_ne hb]
        exact h.client b
  · rw [hperform] at hnext
    exact Or.inl ⟨move.1, duplicateKeyError, hnext⟩

theorem Tracks.step_written (h : Tracks inputs clocks id tenantId r s) {move : Bool × NaturalOrder}
    {copy : WebhookSubscription} (hphase : r.phase move.1 = .written copy) :
    Tracks inputs clocks id tenantId (ReadModifyWrite.step (modify inputs clocks) r move.1)
      (s.step perform move) := by
  have hclient := h.client move.1
  rw [hphase] at hclient
  obtain ⟨result, happly, hrest⟩ := hclient
  rw [ReadModifyWrite.step_of_written hphase]
  rcases hrest with hpublishing | hdone
  · have hnext : (s.step perform move).client move.1 = _ := System.client_step_of_call hpublishing
    have hstate : (s.step perform move).state = _ := System.state_step_of_call hpublishing
    refine ⟨?_, h.drained, h.copies, fun b => ?_⟩
    · rw [hstate]
      exact h.stored
    · by_cases hb : b = move.1
      · subst hb
        rw [hphase]
        exact ⟨result, happly, Or.inr hnext⟩
      · rw [System.client_step_of_ne hb]
        exact h.client b
  · rw [System.step_of_done hdone]
    exact h

theorem Tracks.step (hurl : URL.ReparsesSerialised) (h : Tracks inputs clocks id tenantId r s)
    (move : Bool × NaturalOrder) :
    Failed (s.step perform move) ∨
      Tracks inputs clocks id tenantId (ReadModifyWrite.step (modify inputs clocks) r move.1)
        (s.step perform move) := by
  cases hphase : r.phase move.1 with
  | idle => exact h.step_idle hurl hphase
  | holding copy => exact h.step_holding hphase
  | written copy => exact Or.inr (h.step_written hphase)

theorem Failed.run (h : Failed s) (schedule : List (Bool × NaturalOrder)) : Failed (s.run perform schedule) := by
  obtain ⟨b, exception, hb⟩ := h
  exact ⟨b, exception, System.client_run_of_done schedule hb⟩

/-- Unless a request fails, a run of the two requests is a run of the register. -/
theorem Tracks.run (hurl : URL.ReparsesSerialised) (h : Tracks inputs clocks id tenantId r s)
    (schedule : List (Bool × NaturalOrder)) :
    Failed (s.run perform schedule) ∨
      Tracks inputs clocks id tenantId
        (ReadModifyWrite.run (modify inputs clocks) r (schedule.map Prod.fst)) (s.run perform schedule) := by
  induction schedule generalizing r s with
  | nil => exact Or.inr h
  | cons move rest ih =>
      rcases h.step hurl move with hfailed | hstep
      · exact Or.inl (hfailed.run rest)
      · exact ih hstep

end TwoUpdates

end WebhookIdp.Subscription
