import WebhookIdp.Base.Safety
import WebhookIdp.Inbox.Ingest

/-!
# The first write of a dedup key wins

Any number of ingest calls run at once, each upsert atomic and ended as the environment decides. Seen by
dedup key the inbox goes through nothing but first writes of the calls' records, so what it holds for a key
stays as it is, and the one call that inserted it is the one that reports so.
-/

namespace WebhookIdp.Inbox

open Concurrent (Program System)
open IngestEventUseCase

section FirstWriteWins

variable [Platform]

abbrev Ingestions (κ : Type) :=
  System κ InboxCollection RepositoryCall RepositoryCall.Answer Exception IngestEventResult

/-- All calls have been made and none has reached the repository. -/
def Ingestions.start {κ : Type} (calls : κ → IngestEventInput × Generated) (inbox : InboxCollection) :
    Ingestions κ where
  state := inbox
  client i := execute (calls i).1 (calls i).2

/-- The result of a call that says it has inserted a record. -/
def reportsInserted (key : String) : Ingestion IngestEventResult :=
  .done (.ok { dedupKey := key, inserted := true })

variable {κ : Type} {calls : κ → IngestEventInput × Generated} {s : Ingestions κ}

/-! ### One call at a time -/

/-- What is left of a call: its result, or its upsert with the record it has built. -/
inductive Underway (call : IngestEventInput × Generated) : Ingestion IngestEventResult → Prop
  | done (result : Except Exception IngestEventResult) : Underway call (.done result)
  | storing {record : InboxRecord} (h : prepare call.1 call.2 = .ok record) : Underway call (storing record)

theorem Underway.answered {call : IngestEventInput × Generated} {op : RepositoryCall}
    {next : Except Exception op.Answer → Ingestion IngestEventResult} (h : Underway call (.call op next))
    (answer : Except Exception op.Answer) : Underway call (next answer) := by
  generalize hprogram : Program.call op next = program at h
  cases h with
  | done result => cases hprogram
  | storing h =>
      cases hprogram
      exact Underway.done _

/-- What holds while the calls run. -/
structure Sound (calls : κ → IngestEventInput × Generated) (s : Ingestions κ) : Prop where
  underway : ∀ i, Underway (calls i) (s.client i)
  stored : ∀ i key, s.client i = reportsInserted key → Recorded s.state key
  once : ∀ i j key, s.client i = reportsInserted key → s.client j = reportsInserted key → i = j

theorem sound_start (calls : κ → IngestEventInput × Generated) (inbox : InboxCollection) :
    Sound calls (Ingestions.start calls inbox) := by
  have hclient (i : κ) : (Ingestions.start calls inbox).client i = _ := execute_eq (calls i).1 (calls i).2
  have hsilent (i : κ) (key : String) : (Ingestions.start calls inbox).client i ≠ reportsInserted key := by
    intro h
    rw [hclient i] at h
    split at h <;> cases h
  refine ⟨fun i => ?_, fun i key hi => absurd hi (hsilent i key), fun i _ key hi _ => absurd hi (hsilent i key)⟩
  rw [hclient i]
  split
  · exact Underway.done _
  · exact Underway.storing ‹_›

variable [DecidableEq κ]

theorem Sound.step_cases (h : Sound calls s) (move : κ × Outcome) :
    s.step performRepository move = s ∨
      ∃ record, prepare (calls move.1).1 (calls move.1).2 = .ok record ∧
        (s.step performRepository move).state = (attempt move.2 s.state (toDocument record)).2 ∧
        (s.step performRepository move).client move.1 =
          .done ((attempt move.2 s.state (toDocument record)).1.map fun updatedExisting =>
            { dedupKey := record.dedupKey.value, inserted := !updatedExisting }) := by
  have hunderway := h.underway move.1
  generalize hclient : s.client move.1 = program at hunderway
  cases hunderway with
  | done result => exact Or.inl (System.step_of_done hclient)
  | @storing record hrecord =>
      have hstate : (s.step performRepository move).state = _ := System.state_step_of_call hclient
      have hnext : (s.step performRepository move).client move.1 = _ := System.client_step_of_call hclient
      refine Or.inr ⟨record, hrecord, hstate, hnext.trans ?_⟩
      show Program.done (((attempt move.2 s.state (toDocument record)).1.map _).map _) = _
      cases (attempt move.2 s.state (toDocument record)).1 <;> rfl

theorem Sound.extends_step (h : Sound calls s) (move : κ × Outcome) :
    FirstWrite.Extends (byDedupKey s.state) (byDedupKey (s.step performRepository move).state) := by
  rcases h.step_cases move with hsame | ⟨record, -, hstate, -⟩
  · rw [hsame]
    exact FirstWrite.Extends.refl _
  · rw [hstate]
    exact (attempted move.2 s.state (toDocument record)).extends

theorem Sound.reports_step (h : Sound calls s) {move : κ × Outcome} {key : String}
    (hbefore : s.client move.1 ≠ reportsInserted key)
    (hafter : (s.step performRepository move).client move.1 = reportsInserted key) :
    ¬ Recorded s.state key ∧ Recorded (s.step performRepository move).state key := by
  rcases h.step_cases move with hsame | ⟨record, -, hstate, hclient⟩
  · rw [hsame] at hafter
    exact absurd hafter hbefore
  · rw [hclient] at hafter
    rw [hstate]
    have hattempted := attempted move.2 s.state (toDocument record)
    generalize attempt move.2 s.state (toDocument record) = result at hafter hattempted
    cases hattempted with
    | found _ => cases hafter
    | inserted hnew hdocs =>
        cases hafter
        exact ⟨hnew, toDocument record, by rw [hdocs]; simp, rfl⟩
    | failed _ => cases hafter
    | lost _ _ _ => cases hafter

theorem Sound.step (h : Sound calls s) (move : κ × Outcome) : Sound calls (s.step performRepository move) := by
  have hextends := h.extends_step move
  have hreports : ∀ i key, (s.step performRepository move).client i = reportsInserted key →
      s.client i = reportsInserted key ∨ (i = move.1 ∧ ¬ Recorded s.state key ∧
        Recorded (s.step performRepository move).state key) := by
    intro i key hi
    by_cases hmove : i = move.1
    · subst hmove
      by_cases hbefore : s.client move.1 = reportsInserted key
      · exact Or.inl hbefore
      · exact Or.inr ⟨rfl, h.reports_step hbefore hi⟩
    · rw [System.client_step_of_ne hmove] at hi
      exact Or.inl hi
  refine ⟨fun i => ?_, fun i key hi => ?_, fun i j key hi hj => ?_⟩
  · exact System.client_step_invariant (fun _ _ hcall => hcall.answered) (h.underway i) move
  · rcases hreports i key hi with hold | ⟨-, -, hrecorded⟩
    · exact (h.stored i key hold).mono hextends
    · exact hrecorded
  · rcases hreports i key hi with hiold | ⟨hi', hinew, -⟩ <;> rcases hreports j key hj with hjold | ⟨hj', hjnew, -⟩
    · exact h.once i j key hiold hjold
    · exact absurd (h.stored i key hiold) hjnew
    · exact absurd (h.stored j key hjold) hinew
    · exact hi'.trans hj'.symm

theorem Sound.run (h : Sound calls s) (schedule : List (κ × Outcome)) :
    Sound calls (s.run performRepository schedule) :=
  System.run_invariant (fun _ move hs => hs.step move) h schedule

/-! ### Whole schedules -/

/-- Along a schedule the inbox, seen by dedup key, has first writes of the calls' records and nothing else. -/
theorem Sound.run_refines (h : Sound calls s) (schedule : List (κ × Outcome)) :
    ∃ writes : List (String × InboxRecordDoc),
      byDedupKey (s.run performRepository schedule).state = FirstWrite.putAll (byDedupKey s.state) writes ∧
      ∀ write ∈ writes, ∃ i record, prepare (calls i).1 (calls i).2 = .ok record ∧
        write = (record.dedupKey.value, toDocument record) := by
  induction schedule generalizing s with
  | nil => exact ⟨[], rfl, nofun⟩
  | cons move rest ih =>
      obtain ⟨writes, hwrites, hfrom⟩ := ih (h.step move)
      rcases h.step_cases move with hsame | ⟨record, hrecord, hstate, -⟩
      · rw [hsame] at hwrites
        refine ⟨writes, ?_, hfrom⟩
        rw [System.run_cons, hsame]
        exact hwrites
      · rw [hstate] at hwrites
        rcases (attempted move.2 s.state (toDocument record)).byDedupKey_cases with hkept | hput
        · exact ⟨writes, hkept ▸ hwrites, hfrom⟩
        · refine ⟨(record.dedupKey.value, toDocument record) :: writes, ?_, ?_⟩
          · rw [hput] at hwrites
            exact hwrites
          · intro write hwrite
            rcases List.mem_cons.mp hwrite with rfl | hwrite
            · exact ⟨move.1, record, hrecord, rfl⟩
            · exact hfrom write hwrite

/-- What a later state of the calls owes an earlier one. -/
structure KeepsFirstWrites (earlier later : Ingestions κ) : Prop where
  unique : ∀ doc ∈ later.state.docs, ∀ other ∈ later.state.docs, doc.dedupKey = other.dedupKey → doc = other
  kept : ∀ doc ∈ earlier.state.docs, doc ∈ later.state.docs
  once : ∀ i j key, later.client i = reportsInserted key → later.client j = reportsInserted key → i = j

/-- In every interleaving of ingest calls the inbox holds at most one record of a key, a record it holds is in
every later state with the same fields, and at most one call of a key reports that it inserted a record. -/
theorem first_write_wins (calls : κ → IngestEventInput × Generated) (inbox : InboxCollection)
    (before after : List (κ × Outcome)) :
    KeepsFirstWrites ((Ingestions.start calls inbox).run performRepository before)
      ((Ingestions.start calls inbox).run performRepository (before ++ after)) := by
  have hbefore := (sound_start calls inbox).run before
  have hafter := (sound_start calls inbox).run (before ++ after)
  refine ⟨fun doc hdoc other hother => DocumentStore.Collection.eq_of_index_eq _ hdoc hother, ?_, hafter.once⟩
  intro doc hdoc
  obtain ⟨writes, hwrites, -⟩ := hbefore.run_refines after
  rw [← System.run_append] at hwrites
  exact mem_of_extends (hwrites ▸ FirstWrite.extends_putAll _ writes) hdoc

end FirstWriteWins

end WebhookIdp.Inbox
