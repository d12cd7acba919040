import Mathlib.Data.List.Find
import WebhookIdp.Base.DataRefinement
import WebhookIdp.Inbox.DistinctEvents
import WebhookIdp.Inbox.FirstWriteWins

/-!
# The test double of the inbox

The tests of the use case run over `InMemoryInboxRepository`, a `Map` from dedup keys to records. However many
executions run beside each other, and in whatever order they reach the repository, they end with the same results over
the collection, which holds the documents of the map's records, provided that no two have generated one record id.
-/

namespace WebhookIdp.Inbox

open Concurrent (Program System AnsweredAlike)
open IngestEventUseCase

section TestDouble

variable [Platform]

namespace InMemoryInboxRepository

/-- The entries of the `Map`, in the order of their first insertion. -/
abbrev Store := List (String × InboxRecord)

def get (store : Store) (dedupKey : String) : Option InboxRecord :=
  (store.find? fun entry => entry.1 = dedupKey).map Prod.snd

def size (store : Store) : Nat := store.length

def upsertByDedupKey (record : InboxRecord) (store : Store) : UpsertInboxRecordResult × Store :=
  let key := record.dedupKey.value
  if key ∈ store.map Prod.fst then ({ inserted := false }, store)
  else ({ inserted := true }, DocumentStore.replaceDoc Prod.fst (key, record) store)

end InMemoryInboxRepository

open InMemoryInboxRepository (Store)

def performInMemory : Concurrent.Interface RepositoryCall RepositoryCall.Answer Exception Unit Store
  | .upsertByDedupKey record, _, store =>
      (.ok (InMemoryInboxRepository.upsertByDedupKey record store).1,
        (InMemoryInboxRepository.upsertByDedupKey record store).2)

/-- The collection holds the documents of the entries, and each entry is under its dedup key. -/
structure Mirrored (inbox : InboxCollection) (store : Store) : Prop where
  docs : inbox.docs = store.map fun entry => toDocument entry.2
  keys : ∀ entry ∈ store, entry.1 = entry.2.dedupKey.value

variable {inbox : InboxCollection} {store : Store} {record : InboxRecord}

/-! ### What both show -/

theorem Mirrored.keys_eq (h : Mirrored inbox store) : inbox.docs.map InboxRecordDoc.dedupKey = store.map Prod.fst := by
  rw [h.docs, List.map_map]
  exact List.map_congr_left fun entry hentry => (h.keys entry hentry).symm

theorem Mirrored.get_eq (h : Mirrored inbox store) (key : String) :
    (InMemoryInboxRepository.get store key).map toDocument = byDedupKey inbox key := by
  have hfound : store.find? (fun entry => entry.2.dedupKey.value = key) = store.find? fun entry => entry.1 = key := by
    refine List.find?_congr fun entry hentry => ?_
    rw [h.keys entry hentry]
  rw [InMemoryInboxRepository.get, byDedupKey, DocumentStore.Collection.lookup, h.docs, List.find?_map, ← hfound,
    Option.map_map]
  rfl

theorem Mirrored.size_eq (h : Mirrored inbox store) : InMemoryInboxRepository.size store = inbox.docs.length := by
  rw [h.docs, List.length_map, InMemoryInboxRepository.size]

/-! ### One upsert -/

theorem Mirrored.upsert (h : Mirrored inbox store) (hfresh : ∀ doc ∈ inbox.docs, doc._id ≠ record.id.value) :
    AnsweredAlike performRepository performInMemory Mirrored .completed () (.upsertByDedupKey record) inbox store := by
  have hdoc : ∀ doc ∈ inbox.docs, doc._id ≠ (toDocument record)._id := hfresh
  have hupdate := findOneAndUpdate_of_fresh hdoc
  unfold AnsweredAlike
  dsimp only [performRepository, performInMemory, InMemoryInboxRepository.upsertByDedupKey,
    InboxMongoRepository.upsertByDedupKey, attempt]
  by_cases hkey : record.dedupKey.value ∈ store.map Prod.fst
  · have hrecorded : Recorded inbox (toDocument record).dedupKey := by
      rw [recorded_iff_mem, h.keys_eq]
      exact hkey
    obtain ⟨-, hfound⟩ | ⟨after, hdocs, hinserted⟩ := hupdate
    · rw [hfound, if_pos hkey]
      exact ⟨rfl, h⟩
    · have hattempted := attempted_findOneAndUpdate inbox (toDocument record)
      rw [hinserted] at hattempted
      cases hattempted with
      | inserted hnew _ => exact absurd hrecorded hnew
  · obtain ⟨hrecorded, -⟩ | ⟨after, hdocs, hinserted⟩ := hupdate
    · rw [recorded_iff_mem, h.keys_eq] at hrecorded
      exact absurd hrecorded hkey
    · rw [hinserted, if_neg hkey]
      refine ⟨rfl, ?_, fun entry hentry => ?_⟩
      · rw [hdocs, h.docs, DocumentStore.replaceDoc, if_neg hkey, List.map_append]
        rfl
      · obtain rfl | ⟨hold, -⟩ := DocumentStore.mem_replaceDoc.mp hentry
        · rfl
        · exact h.keys entry hold

/-! ### Any number of executions -/

variable {κ : Type} {calls : κ → IngestEventInput × Generated} {s : Ingestions κ}

def Ingestions.startInMemory (calls : κ → IngestEventInput × Generated) :
    System κ Store RepositoryCall RepositoryCall.Answer Exception IngestEventResult where
  state := []
  client i := execute (calls i).1 (calls i).2

/-- Every document has the id that an execution which is done has generated. -/
structure Signed (calls : κ → IngestEventInput × Generated) (s : Ingestions κ) : Prop where
  sound : Sound calls s
  signed : ∀ doc ∈ s.state.docs, ∃ i result, s.client i = .done result ∧ doc._id = (calls i).2.id.value

theorem signed_start (calls : κ → IngestEventInput × Generated) : Signed calls (Ingestions.start calls .empty) :=
  ⟨sound_start calls .empty, nofun⟩

theorem Signed.step [DecidableEq κ] (h : Signed calls s) (move : κ × Outcome) :
    Signed calls (s.step performRepository move) := by
  refine ⟨h.sound.step move, fun doc hdoc => ?_⟩
  obtain hsame | ⟨record, hrecord, hstate, hclient⟩ := h.sound.step_cases move
  · rw [hsame] at hdoc ⊢
    exact h.signed doc hdoc
  · rw [hstate] at hdoc
    obtain hold | rfl := (attempted move.2 s.state (toDocument record)).mem_cases hdoc
    · obtain ⟨i, result, hdone, hid⟩ := h.signed doc hold
      exact ⟨i, result, System.client_run_of_done [move] hdone, hid⟩
    · obtain ⟨-, -, -, -, -, hid, -⟩ := prepare_eq_ok_iff.mp hrecord
      exact ⟨move.1, _, hclient, congrArg InboxRecordId.value hid⟩

theorem Signed.fresh (h : Signed calls s) (hdistinct : Function.Injective fun i => (calls i).2.id.value) {i : κ}
    (hnext : s.nextCall i = some (.upsertByDedupKey record)) : ∀ doc ∈ s.state.docs, doc._id ≠ record.id.value := by
  intro doc hdoc hid
  obtain ⟨j, result, hdone, hsigned⟩ := h.signed doc hdoc
  have hunderway := h.sound.underway i
  unfold System.nextCall at hnext
  generalize hclient : s.client i = program at hnext hunderway
  cases hunderway with
  | done result => cases hnext
  | @storing built hbuilt =>
      cases hnext
      obtain ⟨-, -, -, -, -, hown, -⟩ := prepare_eq_ok_iff.mp hbuilt
      have hsame : j = i := hdistinct (hsigned.symm.trans (hid.trans (congrArg InboxRecordId.value hown)))
      subst hsame
      rw [hdone] at hclient
      cases hclient

/-- The executions have the same results, and `get` and `size` show of the map what the collection holds. -/
structure Agrees (s : Ingestions κ)
    (double : System κ Store RepositoryCall RepositoryCall.Answer Exception IngestEventResult) : Prop where
  results : double.client = s.client
  get : ∀ key, (InMemoryInboxRepository.get double.state key).map toDocument = byDedupKey s.state key
  size : InMemoryInboxRepository.size double.state = s.state.docs.length

/-- In every order of their calls, executions with distinct record ids agree over the test double and over the
collection. -/
theorem double_agrees [DecidableEq κ] (calls : κ → IngestEventInput × Generated)
    (hdistinct : Function.Injective fun i => (calls i).2.id.value) (order : List κ) :
    Agrees ((Ingestions.start calls .empty).run performRepository (order.map fun i => (i, .completed)))
      ((Ingestions.startInMemory calls).run performInMemory (order.map fun i => (i, ()))) := by
  have hstart : System.Mirrors Mirrored (Ingestions.start calls .empty) (Ingestions.startInMemory calls) :=
    ⟨⟨rfl, nofun⟩, rfl⟩
  have hmirrors := hstart.run (signed_start calls) (fun s i h => Signed.step h (i, .completed))
    (fun s t i op h hrelated hnext => by
      cases op with
      | upsertByDedupKey record => exact hrelated.upsert (h.fresh hdistinct hnext)) order
  exact ⟨hmirrors.client, hmirrors.state.get_eq, hmirrors.state.size_eq⟩

end TestDouble

section Sample

attribute [local instance] pairPlatform

def pairCalls (which : Bool) : IngestEventInput × Generated :=
  ({ eventId := some "OrderService-1"
     correlationId := none
     tenantId := "tenant-1"
     eventType := "order.created"
     payload := .obj [("first", .bool which)]
     brokerMessageId := none }, pairGenerated which)

theorem double_agrees_sample :
    Agrees ((Ingestions.start pairCalls .empty).run performRepository ([true, false].map fun i => (i, .completed)))
      ((Ingestions.startInMemory pairCalls).run performInMemory ([true, false].map fun i => (i, ()))) :=
  double_agrees pairCalls pairId_injective [true, false]

end Sample

end WebhookIdp.Inbox
