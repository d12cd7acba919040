import WebhookIdp.Base.FirstWrite
import WebhookIdp.Base.Program
import WebhookIdp.Inbox.Record

/-!
# The inbox repository

The collection is keyed by `_id` and has the unique index on `dedupKey`. An upsert is atomic, and the
environment decides how it ends: it may fail before or after it took effect, and one that races another
upsert of its key may meet the unique index. Seen by dedup key, the collection is a map in which the first
write wins.
-/

namespace WebhookIdp.Inbox

inductive MongoError where
  | duplicateKey
  | network
  deriving DecidableEq, Repr

/-- Everything that is thrown while a message is handled. -/
inductive Exception where
  | syntaxError
  | typeError
  | invalidEnvelope (message : String)
  | domain (error : DomainError)
  | unresolvableDedupKey (message : String)
  | mongo (error : MongoError)
  | channelClosed
  deriving DecidableEq, Repr

def raise {α : Type} (x : Except DomainError α) : Except Exception α := x.mapError Exception.domain

theorem raise_eq_ok_iff {α : Type} {x : Except DomainError α} {a : α} : raise x = .ok a ↔ x = .ok a :=
  Throwing.mapError_eq_ok_iff

abbrev InboxCollection := DocumentStore.Collection InboxRecordDoc._id InboxRecordDoc.dedupKey

/-- How a call over the network ends. -/
inductive Outcome where
  | completed
  | refused
  | unanswered
  | raced
  deriving DecidableEq, Repr

/-- `findOneAndUpdate({ dedupKey }, { $setOnInsert: doc }, { upsert: true })`, with `updatedExisting`. -/
def findOneAndUpdate (inbox : InboxCollection) (doc : InboxRecordDoc) :
    Except Exception Bool × InboxCollection :=
  match inbox.insertIfAbsent doc with
  | some (inserted, inbox) => (.ok !inserted, inbox)
  | none => (.error (.mongo .duplicateKey), inbox)

/-- The same call over a connection that may fail, beside other calls. -/
def attempt (outcome : Outcome) (inbox : InboxCollection) (doc : InboxRecordDoc) :
    Except Exception Bool × InboxCollection :=
  match outcome with
  | .completed => findOneAndUpdate inbox doc
  | .refused => (.error (.mongo .network), inbox)
  | .unanswered => (.error (.mongo .network), (findOneAndUpdate inbox doc).2)
  | .raced =>
      if doc.dedupKey ∈ inbox.docs.map InboxRecordDoc.dedupKey then (.error (.mongo .duplicateKey), inbox)
      else findOneAndUpdate inbox doc

structure UpsertInboxRecordResult where
  inserted : Bool
  deriving DecidableEq, Repr

section Repository

variable [Platform]

inductive RepositoryCall where
  | upsertByDedupKey (record : InboxRecord)

abbrev RepositoryCall.Answer : RepositoryCall → Type
  | upsertByDedupKey _ => UpsertInboxRecordResult

def InboxMongoRepository.upsertByDedupKey (record : InboxRecord) (outcome : Outcome) (inbox : InboxCollection) :
    Except Exception UpsertInboxRecordResult × InboxCollection :=
  let (updatedExisting, inbox) := attempt outcome inbox (toDocument record)
  (updatedExisting.map fun updatedExisting => { inserted := !updatedExisting }, inbox)

def performRepository : Concurrent.Interface RepositoryCall RepositoryCall.Answer Exception Outcome InboxCollection
  | .upsertByDedupKey record => InboxMongoRepository.upsertByDedupKey record

end Repository

/-! ### What an upsert does -/

/-- The inbox as a map from dedup keys to documents. -/
def byDedupKey (inbox : InboxCollection) (key : String) : Option InboxRecordDoc := inbox.lookup key

/-- There is a record with the dedup key. -/
def Recorded (inbox : InboxCollection) (key : String) : Prop := ∃ doc ∈ inbox.docs, doc.dedupKey = key

instance (inbox : InboxCollection) (key : String) : Decidable (Recorded inbox key) :=
  inferInstanceAs (Decidable (∃ doc ∈ inbox.docs, doc.dedupKey = key))

variable {inbox : InboxCollection} {doc : InboxRecordDoc} {key : String}

theorem recorded_iff_mem : Recorded inbox key ↔ key ∈ inbox.docs.map InboxRecordDoc.dedupKey :=
  List.mem_map.symm

theorem byDedupKey_eq_some_iff : byDedupKey inbox key = some doc ↔ doc ∈ inbox.docs ∧ doc.dedupKey = key :=
  inbox.lookup_eq_some_iff

theorem byDedupKey_eq_none_iff : byDedupKey inbox key = none ↔ ¬ Recorded inbox key := by
  rw [byDedupKey, DocumentStore.Collection.lookup_eq_none_iff, Recorded]
  simp only [not_exists, not_and, ne_eq]

theorem byDedupKey_of_append {after : InboxCollection} (hnew : ¬ Recorded inbox doc.dedupKey)
    (hdocs : after.docs = inbox.docs ++ [doc]) :
    byDedupKey after = FirstWrite.put (byDedupKey inbox) doc.dedupKey doc := by
  funext other
  rw [FirstWrite.put_apply]
  split
  · rename_i hkey
    subst hkey
    rw [byDedupKey_eq_none_iff.mpr hnew, byDedupKey_eq_some_iff.mpr ⟨by rw [hdocs]; simp, rfl⟩]
    rfl
  · rename_i hkey
    ext old
    rw [byDedupKey_eq_some_iff, byDedupKey_eq_some_iff, hdocs, List.mem_append, List.mem_singleton]
    refine and_congr_left fun hother => or_iff_left ?_
    rintro rfl
    exact hkey hother.symm

/-- What one call can answer and leave: the key was found, the document was inserted, or the call failed
before or after the document was inserted. -/
inductive Attempted (inbox : InboxCollection) (doc : InboxRecordDoc) :
    Except Exception Bool × InboxCollection → Prop
  | found (hfound : Recorded inbox doc.dedupKey) : Attempted inbox doc (.ok true, inbox)
  | inserted {after : InboxCollection} (hnew : ¬ Recorded inbox doc.dedupKey)
      (hdocs : after.docs = inbox.docs ++ [doc]) : Attempted inbox doc (.ok false, after)
  | failed (error : Exception) : Attempted inbox doc (.error error, inbox)
  | lost {after : InboxCollection} (error : Exception) (hnew : ¬ Recorded inbox doc.dedupKey)
      (hdocs : after.docs = inbox.docs ++ [doc]) : Attempted inbox doc (.error error, after)

theorem findOneAndUpdate_of_fresh (hid : ∀ old ∈ inbox.docs, old._id ≠ doc._id) :
    (Recorded inbox doc.dedupKey ∧ findOneAndUpdate inbox doc = (.ok true, inbox)) ∨
      ∃ after, after.docs = inbox.docs ++ [doc] ∧ findOneAndUpdate inbox doc = (.ok false, after) := by
  rcases hinsert : inbox.insertIfAbsent doc with _ | ⟨inserted, after⟩
  · obtain ⟨-, old, hold, holdId⟩ := DocumentStore.Collection.insertIfAbsent_eq_none_iff.mp hinsert
    exact absurd holdId (hid old hold)
  · rw [findOneAndUpdate, hinsert]
    rcases DocumentStore.Collection.insertIfAbsent_cases hinsert with ⟨rfl, rfl, hpresent⟩ | ⟨rfl, hdocs, -, -⟩
    · exact Or.inl ⟨hpresent, rfl⟩
    · exact Or.inr ⟨after, hdocs, rfl⟩

theorem attempted_findOneAndUpdate (inbox : InboxCollection) (doc : InboxRecordDoc) :
    Attempted inbox doc (findOneAndUpdate inbox doc) := by
  rw [findOneAndUpdate]
  rcases hinsert : inbox.insertIfAbsent doc with _ | ⟨inserted, after⟩
  · exact Attempted.failed _
  · rcases DocumentStore.Collection.insertIfAbsent_cases hinsert with
      ⟨rfl, rfl, hpresent⟩ | ⟨rfl, hdocs, habsent, -⟩
    · exact Attempted.found hpresent
    · exact Attempted.inserted (fun ⟨old, hold, hkey⟩ => habsent old hold hkey) hdocs

theorem attempted (outcome : Outcome) (inbox : InboxCollection) (doc : InboxRecordDoc) :
    Attempted inbox doc (attempt outcome inbox doc) := by
  have hdirect := attempted_findOneAndUpdate inbox doc
  cases outcome with
  | completed => exact hdirect
  | refused => exact Attempted.failed _
  | unanswered =>
      rw [attempt]
      generalize findOneAndUpdate inbox doc = result at hdirect
      cases hdirect with
      | found _ => exact Attempted.failed _
      | inserted hnew hdocs => exact Attempted.lost _ hnew hdocs
      | failed _ => exact Attempted.failed _
      | lost _ hnew hdocs => exact Attempted.lost _ hnew hdocs
  | raced =>
      rw [attempt]
      split
      · exact Attempted.failed _
      · exact hdirect

variable {result : Except Exception Bool × InboxCollection}

/-- Seen as a map, the inbox after a call is as before it or has had one write. -/
theorem Attempted.byDedupKey_cases (h : Attempted inbox doc result) :
    byDedupKey result.2 = byDedupKey inbox ∨
      byDedupKey result.2 = FirstWrite.put (byDedupKey inbox) doc.dedupKey doc := by
  cases h with
  | found _ => exact Or.inl rfl
  | inserted hnew hdocs => exact Or.inr (byDedupKey_of_append hnew hdocs)
  | failed _ => exact Or.inl rfl
  | lost _ hnew hdocs => exact Or.inr (byDedupKey_of_append hnew hdocs)

theorem Attempted.mem_cases (h : Attempted inbox doc result) {other : InboxRecordDoc}
    (hother : other ∈ result.2.docs) : other ∈ inbox.docs ∨ other = doc := by
  have hinserted {after : InboxCollection} (hdocs : after.docs = inbox.docs ++ [doc]) (hmem : other ∈ after.docs) :
      other ∈ inbox.docs ∨ other = doc := by
    rw [hdocs, List.mem_append, List.mem_singleton] at hmem
    exact hmem
  cases h with
  | found _ => exact Or.inl hother
  | inserted _ hdocs => exact hinserted hdocs hother
  | failed _ => exact Or.inl hother
  | lost _ _ hdocs => exact hinserted hdocs hother

theorem Attempted.extends (h : Attempted inbox doc result) :
    FirstWrite.Extends (byDedupKey inbox) (byDedupKey result.2) := by
  rcases h.byDedupKey_cases with hsame | hput
  · rw [hsame]
    exact FirstWrite.Extends.refl _
  · rw [hput]
    exact FirstWrite.extends_put _ _ _

theorem Attempted.recorded (h : Attempted inbox doc result) {updatedExisting : Bool}
    (hok : result.1 = .ok updatedExisting) : Recorded result.2 doc.dedupKey := by
  cases h with
  | found hfound => exact hfound
  | inserted _ hdocs => exact ⟨doc, by rw [hdocs]; simp, rfl⟩
  | failed _ => cases hok
  | lost _ _ _ => cases hok

theorem mem_of_extends {after : InboxCollection} (h : FirstWrite.Extends (byDedupKey inbox) (byDedupKey after))
    (hdoc : doc ∈ inbox.docs) : doc ∈ after.docs :=
  (byDedupKey_eq_some_iff.mp (h doc.dedupKey doc (byDedupKey_eq_some_iff.mpr ⟨hdoc, rfl⟩))).1

theorem Recorded.mono {after : InboxCollection} (h : Recorded inbox key)
    (hextends : FirstWrite.Extends (byDedupKey inbox) (byDedupKey after)) : Recorded after key := by
  obtain ⟨doc, hdoc, hkey⟩ := h
  exact ⟨doc, mem_of_extends hextends hdoc, hkey⟩

end WebhookIdp.Inbox
