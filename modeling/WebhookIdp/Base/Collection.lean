import Mathlib.Data.List.Nodup
import Mathlib.Data.List.Perm.Basic

/-!
# Collections with a primary key and a unique index

A `Collection` is a document collection as a database keeps it: no two documents share their primary
key or their value of the unique index, which the structure carries as fields. A write that would
break either is refused and leaves the collection alone.
-/

namespace DocumentStore

variable {Doc Key Index : Type}

structure Collection (key : Doc → Key) (index : Doc → Index) where
  docs : List Doc
  key_nodup : (docs.map key).Nodup
  index_nodup : (docs.map index).Nodup

variable {key : Doc → Key} {index : Doc → Index}

section Replace

variable [DecidableEq Key]

/-- The documents with `doc` in the place of the one that has its key, or at the end. -/
def replaceDoc (key : Doc → Key) (doc : Doc) (docs : List Doc) : List Doc :=
  if key doc ∈ docs.map key then docs.map fun d => if key d = key doc then doc else d
  else docs ++ [doc]

theorem mem_replaceDoc {doc d : Doc} {docs : List Doc} :
    d ∈ replaceDoc key doc docs ↔ d = doc ∨ (d ∈ docs ∧ key d ≠ key doc) := by
  unfold replaceDoc
  split
  · rename_i hmem
    obtain ⟨old, hold, hkey⟩ := List.mem_map.mp hmem
    constructor
    · intro hd
      obtain ⟨e, he, rfl⟩ := List.mem_map.mp hd
      split
      · exact Or.inl rfl
      · exact Or.inr ⟨he, ‹_›⟩
    · rintro (rfl | ⟨hd, hne⟩)
      · exact List.mem_map.mpr ⟨old, hold, if_pos hkey⟩
      · exact List.mem_map.mpr ⟨d, hd, if_neg hne⟩
  · rename_i hmem
    rw [List.mem_append, List.mem_singleton]
    constructor
    · rintro (hd | rfl)
      · exact Or.inr ⟨hd, fun he => hmem (he ▸ List.mem_map_of_mem hd)⟩
      · exact Or.inl rfl
    · rintro (rfl | ⟨hd, -⟩)
      · exact Or.inr rfl
      · exact Or.inl hd

theorem map_key_replaceDoc (doc : Doc) (docs : List Doc) :
    (replaceDoc key doc docs).map key =
      if key doc ∈ docs.map key then docs.map key else docs.map key ++ [key doc] := by
  unfold replaceDoc
  split
  · rw [List.map_map]
    apply List.map_congr_left
    intro d _
    simp only [Function.comp_apply]
    split
    · exact Eq.symm ‹_›
    · rfl
  · rw [List.map_append, List.map_singleton]

theorem replaceDoc_key_nodup (doc : Doc) {docs : List Doc} (h : (docs.map key).Nodup) :
    ((replaceDoc key doc docs).map key).Nodup := by
  rw [map_key_replaceDoc]
  split
  · exact h
  · rw [← List.concat_eq_append]
    exact h.concat ‹_›

theorem replaceDoc_index_nodup {doc : Doc} {docs : List Doc} (hkey : (docs.map key).Nodup)
    (hindex : (docs.map index).Nodup)
    (hfree : ∀ d ∈ docs, index d = index doc → key d = key doc) :
    ((replaceDoc key doc docs).map index).Nodup := by
  refine List.Nodup.map_on ?_ (replaceDoc_key_nodup doc hkey).of_map
  intro x hx y hy hxy
  rw [mem_replaceDoc] at hx hy
  rcases hx with rfl | ⟨hx, hxk⟩ <;> rcases hy with rfl | ⟨hy, hyk⟩
  · rfl
  · exact absurd (hfree y hy hxy.symm) hyk
  · exact absurd (hfree x hx hxy) hxk
  · exact List.inj_on_of_nodup_map hindex hx hy hxy

theorem filter_replaceDoc_of_neg {p : Doc → Bool} {doc : Doc} {docs : List Doc} (hdoc : p doc = false)
    (hold : ∀ d ∈ docs, key d = key doc → p d = false) :
    (replaceDoc key doc docs).filter p = docs.filter p := by
  unfold replaceDoc
  split
  · clear * - hdoc hold
    induction docs with
    | nil => rfl
    | cons d docs ih =>
        have hrest := ih fun e he => hold e (List.mem_cons_of_mem _ he)
        rw [List.map_cons]
        split
        · have hd := hold d List.mem_cons_self ‹_›
          rw [List.filter_cons_of_neg (by simp [hdoc]), List.filter_cons_of_neg (by simp [hd]), hrest]
        · by_cases hp : p d = true
          · rw [List.filter_cons_of_pos hp, List.filter_cons_of_pos hp, hrest]
          · rw [List.filter_cons_of_neg hp, List.filter_cons_of_neg hp, hrest]
  · rw [List.filter_append, List.filter_cons_of_neg (by simp [hdoc]), List.filter_nil, List.append_nil]

/-- Replacing inside a part of the collection that holds every document with the key. -/
theorem filter_replaceDoc_of_pos {p : Doc → Bool} {doc : Doc} {docs : List Doc} (hdoc : p doc = true)
    (hold : ∀ d ∈ docs, key d = key doc → p d = true) :
    (replaceDoc key doc docs).filter p = replaceDoc key doc (docs.filter p) := by
  have hmem : key doc ∈ docs.map key ↔ key doc ∈ (docs.filter p).map key := by
    simp only [List.mem_map, List.mem_filter]
    constructor
    · rintro ⟨d, hd, hk⟩
      exact ⟨d, ⟨hd, hold d hd hk⟩, hk⟩
    · rintro ⟨d, ⟨hd, -⟩, hk⟩
      exact ⟨d, hd, hk⟩
  unfold replaceDoc
  by_cases h : key doc ∈ docs.map key
  · rw [if_pos h, if_pos (hmem.mp h)]
    clear * - hdoc hold
    induction docs with
    | nil => rfl
    | cons d docs ih =>
        have hrest := ih fun e he => hold e (List.mem_cons_of_mem _ he)
        rw [List.map_cons]
        by_cases hk : key d = key doc
        · have hd := hold d List.mem_cons_self hk
          rw [if_pos hk, List.filter_cons_of_pos hdoc, List.filter_cons_of_pos hd, List.map_cons, if_pos hk,
            hrest]
        · rw [if_neg hk]
          by_cases hp : p d = true
          · rw [List.filter_cons_of_pos hp, List.filter_cons_of_pos hp, List.map_cons, if_neg hk, hrest]
          · rw [List.filter_cons_of_neg hp, List.filter_cons_of_neg hp, hrest]
  · rw [if_neg h, if_neg (fun hf => h (hmem.mpr hf)), List.filter_append, List.filter_cons_of_pos hdoc,
      List.filter_nil]

end Replace

/-- Searching by a value no two documents share. -/
theorem find?_eq_some_iff_of_nodup {Value : Type} [DecidableEq Value] {f : Doc → Value} {docs : List Doc}
    (h : (docs.map f).Nodup) {v : Value} {d : Doc} :
    docs.find? (fun e => f e = v) = some d ↔ d ∈ docs ∧ f d = v := by
  constructor
  · intro hfind
    exact ⟨List.mem_of_find?_eq_some hfind, by simpa using List.find?_some hfind⟩
  · rintro ⟨hd, rfl⟩
    rcases hfind : docs.find? (fun e => f e = f d) with _ | e
    · rw [List.find?_eq_none] at hfind
      exact absurd (decide_eq_true rfl) (hfind d hd)
    · have he := List.mem_of_find?_eq_some hfind
      have hv : f e = f d := by simpa using List.find?_some hfind
      rw [List.inj_on_of_nodup_map h he hd hv]

namespace Collection

def empty : Collection key index := ⟨[], List.nodup_nil, List.nodup_nil⟩

variable (c : Collection key index)

theorem eq_of_key_eq {d e : Doc} (hd : d ∈ c.docs) (he : e ∈ c.docs) (h : key d = key e) : d = e :=
  List.inj_on_of_nodup_map c.key_nodup hd he h

theorem eq_of_index_eq {d e : Doc} (hd : d ∈ c.docs) (he : e ∈ c.docs) (h : index d = index e) : d = e :=
  List.inj_on_of_nodup_map c.index_nodup hd he h

theorem docs_nodup : c.docs.Nodup := c.key_nodup.of_map

section Get

variable [DecidableEq Key]

def get? (k : Key) : Option Doc := c.docs.find? fun d => key d = k

theorem get?_eq_some_iff {k : Key} {d : Doc} : c.get? k = some d ↔ d ∈ c.docs ∧ key d = k :=
  find?_eq_some_iff_of_nodup c.key_nodup

end Get

section Upsert

variable [DecidableEq Key] [DecidableEq Index]

/-- Some other document has the value of the unique index that `doc` would take. -/
def Conflicts (doc : Doc) : Prop := ∃ d ∈ c.docs, index d = index doc ∧ key d ≠ key doc

instance (doc : Doc) : Decidable (c.Conflicts doc) :=
  inferInstanceAs (Decidable (∃ d ∈ c.docs, _))

/-- Replace the document with the key of `doc` by `doc`, or insert it; refused when the unique index
would hold a value twice. -/
def upsert (doc : Doc) : Option (Collection key index) :=
  if h : c.Conflicts doc then none
  else some {
    docs := replaceDoc key doc c.docs
    key_nodup := replaceDoc_key_nodup doc c.key_nodup
    index_nodup := replaceDoc_index_nodup c.key_nodup c.index_nodup fun d hd hindex =>
      Decidable.byContradiction fun hne => h ⟨d, hd, hindex, hne⟩ }

variable {c} {c' : Collection key index} {doc d : Doc}

theorem upsert_eq_none_iff : c.upsert doc = none ↔ c.Conflicts doc := by
  unfold upsert
  split <;> simp_all

theorem docs_upsert (h : c.upsert doc = some c') : c'.docs = replaceDoc key doc c.docs := by
  unfold upsert at h
  split at h
  · cases h
  · cases h
    rfl

theorem mem_upsert (h : c.upsert doc = some c') :
    d ∈ c'.docs ↔ d = doc ∨ (d ∈ c.docs ∧ key d ≠ key doc) := by
  rw [docs_upsert h, mem_replaceDoc]

end Upsert

section Lookup

variable [DecidableEq Index]

/-- The document with a given value of the unique index. -/
def lookup (i : Index) : Option Doc := c.docs.find? fun d => index d = i

theorem lookup_eq_some_iff {i : Index} {d : Doc} : c.lookup i = some d ↔ d ∈ c.docs ∧ index d = i :=
  find?_eq_some_iff_of_nodup c.index_nodup

theorem lookup_eq_none_iff {i : Index} : c.lookup i = none ↔ ∀ d ∈ c.docs, index d ≠ i := by
  simp [lookup, List.find?_eq_none]

end Lookup

section FirstWrite

variable [DecidableEq Key] [DecidableEq Index]

/-- Insert `doc` unless its value of the unique index is there already, and say whether it was
inserted; refused when only its key is taken. -/
def insertIfAbsent (doc : Doc) : Option (Bool × Collection key index) :=
  if h : index doc ∈ c.docs.map index then some (false, c)
  else if hk : key doc ∈ c.docs.map key then none
  else some (true, {
    docs := c.docs ++ [doc]
    key_nodup := by
      rw [List.map_append, List.map_singleton, ← List.concat_eq_append]
      exact c.key_nodup.concat hk
    index_nodup := by
      rw [List.map_append, List.map_singleton, ← List.concat_eq_append]
      exact c.index_nodup.concat h })

variable {c} {c' : Collection key index} {doc d : Doc} {inserted : Bool}

theorem insertIfAbsent_cases (h : c.insertIfAbsent doc = some (inserted, c')) :
    (inserted = false ∧ c' = c ∧ ∃ d ∈ c.docs, index d = index doc) ∨
      (inserted = true ∧ c'.docs = c.docs ++ [doc] ∧ (∀ d ∈ c.docs, index d ≠ index doc) ∧
        ∀ d ∈ c.docs, key d ≠ key doc) := by
  unfold insertIfAbsent at h
  split at h
  · rename_i hindex
    cases h
    obtain ⟨d, hd, he⟩ := List.mem_map.mp hindex
    exact Or.inl ⟨rfl, rfl, d, hd, he⟩
  · rename_i hindex
    split at h
    · cases h
    · rename_i hkey
      cases h
      exact Or.inr ⟨rfl, rfl, fun d hd he => hindex (he ▸ List.mem_map_of_mem hd),
        fun d hd he => hkey (he ▸ List.mem_map_of_mem hd)⟩

theorem insertIfAbsent_eq_none_iff :
    c.insertIfAbsent doc = none ↔
      (∀ d ∈ c.docs, index d ≠ index doc) ∧ ∃ d ∈ c.docs, key d = key doc := by
  unfold insertIfAbsent
  by_cases hindex : index doc ∈ c.docs.map index
  · rw [dif_pos hindex]
    obtain ⟨d, hd, he⟩ := List.mem_map.mp hindex
    simp only [reduceCtorEq, ne_eq, false_iff, not_and]
    exact fun hnone => absurd he (hnone d hd)
  · rw [dif_neg hindex]
    have hnone : ∀ d ∈ c.docs, index d ≠ index doc := fun d hd he =>
      hindex (he ▸ List.mem_map_of_mem hd)
    by_cases hkey : key doc ∈ c.docs.map key
    · rw [dif_pos hkey]
      exact ⟨fun _ => ⟨hnone, List.mem_map.mp hkey⟩, fun _ => rfl⟩
    · rw [dif_neg hkey]
      simp only [reduceCtorEq, false_iff, not_and]
      exact fun _ hex => hkey (List.mem_map.mpr hex)

end FirstWrite

end Collection

end DocumentStore
