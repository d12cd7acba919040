import WebhookIdp.Base.Text

/-!
# Domain names

A domain name is a sequence of labels, with or without the dot of the root at its end. Names are compared label by
label without regard to the case of letters; the dot of the root does not count. In a URL any character of a name
may stand as a percent escape.
-/

/-- The printable ASCII characters that a URL does not read as something else. -/
def isLabelChar (c : Char) : Bool :=
  0x21 ≤ c.toNat && c.toNat < 0x7F && !"#%./:<>?@[\\]^|".toList.contains c

structure DomainName where
  labels : List (List Char)
  /-- The name ends with the dot of the root. -/
  rooted : Bool
  labels_ne_nil : labels ≠ []
  label_ne_nil : [] ∉ labels
  plain : (labels.all fun label => label.all isLabelChar) = true

namespace DomainName

variable {name other : DomainName}

theorem isLabelChar_of_mem {label : List Char} {c : Char} (h : label ∈ name.labels) (hc : c ∈ label) :
    isLabelChar c = true :=
  List.all_eq_true.mp (List.all_eq_true.mp name.plain label h) c hc

/-- The empty label of the root. -/
def root (name : DomainName) : List (List Char) := if name.rooted then [[]] else []

def text (name : DomainName) : List Char := List.intercalate ['.'] (name.labels ++ name.root)

theorem eq_nil_of_mem_root {label : List Char} (h : label ∈ name.root) : label = [] := by
  unfold root at h
  split at h
  · exact List.mem_singleton.mp h
  · cases h

theorem dot_notMem {label : List Char} (h : label ∈ name.labels ++ name.root) : '.' ∉ label := by
  intro hdot
  obtain hlabel | hroot := List.mem_append.mp h
  · have hplain := isLabelChar_of_mem hlabel hdot
    cases hplain
  · rw [eq_nil_of_mem_root hroot] at hdot
    cases hdot

theorem splitOn_text (name : DomainName) : name.text.splitOn '.' = name.labels ++ name.root :=
  List.splitOn_intercalate '.' (fun _ hlabel => dot_notMem hlabel)
    (List.append_ne_nil_of_left_ne_nil name.labels_ne_nil _)

theorem isLabelChar_of_mem_text {c : Char} (h : c ∈ name.text) : c = '.' ∨ isLabelChar c = true := by
  refine (Text.mem_intercalate h).imp_right fun ⟨label, hlabel, hc⟩ => ?_
  obtain hlabel | hroot := List.mem_append.mp hlabel
  · exact isLabelChar_of_mem hlabel hc
  · rw [eq_nil_of_mem_root hroot] at hc
    cases hc

theorem eq_of_text_eq (h : name.text = other.text) : name.labels = other.labels ∧ name.rooted = other.rooted := by
  have hpieces : name.labels ++ name.root = other.labels ++ other.root := by
    rw [← splitOn_text, ← splitOn_text, h]
  have hlast (n : DomainName) : [] ∈ n.labels ++ n.root ↔ n.rooted = true := by
    unfold root
    cases n.rooted <;> simp [n.label_ne_nil]
  have hrooted : name.rooted = other.rooted := by
    rw [Bool.eq_iff_iff, ← hlast, ← hlast, hpieces]
  have hroot : name.root = other.root := by
    unfold root
    rw [hrooted]
  rw [hroot] at hpieces
  exact ⟨List.append_cancel_right hpieces, hrooted⟩

/-! ### Letter case -/

/-- What holds of the ASCII characters by inspection. -/
theorem ascii_cases {p : Char → Prop} (h : ∀ n < 0x80, p (Char.ofNat n)) {c : Char} (hc : isLabelChar c = true) : p c := by
  have hascii : c.toNat < 0x80 := by
    simp only [isLabelChar, Bool.and_eq_true, decide_eq_true_eq] at hc
    omega
  have hchar := h c.toNat hascii
  rwa [Char.ofNat_toNat] at hchar

theorem isLabelChar_toLower {c : Char} (h : isLabelChar c = true) : isLabelChar c.toLower = true :=
  ascii_cases (p := fun c => isLabelChar c = true → isLabelChar c.toLower = true) (by decide) h h

theorem toLower_toLower {c : Char} (h : isLabelChar c = true) : c.toLower.toLower = c.toLower :=
  ascii_cases (p := fun c => c.toLower.toLower = c.toLower) (by decide) h

def lower (name : DomainName) : DomainName where
  labels := name.labels.map (List.map Char.toLower)
  rooted := name.rooted
  labels_ne_nil := by simpa using name.labels_ne_nil
  label_ne_nil := by simpa using name.label_ne_nil
  plain := by
    simp only [List.all_map, List.all_eq_true, Function.comp_apply]
    exact fun label hlabel c hc => isLabelChar_toLower (isLabelChar_of_mem hlabel hc)

@[simp] theorem rooted_lower (name : DomainName) : name.lower.rooted = name.rooted := rfl

theorem text_lower (name : DomainName) : name.lower.text = name.text.map Char.toLower := by
  have hroot : name.lower.root = name.root.map (List.map Char.toLower) := by
    unfold root
    rw [rooted_lower]
    split <;> rfl
  have hdot : Char.toLower '.' = '.' := by decide
  unfold text
  rw [Text.map_intercalate, List.map_append, hroot, hdot]
  rfl

theorem map_toLower_text_lower (name : DomainName) : name.lower.text.map Char.toLower = name.lower.text := by
  rw [text_lower, List.map_map]
  refine List.map_congr_left fun c hc => ?_
  obtain rfl | hc := isLabelChar_of_mem_text hc
  · decide
  · exact toLower_toLower hc

/-- Equal as names are compared. -/
def SameAs (name other : DomainName) : Prop := name.lower.labels = other.lower.labels

instance (name other : DomainName) : Decidable (name.SameAs other) :=
  inferInstanceAs (Decidable (name.lower.labels = other.lower.labels))

/-! ### Names in a URL -/

def hexValue (c : Char) : Option Nat :=
  if c.isDigit then some (c.toNat - '0'.toNat)
  else if 'a' ≤ c.toLower ∧ c.toLower ≤ 'f' then some (c.toLower.toNat - 'a'.toNat + 10)
  else none

/-- Each escape stands for the character of its byte. No byte beyond ASCII is part of a domain name. -/
def percentDecode : List Char → List Char
  | '%' :: hi :: lo :: rest =>
      match hexValue hi, hexValue lo with
      | some h, some l => Char.ofNat (16 * h + l) :: percentDecode rest
      | _, _ => '%' :: percentDecode (hi :: lo :: rest)
  | c :: rest => c :: percentDecode rest
  | [] => []

example : percentDecode "%4cocal%68ost.".toList = "Localhost.".toList := by decide

end DomainName
