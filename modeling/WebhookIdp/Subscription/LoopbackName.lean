import WebhookIdp.Base.DomainName
import WebhookIdp.Subscription.Masking

/-!
# The name of the local host

The guard compares the hostname of the parsed URL with the text `localhost`. The parser has lowered its letters and
decoded its escapes by then, so every spelling of the name is caught but the one that ends with the dot of the root.
-/

namespace WebhookIdp.Subscription

open DomainName (percentDecode)

def localhost : DomainName where
  labels := ["localhost".toList]
  rooted := false
  labels_ne_nil := by decide
  label_ne_nil := by decide
  plain := by decide

/-! ### The guard on names -/

section Guard

variable {name : DomainName} {hostname : String}

theorem notMem_text_lower {c : Char} (hdot : c ≠ '.') (hplain : isLabelChar c = false) : c ∉ name.lower.text := by
  intro hmem
  obtain heq | hlabel := DomainName.isLabelChar_of_mem_text hmem
  · exact hdot heq
  · rw [hplain] at hlabel
    cases hlabel

theorem isPrivateOrReservedHost_of_name (hname : hostname.toList = name.lower.text)
    (hliteral : isIPv4 hostname.toList = false) :
    isPrivateOrReservedHost hostname = true ↔ name.lower.text = "localhost".toList := by
  have hlowered : hostname.toList.map Char.toLower = name.lower.text := by
    rw [hname, DomainName.map_toLower_text_lower]
  have hbracket : "[".toList.isPrefixOf name.lower.text = false := by
    rw [Bool.eq_false_iff, Ne, List.isPrefixOf_iff_prefix]
    intro hstarts
    have hmem : '[' ∈ name.lower.text := hstarts.subset (List.mem_singleton_self '[')
    exact notMem_text_lower (by decide) (by decide) hmem
  have hcolon : name.lower.text.contains ':' = false := by
    have hnot : ':' ∉ name.lower.text := notMem_text_lower (by decide) (by decide)
    simpa using hnot
  rw [hname] at hliteral
  unfold isPrivateOrReservedHost
  simp only [hlowered, hbracket, hliteral, hcolon, Bool.false_and, Bool.false_eq_true, if_false, beq_iff_eq]
  split
  · rename_i heq
    exact iff_of_true rfl heq
  · rename_i hne
    exact iff_of_false Bool.false_ne_true hne

/-- That text is the one of a name that is `localhost` and does not end with the dot of the root. -/
theorem text_lower_eq_localhost_iff :
    name.lower.text = "localhost".toList ↔ name.SameAs localhost ∧ name.rooted = false := by
  have htext : localhost.text = "localhost".toList := by decide
  have hlower : localhost.lower.labels = localhost.labels := by decide
  unfold DomainName.SameAs
  rw [hlower]
  constructor
  · intro h
    exact DomainName.eq_of_text_eq (h.trans htext.symm)
  · intro ⟨hlabels, hrooted⟩
    unfold DomainName.text DomainName.root
    rw [hlabels, DomainName.rooted_lower, hrooted]
    decide

end Guard

/-! ### Hosts as they are written -/

section Written

variable [Platform]

/-- `written` gives the host as it stands in a URL string. The parser decodes its escapes, lowers its letters and keeps
a dot at its end, unless it reads the host as an IPv4 address. -/
structure URL.ReadsHost (written : String → String) : Prop where
  hostname : ∀ value url (name : DomainName), Platform.newURL value = some url → url.protocol = "https:" →
    percentDecode (written value).toList = name.text → isIPv4 url.hostname.toList = false →
    url.hostname.toList = name.lower.text

def RejectedAsPrivate (value : String) : Prop :=
  ∃ message, TargetUrl.fromString value = .error (.invalidTargetUrl .PRIVATE_HOST_NOT_ALLOWED message)

theorem rejectedAsPrivate_iff {value : String} {url : URL} (hparsed : Platform.newURL value = some url)
    (hlength : Text.length value ≤ MAX_LENGTH) (hprotocol : url.protocol = "https:") (husername : url.username = "")
    (hpassword : url.password = "") : RejectedAsPrivate value ↔ isPrivateOrReservedHost url.hostname = true := by
  unfold RejectedAsPrivate TargetUrl.fromString
  rw [if_neg (by omega)]
  split
  · rename_i hnone
    rw [hparsed] at hnone
    cases hnone
  · rename_i parsed hsome
    rw [hparsed] at hsome
    cases hsome
    rw [dif_neg (not_ne_iff.mpr hprotocol), dif_neg (by simp [husername, hpassword])]
    by_cases hhost : isPrivateOrReservedHost url.hostname = true
    · rw [dif_pos hhost]
      simp [hhost]
    · rw [dif_neg hhost]
      simp [hhost]

/-- A URL is rejected for the name of the local host exactly when it has that name, unless the name ends with the dot
of the root. -/
theorem localhost_rejected_iff {written : String → String} (hreads : URL.ReadsHost written) {value : String} {url : URL}
    {name : DomainName} (hparsed : Platform.newURL value = some url) (hlength : Text.length value ≤ MAX_LENGTH)
    (hprotocol : url.protocol = "https:") (husername : url.username = "") (hpassword : url.password = "")
    (hname : percentDecode (written value).toList = name.text) (hliteral : isIPv4 url.hostname.toList = false) :
    (RejectedAsPrivate value ↔ name.SameAs localhost) ↔ ¬ (name.SameAs localhost ∧ name.rooted = true) := by
  have hhost := hreads.hostname value url name hparsed hprotocol hname hliteral
  rw [rejectedAsPrivate_iff hparsed hlength hprotocol husername hpassword,
    isPrivateOrReservedHost_of_name hhost hliteral, text_lower_eq_localhost_iff]
  cases name.rooted <;> simp

end Written

/-! ### A platform with a few spellings -/

section Sample

/-- The characters after `https://` up to the path. -/
def hostOfHttps (value : String) : String := String.ofList ((value.toList.drop 8).takeWhile (· != '/'))

theorem readsHost_ofTable {urls : List (String × URL)} {uuids : List String}
    (h : ∀ entry ∈ urls, entry.2.hostname.toList = (percentDecode (hostOfHttps entry.1).toList).map Char.toLower) :
    @URL.ReadsHost (Platform.ofTable urls uuids) hostOfHttps := by
  refine @URL.ReadsHost.mk (Platform.ofTable urls uuids) _ fun value url name hparsed _ hname _ => ?_
  obtain ⟨entry, hfind, rfl⟩ := Option.map_eq_some_iff.mp hparsed
  have hvalue : entry.1 = value := by simpa using List.find?_some hfind
  rw [DomainName.text_lower, ← hname, ← hvalue]
  exact h entry (List.mem_of_find?_eq_some hfind)

def spellings : List (String × URL) :=
  [("https://%4cOCALHOST/inbound", URL.https "localhost" "/inbound"),
    ("https://Localhost./inbound", URL.https "localhost." "/inbound")]

@[reducible] def spellingsPlatform : Platform := Platform.ofTable spellings []

attribute [local instance] spellingsPlatform

theorem readsHost_spellings : URL.ReadsHost hostOfHttps := readsHost_ofTable (by decide)

def upperLocalhost : DomainName where
  labels := ["LOCALHOST".toList]
  rooted := false
  labels_ne_nil := by decide
  label_ne_nil := by decide
  plain := by decide

theorem newURL_upper :
    Platform.newURL "https://%4cOCALHOST/inbound" = some (URL.https "localhost" "/inbound") := rfl

theorem localhost_rejected_iff_sample :
    (RejectedAsPrivate "https://%4cOCALHOST/inbound" ↔ upperLocalhost.SameAs localhost) ↔
      ¬ (upperLocalhost.SameAs localhost ∧ upperLocalhost.rooted = true) :=
  localhost_rejected_iff readsHost_spellings newURL_upper (by decide) rfl rfl rfl (by decide) (by decide)

def rootedLocalhost : DomainName where
  labels := ["Localhost".toList]
  rooted := true
  labels_ne_nil := by decide
  label_ne_nil := by decide
  plain := by decide

/-- The name with the dot of the root passes the guard. -/
theorem rooted_localhost_accepted :
    Platform.newURL "https://Localhost./inbound" = some (URL.https "localhost." "/inbound") ∧
      percentDecode (hostOfHttps "https://Localhost./inbound").toList = rootedLocalhost.text ∧
      rootedLocalhost.SameAs localhost ∧ ¬ RejectedAsPrivate "https://Localhost./inbound" ∧
      ∃ target, TargetUrl.fromString "https://Localhost./inbound" = .ok target ∧
        target.value = "https://localhost./inbound" := by
  have hparsed : Platform.newURL "https://Localhost./inbound" = some (URL.https "localhost." "/inbound") := rfl
  have hhost : isPrivateOrReservedHost "localhost." = false := by decide
  have haccepted : URL.Accepted (URL.https "localhost." "/inbound") := ⟨rfl, rfl, rfl, hhost⟩
  refine ⟨hparsed, by decide, by decide, ?_, ⟨⟨"https://localhost./inbound", _, _, hparsed, haccepted, rfl⟩, ?_, rfl⟩⟩
  · rw [rejectedAsPrivate_iff hparsed (by decide) rfl rfl rfl]
    exact Bool.eq_false_iff.mp hhost
  · rw [TargetUrl.fromString_eq_ok_iff]
    exact ⟨by decide, _, hparsed, haccepted, rfl⟩

end Sample

end WebhookIdp.Subscription
