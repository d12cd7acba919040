import WebhookIdp.Base.DomainName
import WebhookIdp.Subscription.MaskedWriteBack

/-!
# What masking reveals

A masked host is the same, on the same draws, for all hostnames of one outline: those masked as a whole, and
those with as many pieces and the same first three characters of the last but one. For a DNS name these pieces are
its labels, unless it ends with the dot of the root: then an empty piece stands in the place of the top-level label.
-/

namespace WebhookIdp.Subscription

open Randomised

/-! ### Outlines -/

inductive SameOutline (hostname hostname' : String) : Prop where
  | whole (h : IsMaskedWhole hostname) (h' : IsMaskedWhole hostname')
  | byPieces (h : ¬ IsMaskedWhole hostname) (h' : ¬ IsMaskedWhole hostname')
      (length : (pieces hostname).length = (pieces hostname').length)
      (shown : (secondToLast hostname).take 3 = (secondToLast hostname').take 3)

/-- Two URLs that differ in nothing but the hostname, and there within one outline. -/
structure URL.SameButHidden (url url' : URL) : Prop where
  protocol : url.protocol = url'.protocol
  port : url.port = url'.port
  pathname : url.pathname = url'.pathname
  search : url.search = url'.search
  hash : url.hash = url'.hash
  hostname : SameOutline url.hostname url'.hostname

theorem URL.SameButHidden.withHost {url url' : URL} (h : URL.SameButHidden url url') (host : String) :
    url.withHost host = url'.withHost host := by
  unfold URL.withHost
  rw [h.protocol, h.port, h.pathname, h.search, h.hash]

/-! ### The host -/

theorem inLockstep_maskDomainLabel {label label' : List Char} (h : label.take 3 = label'.take 3) :
    InLockstep (· = ·) (maskDomainLabel label) (maskDomainLabel label') := by
  have hkept (l : List Char) : l.take (min 3 l.length) = l.take 3 := by
    rw [← List.take_eq_take_min]
  refine (inLockstep_refl (randomAsterisks 3 8)).bind fun stars stars' hstars => inLockstep_pure ?_
  rw [hkept, hkept, h, hstars]

theorem inLockstep_maskHostname {hostname hostname' : String} (h : SameOutline hostname hostname') :
    InLockstep (· = ·) (maskHostname hostname) (maskHostname hostname') := by
  cases h with
  | whole h h' =>
      rw [maskHostname_of_whole h, maskHostname_of_whole h']
      exact inLockstep_refl _
  | byPieces h h' hlength hshown =>
      rw [maskHostname_of_pieces h, maskHostname_of_pieces h']
      -- The mask of a subdomain does not depend on it, so only the number of them counts.
      have hsubdomains : List.Forall₂ (fun _ _ => True) ((pieces hostname).take ((pieces hostname).length - 2))
          ((pieces hostname').take ((pieces hostname').length - 2)) := by
        rw [List.forall₂_iff_zip, List.length_take, List.length_take, hlength]
        exact ⟨rfl, fun _ => trivial⟩
      refine (inLockstep_mapM hsubdomains fun _ _ _ => inLockstep_refl (randomAsterisks 4 12)).bind
        fun subdomains subdomains' hmasked => ?_
      rw [List.forall₂_eq_eq_eq] at hmasked
      refine (inLockstep_maskDomainLabel hshown).bind fun domain domain' hdomain => inLockstep_pure ?_
      rw [hmasked, hdomain]

section Responses

variable [Platform]

theorem inLockstep_maskTargetUrl {text text' : String} {url url' : URL} (hurl : Platform.newURL text = some url)
    (hurl' : Platform.newURL text' = some url') (h : URL.SameButHidden url url') :
    InLockstep (· = ·) (maskTargetUrl text) (maskTargetUrl text') := by
  unfold maskTargetUrl
  rw [hurl, hurl']
  refine (inLockstep_maskHostname h.hostname).bind fun host host' hhost => inLockstep_pure ?_
  rw [hhost, h.withHost]

/-! ### Responses -/

/-- Two subscriptions whose target URLs are the same but for what masking hides; nothing is said of the rest. -/
def SubscriptionResponseDto.SameButHidden (item item' : SubscriptionResponseDto) : Prop :=
  ∃ url url', Platform.newURL item.TargetUrl = some url ∧ Platform.newURL item'.TargetUrl = some url' ∧
    URL.SameButHidden url url'

/-- Two responses with such target URLs, item by item. -/
inductive ResponseDto.SameButHidden : ResponseDto → ResponseDto → Prop where
  | subscription {item item' : SubscriptionResponseDto} (h : item.SameButHidden item') :
      SameButHidden (.subscription item) (.subscription item')
  | page {data data' : PaginatedSubscriptionsResponseDto}
      (h : List.Forall₂ SubscriptionResponseDto.SameButHidden data.Items data'.Items) :
      SameButHidden (.page data) (.page data')

def ResponseDto.targetUrls : ResponseDto → List String
  | .subscription item => [item.TargetUrl]
  | .page data => data.Items.map SubscriptionResponseDto.TargetUrl

/-- The first subscription with the target URL of the second is the second. -/
def SubscriptionResponseDto.SameButTargetUrl (item masked : SubscriptionResponseDto) : Prop :=
  masked = { item with TargetUrl := masked.TargetUrl }

/-- A response of the same kind, with nothing replaced but the target URL of each item. -/
inductive ResponseDto.SameButTargetUrl : ResponseDto → ResponseDto → Prop where
  | subscription {item masked : SubscriptionResponseDto} (h : item.SameButTargetUrl masked) :
      SameButTargetUrl (.subscription item) (.subscription masked)
  | page {data : PaginatedSubscriptionsResponseDto} {Items : List SubscriptionResponseDto}
      (h : List.Forall₂ SubscriptionResponseDto.SameButTargetUrl data.Items Items) :
      SameButTargetUrl (.page data) (.page { data with Items })

theorem always_maskSubscription (item : SubscriptionResponseDto) :
    Always item.SameButTargetUrl (maskSubscription item) :=
  fun _ => rfl

theorem always_maskResponse (response : ResponseDto) : Always response.SameButTargetUrl (maskResponse response) := by
  cases response with
  | subscription item => exact (always_maskSubscription item).bind fun _ h => always_pure (.subscription h)
  | page data =>
      exact (always_mapM_forall₂ fun item _ => always_maskSubscription item).bind fun _ h => always_pure (.page h)

theorem inLockstep_maskSubscription {item item' : SubscriptionResponseDto} (h : item.SameButHidden item') :
    InLockstep (fun masked masked' => masked.TargetUrl = masked'.TargetUrl) (maskSubscription item)
      (maskSubscription item') := by
  obtain ⟨url, url', hurl, hurl', hsame⟩ := h
  exact (inLockstep_maskTargetUrl hurl hurl' hsame).bind fun _ _ htext => inLockstep_pure htext

theorem inLockstep_maskResponse {response response' : ResponseDto} (h : response.SameButHidden response') :
    InLockstep (fun masked masked' => masked.targetUrls = masked'.targetUrls) (maskResponse response)
      (maskResponse response') := by
  cases h with
  | subscription h =>
      refine (inLockstep_maskSubscription h).bind fun _ _ htext => inLockstep_pure ?_
      exact congrArg (fun text => [text]) htext
  | page h =>
      refine (inLockstep_mapM h fun _ _ => inLockstep_maskSubscription).bind fun items items' hitems => inLockstep_pure ?_
      show items.map SubscriptionResponseDto.TargetUrl = items'.map SubscriptionResponseDto.TargetUrl
      rwa [← List.forall₂_eq_eq_eq, List.forall₂_map_left_iff, List.forall₂_map_right_iff]

/-- The draws decide what the target URLs of a response become, with nothing of what masking is to hide, and how
many of them are taken; nothing else of the response changes. -/
theorem intercept_reveals_nothing_hidden {response response' : ResponseDto} (h : response.SameButHidden response')
    (draws : Nat → Draw) :
    ∃ masked masked' rest, TargetUrlMaskingInterceptor.intercept (.ok response) draws = (.ok masked, rest) ∧
      TargetUrlMaskingInterceptor.intercept (.ok response') draws = (.ok masked', rest) ∧
      masked.targetUrls = masked'.targetUrls ∧ response.SameButTargetUrl masked ∧
      response'.SameButTargetUrl masked' := by
  obtain ⟨htargetUrls, hrest⟩ := inLockstep_maskResponse h draws
  refine ⟨(maskResponse response draws).1, (maskResponse response' draws).1, (maskResponse response draws).2, rfl, ?_,
    htargetUrls, always_maskResponse response draws, always_maskResponse response' draws⟩
  rw [hrest]
  rfl

end Responses

section Sample

attribute [local instance] httpsPlatform

def sampleItem (TargetUrl : String) : SubscriptionResponseDto where
  Id := "018f5b3e-9c1a-7c3e-8f3a-6b6b6b6b6b6b"
  TargetUrl := TargetUrl
  EventTypes := ["order.created"]
  Status := "ACTIVE"
  CreatedAt := "1970-01-01T00:00:00.000Z"
  UpdatedAt := "1970-01-01T00:00:00.000Z"

def samplePage (targetUrls : List String) : ResponseDto :=
  .page { Items := targetUrls.map sampleItem, Page := 1, PageSize := 20, Total := targetUrls.length }

theorem samplePage_sameButHidden : ResponseDto.SameButHidden
    (samplePage ["https://client.example.com/inbound", "https://203.0.113.9/inbound"])
    (samplePage ["https://eu-west.exahost.org/inbound", "https://198.51.100.77/inbound"]) := by
  refine .page (.cons ⟨URL.https "client.example.com" "/inbound", URL.https "eu-west.exahost.org" "/inbound", rfl, rfl,
    rfl, rfl, rfl, rfl, rfl, ?_⟩ (.cons ⟨URL.https "203.0.113.9" "/inbound", URL.https "198.51.100.77" "/inbound", rfl,
    rfl, rfl, rfl, rfl, rfl, rfl, ?_⟩ .nil))
  · exact .byPieces (by unfold IsMaskedWhole; decide +kernel) (by unfold IsMaskedWhole; decide +kernel)
      (by decide +kernel) (by decide +kernel)
  · exact .whole (Or.inr rfl) (Or.inr rfl)

theorem intercept_reveals_nothing_hidden_sample :
    ∃ masked masked' rest,
      TargetUrlMaskingInterceptor.intercept
        (.ok (samplePage ["https://client.example.com/inbound", "https://203.0.113.9/inbound"])) lowestDraws =
          (.ok masked, rest) ∧
      TargetUrlMaskingInterceptor.intercept
        (.ok (samplePage ["https://eu-west.exahost.org/inbound", "https://198.51.100.77/inbound"])) lowestDraws =
          (.ok masked', rest) ∧
      masked.targetUrls = masked'.targetUrls ∧
      (samplePage ["https://client.example.com/inbound", "https://203.0.113.9/inbound"]).SameButTargetUrl masked ∧
      (samplePage ["https://eu-west.exahost.org/inbound", "https://198.51.100.77/inbound"]).SameButTargetUrl masked' :=
  intercept_reveals_nothing_hidden samplePage_sameButHidden lowestDraws

end Sample

/-! ### The labels of a name -/

/-- What may be seen of the host of a name: asterisks for its subdomains, at most the first three characters of the
label before the top-level one, and `**` for the top-level label. -/
structure Hides (name : DomainName) (shown : List (List Char)) : Prop where
  subdomains : ∀ i piece, i + 2 < name.labels.length → shown[i]? = some piece → ∀ c ∈ piece, c = '*'
  domain : ∃ label kept count, name.labels[name.labels.length - 2]? = some label ∧ kept <+: label ∧ kept.length ≤ 3 ∧
    shown[name.labels.length - 2]? = some (kept ++ List.replicate count '*')
  topLevel : shown[name.labels.length - 1]? = some "**".toList
  rest : ∀ i piece, name.labels.length ≤ i → shown[i]? = some piece → piece = []

/-- The text is that of the URL with a host that hides the labels. -/
def URL.Hides (url : URL) (name : DomainName) (text : String) : Prop :=
  ∃ host, text = url.withHost host ∧ Subscription.Hides name (pieces host)

theorem URL.withHost_injective (url : URL) : Function.Injective url.withHost := by
  intro host host' h
  have htext := congrArg String.toList h
  simp only [URL.withHost, String.toList_append, List.append_assoc, List.append_cancel_left_eq] at htext
  rw [← String.toList_inj]
  exact List.append_cancel_right htext

theorem pieces_of_isMaskWith {hostname host : String} {subdomains : List (List Char)} {count : Nat}
    (h : IsMaskWith hostname subdomains count host) (hpieces : 2 ≤ (pieces hostname).length) :
    pieces host = subdomains ++ [(secondToLast hostname).take 3 ++ List.replicate count '*', "**".toList] := by
  rw [h.host, pieces, String.toList_ofList]
  apply List.splitOn_intercalate
  · intro piece hpiece hdot
    simp only [List.mem_append, List.mem_cons, List.not_mem_nil, or_false] at hpiece
    obtain hsubdomain | rfl | rfl := hpiece
    · exact absurd (h.hidden piece hsubdomain '.' hdot) (by decide)
    · obtain hkept | hstar := List.mem_append.mp hdot
      · exact Text.separator_notMem_of_mem_splitOn (secondToLast_mem hpieces) (List.mem_of_mem_take hkept)
      · exact absurd (List.eq_of_mem_replicate hstar) (by decide)
    · exact absurd hdot (by decide)
  · simp

section Names

variable {name : DomainName} {hostname : String}

theorem pieces_of_name (hname : hostname.toList = name.text) : pieces hostname = name.labels ++ name.root := by
  rw [pieces, hname, name.splitOn_text]

/-- With the dot of the root the top-level label stands where the domain is looked for. -/
theorem secondToLast_of_name (hname : hostname.toList = name.text) (hlabels : 2 ≤ name.labels.length) :
    name.labels[name.labels.length - (if name.rooted then 1 else 2)]? = some (secondToLast hostname) := by
  have hindex : (pieces hostname).length - 2 = name.labels.length - (if name.rooted then 1 else 2) := by
    rw [pieces_of_name hname, DomainName.root]
    cases name.rooted with
    | true => simp
    | false => simp
  have hlt : name.labels.length - (if name.rooted then 1 else 2) < name.labels.length := by
    split <;> omega
  rw [secondToLast, hindex, pieces_of_name hname, List.getD_append _ _ _ _ hlt, List.getD_eq_getElem _ _ hlt]
  exact List.getElem?_eq_getElem hlt

theorem hides_of_not_rooted {host : String} {subdomains : List (List Char)} {count : Nat}
    (hname : hostname.toList = name.text) (hlabels : 2 ≤ name.labels.length) (hrooted : name.rooted = false)
    (h : IsMaskWith hostname subdomains count host) : Hides name (pieces host) := by
  have hpieces : pieces hostname = name.labels := by
    rw [pieces_of_name hname, DomainName.root, hrooted]
    simp
  have hlength : subdomains.length = name.labels.length - 2 := by
    rw [h.length, hpieces]
  have hdomain := secondToLast_of_name hname hlabels
  rw [hrooted, if_neg Bool.false_ne_true] at hdomain
  rw [pieces_of_isMaskWith h (by rw [hpieces]; exact hlabels)]
  refine ⟨fun i piece hi hpiece => ?_, ⟨secondToLast hostname, _, count, hdomain, List.take_prefix 3 _,
    List.length_take_le 3 _, ?_⟩, ?_, fun i piece hi hpiece => ?_⟩
  · rw [List.getElem?_append_left (by omega)] at hpiece
    exact h.hidden piece (List.mem_of_getElem? hpiece)
  · rw [← hlength, List.getElem?_append_right le_rfl, Nat.sub_self]
    rfl
  · rw [List.getElem?_append_right (by omega), hlength, show name.labels.length - 1 - (name.labels.length - 2) = 1 by omega]
    rfl
  · rw [List.getElem?_eq_none (by simp; omega)] at hpiece
    cases hpiece

theorem not_hides_of_rooted {host : String} {subdomains : List (List Char)} {count : Nat}
    (hname : hostname.toList = name.text) (hlabels : 2 ≤ name.labels.length) (hrooted : name.rooted = true)
    (h : IsMaskWith hostname subdomains count host) : ¬ Hides name (pieces host) := by
  intro hhides
  have hpieces : (pieces hostname).length = name.labels.length + 1 := by
    rw [pieces_of_name hname, DomainName.root, hrooted]
    simp
  have hlength : subdomains.length = name.labels.length - 1 := by
    rw [h.length, hpieces]
    omega
  -- The place of the top-level label shows the start of that label.
  have hshown : (secondToLast hostname).take 3 ++ List.replicate count '*' = "**".toList := by
    have htop := hhides.topLevel
    rw [pieces_of_isMaskWith h (by omega), ← hlength, List.getElem?_append_right le_rfl, Nat.sub_self] at htop
    exact Option.some.inj htop
  have hcount := congrArg List.length hshown
  have hthree := h.three_le
  simp only [List.length_append, List.length_replicate] at hcount
  have htwo : "**".toList.length = 2 := rfl
  omega

/-- The labels of a name are hidden exactly when it does not end with the dot of the root. -/
theorem hides_iff {host : String} {subdomains : List (List Char)} {count : Nat} (hname : hostname.toList = name.text)
    (hlabels : 2 ≤ name.labels.length) (h : IsMaskWith hostname subdomains count host) :
    Hides name (pieces host) ↔ name.rooted = false := by
  refine ⟨fun hhides => ?_, fun hrooted => hides_of_not_rooted hname hlabels hrooted h⟩
  rw [Bool.eq_false_iff]
  exact fun hrooted => not_hides_of_rooted hname hlabels hrooted h hhides

end Names

section TargetUrls

variable [Platform]

/-- The mask of an accepted URL under a name of two labels or more hides what it is to hide exactly when the name
does not end with the dot of the root. -/
theorem maskTargetUrl_hides_iff (hreparses : URL.ReparsesSerialised) {value : String} {target : TargetUrl} {url : URL}
    {name : DomainName} (haccepted : TargetUrl.fromString value = .ok target)
    (hparsed : Platform.newURL value = some url) (hname : url.hostname.toList = name.text)
    (hlabels : 2 ≤ name.labels.length) (hliteral : isIPv4 url.hostname.toList = false) (draws : Nat → Draw) :
    URL.Hides url name (maskTargetUrl target.value draws).1 ↔ name.rooted = false := by
  have hstored : Platform.newURL target.value = some url := by
    obtain ⟨-, parsed, hparse, -, hvalue⟩ := TargetUrl.fromString_eq_ok_iff.mp haccepted
    rw [hparsed] at hparse
    cases hparse
    rw [hvalue]
    exact hreparses value url hparsed
  have hpieces : ¬ IsMaskedWhole url.hostname := by
    rw [IsMaskedWhole, pieces_of_name hname, hliteral, List.length_append]
    simp only [Bool.false_eq_true, or_false]
    omega
  have htext : (maskTargetUrl target.value draws).1 = url.withHost (maskHostname url.hostname draws).1 := by
    unfold maskTargetUrl
    rw [hstored]
    rfl
  obtain ⟨subdomains, count, hmask⟩ := always_maskHostname_of_pieces hpieces draws
  rw [htext, ← hides_iff hname hlabels hmask]
  constructor
  · intro ⟨host, hhost, hhides⟩
    rwa [URL.withHost_injective url hhost]
  · intro hhides
    exact ⟨_, rfl, hhides⟩

end TargetUrls

section Sample

attribute [local instance] httpsPlatform

def clientName (rooted : Bool) : DomainName where
  labels := ["client".toList, "example".toList, "com".toList]
  rooted := rooted
  labels_ne_nil := by decide
  label_ne_nil := by decide
  plain := by decide

def clientUrl (rooted : Bool) : URL := URL.https (String.ofList (clientName rooted).text) "/inbound"

theorem newURL_client (rooted : Bool) : Platform.newURL (clientUrl rooted).href = some (clientUrl rooted) := by
  cases rooted <;> decide

theorem client_accepted (rooted : Bool) : URL.Accepted (clientUrl rooted) := by
  refine ⟨rfl, rfl, rfl, ?_⟩
  cases rooted <;> decide

def clientTarget (rooted : Bool) : TargetUrl where
  value := (clientUrl rooted).href
  canonical := ⟨(clientUrl rooted).href, clientUrl rooted, newURL_client rooted, client_accepted rooted, rfl⟩

theorem fromString_client (rooted : Bool) :
    TargetUrl.fromString (clientUrl rooted).href = .ok (clientTarget rooted) := by
  apply TargetUrl.fromString_value httpsPlatform_reparsesSerialised (clientTarget rooted)
  cases rooted <;> decide

theorem maskTargetUrl_hides_iff_sample :
    URL.Hides (clientUrl false) (clientName false) (maskTargetUrl (clientTarget false).value lowestDraws).1 ↔
      (clientName false).rooted = false :=
  maskTargetUrl_hides_iff httpsPlatform_reparsesSerialised (fromString_client false) (newURL_client false) rfl
    (by decide) (by decide) lowestDraws

/-- With the dot of the root the mask shows the top-level label. -/
theorem top_level_label_shown :
    (clientTarget true).value = "https://client.example.com./inbound" ∧
      TargetUrl.fromString "https://client.example.com./inbound" = .ok (clientTarget true) ∧
      (maskTargetUrl (clientTarget true).value lowestDraws).1 = "https://****.****.com***.**/inbound" ∧
      ¬ URL.Hides (clientUrl true) (clientName true) (maskTargetUrl (clientTarget true).value lowestDraws).1 := by
  have hvalue : (clientTarget true).value = "https://client.example.com./inbound" := by decide
  have hmasked : (maskTargetUrl (clientTarget true).value lowestDraws).1 = "https://****.****.com***.**/inbound" := by
    decide +kernel
  refine ⟨hvalue, ?_, hmasked, ?_⟩
  · rw [← hvalue]
    exact fromString_client true
  · intro ⟨host, hhost, hhides⟩
    have hwith : "https://****.****.com***.**/inbound" = (clientUrl true).withHost "****.****.com***.**" := by decide
    rw [hmasked, hwith] at hhost
    rw [← URL.withHost_injective _ hhost] at hhides
    exact absurd hhides.topLevel (by decide)

end Sample

end WebhookIdp.Subscription
