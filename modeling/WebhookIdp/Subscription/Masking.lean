import Mathlib.Data.List.Forall2
import Mathlib.Data.List.GetD
import WebhookIdp.Base.Randomised
import WebhookIdp.Subscription.Boundary

/-!
# Masking of target URLs

What `TargetUrlMaskingInterceptor` makes of the responses: the labels of the host become asterisks, in numbers
that are drawn anew for each response, but for the start of the last but one. The guard and, where `*` is a
character of a host name, the URL parser take the masked host of a DNS name for a host like any other.
-/

namespace WebhookIdp.Subscription

open Randomised

/-! ### The interceptor -/

def randomAsterisks (min max : Nat) : Drawing (List Char) := do
  let draw ← draw
  let count := min + (draw.value * ((max - min + 1 : Nat) : Rat)).floor.toNat
  return List.replicate count '*'

def maskDomainLabel (label : List Char) : Drawing (List Char) := do
  return label.take (min 3 label.length) ++ (← randomAsterisks 3 8)

def maskHostname (hostname : String) : Drawing String := do
  let labels := hostname.toList.splitOn '.'
  if labels.length = 1 ∨ isIPv4 hostname.toList = true then
    return String.ofList (← randomAsterisks 6 14)
  else
    let domain := labels.getD (labels.length - 2) []
    let subdomains := labels.take (labels.length - 2)
    let maskedSubdomains ← subdomains.mapM fun _ => randomAsterisks 4 12
    let maskedDomain ← maskDomainLabel domain
    return String.ofList (List.intercalate ['.'] (maskedSubdomains ++ [maskedDomain, "**".toList]))

structure PaginatedSubscriptionsResponseDto where
  Items : List SubscriptionResponseDto
  Page : Nat
  PageSize : Nat
  Total : Nat

inductive ResponseDto where
  | subscription (dto : SubscriptionResponseDto)
  | page (dto : PaginatedSubscriptionsResponseDto)

section Interceptor

variable [Platform]

def maskTargetUrl (targetUrl : String) : Drawing String :=
  match Platform.newURL targetUrl with
  | none => return targetUrl
  | some parsed => do
      let maskedHost ← maskHostname parsed.hostname
      return parsed.withHost maskedHost

def maskSubscription (subscription : SubscriptionResponseDto) : Drawing SubscriptionResponseDto := do
  return { subscription with TargetUrl := ← maskTargetUrl subscription.TargetUrl }

def maskResponse : ResponseDto → Drawing ResponseDto
  | .page data => do
      let Items ← data.Items.mapM maskSubscription
      return .page { data with Items }
  | .subscription data => do return .subscription (← maskSubscription data)

/-- The interceptor leaves what is thrown alone. -/
def TargetUrlMaskingInterceptor.intercept : Except Exception ResponseDto → Drawing (Except Exception ResponseDto)
  | .error exception => return .error exception
  | .ok data => do return .ok (← maskResponse data)

end Interceptor

/-! ### Masking piece by piece -/

/-- The pieces of a hostname between its dots. -/
def pieces (hostname : String) : List (List Char) := hostname.toList.splitOn '.'

/-- The piece of which the mask shows the start. -/
def secondToLast (hostname : String) : List Char := (pieces hostname).getD ((pieces hostname).length - 2) []

/-- An IPv4 literal or a hostname in one piece. -/
def IsMaskedWhole (hostname : String) : Prop := (pieces hostname).length = 1 ∨ isIPv4 hostname.toList = true

theorem maskHostname_of_whole {hostname : String} (h : IsMaskedWhole hostname) :
    maskHostname hostname = do return String.ofList (← randomAsterisks 6 14) :=
  if_pos h

theorem maskHostname_of_pieces {hostname : String} (h : ¬ IsMaskedWhole hostname) :
    maskHostname hostname = do
      let maskedSubdomains ← ((pieces hostname).take ((pieces hostname).length - 2)).mapM fun _ => randomAsterisks 4 12
      let maskedDomain ← maskDomainLabel (secondToLast hostname)
      return String.ofList (List.intercalate ['.'] (maskedSubdomains ++ [maskedDomain, "**".toList])) :=
  if_neg h

theorem always_randomAsterisks (min max : Nat) :
    Always (fun stars => ∃ count, min ≤ count ∧ stars = List.replicate count '*') (randomAsterisks min max) :=
  fun _ => ⟨_, Nat.le_add_right _ _, rfl⟩

theorem always_maskDomainLabel (label : List Char) :
    Always (fun masked => ∃ count, 3 ≤ count ∧ masked = label.take 3 ++ List.replicate count '*')
      (maskDomainLabel label) := by
  refine (always_randomAsterisks 3 8).bind fun stars hstars => always_pure ?_
  obtain ⟨count, hcount, rfl⟩ := hstars
  exact ⟨count, hcount, by rw [← List.take_eq_take_min]⟩

/-- `host` is the mask of `hostname` with these subdomains and that many asterisks after the start of the domain. -/
structure IsMaskWith (hostname : String) (subdomains : List (List Char)) (count : Nat) (host : String) : Prop where
  host : host = String.ofList (List.intercalate ['.']
    (subdomains ++ [(secondToLast hostname).take 3 ++ List.replicate count '*', "**".toList]))
  length : subdomains.length = (pieces hostname).length - 2
  hidden : ∀ piece ∈ subdomains, ∀ c ∈ piece, c = '*'
  three_le : 3 ≤ count

theorem always_maskHostname_of_pieces {hostname : String} (h : ¬ IsMaskedWhole hostname) :
    Always (fun host => ∃ subdomains count, IsMaskWith hostname subdomains count host) (maskHostname hostname) := by
  have hstars (piece : List Char) : Always (fun stars => ∀ c ∈ stars, c = '*') (randomAsterisks 4 12) :=
    fun _ _ => List.eq_of_mem_replicate
  rw [maskHostname_of_pieces h]
  refine (always_mapM_forall₂ fun piece _ => hstars piece).bind fun subdomains hsubdomains => ?_
  refine (always_maskDomainLabel _).bind fun domain hdomain => always_pure ?_
  obtain ⟨count, hcount, rfl⟩ := hdomain
  refine ⟨subdomains, count, rfl, ?_, forall_mem_of_forall₂ hsubdomains, hcount⟩
  rw [← hsubdomains.length_eq, List.length_take]
  omega

/-! ### Masked hosts -/

/-- A host with at least two labels that is no IP literal. -/
structure IsDnsName (hostname : String) : Prop where
  labels : 2 ≤ (hostname.toList.splitOn '.').length
  not_ipv4 : isIPv4 hostname.toList = false
  not_ipv6 : ':' ∉ hostname.toList

/-- The labels have no characters but asterisks and those of `original`, no label is Punycode, and the last one is
`**`. -/
def IsMaskOf (original host : String) : Prop :=
  ∃ labels : List (List Char), host = String.ofList (List.intercalate ['.'] (labels ++ ["**".toList])) ∧
    ∀ label ∈ labels, ¬ "xn--".toList <+: label ∧ ∀ c ∈ label, c = '*' ∨ c ∈ original.toList ∧ c ≠ '.'

theorem mem_of_isMaskOf {original host : String} (h : IsMaskOf original host) {c : Char} (hc : c ∈ host.toList) :
    c = '*' ∨ c = '.' ∨ c ∈ original.toList := by
  obtain ⟨labels, rfl, hlabels⟩ := h
  rw [String.toList_ofList] at hc
  obtain hdot | ⟨label, hlabel, hmem⟩ := Text.mem_intercalate hc
  · exact Or.inr (Or.inl hdot)
  obtain hlabel | hlabel := List.mem_append.mp hlabel
  · exact ((hlabels label hlabel).2 c hmem).imp_right fun horiginal => Or.inr horiginal.1
  · rw [List.mem_singleton] at hlabel
    rw [hlabel] at hmem
    exact Or.inl (List.eq_of_mem_replicate (n := 2) hmem)

/-- A label that keeps at most three characters is not taken for Punycode. -/
theorem not_punycode_of_short {front : List Char} (h : front.length ≤ 3) (count : Nat) :
    ¬ "xn--".toList <+: front ++ List.replicate count '*' := by
  rintro ⟨rest, hrest⟩
  have hfourth : (front ++ List.replicate count '*')[3]? = some '-' := by
    rw [← hrest]
    rfl
  rw [List.getElem?_append_right h, List.getElem?_replicate] at hfourth
  split at hfourth <;> cases hfourth

theorem IsDnsName.not_whole {hostname : String} (h : IsDnsName hostname) : ¬ IsMaskedWhole hostname := by
  have hlabels := h.labels
  rintro (hone | hIPv4)
  · rw [pieces] at hone
    omega
  · rw [h.not_ipv4] at hIPv4
    cases hIPv4

theorem secondToLast_mem {hostname : String} (h : 2 ≤ (pieces hostname).length) :
    secondToLast hostname ∈ pieces hostname := by
  rw [secondToLast, List.getD_eq_getElem _ _ (by omega)]
  exact List.getElem_mem _

theorem always_maskHostname {hostname : String} (h : IsDnsName hostname) :
    Always (IsMaskOf hostname) (maskHostname hostname) := by
  intro draws
  obtain ⟨subdomains, count, hmask⟩ := always_maskHostname_of_pieces h.not_whole draws
  refine ⟨subdomains ++ [(secondToLast hostname).take 3 ++ List.replicate count '*'], ?_, fun label hlabel => ?_⟩
  · rw [List.append_assoc]
    exact hmask.host
  obtain hsubdomain | hdomain := List.mem_append.mp hlabel
  · have hstars : label = [] ++ List.replicate label.length '*' := List.eq_replicate_of_mem (hmask.hidden label hsubdomain)
    refine ⟨?_, fun c hc => Or.inl (hmask.hidden label hsubdomain c hc)⟩
    rw [hstars]
    exact not_punycode_of_short (by simp) _
  · rw [List.mem_singleton] at hdomain
    subst hdomain
    refine ⟨not_punycode_of_short (List.length_take_le 3 _) count, fun c hc => ?_⟩
    obtain hkept | hstar := List.mem_append.mp hc
    · have hpiece := secondToLast_mem h.labels
      have hmem : c ∈ secondToLast hostname := List.mem_of_mem_take hkept
      refine Or.inr ⟨Text.mem_of_mem_splitOn hpiece hmem, ?_⟩
      rintro rfl
      exact Text.separator_notMem_of_mem_splitOn hpiece hmem
    · exact Or.inl (List.eq_of_mem_replicate hstar)

/-! ### The guard on masked hosts -/

theorem eq_colon_of_toLower {c : Char} (h : c.toLower = ':') : c = ':' := by
  unfold Char.toLower at h
  split at h
  · have hval : c.val + ('a'.val - 'A'.val) = ':'.val := congrArg Char.val h
    grind
  · exact h

theorem digit_or_dot_of_isIPv4 {host : List Char} {c : Char} (h : isIPv4 host = true) (hc : c ∈ host) :
    c = '.' ∨ c.isDigit = true := by
  have hjoin : List.intercalate ['.'] (host.splitOn '.') = host := List.intercalate_splitOn '.'
  rw [isIPv4] at h
  split at h
  · rename_i octets heq
    rw [← hjoin, heq] at hc
    refine (Text.mem_intercalate hc).imp_right fun ⟨octet, hoctet, hmem⟩ => ?_
    have hdigits := List.all_eq_true.mp h octet hoctet
    rw [Bool.and_eq_true] at hdigits
    exact List.all_eq_true.mp hdigits.1 c hmem
  · cases h

theorem stars_suffix_of_isMaskOf {original host : String} (h : IsMaskOf original host) :
    "**".toList <:+ host.toList.map Char.toLower := by
  obtain ⟨labels, hhost, -⟩ := h
  have htext : host.toList = List.intercalate ['.'] (labels ++ ["**".toList]) := by
    rw [hhost]
    exact String.toList_ofList
  have hlower : "**".toList.map Char.toLower = "**".toList := by decide
  rw [htext, ← hlower]
  apply List.IsSuffix.map
  exact Text.suffix_intercalate_concat labels _

theorem colon_notMem_of_isMaskOf {original host : String} (hcolon : ':' ∉ original.toList)
    (h : IsMaskOf original host) : ':' ∉ host.toList.map Char.toLower := by
  intro hmem
  obtain ⟨c, hc, hlower⟩ := List.mem_map.mp hmem
  rw [eq_colon_of_toLower hlower] at hc
  obtain hstar | hdot | horiginal := mem_of_isMaskOf h hc
  · cases hstar
  · cases hdot
  · exact hcolon horiginal

/-- The guard takes a masked host for a public one. -/
theorem isPrivateOrReservedHost_of_isMaskOf {original host : String} (hcolon : ':' ∉ original.toList)
    (h : IsMaskOf original host) : isPrivateOrReservedHost host = false := by
  have hsuffix := stars_suffix_of_isMaskOf h
  have hnoColon := colon_notMem_of_isMaskOf hcolon h
  rw [isPrivateOrReservedHost]
  generalize host.toList.map Char.toLower = text at hsuffix hnoColon
  have hstar : '*' ∈ text := hsuffix.subset (by decide)
  have hlocalhost : (text == "localhost".toList) = false := by
    rw [beq_eq_false_iff_ne]
    intro heq
    rw [heq] at hstar
    revert hstar
    decide
  have hbracket : "]".toList.isSuffixOf text = false := by
    rw [Bool.eq_false_iff, Ne, List.isSuffixOf_iff_suffix]
    intro hends
    have hinside := List.suffix_of_suffix_length_le hends hsuffix (by decide)
    revert hinside
    decide
  have hIPv4 : isIPv4 text = false := by
    rw [Bool.eq_false_iff]
    intro hIPv4
    obtain hdot | hdigit := digit_or_dot_of_isIPv4 hIPv4 hstar
    · cases hdot
    · cases hdigit
  simp only [hlocalhost, hbracket, hIPv4, Bool.and_false, Bool.false_eq_true, if_false]
  rw [if_neg (by simpa using hnoColon)]

end WebhookIdp.Subscription
