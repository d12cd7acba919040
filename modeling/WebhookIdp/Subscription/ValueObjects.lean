import WebhookIdp.Base.Text
import WebhookIdp.Platform
import Mathlib.Data.List.Basic

/-!
# Value objects of a subscription

Each class of the source with a private constructor is a structure that carries what its factory
checked, so a value of the type is one that some factory accepted. The factories return the domain
error they throw.
-/

namespace WebhookIdp.Subscription

inductive TargetUrlErrorCode where
  | URL_TOO_LONG
  | INVALID_URL_FORMAT
  | HTTPS_REQUIRED
  | CREDENTIALS_NOT_ALLOWED
  | PRIVATE_HOST_NOT_ALLOWED
  deriving DecidableEq, Repr

inductive DomainError where
  | invalidTargetUrl (code : TargetUrlErrorCode) (message : String)
  | invalidEventType (message : String)
  | invalidStatusTransition (message : String)
  | invalidIdentifier (message : String)
  deriving DecidableEq, Repr

/-! ### Identifiers and event types -/

abbrev TenantId := Text.NonBlank

def TenantId.fromString (value : String) : Except DomainError TenantId :=
  Text.NonBlank.fromString (.invalidIdentifier "TenantId must not be empty") value

abbrev ClientId := Text.NonBlank

def ClientId.fromString (value : String) : Except DomainError ClientId :=
  Text.NonBlank.fromString (.invalidIdentifier "ClientId must not be empty") value

abbrev UserId := Text.NonBlank

def UserId.fromString (value : String) : Except DomainError UserId :=
  Text.NonBlank.fromString (.invalidIdentifier "UserId must not be empty") value

abbrev EventType := Text.NonBlank

def EventType.fromString (value : String) : Except DomainError EventType :=
  Text.NonBlank.fromString (.invalidEventType "EventType must not be empty") value

variable [Platform]

structure SubscriptionId where
  value : String
  valid : Platform.validateUuid value = true
  deriving DecidableEq

theorem SubscriptionId.value_injective : Function.Injective SubscriptionId.value := by
  intro a b h
  obtain ⟨_, _⟩ := a
  obtain ⟨_, _⟩ := b
  subst h
  rfl

def SubscriptionId.fromString (value : String) : Except DomainError SubscriptionId :=
  if h : Platform.validateUuid value = true then .ok ⟨value, h⟩
  else .error (.invalidIdentifier s!"SubscriptionId must be a valid UUID, got \"{value}\"")

theorem SubscriptionId.fromString_eq_ok_iff {value : String} {id : SubscriptionId} :
    SubscriptionId.fromString value = .ok id ↔ id.value = value := by
  rw [SubscriptionId.fromString]
  refine ⟨fun h => ?_, fun h => ?_⟩
  · split at h
    · cases h
      rfl
    · cases h
  · subst h
    rw [dif_pos id.valid]

@[simp] theorem SubscriptionId.fromString_value (id : SubscriptionId) :
    SubscriptionId.fromString id.value = .ok id :=
  SubscriptionId.fromString_eq_ok_iff.mpr rfl

/-! ### Private and reserved hosts

The tests on the text of a hostname, read as the list of its characters. -/

/-- `Number` of a piece of a dotted address: nothing stands for `NaN`. -/
def toNumber (text : List Char) : Option Nat :=
  if text.all Char.isDigit then some (text.foldl (fun n c => 10 * n + (c.toNat - '0'.toNat)) 0) else none

/-- `/^\d{1,3}\.\d{1,3}\.\d{1,3}\.\d{1,3}$/` -/
def isIPv4 (host : List Char) : Bool :=
  match host.splitOn '.' with
  | [a, b, c, d] => [a, b, c, d].all fun octet =>
      octet.all Char.isDigit && (1 ≤ octet.length && octet.length ≤ 3)
  | _ => false

def isPrivateIPv4 (host : List Char) : Bool :=
  let octets := (host.splitOn '.').map toNumber
  if octets.any fun n => n.elim true fun n => 255 < n then true -- malformed, reject closed
  else
    match octets with
    | some a :: rest =>
        let b := rest.head?.join
        a == 0 -- unspecified
          || a == 10 || a == 127 -- private, loopback
          || (a == 169 && b == some 254) -- link-local
          || (a == 172 && b.any fun b => 16 ≤ b && b ≤ 31)
          || (a == 192 && b == some 168)
    | _ => false

def isHexDigit (c : Char) : Bool := c.isDigit || ('a' ≤ c && c ≤ 'f')

/-- `parseInt(text, 16)` of lower-case hexadecimal digits. -/
def parseHex (text : List Char) : Nat :=
  text.foldl (fun n c => 16 * n + (if c.isDigit then c.toNat - '0'.toNat else c.toNat - 'a'.toNat + 10)) 0

def isHexGroup (text : List Char) : Bool :=
  text.all isHexDigit && (1 ≤ text.length && text.length ≤ 4)

/-- The dotted decimal text of the four octets of two 16-bit groups. -/
def dottedOctets (hi lo : Nat) : List Char :=
  List.intercalate ['.'] ([(hi >>> 8) &&& 0xff, hi &&& 0xff, (lo >>> 8) &&& 0xff, lo &&& 0xff].map (Nat.toDigits 10))

def isPrivateIPv6 (host : List Char) : Bool :=
  let normalized := host.map Char.toLower
  if normalized == "::1".toList || normalized == "::".toList then true -- loopback, unspecified
  else if "fe80:".toList.isPrefixOf normalized then true -- link-local
  else if "fc".toList.isPrefixOf normalized || "fd".toList.isPrefixOf normalized then true -- unique-local
  else if "::ffff:".toList.isPrefixOf normalized then
    let mapped := normalized.drop "::ffff:".length
    if isIPv4 mapped then isPrivateIPv4 mapped
    else
      match mapped.splitOn ':' with
      | [hi, lo] => if isHexGroup hi && isHexGroup lo then isPrivateIPv4 (dottedOctets (parseHex hi) (parseHex lo)) else false
      | _ => false
  else false

/-- The hostname of a parsed URL is ASCII, so lowering ASCII letters lowers it. -/
def isPrivateOrReservedHost (hostname : String) : Bool :=
  let host := hostname.toList.map Char.toLower
  if host == "localhost".toList then true
  else if "[".toList.isPrefixOf host && "]".toList.isSuffixOf host then
    isPrivateIPv6 ((host.drop 1).dropLast)
  else if isIPv4 host then isPrivateIPv4 host
  else if host.contains ':' then isPrivateIPv6 host
  else false

/-! ### Target URLs -/

def MAX_LENGTH : Nat := 2048

/-- What the checks after parsing let through. -/
def URL.Accepted (url : URL) : Prop :=
  url.protocol = "https:" ∧ url.username = "" ∧ url.password = "" ∧
    isPrivateOrReservedHost url.hostname = false

/-- The serialised form of an accepted URL. -/
structure TargetUrl where
  value : String
  canonical : ∃ raw url, Platform.newURL raw = some url ∧ URL.Accepted url ∧ url.href = value
  deriving DecidableEq

theorem TargetUrl.value_injective : Function.Injective TargetUrl.value := by
  intro a b h
  obtain ⟨a, _⟩ := a
  obtain ⟨b, _⟩ := b
  cases h
  rfl

def TargetUrl.fromString (value : String) : Except DomainError TargetUrl :=
  if MAX_LENGTH < Text.length value then
    .error (.invalidTargetUrl .URL_TOO_LONG s!"targetUrl must be at most {MAX_LENGTH} characters")
  else
    match hparsed : Platform.newURL value with
    | none => .error (.invalidTargetUrl .INVALID_URL_FORMAT "targetUrl must be an absolute URL")
    | some parsed =>
        if hprotocol : parsed.protocol ≠ "https:" then
          .error (.invalidTargetUrl .HTTPS_REQUIRED "targetUrl must use the https scheme")
        else if hcredentials : parsed.username ≠ "" ∨ parsed.password ≠ "" then
          .error (.invalidTargetUrl .CREDENTIALS_NOT_ALLOWED "targetUrl must not contain userinfo")
        else if hhost : isPrivateOrReservedHost parsed.hostname = true then
          .error (.invalidTargetUrl .PRIVATE_HOST_NOT_ALLOWED
            s!"targetUrl hostname \"{parsed.hostname}\" is not allowed")
        else .ok {
          value := parsed.href
          canonical := by
            rw [not_or, not_ne_iff, not_ne_iff] at hcredentials
            exact ⟨value, parsed, hparsed, ⟨not_ne_iff.mp hprotocol, hcredentials.1, hcredentials.2,
              Bool.eq_false_iff.mpr hhost⟩, rfl⟩ }

/-- What `fromString` accepts, and what it keeps of it. -/
theorem TargetUrl.fromString_eq_ok_iff {value : String} {target : TargetUrl} :
    TargetUrl.fromString value = .ok target ↔
      Text.length value ≤ MAX_LENGTH ∧
        ∃ url, Platform.newURL value = some url ∧ URL.Accepted url ∧ target.value = url.href := by
  rw [TargetUrl.fromString]
  by_cases hlength : MAX_LENGTH < Text.length value
  · rw [if_pos hlength]
    simp only [reduceCtorEq, false_iff, not_and]
    omega
  rw [if_neg hlength]
  refine ⟨fun h => ?_, fun h => ?_⟩
  · split at h
    · cases h
    · rename_i parsed hparsed
      split at h
      · cases h
      · rename_i hprotocol
        split at h
        · cases h
        · rename_i hcredentials
          rw [not_or, not_ne_iff, not_ne_iff] at hcredentials
          split at h
          · cases h
          · rename_i hhost
            cases h
            exact ⟨by omega, parsed, hparsed, ⟨not_ne_iff.mp hprotocol, hcredentials.1, hcredentials.2,
              Bool.eq_false_iff.mpr hhost⟩, rfl⟩
  · obtain ⟨-, url, hurl, ⟨hprotocol, husername, hpassword, hhost⟩, hvalue⟩ := h
    split
    · rename_i hnone
      rw [hurl] at hnone
      cases hnone
    · rename_i parsed hparsed
      rw [hurl] at hparsed
      cases hparsed
      rw [dif_neg (not_ne_iff.mpr hprotocol), dif_neg (by simp [husername, hpassword]),
        dif_neg (by simp [hhost])]
      cases target
      simp only [Except.ok.injEq, TargetUrl.mk.injEq] at hvalue ⊢
      exact hvalue.symm

theorem TargetUrl.accepted_of_parsed (hurl : URL.ReparsesSerialised) {target : TargetUrl} {url : URL}
    (h : Platform.newURL target.value = some url) : URL.Accepted url := by
  obtain ⟨raw, parsed, hraw, haccepted, hhref⟩ := target.canonical
  have hreparsed := hurl raw parsed hraw
  rw [hhref] at hreparsed
  cases hreparsed.symm.trans h
  exact haccepted

/-- A stored target URL passes its own factory exactly when it is short enough. -/
theorem TargetUrl.fromString_value (hurl : URL.ReparsesSerialised) (target : TargetUrl)
    (hlength : Text.length target.value ≤ MAX_LENGTH) : TargetUrl.fromString target.value = .ok target := by
  obtain ⟨raw, url, hraw, haccepted, hhref⟩ := target.canonical
  rw [TargetUrl.fromString_eq_ok_iff]
  refine ⟨hlength, url, ?_, haccepted, hhref.symm⟩
  rw [← hhref]
  exact hurl raw url hraw

end WebhookIdp.Subscription
