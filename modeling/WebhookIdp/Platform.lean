import WebhookIdp.Base.Text

/-!
# What the packages call and the repository does not contain

The `URL` class of the runtime and the UUID checks of two third-party packages are parameters of the
development. What a result needs of them stands in its statement as a hypothesis.
-/

namespace WebhookIdp

/-- Milliseconds since the epoch. -/
abbrev Date := Int

/-- The attributes of a `URL` object; `href` is also what its `toString` returns. -/
structure URL where
  protocol : String
  username : String
  password : String
  hostname : String
  port : String
  pathname : String
  search : String
  hash : String
  href : String
  deriving DecidableEq

/-- The text of the URL with another host, without userinfo. -/
def URL.withHost (url : URL) (host : String) : String :=
  let port := if 0 < Text.length url.port then ":" ++ url.port else ""
  url.protocol ++ "//" ++ host ++ port ++ url.pathname ++ url.search ++ url.hash

class Platform where
  /-- `new URL(value)`, with nothing where the constructor throws. -/
  newURL : String → Option URL
  /-- `validate` of the `uuid` package. -/
  validateUuid : String → Bool
  /-- What `IsUUID` of `class-validator` accepts. -/
  isUUID : String → Bool

/-- Parsing a serialised URL again gives the same URL. -/
def URL.ReparsesSerialised [Platform] : Prop :=
  ∀ value url, Platform.newURL value = some url → Platform.newURL url.href = some url

/-- What `randomUUID()` returns. -/
structure RandomUUID [Platform] where
  value : String
  isUUID : Platform.isUUID value = true
  nonBlank : Text.isBlank value = false

def Platform.UUIDsNotBlank [Platform] : Prop :=
  ∀ value, Platform.isUUID value = true → Text.isBlank value = false

/-! ### A platform that knows a few texts -/

/-- Parses the listed texts and takes the listed ids for UUIDs. -/
@[reducible] def Platform.ofTable (urls : List (String × URL)) (uuids : List String) : Platform where
  newURL value := (urls.find? fun entry => entry.1 == value).map Prod.snd
  validateUuid value := uuids.contains value
  isUUID value := uuids.contains value

def URL.https (hostname pathname : String) : URL where
  protocol := "https:"
  username := ""
  password := ""
  hostname := hostname
  port := ""
  pathname := pathname
  search := ""
  hash := ""
  href := "https://" ++ hostname ++ pathname

theorem URL.reparsesSerialised_ofTable {urls : List (String × URL)} {uuids : List String}
    (h : ∀ entry ∈ urls, (Platform.ofTable urls uuids).newURL entry.2.href = some entry.2) :
    @URL.ReparsesSerialised (Platform.ofTable urls uuids) := by
  intro value url hvalue
  obtain ⟨entry, hfind, rfl⟩ := Option.map_eq_some_iff.mp hvalue
  exact h entry (List.mem_of_find?_eq_some hfind)

end WebhookIdp
