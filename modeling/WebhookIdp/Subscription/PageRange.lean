import WebhookIdp.Base.Digits
import WebhookIdp.Subscription.Masking

/-!
# Skip and limit of the listing

`PaginationInterceptor` reads the page and the page size from the query string, and the repository makes the skip
and the limit of a database query from them. The interceptor sets no upper bound, the database does.
-/

namespace WebhookIdp.Subscription

open ClassValidator
open ValidationPipe (toInstance)
open Concurrent (Program)

/-! ### The interceptor -/

def DEFAULT_PAGE : Nat := 1

def DEFAULT_PAGE_SIZE : Nat := 20

/-- `new BadRequestException(message)` -/
def badRequestException (message : String) : HttpException where
  name := "BadRequestException"
  message := message
  status := 400
  response := .object (.text message) (some "Bad Request")

def malformed (fieldName : String) : HttpException :=
  badRequestException s!"\"{fieldName}\" must be a positive integer"

/-- `/^\d+$/` -/
def isDigits (text : String) : Bool := !text.toList.isEmpty && text.toList.all Char.isDigit

/-- `Number.parseInt(text, 10)` of digits, read as an exact integer. -/
def parseInt (text : String) : Nat := Digits.ofChars 10 text.toList

abbrev PositiveInt := { n : Nat // 0 < n }

/-- A query parameter is absent, a text, or what the query parser makes of a repeated or nested one. -/
def parsePositiveInt (value : Option Json) (fieldName : String) : Except Exception (Option PositiveInt) :=
  match value with
  | none => .ok none
  | some (.str text) =>
      if isDigits text = true then
        if h : parseInt text < 1 then .error (.http (malformed fieldName)) else .ok (some ⟨parseInt text, Nat.not_lt.mp h⟩)
      else .error (.http (malformed fieldName))
  | some _ => .error (.http (malformed fieldName))

def PaginationInterceptor.intercept (query : Json.Fields) : Except Exception Pagination := do
  let page := (← parsePositiveInt (query.lookup "page") "page").getD ⟨DEFAULT_PAGE, by decide⟩
  let pageSize := (← parsePositiveInt (query.lookup "pageSize") "pageSize").getD ⟨DEFAULT_PAGE_SIZE, by decide⟩
  return { page := page.1, pageSize := pageSize.1, page_pos := page.2, pageSize_pos := pageSize.2 }

/-! ### The route -/

structure ListSubscriptionsQueryDto where
  status : Property SubscriptionStatus
  eventType : Property String

def eventTypeConstraints (value : Option Json) : Except (List String) String :=
  (isString "eventType" value).mapError fun message => [message]

def ListSubscriptionsQueryDto.validate (query : Json.Fields) : Except Exception ListSubscriptionsQueryDto :=
  let dto := toInstance [] query
  let status := isOptionalProperty statusConstraints (dto.lookup "status")
  let eventType := isOptionalProperty eventTypeConstraints (dto.lookup "eventType")
  match status, eventType with
  | .ok status, .ok eventType => .ok { status, eventType }
  | status, eventType => .error (badRequest (violations status ++ violations eventType))

/-- `null` is as empty as the empty text. -/
def ListSubscriptionsQueryDto.eventTypeFilter (query : ListSubscriptionsQueryDto) :
    Except Exception (Option EventType) :=
  match query.eventType with
  | .undefined => .ok none
  | .null => raise ((EventType.fromString "").map some)
  | .value eventType => raise ((EventType.fromString eventType).map some)

section Route

variable [Platform]

def toPaginatedSubscriptionsResponseDto (result : PaginatedResult WebhookSubscription) :
    PaginatedSubscriptionsResponseDto where
  Items := result.items.map toSubscriptionResponseDto
  Page := result.page
  PageSize := result.pageSize
  Total := result.total

/-- The handler, once the interceptor has attached the pagination to the request. -/
def SubscriptionsController.list (identity : ResolvedIdentity) (query : Json.Fields) (pagination : Pagination) :
    UseCase PaginatedSubscriptionsResponseDto := do
  let dto ← (.done (ListSubscriptionsQueryDto.validate query) : UseCase ListSubscriptionsQueryDto)
  let eventType ← (.done dto.eventTypeFilter : UseCase (Option EventType))
  let result ← ListSubscriptionsUseCase.execute
    { tenantId := identity.tenantId, filters := { status := dto.status.value?, eventType }, pagination }
  return toPaginatedSubscriptionsResponseDto result

def listRoute (identity : ResolvedIdentity) (query : Json.Fields) : UseCase PaginatedSubscriptionsResponseDto := do
  let pagination ← (.done (PaginationInterceptor.intercept query) : UseCase Pagination)
  SubscriptionsController.list identity query pagination

/-! ### The options of the database query -/

/-- The integers the database takes: no more than 2⁶³ - 1, and a limit that is not zero. -/
structure FindOptions.InRange (options : FindOptions) : Prop where
  skip_le : options.skip ≤ 2 ^ 63 - 1
  limit_pos : 1 ≤ options.limit
  limit_le : options.limit ≤ 2 ^ 63 - 1

def RepositoryCall.ListsWith (pagination : Pagination) (op : RepositoryCall) : Prop :=
  ∃ tenantId filters, op = .list tenantId filters pagination

/-- The query is let through, and all it leads to is listings with options in range; or it is rejected with a 400
before any call. -/
def KeepsRange (identity : ResolvedIdentity) (query : Json.Fields) : Prop :=
  (∃ pagination, PaginationInterceptor.intercept query = .ok pagination ∧
    (SubscriptionMongoRepository.findOptions pagination).InRange ∧
    (listRoute identity query).OnlyCalls (RepositoryCall.ListsWith pagination)) ∨
  ∃ exception, PaginationInterceptor.intercept query = .error (.http exception) ∧ exception.status = 400 ∧
    listRoute identity query = .done (.error (.http exception))

theorem listRoute_of_error {query : Json.Fields} {exception : Exception}
    (h : PaginationInterceptor.intercept query = .error exception) (identity : ResolvedIdentity) :
    listRoute identity query = .done (.error exception) := by
  unfold listRoute
  rw [h]
  rfl

theorem onlyCalls_list (identity : ResolvedIdentity) (query : Json.Fields) (pagination : Pagination) :
    (SubscriptionsController.list identity query pagination).OnlyCalls (RepositoryCall.ListsWith pagination) := by
  have hdone {α : Type} (result : Except Exception α) :
      (.done result : UseCase α).OnlyCalls (RepositoryCall.ListsWith pagination) := trivial
  refine (hdone _).bind fun dto => (hdone _).bind fun eventType => Program.OnlyCalls.bind ?_ fun result => hdone _
  exact (hdone _).bind fun tenantId => ⟨⟨tenantId, _, rfl⟩, fun _ => trivial⟩

theorem onlyCalls_listRoute {query : Json.Fields} {pagination : Pagination}
    (h : PaginationInterceptor.intercept query = .ok pagination) (identity : ResolvedIdentity) :
    (listRoute identity query).OnlyCalls (RepositoryCall.ListsWith pagination) := by
  unfold listRoute
  rw [h]
  exact onlyCalls_list identity query pagination

end Route

/-! ### What a parameter denotes -/

/-- The number a query parameter stands for: its default, or the value of its digits, which is not zero. -/
inductive Denotes (default : Nat) : Option Json → Nat → Prop where
  | absent : Denotes default none default
  | digits {text : String} (ne_nil : text.toList ≠ []) (digits : ∀ c ∈ text.toList, c.isDigit = true)
      (pos : 0 < Digits.ofChars 10 text.toList) :
      Denotes default (some (.str text)) (Digits.ofChars 10 text.toList)

theorem isDigits_iff {text : String} :
    isDigits text = true ↔ text.toList ≠ [] ∧ ∀ c ∈ text.toList, c.isDigit = true := by
  rw [isDigits, Bool.and_eq_true, List.all_eq_true]
  simp

theorem denotes_absent_iff {default n : Nat} : Denotes default none n ↔ n = default := by
  constructor
  · intro h
    cases h
    rfl
  · intro h
    rw [h]
    exact .absent

theorem denotes_text_iff {default n : Nat} {text : String} :
    Denotes default (some (.str text)) n ↔ isDigits text = true ∧ 0 < parseInt text ∧ n = parseInt text := by
  constructor
  · intro h
    cases h with
    | digits hne hdigits hpos => exact ⟨isDigits_iff.mpr ⟨hne, hdigits⟩, hpos, rfl⟩
  · intro ⟨hdigits, hpos, hn⟩
    obtain ⟨hne, hall⟩ := isDigits_iff.mp hdigits
    rw [hn]
    exact .digits hne hall hpos

theorem not_denotes_of_other {default n : Nat} {json : Json} (h : ∀ text, json ≠ .str text) :
    ¬ Denotes default (some json) n := by
  intro hdenotes
  cases hdenotes with
  | digits => exact h _ rfl

theorem parsePositiveInt_cases (value : Option Json) (fieldName : String) (default : PositiveInt) :
    (∃ parsed, parsePositiveInt value fieldName = .ok parsed ∧
      ∀ n, Denotes default value n ↔ n = (parsed.getD default : PositiveInt)) ∨
    (parsePositiveInt value fieldName = .error (.http (malformed fieldName)) ∧ ∀ n, ¬ Denotes default value n) := by
  match value with
  | none => exact Or.inl ⟨none, rfl, fun n => denotes_absent_iff⟩
  | some (.str text) =>
      simp only [denotes_text_iff]
      by_cases hdigits : isDigits text = true
      · by_cases hpos : 0 < parseInt text
        · refine Or.inl ⟨some ⟨parseInt text, hpos⟩, ?_, fun n => ?_⟩
          · simp only [parsePositiveInt, if_pos hdigits]
            rw [dif_neg (by omega)]
          · simp [hdigits, hpos]
        · refine Or.inr ⟨?_, fun n h => hpos h.2.1⟩
          simp only [parsePositiveInt, if_pos hdigits]
          rw [dif_pos (by omega)]
      · refine Or.inr ⟨?_, fun n h => hdigits h.1⟩
        simp only [parsePositiveInt, if_neg hdigits]
  | some .null => exact Or.inr ⟨rfl, fun n => not_denotes_of_other nofun⟩
  | some (.bool _) => exact Or.inr ⟨rfl, fun n => not_denotes_of_other nofun⟩
  | some (.num _) => exact Or.inr ⟨rfl, fun n => not_denotes_of_other nofun⟩
  | some (.arr _) => exact Or.inr ⟨rfl, fun n => not_denotes_of_other nofun⟩
  | some (.obj _) => exact Or.inr ⟨rfl, fun n => not_denotes_of_other nofun⟩

structure DenotesPage (query : Json.Fields) (page pageSize : Nat) : Prop where
  page : Denotes DEFAULT_PAGE (query.lookup "page") page
  pageSize : Denotes DEFAULT_PAGE_SIZE (query.lookup "pageSize") pageSize

/-- The interceptor attaches the page and the page size the query denotes, or throws a 400. -/
theorem intercept_cases (query : Json.Fields) :
    (∃ pagination, PaginationInterceptor.intercept query = .ok pagination ∧
      ∀ page pageSize, DenotesPage query page pageSize ↔ page = pagination.page ∧ pageSize = pagination.pageSize) ∨
    (∃ fieldName, PaginationInterceptor.intercept query = .error (.http (malformed fieldName)) ∧
      ∀ page pageSize, ¬ DenotesPage query page pageSize) := by
  unfold PaginationInterceptor.intercept
  rcases parsePositiveInt_cases (query.lookup "page") "page" ⟨DEFAULT_PAGE, by decide⟩ with
    ⟨page, hpage, hpageDenotes⟩ | ⟨hpage, hnone⟩
  · rcases parsePositiveInt_cases (query.lookup "pageSize") "pageSize" ⟨DEFAULT_PAGE_SIZE, by decide⟩ with
      ⟨pageSize, hpageSize, hpageSizeDenotes⟩ | ⟨hpageSize, hnone⟩
    · refine Or.inl ⟨_, by rw [hpage, hpageSize]; rfl, fun p size => ?_⟩
      constructor
      · intro ⟨hp, hsize⟩
        exact ⟨(hpageDenotes p).mp hp, (hpageSizeDenotes size).mp hsize⟩
      · intro ⟨hp, hsize⟩
        exact ⟨(hpageDenotes p).mpr hp, (hpageSizeDenotes size).mpr hsize⟩
    · exact Or.inr ⟨"pageSize", by rw [hpage, hpageSize]; rfl, fun p size h => hnone size h.pageSize⟩
  · exact Or.inr ⟨"page", by rw [hpage]; rfl, fun p size h => hnone p h.page⟩

section Range

variable [Platform]

/-- The options stay in range, or the query is rejected, exactly when no page and page size it denotes make a limit or
a skip beyond 2⁶³ - 1. -/
theorem keepsRange_iff (identity : ResolvedIdentity) (query : Json.Fields) :
    KeepsRange identity query ↔
      ∀ page pageSize, DenotesPage query page pageSize → pageSize ≤ 2 ^ 63 - 1 ∧ (page - 1) * pageSize ≤ 2 ^ 63 - 1 := by
  obtain ⟨pagination, hok, hdenotes⟩ | ⟨fieldName, herror, hnone⟩ := intercept_cases query
  · constructor
    · rintro (⟨other, hother, hrange, -⟩ | ⟨exception, hexception, -⟩)
      · rw [hok] at hother
        cases hother
        intro page pageSize h
        obtain ⟨rfl, rfl⟩ := (hdenotes page pageSize).mp h
        exact ⟨hrange.limit_le, hrange.skip_le⟩
      · rw [hok] at hexception
        cases hexception
    · intro h
      obtain ⟨hlimit, hskip⟩ := h _ _ ((hdenotes _ _).mpr ⟨rfl, rfl⟩)
      exact Or.inl ⟨pagination, hok, ⟨hskip, pagination.pageSize_pos, hlimit⟩, onlyCalls_listRoute hok identity⟩
  · constructor
    · intro _ page pageSize h
      exact absurd h (hnone page pageSize)
    · intro _
      exact Or.inr ⟨_, herror, rfl, listRoute_of_error herror identity⟩

end Range

section Sample

attribute [local instance] samplePlatform

/-- Each value could be taken alone, and the limit is in range. -/
def deepPage : Json.Fields := [("page", .str "4294967298"), ("pageSize", .str "2147483648")]

theorem deep_page_out_of_range : ¬ KeepsRange ⟨"tenant-1", "client-1", none⟩ deepPage ∧
    ∃ pagination, PaginationInterceptor.intercept deepPage = .ok pagination ∧
      (SubscriptionMongoRepository.findOptions pagination).limit = 2147483648 ∧
      (SubscriptionMongoRepository.findOptions pagination).skip = 9223372039002259456 := by
  have hok : PaginationInterceptor.intercept deepPage =
      .ok ⟨4294967298, 2147483648, by decide, by decide⟩ := by rfl
  refine ⟨?_, _, hok, rfl, rfl⟩
  rintro (⟨pagination, hpagination, hrange, -⟩ | ⟨exception, hexception, -⟩)
  · rw [hok] at hpagination
    cases hpagination
    exact absurd hrange.skip_le (by decide)
  · rw [hok] at hexception
    cases hexception

end Sample

end WebhookIdp.Subscription
