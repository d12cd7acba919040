import WebhookIdp.Subscription.Aggregate

/-!
# What a request throws and how it is answered

`Exception` is every value that reaches `DomainExceptionFilter`: the errors of the domain and the
application, the framework's own `HttpException`s, the error of the database driver, and the `TypeError` of
the language, which are none of these.
-/

namespace WebhookIdp.Subscription

def TargetUrlErrorCode.code : TargetUrlErrorCode → String
  | .URL_TOO_LONG => "URL_TOO_LONG"
  | .INVALID_URL_FORMAT => "INVALID_URL_FORMAT"
  | .HTTPS_REQUIRED => "HTTPS_REQUIRED"
  | .CREDENTIALS_NOT_ALLOWED => "CREDENTIALS_NOT_ALLOWED"
  | .PRIVATE_HOST_NOT_ALLOWED => "PRIVATE_HOST_NOT_ALLOWED"

def DomainError.code : DomainError → String
  | .invalidTargetUrl code _ => code.code
  | .invalidEventType _ => "INVALID_EVENT_TYPE"
  | .invalidStatusTransition _ => "INVALID_STATUS_TRANSITION"
  | .invalidIdentifier _ => "INVALID_IDENTIFIER"

def DomainError.message : DomainError → String
  | .invalidTargetUrl _ message => message
  | .invalidEventType message => message
  | .invalidStatusTransition message => message
  | .invalidIdentifier message => message

inductive ApplicationError where
  | duplicateSubscription (message : String)
  | subscriptionNotFound (message : String)
  deriving DecidableEq, Repr

def ApplicationError.code : ApplicationError → String
  | .duplicateSubscription _ => "DUPLICATE_SUBSCRIPTION"
  | .subscriptionNotFound _ => "SUBSCRIPTION_NOT_FOUND"

def ApplicationError.message : ApplicationError → String
  | .duplicateSubscription message => message
  | .subscriptionNotFound message => message

/-- The `message` of a response object: absent, a text or a list of texts. -/
inductive ResponseMessage where
  | undefined
  | text (message : String)
  | list (messages : List String)
  deriving DecidableEq, Repr

inductive HttpResponse where
  | text (body : String)
  | object (message : ResponseMessage) (error : Option String)
  deriving DecidableEq, Repr

structure HttpException where
  name : String
  message : String
  status : Nat
  response : HttpResponse
  deriving DecidableEq, Repr

/-- An error of the database driver; 11000 is its code for a duplicate key. -/
structure MongoServerError where
  code : Nat
  deriving DecidableEq, Repr

inductive Exception where
  | domain (error : DomainError)
  | application (error : ApplicationError)
  | http (exception : HttpException)
  | mongo (error : MongoServerError)
  | typeError (message : String)
  deriving DecidableEq, Repr

/-- A write the unique index refuses. -/
def duplicateKeyError : Exception := .mongo { code := 11000 }

/-- A domain error as the exception it is thrown as. -/
def raise {α : Type} (x : Except DomainError α) : Except Exception α := x.mapError Exception.domain

theorem raise_eq_ok_iff {α : Type} {x : Except DomainError α} {a : α} : raise x = .ok a ↔ x = .ok a :=
  Throwing.mapError_eq_ok_iff

theorem raise_bind {α β : Type} (x : Except DomainError α) (f : α → Except DomainError β) :
    raise (x >>= f) = raise x >>= fun a => raise (f a) := by
  cases x <;> rfl

structure ApiErrorItem where
  ErrorCode : String
  ErrorMessage : String
  deriving DecidableEq, Repr

structure Resolved where
  status : Nat
  code : String
  message : String
  errors : List ApiErrorItem
  deriving DecidableEq, Repr

def single (status : Nat) (code message : String) : Resolved :=
  { status, code, message, errors := [{ ErrorCode := code, ErrorMessage := message }] }

namespace DomainExceptionFilter

def resolveHttpException (exception : HttpException) : Resolved :=
  match exception.response with
  | .text body => single exception.status exception.name body
  | .object details error =>
      let summary := error.getD exception.message
      match details with
      | .list (first :: rest) =>
          { status := exception.status
            code := exception.name
            message := summary
            errors := (first :: rest).map fun detail =>
              { ErrorCode := "VALIDATION_ERROR", ErrorMessage := detail } }
      | .text message => single exception.status exception.name message
      | _ => single exception.status exception.name summary

def resolve : Exception → Resolved
  | .domain (.invalidStatusTransition message) =>
      single 409 (DomainError.invalidStatusTransition message).code message
  | .application (.subscriptionNotFound message) =>
      single 404 (ApplicationError.subscriptionNotFound message).code message
  | .application (.duplicateSubscription message) =>
      single 409 (ApplicationError.duplicateSubscription message).code message
  | .domain error => single 400 error.code error.message
  | .http exception => resolveHttpException exception
  | .mongo _ => single 500 "INTERNAL_ERROR" "An unexpected error occurred"
  | .typeError _ => single 500 "INTERNAL_ERROR" "An unexpected error occurred"

theorem resolve_errors_ne_nil (exception : Exception) : (resolve exception).errors ≠ [] := by
  rcases exception with error | error | ⟨name, message, status, response⟩ | error | message
  · cases error <;> exact List.cons_ne_nil _ _
  · cases error <;> exact List.cons_ne_nil _ _
  · rcases response with body | ⟨details, error⟩
    · exact List.cons_ne_nil _ _
    · rcases details with _ | message | (_ | ⟨first, rest⟩) <;> exact List.cons_ne_nil _ _
  · exact List.cons_ne_nil _ _
  · exact List.cons_ne_nil _ _

theorem resolve_domain_status (error : DomainError) :
    (resolve (.domain error)).status = 400 ∨ (resolve (.domain error)).status = 409 := by
  cases error with
  | invalidStatusTransition message => exact Or.inr rfl
  | _ => exact Or.inl rfl

end DomainExceptionFilter

end WebhookIdp.Subscription
