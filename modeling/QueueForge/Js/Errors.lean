import QueueForge.Js.Values

/-! Thrown values and the error classes of the program.
Only the members some modelled function reads are kept: the class an `instanceof` test
sees, the message, the codes, and the `isRetryable` member some errors carry.
-/

namespace QueueForge.Js

/-- The classes the program distinguishes by `instanceof` or throws itself. -/
inductive ErrorKind where
  | error
  | typeError
  | referenceError
  | validation
  | notFound
  | conflict
  | internal
  | infrastructure
  | invalidDeliveryState
  | deliveryNotFound
  | destinationNotFound
  | maxRetriesExceeded
deriving DecidableEq, Repr

/-- `error.isRetryable`: a method or a plain property, each giving a boolean. -/
inductive RetryableMember where
  | method (result : Bool)
  | property (value : Bool)
deriving DecidableEq, Repr

/-- The `meta` member of a database error, as far as the error mapping reads it. -/
structure ErrorMeta where
  target : Option (List String) := none
  fieldName : Option String := none
  cause : Option String := none
deriving DecidableEq, Repr

/-- An error object. `none` stands for a member that is absent or not of its usual type;
`rendered` is what `String(error)` gives.
-/
structure ErrorObject where
  kind : ErrorKind
  name : String
  message : Option String
  code : Option String
  statusCode : Option Int
  status : Option Int
  responseStatus : Option Int
  isRetryable : Option RetryableMember
  details : ErrorMeta
  rendered : String
deriving DecidableEq, Repr

/-- What a `throw` may carry: `undefined` or `null`, a plain string, or an error object. -/
inductive Thrown where
  | nullish
  | text (value : String)
  | error (object : ErrorObject)
deriving DecidableEq, Repr

namespace Thrown

/-- `error?.message`. -/
def message : Thrown → Option String
  | .error object => object.message
  | _ => none

/-- `error?.name`. -/
def name : Thrown → Option String
  | .error object => some object.name
  | _ => none

/-- `error?.code`. -/
def code : Thrown → Option String
  | .error object => object.code
  | _ => none

/-- `error?.statusCode`. -/
def statusCode : Thrown → Option Int
  | .error object => object.statusCode
  | _ => none

/-- `error?.status`. -/
def status : Thrown → Option Int
  | .error object => object.status
  | _ => none

/-- `error?.response?.status`. -/
def responseStatus : Thrown → Option Int
  | .error object => object.responseStatus
  | _ => none

/-- Whether the thrown value counts as true. -/
def truthy : Thrown → Bool
  | .nullish => false
  | .text value => decide (value ≠ "")
  | .error _ => true

/-- `String(error || '')`. -/
def rendered : Thrown → String
  | .nullish => ""
  | .text value => value
  | .error object => object.rendered

end Thrown

/-- An instance of the built-in `Error` class or of one of its built-in subclasses. -/
def builtinError (kind : ErrorKind) (name message : String) : ErrorObject where
  kind := kind
  name := name
  message := some message
  code := none
  statusCode := none
  status := none
  responseStatus := none
  isRetryable := none
  details := {}
  rendered := name ++ ": " ++ message

/-- `new Error(message)`. -/
def newError (message : String) : Thrown := .error (builtinError .error "Error" message)

/-- A `TypeError` raised by the language itself. -/
def newTypeError (message : String) : Thrown :=
  .error (builtinError .typeError "TypeError" message)

/-- The `ReferenceError` of reading an undeclared name. -/
def newReferenceError (identifier : String) : Thrown :=
  .error (builtinError .referenceError "ReferenceError" (identifier ++ " is not defined"))

/-- An instance of a `BaseError` class, which keeps the name of `Error`. -/
def baseError (kind : ErrorKind) (code : String) (statusCode : Int) (message : String)
    : ErrorObject where
  kind := kind
  name := "Error"
  message := some message
  code := some code
  statusCode := some statusCode
  status := none
  responseStatus := none
  isRetryable := none
  details := {}
  rendered := "Error: " ++ message

/-- An instance of a `DomainError` class, which takes the name of its own class. -/
def domainError (kind : ErrorKind) (name code : String) (statusCode : Int)
    (message : String)
    : ErrorObject where
  kind := kind
  name := name
  message := some message
  code := some code
  statusCode := some statusCode
  status := none
  responseStatus := none
  isRetryable := none
  details := {}
  rendered := s!"[{name}] {code} ({statusCode}): {message}"

/-- `new InternalError(message)`; a production process hides the message. -/
def internalError (production : Bool) (message : String) : ErrorObject :=
  baseError .internal "UNKNOWN_ERROR" 500
    (if production then "An unexpected internal server error occurred" else message)

/-- `new NotFoundError(message)`. -/
def notFoundError (message : String) : ErrorObject :=
  baseError .notFound "NOT_FOUND" 404 message

/-- `new ConflictError(message)`. -/
def conflictError (message : String) : ErrorObject :=
  baseError .conflict "CONFLICT_DETECTED" 409 message

/-- `new ValidationError(message)`. -/
def validationError (message : String) : ErrorObject :=
  domainError .validation "ValidationError" "VALIDATION_FAILED" 422 message

/-- `new ValidationError(field, message)`. -/
def validationErrorOn (field message : String) : ErrorObject :=
  validationError s!"Validation error on {field}: {message}"

/-- An instance of an `ApplicationError` class, which takes the name of its own class. -/
def applicationError (kind : ErrorKind) (name code : String) (statusCode : Int)
    (message : String)
    : ErrorObject := {
  baseError kind code statusCode message with
  name := name
  rendered := name ++ ": " ++ message
}

/-- `new DeliveryNotFoundError(deliveryId)`. -/
def deliveryNotFoundError (deliveryId : String) : ErrorObject :=
  applicationError .deliveryNotFound "DeliveryNotFoundError" "NOT_FOUND" 404
    s!"Delivery with identifier \"{deliveryId}\" was not found."

/-- `new DestinationNotFoundError(destinationId)`. -/
def destinationNotFoundError (destinationId : String) : ErrorObject :=
  applicationError .destinationNotFound "DestinationNotFoundError" "NOT_FOUND" 404
    s!"Destination with identifier \"{destinationId}\" was not found."

end QueueForge.Js
