import QueueForge.Js.Errors

/-! The classification of failures into categories, of which some are retried. -/

namespace QueueForge.Worker

open QueueForge.Js

inductive ErrorCategory where
  | transient
  | permanent
  | network
  | timeout
  | validation
  | server
  | unknown
deriving DecidableEq, Repr

structure ClassificationResult where
  category : ErrorCategory
  retryable : Bool
deriving DecidableEq, Repr

namespace ErrorClassifier

/-- The status code a failure is judged by: the given one, or the first the error has. -/
def code (error : Thrown) (statusCode : Option Int) : Option Int :=
  orInt statusCode (orInt error.statusCode (orInt error.status error.responseStatus))

/-- The category a status code settles by itself. -/
def statusCategory (code : Int) : Option ErrorCategory :=
  if code = 408 then
    some .timeout
  else if code = 429 ∨ code ≥ 500 then
    some .transient
  else if code ≥ 400 ∧ code < 500 then
    if code = 422 ∨ code = 400 then some .validation else some .permanent
  else
    none

/-- The category by message, code and name, for errors without a telling status code. -/
def signatureCategory (error : Thrown) : ErrorCategory :=
  let msg := toLowerCase ((orString error.message none).getD error.rendered)
  let errCode := toUpperCase (error.code.getD "")
  if includes msg "validation" then
    .validation
  else if errCode ∈ ["ECONNREFUSED", "ENOTFOUND", "EPIPE", "EHOSTUNREACH", "EAI_AGAIN"] then
    .network
  else if errCode = "ETIMEDOUT" ∨ error.name = some "TimeoutError" ∨ includes msg "timeout" then
    .timeout
  else if error.name = some "ValidationError" ∨ error.code = some "VALIDATION_FAILED" then
    .validation
  else if includes msg "connection refused" ∨ includes msg "network"
      ∨ includes msg "socket hang up" ∨ includes msg "reset" then
    .network
  else
    .unknown

/-- Evaluates exact category based on status code and error signatures. -/
def getCategory (error : Thrown) (statusCode : Option Int) : ErrorCategory :=
  ((code error statusCode).bind statusCategory).getD (signatureCategory error)

/-- Determines whether an error is transient and suitable for retry attempts. -/
def getRetryable (error : Thrown) (statusCode : Option Int) : Bool :=
  match getCategory error statusCode with
  | .transient | .network | .timeout | .server | .unknown => true
  | .permanent | .validation => false

/-- Classifies an error and an optional status code. -/
def classify (error : Thrown) (statusCode : Option Int := none) : ClassificationResult where
  category := getCategory error (code error statusCode)
  retryable := getRetryable error (code error statusCode)

/-- An error that carries a server status code is retried, whatever its message. -/
theorem classify_serverError {error : Thrown} {status : Int}
    (carried : error.statusCode = some status) (server : 500 ≤ status)
    : (classify error).retryable = true := by
  have nonzero : status ≠ 0 := by omega
  have judged : code error none = some status := by
    simp only [code, carried, orInt_of_ne_zero nonzero]
    rfl
  have again : code error (code error none) = some status := by
    rw [judged, code, orInt_of_ne_zero nonzero]
  have timeout : status ≠ 408 := by omega
  have category : getCategory error (code error none) = .transient := by
    simp only [getCategory, again, Option.bind_some, statusCategory, if_neg timeout,
      if_pos (Or.inr server : status = 429 ∨ status ≥ 500), Option.getD_some]
  simp only [classify, getRetryable, category]

end ErrorClassifier

end QueueForge.Worker
