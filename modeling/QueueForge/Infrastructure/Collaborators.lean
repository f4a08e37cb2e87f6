import QueueForge.Async.Execution
import QueueForge.Js.Errors

/-! The collaborators of a worker run whose code lies outside the delivery path: the
destination and result stores, the circuit breaker, the bulkhead and the connectors.
Their answers are left open.
-/

namespace QueueForge.Infrastructure

open QueueForge.Async QueueForge.Js

/-- A destination, as far as the executor reads it. Each field is the first truthy one of
the spellings the executor tries.
-/
structure Destination where
  id : Option String
  destinationType : Option String
  timeout : Option Int
deriving DecidableEq

/-- What a connector resolves to. An absent error is nullish. -/
structure Response where
  success : Bool
  statusCode : Option Int
  error : Thrown
  message : Option String
  response : Value
deriving DecidableEq

inductive ExternalCall where
  | findDestination (id : String)
  | findResult (id : String)
  | getBreaker (destinationId : String)
  | isOpen (destinationId : String)
  | recordSuccess
  | recordFailure (error : Thrown)
  | acquire (pool : String)
  | release (pool ticket : String)
  | createConnector (destination : Option Destination)
  | execute (payload : Value) (timeoutMs : Int)
deriving DecidableEq

namespace ExternalCall

/-- What each call resolves to: a breaker and a connector count as present or not, a
ticket and a response may be null.
-/
abbrev Result : ExternalCall → Type
  | findDestination _ => Option Destination
  | findResult _ => Option Value
  | getBreaker _ => Bool
  | isOpen _ => Bool
  | recordSuccess => Unit
  | recordFailure _ => Unit
  | acquire _ => Option String
  | release _ _ => Unit
  | createConnector _ => Bool
  | execute _ _ => Option Response

/-- Transmissions are the calls of `connector.execute`. -/
def isTransmission : ExternalCall → Bool
  | execute _ _ => true
  | _ => false

end ExternalCall

end QueueForge.Infrastructure
