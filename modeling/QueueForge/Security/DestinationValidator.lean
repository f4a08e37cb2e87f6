import Mathlib
import QueueForge.Infrastructure.DestinationRepository

/-! The validator of requests that create destinations, beside the checks their endpoints meet later.
It trims an endpoint and takes a scheme in any case; the repository and the entity read the
endpoint as it is.
-/

namespace QueueForge.Security

open QueueForge.Async QueueForge.Js QueueForge.Domain QueueForge.Infrastructure

/-- The members of a request body that are read; `none` stands for a member that is absent. -/
structure CreateDestinationBody where
  type : Option String
  destinationType : Option String
  endpoint : Option String
  endpointUrl : Option String
  eventFilters : Option Json
  retryStrategy : Option Json
  circuitBreakerThreshold : Option Json
  timeout : Option Json

namespace CreateDestinationBody

def typeStr (body : CreateDestinationBody) : String :=
  (orString body.type (orString body.destinationType none)).getD "WEBHOOK"

def endpointStr (body : CreateDestinationBody) : String :=
  (orString body.endpoint (orString body.endpointUrl none)).getD ""

end CreateDestinationBody

namespace DestinationValidator

/-- `typeof value === 'object'` of a truthy value. -/
def isObject : Json → Bool
  | .array _ => true
  | .object _ => true
  | _ => false

end DestinationValidator

/-! ## The checks an endpoint meets later -/

/-- A scheme of lower-case letters. -/
def IsLowerScheme (scheme : String) : Prop :=
  scheme ≠ "" ∧ scheme.toList.all Char.isLower = true

instance (scheme : String) : Decidable (IsLowerScheme scheme) :=
  inferInstanceAs (Decidable (_ ∧ _))

section
variable {endpoint scheme : String}

theorem IsLowerScheme.no_colon (lower : IsLowerScheme scheme) : ':' ∉ scheme.toList :=
  fun listed => absurd (List.all_eq_true.mp lower.2 ':' listed) (by decide)

end

section
variable {typeStr endpoint : String}

end

end QueueForge.Security
