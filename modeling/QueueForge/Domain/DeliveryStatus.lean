import QueueForge.Js.Errors

/-! The lifecycle statuses of a delivery and the transitions the state machine admits. -/

namespace QueueForge.Domain

open QueueForge.Js

inductive DeliveryStatus where
  | pending
  | processing
  | completed
  | scheduledRetry
  | failedDlq
deriving DecidableEq, Repr

namespace DeliveryStatus

/-- `DeliveryStatusVO.getValue()`. -/
def getValue : DeliveryStatus → String
  | pending => "PENDING"
  | processing => "PROCESSING"
  | completed => "COMPLETED"
  | scheduledRetry => "SCHEDULED_RETRY"
  | failedDlq => "FAILED_DLQ"

/-- `DeliveryStatusVO.isFinal()`: COMPLETED or FAILED_DLQ. -/
def isFinal : DeliveryStatus → Bool
  | completed | failedDlq => true
  | _ => false

/-- What a worker run leaves behind once it has recorded an outcome. -/
def isOutcome : DeliveryStatus → Bool
  | completed | scheduledRetry | failedDlq => true
  | _ => false

end DeliveryStatus

/-- `VALID_DELIVERY_TRANSITIONS`. -/
def validDeliveryTransitions : DeliveryStatus → List DeliveryStatus
  | .pending => [.processing]
  | .processing => [.completed, .scheduledRetry, .failedDlq]
  | .scheduledRetry => [.pending, .processing]
  | .completed => []
  | .failedDlq => []

/-- Validates whether a state transition path is allowed by state machine rules. -/
def isValidStateTransition (fromState toState : DeliveryStatus) : Bool :=
  (validDeliveryTransitions fromState).contains toState

/-- The check `DeliveryStateMachine.transition` makes: staying in a status is admitted. -/
def admitsTransition (current target : DeliveryStatus) : Bool :=
  current == target || isValidStateTransition current target

/-- `new InvalidDeliveryStateError(currentStatus, attemptedTransition)`. -/
def invalidDeliveryStateError (currentStatus attemptedTransition : DeliveryStatus)
    : ErrorObject :=
  domainError .invalidDeliveryState "InvalidDeliveryStateError" "DELIVERY_FAILED" 400
    ("Delivery in status \"" ++ currentStatus.getValue ++ "\" cannot transition to \""
      ++ attemptedTransition.getValue ++ "\".")

/-- A final status has no way out, by cases on the two final statuses. -/
theorem admitsTransition_final {current target : DeliveryStatus}
    (final : current.isFinal = true) (admitted : admitsTransition current target = true)
    : target = current := by
  cases current <;> cases target <;> first | rfl | contradiction

end QueueForge.Domain
