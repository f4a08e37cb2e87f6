import QueueForge.Js.Json

/-! The destination entity, as far as ingestion routes by it. -/

namespace QueueForge.Domain

open QueueForge.Js

/-- A target output destination. -/
structure Destination where
  id : String
  eventFilters : Option (List (String × Json))
  enabled : Bool
  deletedAt : Option Int
  idNonempty : id ≠ ""

namespace Destination

/-- The methods of the class that ingestion looks for. -/
def methods : List String :=
  ["getId", "matchesEventFilter", "matches"]

def isDeleted (destination : Destination) : Bool :=
  destination.deletedAt.isSome

/-- Evaluates if event parameters match the configured event filters. -/
def matchesEventFilter (destination : Destination) (event : List (String × Json)) : Bool :=
  match destination.eventFilters with
  | none => true
  | some filters =>
      filters.all
        (fun filter =>
          match event.lookup filter.1 with
          | some value => value.strictEqual filter.2
          | none => false)

def «matches» (destination : Destination) (event : List (String × Json)) : Bool :=
  destination.matchesEventFilter event

end Destination

/-- `DestinationType`. -/
inductive DestinationType where
  | webhook
  | database
  | queue
  | audit
deriving DecidableEq

/-- `DestinationTypeVO.kind`. -/
def DestinationType.kind : DestinationType → String
  | webhook => "webhook"
  | database => "database"
  | queue => "queue"
  | audit => "audit"

/-- The destination entity, as far as a delivery is sent by it. -/
structure DeliveryDestination extends Destination where
  type : DestinationType
  endpoint : String

end QueueForge.Domain
