import QueueForge.Async.Contract
import QueueForge.Js.Errors
import QueueForge.Security.HmacSigner

/-! `WebhookConnector`: posts a payload with its signature, by the client it was given or that of
the module, or else by `fetch`. Its calls are those of the clock and of the network.
-/

namespace QueueForge.Worker

open QueueForge.Async QueueForge.Js QueueForge.Security

abbrev Headers : Type := List (String × String)

/-- `{ ...base, ...headers }`. -/
def spreadHeaders (base headers : Headers) : Headers :=
  base.map (fun header => (header.1, (headers.lookup header.1).getD header.2))
  ++ headers.filter (fun header => (base.lookup header.1).isNone)

structure PostedResponse where
  status : Option Int
  data : Option Json

/-- The body is read as JSON, or else as text, which may fail too. -/
structure FetchedResponse where
  status : Int
  body : Settled Thrown Json

inductive ConnectorCall where
  | now
  | post (endpoint : String) (result : Json) (headers : Headers)
  | fetch (endpoint : String) (headers : Headers) (body : String)

abbrev ConnectorCall.Result : ConnectorCall → Type
  | now => Int
  | post _ _ _ => Option PostedResponse
  | fetch _ _ _ => FetchedResponse

abbrev ConnectorSignature : Signature where
  Op := ConnectorCall
  Result := ConnectorCall.Result

abbrev ConnectorProgram (α : Type) : Type := Program ConnectorSignature Thrown α

def awaitConnector (call : ConnectorCall) : ConnectorProgram call.Result :=
  Program.perform (S := ConnectorSignature) call

structure ConnectorResult where
  success : Bool
  statusCode : Int
  latencyMs : Int
  response : Option Json
  error : Option Thrown
  message : Option String
  body : Option Json
  isPermanent : Bool

/-- The settings of a destination, and what the process has: a signer it was given, a client with
`post`, and `fetch`.
-/
structure WebhookConnector where
  endpoint : Option String
  endpointUrl : Option String
  secret : Option String
  headers : Headers
  signer : Option (Json → String)
  posts : Bool
  fetches : Bool
  hmac : Hmac
  numberText : Number → String

namespace WebhookConnector

variable (connector : WebhookConnector)

def endpointOf : String :=
  (orString connector.endpoint (orString connector.endpointUrl none)).getD
    "http://localhost/webhook"

def secretOf : String :=
  (orString connector.secret none).getD "queueforge-secret-key"

/-- `JSON.stringify(result || {})`. -/
def bodyOf (result : Json) : String :=
  (if result.truthy then result else .object []).stringify connector.numberText

def signatureOf (result : Json) (timestamp : String) : String :=
  match connector.signer with
  | some sign => sign result
  | none =>
      hexOf
        (connector.hmac .SHA256 connector.secretOf s!"{timestamp}.{connector.bodyOf result}")

/-- `result?.deliveryId || result?.id || 'unknown'`. -/
def deliveryIdOf (result : Json) : Json :=
  match (result.member? "deliveryId").filter Json.truthy with
  | some deliveryId => deliveryId
  | none => ((result.member? "id").filter Json.truthy).getD (.string "unknown")

def postHeaders (signature : String) : Headers := [
  ("Content-Type", "application/json"),
  ("X-Signature", signature)
]

def fetchHeaders (result : Json) (signature timestamp : String) : Headers :=
  spreadHeaders
    [
      ("Content-Type", "application/json"),
      ("X-Signature", signature),
      ("X-Timestamp", timestamp),
      ("X-Delivery-ID", (deliveryIdOf result).text connector.numberText),
      ("User-Agent", "queueforge/1.0")
    ]
    connector.headers

/-- A dispatch that was aborted has timed out. -/
def fetchFailure (timeoutMs : Number) : Thrown → Thrown
  | .nullish => newTypeError "Cannot read properties of undefined (reading 'name')"
  | error =>
      if error.name = some "AbortError" then
        let message := s!"Webhook dispatch timed out after {connector.numberText timeoutMs}ms"
        .error { builtinError .error "Error" message with statusCode := some 408 }
      else
        error

/-- The status of the response and its body. -/
def transmit (result : Json) (timestamp : String) (timeoutMs : Number)
    : ConnectorProgram (Int × Json) := do
  let signature := connector.signatureOf result timestamp
  let delivered := Json.object [("status", .string "delivered")]
  if connector.posts then
    let response ← awaitConnector (.post connector.endpointOf result (postHeaders signature))
    return ((orInt (response.bind PostedResponse.status) none).getD 200,
      ((response.bind PostedResponse.data).filter Json.truthy).getD delivered)
  else if connector.fetches then
    Program.catchError
      (do
        let response ←
          awaitConnector
            (.fetch connector.endpointOf (connector.fetchHeaders result signature timestamp)
              (connector.bodyOf result))
        let body ← Program.ofResult response.body
        return (response.status, body))
      (fun error => throw (connector.fetchFailure timeoutMs error))
  else
    return (200, delivered)

def isPermanent (statusCode : Int) : Bool :=
  400 ≤ statusCode && statusCode < 500 && statusCode ≠ 408 && statusCode ≠ 429

def resultOf (latencyMs : Int) (response : Int × Json) : ConnectorResult :=
  let success := 200 ≤ response.1 && response.1 < 300
  {
    success
    statusCode := response.1
    latencyMs
    response := some response.2
    error := none
    message :=
      some
        (if success then
          "Webhook payload delivered successfully"
        else
          s!"HTTP {response.1} response from endpoint")
    body := some response.2
    isPermanent := isPermanent response.1
  }

def failureOf (latencyMs : Int) (error : Thrown) : ConnectorResult :=
  let statusCode := (orInt error.statusCode (orInt error.status none)).getD 500
  {
    success := false
    statusCode
    latencyMs
    response := none
    error := some error
    message := error.message
    body := none
    isPermanent := isPermanent statusCode
  }

def execute (result : Json) (timeoutMs : Number := 30000) : ConnectorProgram ConnectorResult := do
  let startTime ← awaitConnector .now
  let sent ← awaitConnector .now
  Program.catchError
    (do
      let response ← connector.transmit result (toISOString sent) timeoutMs
      let now ← awaitConnector .now
      return resultOf (now - startTime) response)
    (fun error => do
      let now ← awaitConnector .now
      if error = .nullish then
        throw (newTypeError "Cannot read properties of undefined (reading 'statusCode')")
      else
        return failureOf (now - startTime) error)

/-- The request that is sent at a time, if any is. -/
def outgoing (result : Json) (sent : Int) : Option ConnectorCall :=
  let timestamp := toISOString sent
  let signature := connector.signatureOf result timestamp
  if connector.posts then
    some (.post connector.endpointOf result (postHeaders signature))
  else if connector.fetches then
    some
      (.fetch connector.endpointOf (connector.fetchHeaders result signature timestamp)
        (connector.bodyOf result))
  else
    none

/-- A call of a dispatch: the clock, or the request of some time. -/
def Dispatches (result : Json) (call : ConnectorCall) : Prop :=
  call = .now ∨ ∃ sent, connector.outgoing result sent = some call

theorem transmit_awaits (result : Json) (sent : Int) (timeoutMs : Number)
    : (connector.transmit result (toISOString sent) timeoutMs).Awaits
        (connector.Dispatches result) := by
  unfold transmit
  split
  case isTrue posts =>
    refine Program.Awaits.bind (Program.Awaits.perform (.inr ⟨sent, ?_⟩)) (fun _ => trivial)
    rw [outgoing, if_pos posts]
  case isFalse silent =>
    split
    case isTrue fetches =>
      refine Program.Awaits.catchError (Program.Awaits.bind ?_ (fun response => ?_))
        (fun _ => trivial)
      · refine Program.Awaits.perform (.inr ⟨sent, ?_⟩)
        rw [outgoing, if_neg silent, if_pos fetches]
      · cases response.body <;> trivial
    case isFalse => trivial

/-- A dispatch sends no other request. -/
theorem execute_awaits (result : Json) (timeoutMs : Number)
    : (connector.execute result timeoutMs).Awaits (connector.Dispatches result) := by
  have clock : (awaitConnector .now).Awaits (connector.Dispatches result) :=
    Program.Awaits.perform (.inl rfl)
  unfold execute
  refine Program.Awaits.bind clock (fun startTime => ?_)
  refine Program.Awaits.bind clock (fun sent => Program.Awaits.catchError ?_ (fun error => ?_))
  · exact Program.Awaits.bind (connector.transmit_awaits result sent timeoutMs)
      (fun _ => Program.Awaits.bind clock (fun _ => trivial))
  · refine Program.Awaits.bind clock (fun _ => ?_)
    split <;> trivial

end WebhookConnector

end QueueForge.Worker
