import QueueForge.Security.WebhookValidator
import QueueForge.Worker.WebhookConnector

/-! Whether a dispatch of `WebhookConnector` is accepted by `WebhookValidator`.
The client posts no timestamp; `fetch` sends a date, of which the validator reads the year and
takes it for the milliseconds of the signing.
-/

namespace QueueForge.Worker

open QueueForge.Async QueueForge.Js QueueForge.Security

/-- The headers a request is sent with. -/
def ConnectorCall.headers : ConnectorCall → Headers
  | now => []
  | post _ _ headers => headers
  | fetch _ headers _ => headers

/-- What a server has under a name in lower case; headers of one name are joined. -/
def receivedHeader (headers : Headers) (name : String) : Option String :=
  match (headers.filter (fun header => toLowerCase header.1 = name)).map Prod.snd with
  | [] => none
  | values => some (", ".intercalate values)

/-- The names under which a validator looks for a signature and its timestamp. -/
def signingHeaders : List String := ["x-signature", "x-hub-signature-256", "x-timestamp"]

/-- A received request has the signing headers it was sent with, in lower case, and the body that
`fetch` was given. How a client writes its body does not matter.
-/
structure Carries (validator : WebhookValidator) (call : ConnectorCall) (request : WebhookRequest)
    : Prop where
  lowered
    : ∀ name ∈ signingHeaders, request.headers.lookup name = receivedHeader call.headers name
  lowerOnly : ∀ name ∈ ["X-Signature", "X-Timestamp"], request.headers.lookup name = none
  body
    : ∀ endpoint headers body,
        call = .fetch endpoint headers body → validator.rawBody request = body

/-- The connector signs by itself, and the destination has no signing headers of its own. -/
structure WebhookConnector.SignsItself (connector : WebhookConnector) : Prop where
  unsigned : connector.signer = none
  untouched : ∀ header ∈ connector.headers, toLowerCase header.1 ∉ signingHeaders

/-- The validator accepts a request at a time. -/
def Accepts (validator : WebhookValidator) (secret : String) (arrival : Int)
    (request : WebhookRequest)
    : Prop :=
  ∃ validated, validator.validateWebhookRequest arrival request secret = .ok validated

/-- Headers that are spread over others leave those of other names alone, by induction on these. -/
theorem receivedHeader_spread {base headers : Headers} {name : String}
    (apart : ∀ header ∈ headers, toLowerCase header.1 ≠ name)
    : receivedHeader (spreadHeaders base headers) name = receivedHeader base name := by
  have added
      : (headers.filter (fun header => (base.lookup header.1).isNone)).filter
            (fun header => toLowerCase header.1 = name)
        = [] := by
    rw [List.filter_eq_nil_iff]
    intro header mem
    simpa using apart header (List.mem_of_mem_filter mem)
  have kept
      : ∀ base : Headers,
          (base.map (fun header => (header.1, (headers.lookup header.1).getD header.2))).filter
              (fun header => toLowerCase header.1 = name)
          = base.filter (fun header => toLowerCase header.1 = name) := by
    intro base
    induction base with
    | nil => rfl
    | cons header rest ih =>
        by_cases named : toLowerCase header.1 = name
        · have missing : headers.lookup header.1 = none := by
            rw [List.lookup_eq_none_iff]
            intro other mem
            refine bne_iff_ne.mpr (fun same => apart other mem ?_)
            rw [← same, named]
          simp [named, missing, ih]
        · simp [named, ih]
  rw [receivedHeader, spreadHeaders, List.filter_append, added, kept, List.append_nil,
    receivedHeader]

theorem secretOf_ne_empty (connector : WebhookConnector) : connector.secretOf ≠ "" :=
  orString_getD_ne_empty connector.secret (by decide)

section
variable {validator : WebhookValidator} {secret endpoint : String} {request : WebhookRequest}

/-- A request by the client has a signature without a timestamp. -/
theorem refuses_post {result : Json} {signature : String} (arrival : Int)
    (carries
      : Carries validator (.post endpoint result (WebhookConnector.postHeaders signature)) request)
    : ¬Accepts validator secret arrival request := by
  have lowered := carries.lowered "x-timestamp" (by decide)
  have unstamped
      : receivedHeader (WebhookConnector.postHeaders signature) "x-timestamp" = none := by
    have first : toLowerCase "Content-Type" ≠ "x-timestamp" := by decide
    have second : toLowerCase "X-Signature" ≠ "x-timestamp" := by decide
    simp [receivedHeader, WebhookConnector.postHeaders, first, second]
  have capital := carries.lowerOnly "X-Timestamp" (by decide)
  have missing : WebhookValidator.timestampOf request.headers = none := by
    rw [WebhookValidator.timestampOf, lowered, capital]
    exact congrArg (orString · none) unstamped
  rintro ⟨validated, accepted⟩
  rw [WebhookValidator.validateWebhookRequest, missing] at accepted
  split at accepted
  · exact nomatch accepted
  · exact nomatch accepted

/-- A request by `fetch` has a signature and its timestamp. -/
theorem receivedHeader_fetch {connector : WebhookConnector} (signs : connector.SignsItself)
    (result : Json) (signature timestamp : String)
    : receivedHeader (connector.fetchHeaders result signature timestamp) "x-signature"
        = some signature
      ∧ receivedHeader (connector.fetchHeaders result signature timestamp) "x-timestamp"
        = some timestamp := by
  have names
      : ["Content-Type", "X-Signature", "X-Timestamp", "X-Delivery-ID", "User-Agent"].map
            toLowerCase
        = ["content-type", "x-signature", "x-timestamp", "x-delivery-id", "user-agent"] := by
    decide
  simp only [List.map_cons, List.map_nil, List.cons.injEq, and_true] at names
  obtain ⟨first, second, third, fourth, fifth⟩ := names
  have apart
      : ∀ name ∈ signingHeaders, ∀ header ∈ connector.headers, toLowerCase header.1 ≠ name := by
    rintro name listed header mem rfl
    exact signs.untouched header mem listed
  constructor
  · rw [WebhookConnector.fetchHeaders, receivedHeader_spread (apart _ (by decide))]
    simp [receivedHeader, first, second, third, fourth, fifth]
  · rw [WebhookConnector.fetchHeaders, receivedHeader_spread (apart _ (by decide))]
    simp [receivedHeader, first, second, third, fourth, fifth]

theorem toISOString_ne_empty {time : Int} (valid : IsMoment time) : toISOString time ≠ "" := by
  intro empty
  have read := parseInt_toISOString valid
  rw [empty] at read
  exact nomatch read

/-- A request by `fetch` is accepted if the year of its date is a number close to the present and
has the digest of the date.
-/
theorem accepts_fetch_iff {connector : WebhookConnector} (signs : connector.SignsItself)
    (shared : validator.verifier.hmac = connector.hmac) (result : Json) {sent arrival : Int} (valid : IsMoment sent) {signature : List UInt8}
    (given : signature ≠ []) {body : String}
    (carries
      : Carries validator
          (.fetch endpoint
            (connector.fetchHeaders result (hexOf signature) (toISOString sent)) body)
          request)
    : Accepts validator connector.secretOf arrival request
      ↔ |arrival - yearOf sent| ≤ 300000
        ∧ connector.hmac validator.verifier.algorithm connector.secretOf
            s!"{yearOf sent}.{body}"
          = signature := by
  have found := receivedHeader_fetch signs result (hexOf signature) (toISOString sent)
  have signed := (carries.lowered "x-signature" (by decide)).trans found.1
  have stamped := (carries.lowered "x-timestamp" (by decide)).trans found.2
  have filled := hexOf_ne_empty given
  have dated := toISOString_ne_empty valid
  have signatureOf
      : (WebhookValidator.signatureOf request.headers).filter (· ≠ "")
        = some (hexOf signature) := by
    rw [WebhookValidator.signatureOf, signed, orString_of_ne_empty filled]
    simp [Option.filter, filled]
  have timestampOf
      : (WebhookValidator.timestampOf request.headers).filter (· ≠ "")
        = some (toISOString sent) := by
    rw [WebhookValidator.timestampOf, stamped, orString_of_ne_empty dated]
    simp [Option.filter, dated]
  have checked :=
    validator.verifier.verifyHeader_iff given dated (secretOf_ne_empty connector) arrival body
      300000
  rw [parseInt_toISOString valid, shared] at checked
  simp only [Option.some.injEq, exists_eq_left'] at checked
  rw [← checked]
  unfold Accepts WebhookValidator.validateWebhookRequest
  simp only [signatureOf, timestampOf, carries.body _ _ _ rfl, Settled.bind_eq_ok]
  exact ⟨fun ⟨_, isValid, accepted, _⟩ => ⟨isValid, accepted⟩,
    fun ⟨isValid, accepted⟩ => ⟨_, isValid, accepted, rfl⟩⟩

end

/-- A request is accepted if it was sent by `fetch`, arrives within five minutes of its year taken
for milliseconds since 1970, and the digest of its year and body is that of its date and body.
-/
theorem accepts_outgoing_iff {connector : WebhookConnector} {validator : WebhookValidator}
    (signs : connector.SignsItself) (shared : validator.verifier.hmac = connector.hmac)
    (sized : connector.hmac.Sized) (result : Json) {sent : Int} (valid : IsMoment sent)
    {call : ConnectorCall} (sends : connector.outgoing result sent = some call)
    {request : WebhookRequest} (carries : Carries validator call request) (arrival : Int)
    : Accepts validator connector.secretOf arrival request
      ↔ connector.posts = false
        ∧ |arrival - yearOf sent| ≤ 300000
        ∧ connector.hmac validator.verifier.algorithm connector.secretOf
            s!"{yearOf sent}.{connector.bodyOf result}"
          = connector.hmac .SHA256 connector.secretOf
            s!"{toISOString sent}.{connector.bodyOf result}" := by
  have signature
      : connector.signatureOf result (toISOString sent)
        = hexOf
          (connector.hmac .SHA256 connector.secretOf
            s!"{toISOString sent}.{connector.bodyOf result}") := by
    rw [WebhookConnector.signatureOf, signs.unsigned]
  have given
      : connector.hmac .SHA256 connector.secretOf
            s!"{toISOString sent}.{connector.bodyOf result}"
        ≠ [] := by
    intro empty
    have length := congrArg List.length empty
    rw [sized] at length
    cases length
  rw [WebhookConnector.outgoing, signature] at sends
  cases path : connector.posts with
  | true =>
      rw [path, if_pos rfl] at sends
      obtain rfl := Option.some.inj sends
      simpa using refuses_post arrival carries
  | false =>
      rw [path, if_neg Bool.false_ne_true] at sends
      split at sends
      · obtain rfl := Option.some.inj sends
        simpa using accepts_fetch_iff signs shared result valid given carries
      · cases sends

/-- Which requests are accepted, and that none is within the allowed clock skew, from seventeen
minutes after the beginning of 1970 on.
-/
theorem accepts_iff {connector : WebhookConnector} {validator : WebhookValidator}
    (signs : connector.SignsItself) (shared : validator.verifier.hmac = connector.hmac)
    (sized : connector.hmac.Sized) (result : Json) {sent : Int} (valid : IsMoment sent)
    {call : ConnectorCall} (sends : connector.outgoing result sent = some call)
    {request : WebhookRequest} (carries : Carries validator call request) (arrival : Int)
    : (Accepts validator connector.secretOf arrival request
        ↔ connector.posts = false
          ∧ |arrival - yearOf sent| ≤ 300000
          ∧ connector.hmac validator.verifier.algorithm connector.secretOf
              s!"{yearOf sent}.{connector.bodyOf result}"
            = connector.hmac .SHA256 connector.secretOf
              s!"{toISOString sent}.{connector.bodyOf result}")
      ∧ (1000000 ≤ sent
        → |arrival - sent| ≤ 300000
        → ¬Accepts validator connector.secretOf arrival request) := by
  have exactly := accepts_outgoing_iff signs shared sized result valid sends carries arrival
  refine ⟨exactly, ?_⟩
  intro later soon accepted
  have year := abs_lt.mp (yearOf_bounds valid)
  have close := abs_le.mp (exactly.mp accepted).2.1
  have skew := abs_le.mp soon
  omega

/-- A destination with a secret, and a digest of a task's status at a time. -/
def webhook (posts : Bool) : WebhookConnector where
  endpoint := some "https://example.com/hooks"
  endpointUrl := none
  secret := some "webhook-signing-secret"
  headers := []
  signer := none
  posts := posts
  fetches := true
  hmac :=
    digestTable [
      ((.SHA256, "webhook-signing-secret",
          "2023-11-14T22:13:20.000Z.\x7b\"taskId\":\"task-1\"\x7d"),
        "68cf172cfbd8abdfd754d2995ec38b8efc06568f9e686033be3e29799d392156")
    ]
  numberText _ := ""

def webhookValidator : WebhookValidator where
  verifier := ⟨(webhook true).hmac, .SHA256⟩
  numberText _ := ""
  parse _ := none

def status : Json := .object [("taskId", .string "task-1")]

/-- The request as it arrives, with the headers its server reads. -/
def arrived (posts : Bool) : WebhookRequest where
  headers :=
    ("x-signature", (webhook posts).signatureOf status "2023-11-14T22:13:20.000Z")
    :: if posts then [] else [("x-timestamp", "2023-11-14T22:13:20.000Z")]
  rawBody := some "\x7b\"taskId\":\"task-1\"\x7d"
  body := none

theorem webhook_signs (posts : Bool) : (webhook posts).SignsItself :=
  ⟨rfl, fun _ mem => nomatch mem⟩

theorem webhook_sized (posts : Bool) : (webhook posts).hmac.Sized :=
  digestTable_sized (by decide +kernel)

theorem webhook_moment : IsMoment 1700000000000 := by
  unfold IsMoment
  decide

/-- What is sent at the time of its arrival. -/
def dispatched (posts : Bool) : ConnectorCall :=
  ((webhook posts).outgoing status 1700000000000).getD .now

theorem dispatched_sends (posts : Bool)
    : (webhook posts).outgoing status 1700000000000 = some (dispatched posts) := by
  cases posts <;> rfl

theorem dispatched_carries (posts : Bool)
    : Carries webhookValidator (dispatched posts) (arrived posts) := by
  refine ⟨?_, ?_, ?_⟩
  · cases posts <;> decide +kernel
  · cases posts <;> decide +kernel
  · intro endpoint headers body same
    cases posts with
    | true => exact nomatch same
    | false =>
        obtain ⟨_, _, rfl⟩ := ConnectorCall.fetch.inj same
        decide +kernel

/-- Five minutes of a later year are far from the year taken for milliseconds. -/
theorem accepts_iff_webhook
    : 1000000 ≤ (1700000000000 : Int)
      ∧ |(1700000000000 : Int) - 1700000000000| ≤ 300000
      ∧ ¬Accepts webhookValidator (webhook false).secretOf 1700000000000 (arrived false) := by
  have exactly :=
    accepts_iff (webhook_signs false) rfl (webhook_sized false) status webhook_moment
      (dispatched_sends false) (dispatched_carries false) 1700000000000
  exact ⟨by decide, by decide, exactly.2 (by decide) (by decide)⟩

/-- Neither way of sending is accepted at the moment of sending. -/
theorem dispatches_refused
    : (¬Accepts webhookValidator (webhook true).secretOf 1700000000000 (arrived true))
      ∧ ¬Accepts webhookValidator (webhook false).secretOf 1700000000000 (arrived false) := by
  refine ⟨?_, ?_⟩
  · rw [accepts_outgoing_iff (webhook_signs true) rfl (webhook_sized true) status webhook_moment
      (dispatched_sends true) (dispatched_carries true)]
    decide
  · rw [accepts_outgoing_iff (webhook_signs false) rfl (webhook_sized false) status webhook_moment
      (dispatched_sends false) (dispatched_carries false)]
    decide +kernel

end QueueForge.Worker
