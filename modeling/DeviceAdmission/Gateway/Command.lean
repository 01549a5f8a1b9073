import DeviceAdmission.Device
import DeviceAdmission.Gateway.Endpoint
import DeviceAdmission.Gateway.Refusal
import DeviceAdmission.Gateway.Settings
import DeviceAdmission.Json.Record

/-!
# What a request asks for

A request is read in full before the service is asked anything: its endpoint, its method, who asks,
the id in its path, the parameters of a page, and its body. What is wrong with it is answered at
once.
-/

namespace DeviceAdmission

inductive Command where
  | health
  | submit (body : Bytes) (signature : Option String)
  | setStatus (tenant : Tenant) (deviceId : String) (status : DeviceStatus)
  | getDevice (tenant : Tenant) (deviceId : String)
  /-- The path is the one that links to other pages repeat. -/
  | listDevices (tenant : Tenant) (path : String) (page : PageRequest)
  | verify (raw : String)
  | revokeToken (tenant : Tenant) (tokenId : String)
  deriving DecidableEq, Repr

/-! ## Who asks -/

/-- The id that the caller gave to a request, for the caller to find it in messages. -/
def requestId? (r : Http.Request) : Option String :=
  (((r.header? "x-request-id").bind Http.headerText?).map Text.trim).filter (!·.isEmpty)

/-- The tenant that a management request is about. -/
def GatewaySettings.tenant (s : GatewaySettings) (r : Http.Request) : Except Refusal Tenant :=
  match r.header? s.managementHeader with
  | none => .ok .default
  | some value =>
    match Http.headerText? value with
    | some name => .ok ⟨Text.trim name⟩
    | none => .error (.badRequest "invalid tenant header")

/-- A text without the word that may introduce a token. -/
def withoutBearer (s : String) : String :=
  if "Bearer ".toList.isPrefixOf s.toList then String.ofList (s.toList.drop 7) else s

/-- The token that a caller presents. -/
def presentedToken? (r : Http.Request) : Option String :=
  (((r.header? "authorization").bind Http.headerText?).map fun s =>
    Text.trim (withoutBearer s)).filter (!·.isEmpty)

/-- The signature that comes with a request. -/
def signature? (r : Http.Request) : Option String :=
  (r.header? "x-devauth-signature").bind Http.headerText?

/-! ## Ids, pages and bodies -/

/-- The id that is written in a path. -/
def pathId (id : String) : Except Http.Response String :=
  match Utf8.decode? (Http.Percent.decode (Utf8.encode id)) with
  | some id => .ok id
  | none => .error (.ofText 400 "Invalid URL: Invalid UTF-8 in \x60id\x60")

/-- The answer to a parameter that is given twice. -/
def parameterRepeated (name : String) : Http.Response :=
  .ofText 400 ("Failed to deserialize query string: duplicate field \x60" ++ name ++ "\x60")

/-- The parameters of a page, each given at most once. Other parameters are passed over. -/
def pageParameters : (page perPage : Option String) → List (String × String) →
    Except Http.Response (Option String × Option String)
  | page, perPage, [] => .ok (page, perPage)
  | page, perPage, (name, value) :: rest =>
    if name = "page" then
      if page.isSome then .error (parameterRepeated name)
      else pageParameters (some value) perPage rest
    else if name = "per_page" then
      if perPage.isSome then .error (parameterRepeated name)
      else pageParameters page (some value) rest
    else pageParameters page perPage rest

/-- The greatest size of a body in bytes. -/
def maxBody : Nat := 2097152

/-- The body of a request, if it is not too large. -/
def wholeBody (r : Http.Request) : Except Http.Response Bytes :=
  if r.body.length ≤ maxBody then .ok r.body
  else .error (.ofText 413 "Failed to buffer the request body: length limit exceeded")

/-- The notation of a change of status. -/
def statusRecord : Json.Record (Option String) where
  name := "struct StatusUpdate"
  blank := none
  fields :=
    [ { key := "status"
        isSet := Option.isSome
        read := fun _ => return some (← Json.Reader.text)
        required := true
        requiredInList := true } ]

/-- The status that a body asks for. -/
def statusOfBody (body : Bytes) : Except Refusal DeviceStatus :=
  match Json.Reader.run statusRecord.read body with
  | .error fault => .error (.badRequest ("failed to decode status data: " ++ fault.message))
  | .ok name =>
    match DeviceStatus.ofName? (name.getD "") with
    | some status => .ok status
    | none => .error (.ofFailure (.invalid .statusUnknown))

/-! ## Reading -/

namespace Command

/-- A refusal as the answer to a request. -/
def refused {α : Type} (requestId : Option String) (x : Except Refusal α) :
    Except Http.Response α :=
  x.mapError fun refusal => (refusal.withRequestId requestId).response

/-- The command of a request to an endpoint, by a method that the endpoint takes. -/
def ofEndpoint (s : GatewaySettings) (r : Http.Request) (target : Http.Target) (e : Endpoint) :
    Except Http.Response Command := do
  let requestId := requestId? r
  match e with
  | .health => pure health
  | .authRequests =>
    let body ← wholeBody r
    pure (submit body (signature? r))
  | .devices =>
    let tenant ← refused none (s.tenant r)
    let (page, perPage) ← pageParameters none none (Http.Form.pairs target.query)
    let page ← refused requestId <|
      (PageRequest.ofQuery page perPage s.defaultPerPage s.maxPerPage).mapError fun fault =>
        .ofFailure (.invalid (.page fault))
    pure (listDevices tenant target.path page)
  | .device id =>
    let tenant ← refused none (s.tenant r)
    pure (getDevice tenant (← pathId id))
  | .deviceStatus id =>
    let tenant ← refused none (s.tenant r)
    let id ← pathId id
    let body ← wholeBody r
    let status ← refused requestId (statusOfBody body)
    pure (setStatus tenant id status)
  | .token id =>
    let tenant ← refused none (s.tenant r)
    pure (revokeToken tenant (← pathId id))
  | .verification =>
    match presentedToken? r with
    | some raw => pure (verify raw)
    | none => .error (Refusal.saying 401 "missing authorization header").response

/-- The command of a request, or the answer that ends it. -/
def ofRequest (s : GatewaySettings) (r : Http.Request) : Except Http.Response Command :=
  let target := Http.Target.ofText r.target
  match Endpoint.ofTarget? target with
  | none => .error (.bare 404)
  | some e =>
    if e.methods.contains r.method then ofEndpoint s r target e else .error e.otherMethod

end Command

end DeviceAdmission
