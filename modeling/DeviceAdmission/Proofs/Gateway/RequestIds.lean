import DeviceAdmission.Proofs.Results
import DeviceAdmission.Proofs.Gateway.Discretion

/-!
# Request ids in error documents

A caller may give its request an id, to find the request again in messages. An error document tells
the id, whether the request could not be read, the service refused it or the store failed. Two
refusals leave it out: that of a tenant header which is no text, and that of a caller who presents
no token to be verified.
-/

namespace DeviceAdmission

/-! ## Ids and callers -/

/-- Whether a request carries an id: its header for one is readable, and the id is what stands
there between blanks. -/
def Http.Request.Carries (r : Http.Request) (id : String) : Prop :=
  ∃ value text, r.header? "x-request-id" = some value ∧ Http.headerText? value = some text ∧
    id = Text.trim text ∧ id ≠ ""

theorem requestId?_eq_some_iff {r : Http.Request} {id : String} :
    requestId? r = some id ↔ r.Carries id := by
  rw [requestId?, Option.filter_eq_some_iff, Option.map_eq_some_iff]
  constructor
  · rintro ⟨⟨text, read, rfl⟩, filled⟩
    obtain ⟨value, found, readable⟩ := Option.bind_eq_some_iff.mp read
    refine ⟨value, text, found, readable, rfl, ?_⟩
    simpa [String.isEmpty_iff] using filled
  · rintro ⟨value, text, found, readable, rfl, filled⟩
    refine ⟨⟨text, Option.bind_eq_some_iff.mpr ⟨value, found, readable⟩, rfl⟩, ?_⟩
    simpa [String.isEmpty_iff] using filled

/-- Whether a request to an endpoint is refused for what its headers say of its caller: its tenant
header is no text, or it presents no token to be verified. -/
def GatewaySettings.Rebuffs (s : GatewaySettings) (r : Http.Request) : Endpoint → Prop
  | .health | .authRequests => False
  | .devices | .device _ | .deviceStatus _ | .token _ =>
    ∃ value, r.header? s.managementHeader = some value ∧ Http.headerText? value = none
  | .verification => presentedToken? r = none

/-- A request has a tenant unless its tenant header is no text. -/
theorem GatewaySettings.exists_tenant {s : GatewaySettings} {r : Http.Request}
    (readable : ¬∃ value, r.header? s.managementHeader = some value ∧
      Http.headerText? value = none) : ∃ tenant, s.tenant r = .ok tenant := by
  cases found : r.header? s.managementHeader with
  | none => exact ⟨.default, by simp only [tenant, found]⟩
  | some value =>
      cases read : Http.headerText? value with
      | none => exact absurd ⟨value, found, read⟩ readable
      | some name => exact ⟨⟨Text.trim name⟩, by simp only [tenant, found, read]⟩

theorem GatewaySettings.tenant_eq_error {s : GatewaySettings} {r : Http.Request}
    (unreadable : ∃ value, r.header? s.managementHeader = some value ∧
      Http.headerText? value = none) :
    s.tenant r = .error (.badRequest "invalid tenant header") := by
  obtain ⟨value, found, read⟩ := unreadable
  simp only [tenant, found, read]

/-! ## Error documents -/

/-- Whether a response tells the id, if there is one, should it be an error with a document. -/
def Http.Response.Tells (id? : Option String) (response : Http.Response) : Prop :=
  ∀ v, 400 ≤ response.status → response.body = .json v →
    ∃ message, v = Refusal.document message id?

namespace Http.Response

variable {id? : Option String} {response : Http.Response}

theorem tells_of_lt (succeeds : response.status < 400) : response.Tells id? :=
  fun _ failed => absurd succeeds (Nat.not_lt.mpr failed)

theorem tells_bare (status : Nat) : (bare status).Tells id? := by
  rintro v - ⟨⟩

theorem tells_ofText (status : Nat) (s : String) : (ofText status s).Tells id? := by
  rintro v - ⟨⟩

/-- A refusal tells the id that was put into it. -/
theorem tells_refusal (refusal : Refusal) (id? : Option String) :
    (refusal.withRequestId id?).response.Tells id? := by
  intro v _ body
  cases told : refusal.message with
  | none =>
      simp only [Refusal.response, Refusal.withRequestId, told] at body
      cases body
  | some message =>
      simp only [Refusal.response, Refusal.withRequestId, told] at body
      cases body
      exact ⟨message, rfl⟩

/-- What is sent tells the id if the response does. -/
theorem Tells.send (tells : response.Tells id?) (method : String) :
    (Gateway.send method response).Tells id? := by
  intro v failed body
  unfold Gateway.send at failed body
  split at body
  · cases body
  · rename_i whole
    rw [if_neg whole] at failed
    exact tells v failed body

end Http.Response

/-- The document of a refusal has a field for the id exactly if there is one. -/
theorem Refusal.get?_document (message : String) (id? : Option String) :
    (document message id?).get? "request_id" = id?.map .text := by
  cases id? with
  | none => rfl
  | some id => rfl

/-! ## Reading -/

namespace Command

open Http.Response

variable {s : GatewaySettings} {r : Http.Request} {target : Http.Target} {e : Endpoint}
variable {response : Http.Response}

/-- At an endpoint that takes its method, a request is read as the endpoint says. -/
theorem ofRequest_eq (s : GatewaySettings)
    (names : Endpoint.ofTarget? (.ofText r.target) = some e) (takes : r.method ∈ e.methods) :
    ofRequest s r = ofEndpoint s r (.ofText r.target) e := by
  simp only [ofRequest, names, List.contains_iff_mem.mpr takes, if_true]

theorem tells_of_refused {α : Type} {id? : Option String} {x : Except Refusal α}
    (failed : refused id? x = .error response) : response.Tells id? := by
  obtain ⟨refusal, -, rfl⟩ := eq_error_of_mapError failed
  exact tells_refusal refusal id?

theorem tells_of_wholeBody {id? : Option String} (failed : wholeBody r = .error response) :
    response.Tells id? := by
  unfold wholeBody at failed
  split at failed
  · cases failed
  · cases failed
    exact tells_ofText _ _

theorem tells_of_pathId {id : String} {id? : Option String}
    (failed : pathId id = .error response) : response.Tells id? := by
  unfold pathId at failed
  split at failed
  · cases failed
  · cases failed
    exact tells_ofText _ _

/-- The parameters of a page are at fault only where one of them is given twice. -/
theorem pageParameters_eq_error {page perPage : Option String} {parameters : List (String × String)}
    (failed : pageParameters page perPage parameters = .error response) :
    ∃ name, response = parameterRepeated name := by
  fun_induction pageParameters page perPage parameters with
  | case1 => cases failed
  | case2 =>
      cases failed
      exact ⟨_, rfl⟩
  | case3 _ _ _ _ _ ih => exact ih failed
  | case4 =>
      cases failed
      exact ⟨_, rfl⟩
  | case5 _ _ _ _ _ _ ih => exact ih failed
  | case6 _ _ _ _ _ _ _ ih => exact ih failed

/-- A request that is refused for its caller is not told its id. -/
theorem ofEndpoint_of_rebuffs (target : Http.Target) (rebuffs : s.Rebuffs r e) :
    ∃ refusal : Refusal,
      ofEndpoint s r target e = .error (refusal.withRequestId none).response := by
  cases e with
  | health => cases rebuffs
  | authRequests => cases rebuffs
  | verification =>
      have missing : presentedToken? r = none := rebuffs
      simp only [ofEndpoint, missing]
      exact ⟨.saying 401 _, rfl⟩
  | _ =>
      simp only [ofEndpoint, GatewaySettings.tenant_eq_error rebuffs]
      exact ⟨.badRequest _, rfl⟩

/-- Any other request that is answered at once is told its id. -/
theorem tells_of_ofEndpoint (admits : ¬s.Rebuffs r e)
    (failed : ofEndpoint s r target e = .error response) : response.Tells (requestId? r) := by
  cases e with
  | health => cases failed
  | authRequests =>
      simp only [ofEndpoint, bind_eq_error_iff] at failed
      rcases failed with large | ⟨body, -, ⟨⟩⟩
      exact tells_of_wholeBody large
  | verification =>
      cases presented : presentedToken? r with
      | none => exact absurd presented admits
      | some raw =>
          simp only [ofEndpoint, presented] at failed
          cases failed
  | devices =>
      obtain ⟨tenant, known⟩ := GatewaySettings.exists_tenant admits
      simp only [ofEndpoint, known, bind_eq_error_iff] at failed
      rcases failed with ⟨⟨⟩⟩ | ⟨_, -, repeated | ⟨_, -, refused | ⟨_, -, ⟨⟩⟩⟩⟩
      · obtain ⟨name, rfl⟩ := pageParameters_eq_error repeated
        exact tells_ofText _ _
      · exact tells_of_refused refused
  | device id =>
      obtain ⟨tenant, known⟩ := GatewaySettings.exists_tenant admits
      simp only [ofEndpoint, known, bind_eq_error_iff] at failed
      rcases failed with ⟨⟨⟩⟩ | ⟨_, -, unread | ⟨_, -, ⟨⟩⟩⟩
      exact tells_of_pathId unread
  | deviceStatus id =>
      obtain ⟨tenant, known⟩ := GatewaySettings.exists_tenant admits
      simp only [ofEndpoint, known, bind_eq_error_iff] at failed
      rcases failed with
        ⟨⟨⟩⟩ | ⟨_, -, unread | ⟨_, -, large | ⟨_, -, refused | ⟨_, -, ⟨⟩⟩⟩⟩⟩
      · exact tells_of_pathId unread
      · exact tells_of_wholeBody large
      · exact tells_of_refused refused
  | token id =>
      obtain ⟨tenant, known⟩ := GatewaySettings.exists_tenant admits
      simp only [ofEndpoint, known, bind_eq_error_iff] at failed
      rcases failed with ⟨⟨⟩⟩ | ⟨_, -, unread | ⟨_, -, ⟨⟩⟩⟩
      exact tells_of_pathId unread

end Command

/-! ## Answering -/

namespace Gateway

open Http.Response

variable {g : Gateway} {r : Http.Request} {ids : FreshIds} {w : World} {e : Endpoint}

theorem status_send (method : String) (response : Http.Response) :
    (send method response).status = response.status := by
  unfold send
  split
  · rfl
  · rfl

/-- An action is answered with its value, or with its failure and the id. -/
theorem tells_answer {α : Type} (id? : Option String) (x : Action α) {write : α → Http.Response}
    (succeeds : ∀ a, (write a).status < 400) (w : World) : (answer id? x write w).1.Tells id? := by
  unfold answer
  cases x.run w with
  | mk result w' =>
      cases result with
      | ok a => exact tells_of_lt (succeeds a)
      | error f => exact tells_refusal (.ofFailure f) id?

theorem tells_perform (g : Gateway) (ids : FreshIds) (id? : Option String) (command : Command)
    (w : World) : (g.perform ids id? command w).1.Tells id? := by
  unfold perform
  cases command with
  | health => exact tells_of_lt (by simp [Http.Response.ofJson])
  | submit body signature => exact tells_answer id? _ (fun _ => by simp [tokenResponse]) w
  | setStatus tenant deviceId status =>
      exact tells_answer id? _ (fun _ => by simp [Http.Response.bare]) w
  | getDevice tenant deviceId =>
      exact tells_answer id? _ (fun _ => by simp [Http.Response.ofJson]) w
  | listDevices tenant path page =>
      exact tells_answer id? _ (fun _ => by simp [pageResponse, Http.Response.ofJson]) w
  | verify raw => exact tells_answer id? _ (fun _ => by simp [Http.Response.bare]) w
  | revokeToken tenant tokenId =>
      exact tells_answer id? _ (fun _ => by simp [Http.Response.bare]) w

theorem tells_handle (names : Endpoint.ofTarget? (.ofText r.target) = some e)
    (takes : r.method ∈ e.methods) (admits : ¬g.settings.Rebuffs r e) :
    (g.handle ids r w).1.Tells (requestId? r) := by
  unfold handle
  rw [Command.ofRequest_eq g.settings names takes]
  cases read : Command.ofEndpoint g.settings r (.ofText r.target) e with
  | ok command => exact (tells_perform g ids (requestId? r) command w).send r.method
  | error response => exact (Command.tells_of_ofEndpoint admits read).send r.method

theorem tells_handle_of_rebuffs (names : Endpoint.ofTarget? (.ofText r.target) = some e)
    (takes : r.method ∈ e.methods) (rebuffs : g.settings.Rebuffs r e) :
    (g.handle ids r w).1.Tells none := by
  obtain ⟨refusal, read⟩ := Command.ofEndpoint_of_rebuffs (.ofText r.target) rebuffs
  unfold handle
  rw [Command.ofRequest_eq g.settings names takes, read]
  exact (tells_refusal refusal none).send r.method

/-- An error document tells the id of its request. For every request to an endpoint by a method
that it takes, in every world, whichever calls of the store fail: if the response is an error with a
document, the document has the field for the id exactly when the request carries an id, and its
value is that id. Only where the caller itself is refused, the field is left out. -/
theorem requestId_told {v : Json.Value} (names : Endpoint.ofTarget? (.ofText r.target) = some e)
    (takes : r.method ∈ e.methods) (failed : 400 ≤ (g.handle ids r w).1.status)
    (body : (g.handle ids r w).1.body = .json v) :
    (¬g.settings.Rebuffs r e →
        ∀ x, v.get? "request_id" = some x ↔ ∃ id, r.Carries id ∧ x = .text id) ∧
      (g.settings.Rebuffs r e → v.get? "request_id" = none) := by
  constructor
  · intro admits x
    obtain ⟨message, rfl⟩ := tells_handle names takes admits v failed body
    rw [Refusal.get?_document, Option.map_eq_some_iff]
    constructor
    · rintro ⟨id, carried, rfl⟩
      exact ⟨id, requestId?_eq_some_iff.mp carried, rfl⟩
    · rintro ⟨id, carried, rfl⟩
      exact ⟨id, requestId?_eq_some_iff.mpr carried, rfl⟩
  · intro rebuffs
    obtain ⟨message, rfl⟩ := tells_handle_of_rebuffs names takes rebuffs v failed body
    rw [Refusal.get?_document]
    rfl

end Gateway

namespace Sample

/-- A request for a device of a tenant, with an id. -/
def inquiry (tenant : Bytes) : Http.Request where
  method := "GET"
  target := "/api/management/v1/devauth/devices/d"
  headers := [("x-request-id", Utf8.encode " req-42 "), ("x-tenant-id", tenant)]
  body := []

/-- A request to verify a token that is not presented, with an id. -/
def emptyHanded : Http.Request where
  method := "POST"
  target := "/api/internal/v1/devauth/tokens/verify"
  headers := [("x-request-id", Utf8.encode "req-43")]
  body := []

/-- A world in which every call of the store fails. -/
def broken : World :=
  { World.quiet (.empty .memory) (.ofSeconds 100) 100 with
    interference := fun _ _ => ⟨[], .fails (.medium "disk on fire")⟩ }

theorem carries_inquiry (tenant : Bytes) : (inquiry tenant).Carries "req-42" := by
  refine ⟨Utf8.encode " req-42 ", " req-42 ", ?_, by decide +kernel, by decide +kernel, by decide⟩
  simp [Http.Request.header?, inquiry]

/-- A failure of the store is told with the id of the request. -/
theorem requestId_told_inquiry :
    ∃ v, (gateway.handle ⟨"e", "t"⟩ (inquiry (Utf8.encode "acme")) broken).1.body = .json v ∧
      v.get? "request_id" = some (.text "req-42") := by
  have body : (gateway.handle ⟨"e", "t"⟩ (inquiry (Utf8.encode "acme")) broken).1.body =
      .json (Refusal.document "internal error" (some "req-42")) := rfl
  have told := Gateway.requestId_told (e := .device "d") (by decide +kernel) (by decide)
    (by decide +kernel) body
  refine ⟨_, body, (told.1 ?_ _).mpr ⟨"req-42", carries_inquiry _, rfl⟩⟩
  rintro ⟨value, found, unread⟩
  cases found
  revert unread
  decide +kernel

/-- Neither a tenant header that is no text nor a missing token is told with the id of the
request. -/
theorem requestId_left_out :
    (Endpoint.ofTarget? (.ofText (inquiry [255]).target) = some (.device "d") ∧
        (inquiry [255]).method ∈ (Endpoint.device "d").methods ∧
        (inquiry [255]).Carries "req-42" ∧
        (gateway.handle ⟨"e", "t"⟩ (inquiry [255]) broken).1.status = 400 ∧
        ∃ v, (gateway.handle ⟨"e", "t"⟩ (inquiry [255]) broken).1.body = .json v ∧
          v.get? "request_id" = none) ∧
      Endpoint.ofTarget? (.ofText emptyHanded.target) = some .verification ∧
      emptyHanded.method ∈ Endpoint.verification.methods ∧ emptyHanded.Carries "req-43" ∧
      (gateway.handle ⟨"e", "t"⟩ emptyHanded broken).1.status = 401 ∧
      ∃ v, (gateway.handle ⟨"e", "t"⟩ emptyHanded broken).1.body = .json v ∧
        v.get? "request_id" = none := by
  constructor
  · exact ⟨by decide +kernel, by decide, carries_inquiry _, by decide +kernel,
      .object [("error", .text "invalid tenant header")], rfl, rfl⟩
  · exact ⟨by decide +kernel, by decide,
      ⟨Utf8.encode "req-43", "req-43", rfl, by decide +kernel, by decide +kernel, by decide⟩,
      by decide +kernel, .object [("error", .text "missing authorization header")], rfl, rfl⟩

end Sample

end DeviceAdmission
