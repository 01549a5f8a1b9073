import DeviceAdmission.Proofs.Gateway.RequestIds
import DeviceAdmission.Proofs.Service.Pages
import DeviceAdmission.Proofs.Service.Quiet
import DeviceAdmission.Proofs.Service.Races

/-!
# Requests that change nothing

Where nobody interferes, a request that is refused leaves the store as it met it, and so does one
that only reads. What may change the store is a status that was set, a token that was revoked, and a
submission that got past its checks: the device is registered before it is refused, so such a
submission may have an effect although it is told that it is not entitled, or that something went
wrong inside.
-/

namespace DeviceAdmission

/-! ## Calls that find nothing -/

namespace Store

variable {s s' : Store} {tenant : Tenant} {id : String}

/-- A status that is set for no device changes nothing. -/
theorem eq_of_updateStatus_false {status : DeviceStatus} {now : Instant}
    (answer : s.run (.updateStatus tenant id status now) = (.ok false, s')) : s' = s := by
  cases s with
  | memory m =>
      simp only [run, MemoryStore.run, MemoryStore.updateStatus] at answer
      cases found : m.device? tenant id with
      | none =>
          rw [found] at answer
          cases answer
          rfl
      | some device =>
          rw [found] at answer
          cases answer
  | tables t =>
      simp only [run, TableStore.run, TableStore.sure, TableStore.updateStatus] at answer
      obtain ⟨known, left⟩ := Prod.mk.inj answer
      rw [← left, map_ite_eq_self (Except.ok.inj known)]

/-- A revocation that finds no token changes nothing. -/
theorem eq_of_revokeToken_false
    (answer : s.run (.revokeToken tenant id) = (.ok false, s')) : s' = s := by
  cases s with
  | memory m =>
      simp only [run, MemoryStore.run, MemoryStore.revokeToken] at answer
      cases found : m.token? tenant id with
      | none =>
          rw [found] at answer
          cases answer
          rfl
      | some token =>
          rw [found] at answer
          cases answer
  | tables t =>
      simp only [run, TableStore.run, TableStore.sure, TableStore.revokeToken] at answer
      obtain ⟨known, left⟩ := Prod.mk.inj answer
      rw [← left, map_ite_eq_self (Except.ok.inj known)]

/-- A look that does not pass ends with a reticent failure. -/
theorem isReticent_of_look {e : Failure} (failed : s.look tenant id = .error e) :
    e.IsReticent := by
  unfold look at failed
  split at failed
  · split at failed
    · cases failed
    · cases failed
      exact .inl rfl
  · cases failed
    exact .inl rfl
  · cases failed
    exact .inr rfl

end Store

/-! ## Operations that change all or nothing -/

namespace Action

variable {α : Type} {x : Action α} {w : World} {now : Instant} {wall : Int} {s : Store}

/-- Where nobody interferes, the action leaves the store unless it succeeds. -/
def AllOrNothing (x : Action α) (now : Instant) (wall : Int) (s : Store) : Prop :=
  ∃ r s', x.Ends now wall s r s' ∧ ∀ e, r = .error e → s' = s

/-- How an action ends where nobody interferes is how it ends in any calm world. -/
theorem Ends.run_of_calm {r : Except Failure α} {s' : Store}
    (ends : x.Ends w.now w.wallSeconds w.store r s') (calm : w.IsCalm) :
    (x.run w).1 = r ∧ (x.run w).2.store = s' := by
  have quiet : w = quietWorld w.now w.wallSeconds w.store w.calls := by
    have none : w.interference = fun _ _ => .none := funext fun earlier => funext (calm earlier)
    cases w
    cases none
    rfl
  obtain ⟨calls, ran⟩ := ends w.calls
  rw [← quiet] at ran
  rw [ran]
  exact ⟨rfl, rfl⟩

end Action

namespace Admission

variable {now : Instant} {s : Store} {tenant : Tenant} {deviceId : String}

/-- A status is set for no device where none has the tenant and id. -/
theorem ends_setStatus_unknown (a : Admission) (status : DeviceStatus) (now : Instant)
    (wall : Int) (absent : s.devices.any (DeviceEntry.isDevice tenant deviceId) = false) :
    (a.setStatus tenant deviceId status).Ends now wall s (.error .deviceNotFound) s := by
  have answered := Store.run_updateStatus s tenant deviceId status now
  rw [absent] at answered
  have left := Store.eq_of_updateStatus_false (Prod.ext answered rfl)
  have answer : s.run (.updateStatus tenant deviceId status now) = (.ok false, s) :=
    Prod.ext answered left
  exact (Action.ends_now s).bind ((Action.ends_call answer).bind
    (Action.ends_fail .deviceNotFound s))

/-- Where a device has the tenant and id, its status is set and no other device changes. -/
theorem exists_ends_setStatus_known (a : Admission) (status : DeviceStatus) (now : Instant)
    (wall : Int) (known : s.devices.any (DeviceEntry.isDevice tenant deviceId) = true) :
    ∃ s', (a.setStatus tenant deviceId status).Ends now wall s (.ok ()) s' ∧
      s'.devices = DeviceEntry.changeWhere (DeviceEntry.isDevice tenant deviceId)
        (DeviceEntry.withStatus status (s.kind.kept 6 now)) s.devices := by
  have answered := Store.run_updateStatus s tenant deviceId status now
  have devices := Store.devices_updateStatus s tenant deviceId status now
  rw [known] at answered
  generalize written : (s.run (.updateStatus tenant deviceId status now)).2 = s₁ at devices
  have changed : ∃ count s₂,
      (a.authority.onStatusChanged tenant deviceId status).Ends now wall s₁ (.ok count) s₂ ∧
        s₂.devices = s₁.devices := by
    unfold Authority.onStatusChanged
    split
    · exact ⟨_, _, Action.ends_call
        (Prod.ext (Store.run_revokeDeviceTokens s₁ tenant deviceId) rfl),
        (Store.sameDevices_run s₁ (c := .revokeDeviceTokens tenant deviceId) rfl).devices⟩
    · exact ⟨0, s₁, Action.ends_pure 0 s₁, rfl⟩
  obtain ⟨count, s₂, ends, same⟩ := changed
  exact ⟨s₂, (Action.ends_now s).bind ((Action.ends_call (Prod.ext answered written)).bind
    (ends.bind (Action.ends_pure () s₂))), same.trans devices⟩

/-- Where nobody interferes, the status of a device is set, or the device is not found and the store
is left. -/
theorem allOrNothing_setStatus (a : Admission) (tenant : Tenant) (deviceId : String)
    (status : DeviceStatus) (now : Instant) (wall : Int) (s : Store) :
    (a.setStatus tenant deviceId status).AllOrNothing now wall s := by
  cases known : s.devices.any (DeviceEntry.isDevice tenant deviceId) with
  | false => exact ⟨_, s, a.ends_setStatus_unknown status now wall known, fun _ _ => rfl⟩
  | true =>
      obtain ⟨s', ends, -⟩ := a.exists_ends_setStatus_known status now wall known
      exact ⟨.ok (), s', ends, nofun⟩

/-- Where nobody interferes, a token is revoked, or it is not found and the store is left. -/
theorem allOrNothing_revokeToken (a : Admission) (tenant : Tenant) (tokenId : String)
    (now : Instant) (wall : Int) (s : Store) :
    (a.revokeToken tenant tokenId).AllOrNothing now wall s := by
  have answers := Store.run_revokeToken s tenant tokenId
  cases answer : s.run (.revokeToken tenant tokenId) with
  | mk result s₁ =>
      rw [answer] at answers
      cases answers
      cases known : s.tokens.any (TokenEntry.isToken tenant tokenId) with
      | false =>
          rw [known] at answer
          have left := Store.eq_of_revokeToken_false answer
          exact ⟨_, s₁, (Action.ends_call answer).bind (Action.ends_fail .tokenNotFound s₁),
            fun _ _ => left⟩
      | true =>
          rw [known] at answer
          exact ⟨.ok (), s₁, (Action.ends_call answer).bind (Action.ends_pure () s₁), nofun⟩

theorem idle_verify (a : Admission) (raw : String) (now : Instant) (wall : Int) (s : Store) :
    (a.verify raw).Idle now wall s :=
  a.authority.idle_verify (Text.trim raw) now wall s

end Admission

/-! ## Why a submission fails -/

namespace Authority

variable {a : Authority} {tokenId deviceId : String} {tenant : Tenant} {w w' : World} {e : Failure}

theorem Looked.isReticent (looked : Looked w tenant deviceId (.error e) w') : e.IsReticent := by
  rcases looked.ends with ended | ⟨f, ended, named⟩
  · exact Store.isReticent_of_look ended.symm
  · cases ended
    exact Failure.isReticent_of_call? named

/-- An issuance that fails does so reticently, or because no token could be minted. -/
theorem IssuePath.isReticent_or_mint (path : a.IssuePath tokenId tenant deviceId w (.error e) w') :
    e.IsReticent ∨ a.mint tokenId tenant deviceId w.now = .error e := by
  cases path with
  | refused first => exact .inl first.isReticent
  | notMinted first failed => exact .inr failed
  | stopped first minted called =>
      exact .inl (Failure.isReticent_of_call? (Action.call?_of_call (congrArg Prod.fst called)))
  | left first minted called second revoked =>
      exact .inl (Failure.isReticent_of_call? (Action.call?_of_call (congrArg Prod.fst revoked)))
  | withdrawn first minted called second revoked => exact .inl second.isReticent

end Authority

namespace Admission

variable {s : Admission} {ids : FreshIds} {body : Bytes} {signature : Option String}
variable {w w' : World} {e : Failure}

theorem LookUpPath.isReticent {newId : String} {tenant : Tenant} {request : AuthRequest}
    (path : s.LookUpPath newId tenant request w (.error e) w') : e.IsReticent := by
  cases path with
  | stopped called =>
      exact Failure.isReticent_of_call? (Action.call?_of_call (congrArg Prod.fst called))
  | refused called keyNe fixed => exact .inl rfl
  | unrotated called keyNe accepted set ends =>
      rcases ends with rfl | ⟨-, rfl⟩
      · exact Failure.isReticent_of_call? (Action.call?_of_call (congrArg Prod.fst set))
      · exact .inl rfl

/-- A request that fails is refused by a check, which leaves the world, or it fails reticently, or
because no token could be minted. -/
theorem GrantPath.of_error (path : s.GrantPath ids body signature w (.error e) w') :
    w' = w ∨ e.IsReticent ∨
      ∃ tenant deviceId, s.authority.mint ids.token tenant deviceId w.now = .error e := by
  cases path with
  | unchecked failed => exact .inl rfl
  | refused checked lookedUp => exact .inr (.inl lookedUp.isReticent)
  | issued checked lookedUp issued =>
      rcases issued.isReticent_or_mint with reticent | failed
      · exact .inr (.inl reticent)
      · rw [lookedUp.sameSetting.now] at failed
        exact .inr (.inr ⟨_, _, failed⟩)

end Admission

/-! ## What requests ask for -/

/-- Whether a request is a submission by its path and method. -/
def Http.Request.Applies (r : Http.Request) : Prop :=
  Endpoint.ofTarget? (.ofText r.target) = some .authRequests ∧ r.method = "POST"

/-- Whether an endpoint only shows or checks what is stored. -/
def Endpoint.IsReadOnly : Endpoint → Prop
  | .health | .devices | .device _ | .verification => True
  | .authRequests | .deviceStatus _ | .token _ => False

/-- The commands that a request may be read as at an endpoint. -/
inductive Command.Serves (r : Http.Request) : Endpoint → Command → Prop where
  | health : Serves r .health .health
  | submit : Serves r .authRequests (.submit r.body (signature? r))
  | listDevices {tenant : Tenant} {path : String} {page : PageRequest} :
      Serves r .devices (.listDevices tenant path page)
  | getDevice {id deviceId : String} {tenant : Tenant} :
      Serves r (.device id) (.getDevice tenant deviceId)
  | setStatus {id deviceId : String} {tenant : Tenant} {status : DeviceStatus} :
      Serves r (.deviceStatus id) (.setStatus tenant deviceId status)
  | revokeToken {id tokenId : String} {tenant : Tenant} :
      Serves r (.token id) (.revokeToken tenant tokenId)
  | verify {raw : String} : Serves r .verification (.verify raw)

/-- A request is read as a command of its endpoint. -/
theorem Command.exists_serves {settings : GatewaySettings} {r : Http.Request} {command : Command}
    (read : ofRequest settings r = .ok command) :
    ∃ e, Endpoint.ofTarget? (.ofText r.target) = some e ∧ r.method ∈ e.methods ∧
      Serves r e command := by
  cases names : Endpoint.ofTarget? (.ofText r.target) with
  | none =>
      simp only [ofRequest, names] at read
      cases read
  | some e =>
      by_cases takes : r.method ∈ e.methods
      · refine ⟨e, rfl, takes, ?_⟩
        cases e with
        | authRequests =>
            rw [submits_of_endpoint names read]
            exact .submit
        | verification =>
            rw [ofRequest_eq settings names takes] at read
            cases presented : presentedToken? r with
            | none =>
                simp only [ofEndpoint, presented] at read
                cases read
            | some raw =>
                simp only [ofEndpoint, presented] at read
                cases read
                exact .verify
        | health =>
            rw [ofRequest_eq settings names takes] at read
            cases read
            exact .health
        | devices =>
            rw [ofRequest_eq settings names takes] at read
            simp only [ofEndpoint, bind_eq_ok_iff] at read
            obtain ⟨tenant, -, parameters, -, page, -, ⟨⟩⟩ := read
            exact .listDevices
        | device id =>
            rw [ofRequest_eq settings names takes] at read
            simp only [ofEndpoint, bind_eq_ok_iff] at read
            obtain ⟨tenant, -, deviceId, -, ⟨⟩⟩ := read
            exact .getDevice
        | deviceStatus id =>
            rw [ofRequest_eq settings names takes] at read
            simp only [ofEndpoint, bind_eq_ok_iff] at read
            obtain ⟨tenant, -, deviceId, -, body, -, status, -, ⟨⟩⟩ := read
            exact .setStatus
        | token id =>
            rw [ofRequest_eq settings names takes] at read
            simp only [ofEndpoint, bind_eq_ok_iff] at read
            obtain ⟨tenant, -, tokenId, -, ⟨⟩⟩ := read
            exact .revokeToken
      · have other : e.methods.contains r.method = false := by
          simpa using takes
        simp only [ofRequest, names, other, Bool.false_eq_true, if_false] at read
        cases read

/-! ## The gateway -/

namespace Gateway

variable {g : Gateway} {ids : FreshIds} {r : Http.Request} {w : World} {response : Http.Response}

/-- The responses that may come with a change of the store. -/
inductive MayChange (g : Gateway) (ids : FreshIds) (r : Http.Request) (w : World)
    (response : Http.Response) : Prop where
  | statusSet {id : String}
      (names : Endpoint.ofTarget? (.ofText r.target) = some (.deviceStatus id))
      (method : r.method = "PUT") (status : response.status = 204)
  | tokenRevoked {id : String}
      (names : Endpoint.ofTarget? (.ofText r.target) = some (.token id))
      (method : r.method = "DELETE") (status : response.status = 204)
  | granted (applies : r.Applies) (status : response.status = 200)
  | notEntitled (applies : r.Applies) (status : response.status = 401)
      (body : response.body = .json (Refusal.document "unauthorized" (requestId? r)))
  /-- A token that an accepted device should get could not be signed. -/
  | notMinted {tenant : Tenant} {deviceId : String} {e : Failure} (applies : r.Applies)
      (status : response.status = 500)
      (failed : g.service.authority.mint ids.token tenant deviceId w.now = .error e)
  /-- A call of the store failed. -/
  | failed {e : Failure} (applies : r.Applies) (status : response.status = 500)
      (ended : ((g.service.submit ids r.body (signature? r)).run w).1 = .error e)
      (called : e.call?.isSome = true)

theorem MayChange.status_mem (changes : g.MayChange ids r w response) :
    response.status ∈ [200, 204, 401, 500] := by
  cases changes with
  | statusSet names method status => simp [status]
  | tokenRevoked names method status => simp [status]
  | granted applies status => simp [status]
  | notEntitled applies status body => simp [status]
  | notMinted applies status failed => simp [status]
  | failed applies status ended called => simp [status]

/-- Of the requests that are unauthorized, only those may change the store that are told so. -/
theorem MayChange.body_of_unauthorized (changes : g.MayChange ids r w response)
    (unauthorized : response.status = 401) :
    response.body = .json (Refusal.document "unauthorized" (requestId? r)) := by
  cases changes with
  | notEntitled applies status body => exact body
  | statusSet names method status =>
      rw [unauthorized] at status
      cases status
  | tokenRevoked names method status =>
      rw [unauthorized] at status
      cases status
  | granted applies status =>
      rw [unauthorized] at status
      cases status
  | notMinted applies status failed =>
      rw [unauthorized] at status
      cases status
  | failed applies status ended called =>
      rw [unauthorized] at status
      cases status

/-- What is sent is a response of the same kind. -/
theorem MayChange.send (changes : g.MayChange ids r w response) :
    g.MayChange ids r w (send r.method response) := by
  have status := status_send r.method response
  cases changes with
  | statusSet names method ended => exact .statusSet names method (status.trans ended)
  | tokenRevoked names method ended => exact .tokenRevoked names method (status.trans ended)
  | granted applies ended => exact .granted applies (status.trans ended)
  | notEntitled applies ended body =>
      refine .notEntitled applies (status.trans ended) ?_
      rw [Gateway.send, applies.2, if_neg (by decide)]
      exact body
  | notMinted applies ended failed => exact .notMinted applies (status.trans ended) failed
  | failed applies ended failed called =>
      exact .failed applies (status.trans ended) failed called

section Answers

variable {α : Type} {x : Action α} {s' : Store}

/-- An operation that succeeds is answered with its value. -/
theorem answer_of_ends {a : α} (ends : x.Ends w.now w.wallSeconds w.store (.ok a) s')
    (calm : w.IsCalm) (id? : Option String) (write : α → Http.Response) :
    (answer id? x write w).1 = write a ∧ (answer id? x write w).2.store = s' := by
  obtain ⟨ended, left⟩ := ends.run_of_calm calm
  unfold answer
  rw [Action.run_eq_of_fst ended]
  exact ⟨rfl, left⟩

/-- An operation that fails is answered with its failure. -/
theorem answer_of_ends_error {e : Failure}
    (ends : x.Ends w.now w.wallSeconds w.store (.error e) s') (calm : w.IsCalm)
    (id? : Option String) (write : α → Http.Response) :
    (answer id? x write w).1 = ((Refusal.ofFailure e).withRequestId id?).response ∧
      (answer id? x write w).2.store = s' := by
  obtain ⟨ended, left⟩ := ends.run_of_calm calm
  unfold answer
  rw [Action.run_eq_of_fst ended]
  exact ⟨rfl, left⟩

/-- An operation that changes all or nothing leaves the store, or is answered with its value. -/
theorem answer_of_allOrNothing (whole : x.AllOrNothing w.now w.wallSeconds w.store)
    (calm : w.IsCalm) (id? : Option String) (write : α → Http.Response) :
    (answer id? x write w).2.store = w.store ∨ ∃ a, (answer id? x write w).1 = write a := by
  obtain ⟨result, s', ends, kept⟩ := whole
  cases result with
  | ok a => exact .inr ⟨a, (answer_of_ends ends calm id? write).1⟩
  | error e => exact .inl ((answer_of_ends_error ends calm id? write).2.trans (kept e rfl))

/-- An operation that only reads leaves the store. -/
theorem answer_of_idle (idle : x.Idle w.now w.wallSeconds w.store) (calm : w.IsCalm)
    (id? : Option String) (write : α → Http.Response) :
    (answer id? x write w).2.store = w.store := by
  obtain ⟨result, ends⟩ := idle
  cases result with
  | ok a => exact (answer_of_ends ends calm id? write).2
  | error e => exact (answer_of_ends_error ends calm id? write).2

end Answers

/-- A submission leaves the world, or its answer says what may have changed it. -/
theorem answer_submit (g : Gateway) (ids : FreshIds) (w : World) (applies : r.Applies) :
    (answer (requestId? r) (g.service.submit ids r.body (signature? r)) tokenResponse w).2 = w ∨
      g.MayChange ids r w
        (answer (requestId? r) (g.service.submit ids r.body (signature? r)) tokenResponse w).1 := by
  cases granted : (g.service.grant ids r.body (signature? r)).run w with
  | mk result w' =>
      cases result with
      | ok t =>
          have ran : (g.service.submit ids r.body (signature? r)).run w = (.ok t.raw, w') :=
            Action.run_bind_ok granted
          simp only [answer, ran]
          exact .inr (.granted applies rfl)
      | error e =>
          have ran := Admission.run_submit_of_grant granted
          have internal : e.isInternal = true →
              ((Refusal.ofFailure e).withRequestId (requestId? r)).response.status = 500 := by
            intro internal
            cases e with
            | internal cause => rfl
            | _ => cases internal
          rcases (Admission.grantPath granted).of_error with rfl | reticent | ⟨_, _, failed⟩
          · left
            simp only [answer, ran]
          · right
            rcases reticent with rfl | called
            · simp only [answer, ran]
              exact .notEntitled applies rfl rfl
            · obtain ⟨name, named⟩ := Option.isSome_iff_exists.mp called
              have status := internal (Failure.isInternal_of_call? named)
              refine .failed applies ?_ (congrArg Prod.fst ran) called
              simp only [answer, ran]
              exact status
          · right
            refine .notMinted applies ?_ failed
            simp only [answer, ran]
            exact internal (Authority.isInternal_of_mint failed)

/-- A request that is carried out leaves the store, or its answer says what may have changed it.
What only reads leaves the store. -/
theorem perform_of_serves (g : Gateway) (ids : FreshIds) {e : Endpoint} {command : Command}
    (calm : w.IsCalm) (names : Endpoint.ofTarget? (.ofText r.target) = some e)
    (takes : r.method ∈ e.methods) (serves : Command.Serves r e command) :
    ((g.perform ids (requestId? r) command w).2.store = w.store ∨
        g.MayChange ids r w (g.perform ids (requestId? r) command w).1) ∧
      (e.IsReadOnly → (g.perform ids (requestId? r) command w).2.store = w.store) := by
  unfold perform
  cases serves with
  | health => exact ⟨.inl rfl, fun _ => rfl⟩
  | submit =>
      refine ⟨?_, nofun⟩
      rcases g.answer_submit ids w ⟨names, List.mem_singleton.mp takes⟩ with left | changes
      · exact .inl (congrArg World.store left)
      · exact .inr changes
  | @listDevices tenant path page =>
      have left := answer_of_idle (g.service.idle_listDevices tenant page _ _ _) calm
        (requestId? r) (pageResponse path)
      exact ⟨.inl left, fun _ => left⟩
  | @getDevice id deviceId tenant =>
      have left := answer_of_idle (g.service.idle_getDevice tenant deviceId _ _ _) calm
        (requestId? r) fun d => .ofJson 200 d.json
      exact ⟨.inl left, fun _ => left⟩
  | @verify raw =>
      have left := answer_of_idle (g.service.idle_verify raw _ _ _) calm (requestId? r)
        fun _ => .bare 200
      dsimp only
      exact ⟨.inl left, fun _ => left⟩
  | setStatus =>
      refine ⟨?_, nofun⟩
      rcases answer_of_allOrNothing (g.service.allOrNothing_setStatus _ _ _ _ _ _) calm
        (requestId? r) (fun _ => .bare 204) with left | ⟨_, told⟩
      · exact .inl left
      · exact .inr (.statusSet names (List.mem_singleton.mp takes) (congrArg _ told))
  | revokeToken =>
      refine ⟨?_, nofun⟩
      rcases answer_of_allOrNothing (g.service.allOrNothing_revokeToken _ _ _ _ _) calm
        (requestId? r) (fun _ => .bare 204) with left | ⟨_, told⟩
      · exact .inl left
      · exact .inr (.tokenRevoked names (List.mem_singleton.mp takes) (congrArg _ told))

/-- A request leaves the store, or its response says what may have changed it. A request to an
endpoint that only reads leaves the store. -/
theorem store_handle (g : Gateway) (ids : FreshIds) (r : Http.Request) (calm : w.IsCalm) :
    ((g.handle ids r w).2.store = w.store ∨ g.MayChange ids r w (g.handle ids r w).1) ∧
      ∀ e, Endpoint.ofTarget? (.ofText r.target) = some e → e.IsReadOnly →
        (g.handle ids r w).2.store = w.store := by
  unfold handle
  cases read : Command.ofRequest g.settings r with
  | error response => exact ⟨.inl rfl, fun _ _ _ => rfl⟩
  | ok command =>
      obtain ⟨e, names, takes, serves⟩ := Command.exists_serves read
      obtain ⟨kept, spared⟩ := g.perform_of_serves ids calm names takes serves
      constructor
      · rcases kept with left | changes
        · exact .inl left
        · exact .inr changes.send
      · intro e' names' readOnly
        rw [names] at names'
        cases names'
        exact spared readOnly

/-! ## Main statement -/

/-- Refused requests change nothing. For every request and every store, where nobody interferes: the
store after the request is the one before it, unless a status was set or a token was revoked, with
the status 204, or the request is a submission that is answered with a token, or with the document
that it is not entitled, or with the status 500 because its token could not be signed or a call of
the store failed. So the store is left by every other refusal and by every request that only
reads. -/
theorem store_kept_of_refusal (g : Gateway) (ids : FreshIds) (r : Http.Request)
    (calm : w.IsCalm) :
    ((g.handle ids r w).2.store = w.store ∨ g.MayChange ids r w (g.handle ids r w).1) ∧
      ((g.handle ids r w).1.status ∈ [400, 403, 404, 405] →
        (g.handle ids r w).2.store = w.store) ∧
      ((g.handle ids r w).1.status = 401 →
        (g.handle ids r w).1.body ≠ .json (Refusal.document "unauthorized" (requestId? r)) →
        (g.handle ids r w).2.store = w.store) ∧
      ∀ e, Endpoint.ofTarget? (.ofText r.target) = some e → e.IsReadOnly →
        (g.handle ids r w).2.store = w.store := by
  obtain ⟨kept, spared⟩ := g.store_handle ids r calm
  refine ⟨kept, fun refused => ?_, fun unauthorized otherwise => ?_, spared⟩
  · rcases kept with left | changes
    · exact left
    · have status := changes.status_mem
      simp only [List.mem_cons, List.not_mem_nil, or_false] at refused status
      omega
  · rcases kept with left | changes
    · exact left
    · exact absurd (changes.body_of_unauthorized unauthorized) otherwise

end Gateway

namespace Sample

/-- A store that a request may meet. -/
def bare : World :=
  World.quiet (.empty .tables) (.ofSeconds 105) 105

/-- A submission without a signature changes nothing. The same submission with its signature is
refused too, and registers its device. -/
theorem unsigned_submission_kept :
    let unsigned := { submission with headers := [] }
    bare.IsCalm ∧ (gateway.handle ⟨"e", "t3"⟩ unsigned bare).1.status = 400 ∧
      (gateway.handle ⟨"e", "t3"⟩ unsigned bare).2.store = bare.store ∧
      (gateway.handle ⟨"e", "t3"⟩ submission bare).1.status = 401 ∧
      (gateway.handle ⟨"e", "t3"⟩ submission bare).2.store ≠ bare.store := by
  have calm : bare.IsCalm := fun _ _ => rfl
  have status : (gateway.handle ⟨"e", "t3"⟩ { submission with headers := [] } bare).1.status =
      400 := by decide +kernel
  have refused : (gateway.handle ⟨"e", "t3"⟩ { submission with headers := [] } bare).1.status ∈
      [400, 403, 404, 405] := by
    rw [status]
    decide
  exact ⟨calm, status, (gateway.store_kept_of_refusal ⟨"e", "t3"⟩ _ calm).2.1 refused,
    by decide +kernel, by decide +kernel⟩

end Sample

end DeviceAdmission
