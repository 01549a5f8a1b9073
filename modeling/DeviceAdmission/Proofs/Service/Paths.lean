import DeviceAdmission.Proofs.Service.Cards

/-!
# The paths of a request

The ways that the look-up of a device, the issuance of a token and a whole request go in any world,
call by call. What others do between the calls and which calls fail is all in the worlds that the
calls lead to.
-/

namespace DeviceAdmission

/-! ## Looks at the status -/

/-- What a look at the status of a device finds in a store. -/
def Store.look (s : Store) (tenant : Tenant) (id : String) : Except Failure Unit :=
  match (s.run (.getDevice tenant id)).1 with
  | .ok (some device) => if device.status = .accepted then .ok () else .error .notEntitled
  | .ok none => .error .notEntitled
  | .error fault => .error (.internal (.storeFailed StoreMethod.getDevice.name fault))

theorem Store.look_of_sameDevices {s s' : Store} {tenant : Tenant} {id : String}
    (same : s.SameDevices s') : s'.look tenant id = s.look tenant id := by
  rw [look, look, run_getDevice, run_getDevice, same.devices]

/-- What an action leaves of a world beside the store. -/
structure World.SameSetting (w w' : World) : Prop where
  now : w'.now = w.now
  wallSeconds : w'.wallSeconds = w.wallSeconds
  interference : w'.interference = w.interference

namespace World

variable {w w' w'' : World}

theorem SameSetting.trans (first : w.SameSetting w') (second : w'.SameSetting w'') :
    w.SameSetting w'' := by
  constructor
  · exact second.now.trans first.now
  · exact second.wallSeconds.trans first.wallSeconds
  · exact second.interference.trans first.interference

end World

namespace Action

variable {α : Type} {w w' : World} {r : Except Failure α}

theorem sameSetting_of_call {limit : Nat} {c : StoreCall α} (ran : (call limit c).run w = (r, w')) :
    w.SameSetting w' := by
  constructor
  · exact congrArg (fun result => result.2.now) ran.symm
  · exact congrArg (fun result => result.2.wallSeconds) ran.symm
  · exact congrArg (fun result => result.2.interference) ran.symm

theorem calls_of_call {limit : Nat} {c : StoreCall α} (ran : (call limit c).run w = (r, w')) :
    w'.calls = c.site :: w.calls :=
  congrArg (fun result => result.2.calls) ran.symm

end Action

namespace Authority

variable {a : Authority} {tenant : Tenant} {deviceId tokenId : String} {w w' : World}

/-- A look is one call. It leaves the store that it meets, and ends as this store says unless the
call fails. -/
structure Looked (w : World) (tenant : Tenant) (deviceId : String) (r : Except Failure Unit)
    (w' : World) : Prop where
  setting : w.SameSetting w'
  calls : w'.calls = ⟨.getDevice, tenant, some deviceId⟩ :: w.calls
  store : w'.store = w.met (.getDevice tenant deviceId)
  ends : r = (w.met (.getDevice tenant deviceId)).look tenant deviceId ∨
    ∃ e, r = .error e ∧ e.call? = some StoreMethod.getDevice.name

theorem looked {r : Except Failure Unit}
    (ran : (a.ensureAccepted tenant deviceId).run w = (r, w')) :
    Looked w tenant deviceId r w' := by
  unfold ensureAccepted at ran
  have unchanged := congrArg Prod.snd
    (Store.run_getDevice (w.met (.getDevice tenant deviceId)) tenant deviceId)
  cases called : (a.call (.getDevice tenant deviceId)).run w with
  | mk result w₁ =>
      have setting := Action.sameSetting_of_call called
      have calls := Action.calls_of_call called
      cases result with
      | error e =>
          have named := Action.call?_of_call (congrArg Prod.fst called)
          rw [Action.run_bind_error called] at ran
          cases ran
          refine ⟨setting, calls, ?_, .inr ⟨e, rfl, named⟩⟩
          cases Action.called_of_run called with
          | failed answer => exact (congrArg Prod.snd answer).symm.trans unchanged
          | stopped left => exact left
      | ok found =>
          rw [Action.run_bind_ok called] at ran
          cases Action.called_of_run called with
          | answered answer =>
              have store := (congrArg Prod.snd answer).symm.trans unchanged
              have ended : w₁ = w' ∧ (w.met (.getDevice tenant deviceId)).look tenant deviceId = r := by
                rw [Store.look, answer]
                cases found with
                | none =>
                    cases ran
                    exact ⟨rfl, rfl⟩
                | some device =>
                    dsimp only at ran ⊢
                    by_cases accepted : device.status = .accepted
                    · rw [if_pos accepted] at ran ⊢
                      cases ran
                      exact ⟨rfl, rfl⟩
                    · rw [if_neg accepted] at ran ⊢
                      cases ran
                      exact ⟨rfl, rfl⟩
              obtain ⟨rfl, rfl⟩ := ended
              exact ⟨setting, calls, store, .inl rfl⟩

/-! ## Issuances -/

/-- The ways that an issuance goes. -/
inductive IssuePath (a : Authority) (tokenId : String) (tenant : Tenant) (deviceId : String)
    (w : World) : Except Failure Token → World → Prop where
  | refused {e : Failure} {w₁ : World} (first : Looked w tenant deviceId (.error e) w₁) :
      IssuePath a tokenId tenant deviceId w (.error e) w₁
  | notMinted {e : Failure} {w₁ : World} (first : Looked w tenant deviceId (.ok ()) w₁)
      (failed : a.mint tokenId tenant deviceId w.now = .error e) :
      IssuePath a tokenId tenant deviceId w (.error e) w₁
  | stopped {candidate : Token} {e : Failure} {w₁ w₂ : World}
      (first : Looked w tenant deviceId (.ok ()) w₁)
      (minted : a.mint tokenId tenant deviceId w.now = .ok candidate)
      (called : (a.call (.insertOrGetLive candidate w.now)).run w₁ = (.error e, w₂)) :
      IssuePath a tokenId tenant deviceId w (.error e) w₂
  | issued {candidate t : Token} {w₁ w₂ w₃ : World}
      (first : Looked w tenant deviceId (.ok ()) w₁)
      (minted : a.mint tokenId tenant deviceId w.now = .ok candidate)
      (called : (a.call (.insertOrGetLive candidate w.now)).run w₁ = (.ok t, w₂))
      (second : Looked w₂ tenant deviceId (.ok ()) w₃) :
      IssuePath a tokenId tenant deviceId w (.ok t) w₃
  /-- The second look did not pass, and the token could not be taken back. -/
  | left {candidate t : Token} {e f : Failure} {w₁ w₂ w₃ w₄ : World}
      (first : Looked w tenant deviceId (.ok ()) w₁)
      (minted : a.mint tokenId tenant deviceId w.now = .ok candidate)
      (called : (a.call (.insertOrGetLive candidate w.now)).run w₁ = (.ok t, w₂))
      (second : Looked w₂ tenant deviceId (.error e) w₃)
      (revoked : (a.call (.revokeToken tenant t.id)).run w₃ = (.error f, w₄)) :
      IssuePath a tokenId tenant deviceId w (.error f) w₄
  /-- The second look did not pass, and the token was taken back. -/
  | withdrawn {candidate t : Token} {e : Failure} {found : Bool} {w₁ w₂ w₃ w₄ : World}
      (first : Looked w tenant deviceId (.ok ()) w₁)
      (minted : a.mint tokenId tenant deviceId w.now = .ok candidate)
      (called : (a.call (.insertOrGetLive candidate w.now)).run w₁ = (.ok t, w₂))
      (second : Looked w₂ tenant deviceId (.error e) w₃)
      (revoked : (a.call (.revokeToken tenant t.id)).run w₃ = (.ok found, w₄)) :
      IssuePath a tokenId tenant deviceId w (.error e) w₄

/-- An issuance goes one of these ways. -/
theorem issuePath {r : Except Failure Token}
    (ran : (a.issue tokenId tenant deviceId).run w = (r, w')) :
    a.IssuePath tokenId tenant deviceId w r w' := by
  unfold issue at ran
  cases look₁ : (a.ensureAccepted tenant deviceId).run w with
  | mk result w₁ =>
      have first := looked look₁
      cases result with
      | error e =>
          rw [Action.run_bind_error look₁] at ran
          cases ran
          exact .refused first
      | ok done =>
          rw [Action.run_bind_ok look₁, Action.run_bind_ok (Action.run_now w₁),
            first.setting.now] at ran
          cases minted : a.mint tokenId tenant deviceId w.now with
          | error e =>
              have stops : (Action.ofExcept (a.mint tokenId tenant deviceId w.now)).run w₁ =
                  (.error e, w₁) := by
                rw [Action.run_ofExcept, minted]
              rw [Action.run_bind_error stops] at ran
              cases ran
              exact .notMinted first minted
          | ok candidate =>
              have goes : (Action.ofExcept (a.mint tokenId tenant deviceId w.now)).run w₁ =
                  (.ok candidate, w₁) := by
                rw [Action.run_ofExcept, minted]
              rw [Action.run_bind_ok goes] at ran
              cases called : (a.call (.insertOrGetLive candidate w.now)).run w₁ with
              | mk result w₂ =>
                  cases result with
                  | error e =>
                      rw [Action.run_bind_error called] at ran
                      cases ran
                      exact .stopped first minted called
                  | ok t =>
                      rw [Action.run_bind_ok called] at ran
                      cases look₂ : (a.ensureAccepted tenant deviceId).run w₂ with
                      | mk result w₃ =>
                          have second := looked look₂
                          have again : (a.ensureAccepted tenant deviceId).attempt.run w₂ =
                              (.ok result, w₃) := by
                            rw [Action.run_attempt, look₂]
                          rw [Action.run_bind_ok again] at ran
                          cases result with
                          | ok done =>
                              cases ran
                              exact .issued first minted called second
                          | error e =>
                              cases revoked : (a.call (.revokeToken tenant t.id)).run w₃ with
                              | mk result w₄ =>
                                  cases result with
                                  | error f =>
                                      simp only [Action.run_bind_error revoked] at ran
                                      cases ran
                                      exact .left first minted called second revoked
                                  | ok found =>
                                      simp only [Action.run_bind_ok revoked] at ran
                                      cases ran
                                      exact .withdrawn first minted called second revoked

end Authority

/-! ## Look-ups -/

namespace Admission

variable {s : Admission} {newId : String} {tenant : Tenant} {request : AuthRequest} {w w' : World}

/-- The ways that the look-up of a device goes. -/
inductive LookUpPath (s : Admission) (newId : String) (tenant : Tenant) (request : AuthRequest)
    (w : World) : Except Failure Device → World → Prop where
  | stopped {e : Failure} {w₁ : World}
      (called : (s.call (.getOrCreate (.firstSeen newId tenant request.identityData
        request.publicKey w.now))).run w = (.error e, w₁)) :
      LookUpPath s newId tenant request w (.error e) w₁
  | found {d : Device} {created : Bool} {w₁ : World}
      (called : (s.call (.getOrCreate (.firstSeen newId tenant request.identityData
        request.publicKey w.now))).run w = (.ok (d, created), w₁))
      (same : created = true ∨ Text.trim d.publicKey = Text.trim request.publicKey) :
      LookUpPath s newId tenant request w (.ok d) w₁
  | refused {d : Device} {w₁ : World}
      (called : (s.call (.getOrCreate (.firstSeen newId tenant request.identityData
        request.publicKey w.now))).run w = (.ok (d, false), w₁))
      (keyNe : Text.trim d.publicKey ≠ Text.trim request.publicKey)
      (fixed : (!s.allowKeyRotation) = true ∨ d.status ≠ .accepted) :
      LookUpPath s newId tenant request w (.error .notEntitled) w₁
  | unrotated {d : Device} {r : Except Failure Bool} {e : Failure} {w₁ w₂ : World}
      (called : (s.call (.getOrCreate (.firstSeen newId tenant request.identityData
        request.publicKey w.now))).run w = (.ok (d, false), w₁))
      (keyNe : Text.trim d.publicKey ≠ Text.trim request.publicKey)
      (accepted : d.status = .accepted)
      (set : (s.call (.rotateKey tenant d.id request.publicKey w.now)).run w₁ = (r, w₂))
      (ends : r = .error e ∨ r = .ok false ∧ e = .notEntitled) :
      LookUpPath s newId tenant request w (.error e) w₂
  | rotated {d : Device} {w₁ w₂ : World}
      (called : (s.call (.getOrCreate (.firstSeen newId tenant request.identityData
        request.publicKey w.now))).run w = (.ok (d, false), w₁))
      (keyNe : Text.trim d.publicKey ≠ Text.trim request.publicKey)
      (allowed : s.allowKeyRotation = true) (accepted : d.status = .accepted)
      (set : (s.call (.rotateKey tenant d.id request.publicKey w.now)).run w₁ = (.ok true, w₂)) :
      LookUpPath s newId tenant request w (.ok d) w₂

theorem LookUpPath.sameSetting {r : Except Failure Device}
    (path : s.LookUpPath newId tenant request w r w') : w.SameSetting w' := by
  cases path with
  | stopped called => exact Action.sameSetting_of_call called
  | found called same => exact Action.sameSetting_of_call called
  | refused called keyNe fixed => exact Action.sameSetting_of_call called
  | unrotated called keyNe accepted set ends =>
      exact (Action.sameSetting_of_call called).trans (Action.sameSetting_of_call set)
  | rotated called keyNe allowed accepted set =>
      exact (Action.sameSetting_of_call called).trans (Action.sameSetting_of_call set)

/-- The look-up of a device goes one of these ways. -/
theorem lookUpPath {r : Except Failure Device}
    (ran : (s.lookUpDevice newId tenant request).run w = (r, w')) :
    s.LookUpPath newId tenant request w r w' := by
  unfold lookUpDevice at ran
  rw [Action.run_bind_ok (Action.run_now w)] at ran
  cases called : (s.call (.getOrCreate (.firstSeen newId tenant request.identityData
      request.publicKey w.now))).run w with
  | mk result w₁ =>
      cases result with
      | error e =>
          rw [Action.run_bind_error called] at ran
          cases ran
          exact .stopped called
      | ok seen =>
          obtain ⟨d, created⟩ := seen
          rw [Action.run_bind_ok called] at ran
          by_cases same : created = true ∨ Text.trim d.publicKey = Text.trim request.publicKey
          · simp only [same, if_true] at ran
            cases ran
            exact .found called same
          · simp only [same, if_false] at ran
            obtain ⟨old, keyNe⟩ := not_or.mp same
            cases Bool.not_eq_true _ ▸ old
            by_cases fixed : (!s.allowKeyRotation) = true ∨ d.status ≠ .accepted
            · simp only [fixed, if_true] at ran
              cases ran
              exact .refused called keyNe fixed
            · simp only [fixed, if_false] at ran
              obtain ⟨allowed, accepted⟩ : s.allowKeyRotation = true ∧ d.status = .accepted := by
                simpa using fixed
              cases set : (s.call (.rotateKey tenant d.id request.publicKey w.now)).run w₁ with
              | mk result w₂ =>
                  cases result with
                  | error e =>
                      rw [Action.run_bind_error set] at ran
                      cases ran
                      exact .unrotated called keyNe accepted set (.inl rfl)
                  | ok done =>
                      rw [Action.run_bind_ok set] at ran
                      cases done with
                      | false =>
                          cases ran
                          exact .unrotated called keyNe accepted set (.inr ⟨rfl, rfl⟩)
                      | true =>
                          cases ran
                          exact .rotated called keyNe allowed accepted set

/-! ## Requests -/

/-- The ways that a request for a token goes. -/
inductive GrantPath (s : Admission) (given : FreshIds) (body : Bytes) (signature : Option String)
    (w : World) : Except Failure Token → World → Prop where
  | unchecked {e : Failure} (failed : s.check w.wallSeconds body signature = .error e) :
      GrantPath s given body signature w (.error e) w
  | refused {tenant : Tenant} {request : AuthRequest} {e : Failure} {w₁ : World}
      (checked : s.check w.wallSeconds body signature = .ok (request, tenant))
      (lookedUp : s.LookUpPath given.device tenant request w (.error e) w₁) :
      GrantPath s given body signature w (.error e) w₁
  | issued {tenant : Tenant} {request : AuthRequest} {d : Device} {r : Except Failure Token}
      {w₁ w₂ : World} (checked : s.check w.wallSeconds body signature = .ok (request, tenant))
      (lookedUp : s.LookUpPath given.device tenant request w (.ok d) w₁)
      (issued : s.authority.IssuePath given.token tenant d.id w₁ r w₂) :
      GrantPath s given body signature w r w₂

/-- A request for a token goes one of these ways. -/
theorem grantPath {given : FreshIds} {body : Bytes} {signature : Option String}
    {r : Except Failure Token} (ran : (s.grant given body signature).run w = (r, w')) :
    s.GrantPath given body signature w r w' := by
  unfold grant at ran
  rw [Action.run_bind_ok (Action.run_wallSeconds w)] at ran
  cases checked : s.check w.wallSeconds body signature with
  | error e =>
      have stops : (Action.ofExcept (s.check w.wallSeconds body signature)).run w =
          (.error e, w) := by
        rw [Action.run_ofExcept, checked]
      rw [Action.run_bind_error stops] at ran
      cases ran
      exact .unchecked checked
  | ok result =>
      obtain ⟨request, tenant⟩ := result
      have goes : (Action.ofExcept (s.check w.wallSeconds body signature)).run w =
          (.ok (request, tenant), w) := by
        rw [Action.run_ofExcept, checked]
      rw [Action.run_bind_ok goes] at ran
      cases lookedUp : (s.lookUpDevice given.device tenant request).run w with
      | mk result w₁ =>
          cases result with
          | error e =>
              simp only [Action.run_bind_error lookedUp] at ran
              cases ran
              exact .refused checked (lookUpPath lookedUp)
          | ok d =>
              simp only [Action.run_bind_ok lookedUp] at ran
              exact .issued checked (lookUpPath lookedUp) (Authority.issuePath ran)

end Admission

end DeviceAdmission
