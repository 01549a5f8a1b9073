import DeviceAdmission.Proofs.Service.Quiet

/-!
# Requests that nobody interferes with

A request is checked, its device is looked up, and a token is issued for the device. Each of the
three ends in one of a few ways, and all of them leave an orderly store.
-/

namespace DeviceAdmission

open TokenEntry

namespace Store

variable {s : Store} {tenant : Tenant} {id other key : String} {now : Instant}

/-- A device stays accepted when a key is changed. -/
theorem hasAccepted_changeKey {p : DeviceEntry → Bool} (accepted : s.HasAccepted tenant id) :
    ∃ d : Device, d.entry ∈ DeviceEntry.changeWhere p (DeviceEntry.withKey key (.ok now))
        s.devices ∧ d.tenant = tenant ∧ d.id = id ∧ d.status = .accepted := by
  rcases accepted with ⟨d, member, rfl, rfl, isAccepted⟩
  by_cases isIt : p d.entry = true
  · refine ⟨{ d with publicKey := key, updatedAt := now }, ?_, rfl, rfl, isAccepted⟩
    exact List.mem_map.mpr ⟨d.entry, member, if_pos isIt⟩
  · exact ⟨d, List.mem_map.mpr ⟨d.entry, member, if_neg isIt⟩, rfl, rfl, isAccepted⟩

/-- The device that is accepted under an id is the one with the id. -/
theorem Registered.accepted {ids : List String} {d : Device} (registered : s.Registered ids)
    (member : d.entry ∈ s.devices) (accepted : s.HasAccepted tenant d.id) :
    d.status = .accepted := by
  rcases accepted with ⟨e, eMem, -, idEq, status⟩
  have same := registered.eq_of_id eMem member idEq
  rw [← DeviceEntry.entry_injective same]
  exact status

end Store

namespace Admission

variable {a : Admission} {now : Instant} {wall : Int} {s s' : Store} {ids : List String}
variable {newId : String} {tenant : Tenant} {request : AuthRequest}

/-! ## The look-up of a device -/

/-- The ways that the look-up of a device ends. -/
inductive LookUp (a : Admission) (s : Store) (newId : String) (tenant : Tenant)
    (request : AuthRequest) (now : Instant) : Except Failure Device → Store → Prop where
  | registered {s' : Store} {candidate : Device}
      (seen : candidate = .firstSeen newId tenant request.identityData request.publicKey now)
      (unknown : ∀ e ∈ s.devices, e.hasIdentity tenant request.identityData = false)
      (tokens : s.SameTokens s') (devices : s'.devices.Perm (candidate.entry :: s.devices))
      (identities : s.kind = .memory →
        s'.identities.Perm (candidate.entry.names :: s.identities)) :
      LookUp a s newId tenant request now (.ok candidate) s'
  | known {d : Device} (member : d.entry ∈ s.devices) (tenantEq : d.tenant = tenant)
      (identityEq : d.identityData = request.identityData)
      (keyEq : Text.trim d.publicKey = Text.trim request.publicKey) :
      LookUp a s newId tenant request now (.ok d) s
  | refused {d : Device} (member : d.entry ∈ s.devices) (tenantEq : d.tenant = tenant)
      (identityEq : d.identityData = request.identityData)
      (keyNe : Text.trim d.publicKey ≠ Text.trim request.publicKey)
      (fixed : a.allowKeyRotation = false ∨ d.status ≠ .accepted) :
      LookUp a s newId tenant request now (.error .notEntitled) s
  | rotated {d : Device} {s' : Store} (member : d.entry ∈ s.devices) (tenantEq : d.tenant = tenant)
      (identityEq : d.identityData = request.identityData)
      (keyNe : Text.trim d.publicKey ≠ Text.trim request.publicKey)
      (allowed : a.allowKeyRotation = true) (accepted : d.status = .accepted)
      (tokens : s.SameTokens s') (identities : s'.identities = s.identities)
      (devices : s'.devices = DeviceEntry.changeWhere (DeviceEntry.isAccepted tenant d.id)
        (DeviceEntry.withKey request.publicKey (.ok now)) s.devices) :
      LookUp a s newId tenant request now (.ok d) s'

theorem LookUp.sameTokens {r : Except Failure Device}
    (h : a.LookUp s newId tenant request now r s') : s.SameTokens s' := by
  cases h with
  | registered seen unknown tokens devices identities => exact tokens
  | known member tenantEq identityEq keyEq => exact .refl s
  | refused member tenantEq identityEq keyNe fixed => exact .refl s
  | rotated member tenantEq identityEq keyNe allowed accepted tokens identities devices =>
      exact tokens

/-- The look-up of a device leaves an orderly store, where the id for a new device is fresh. -/
theorem LookUp.orderly {r : Except Failure Device} (h : a.LookUp s newId tenant request now r s')
    (orderly : s.Orderly ids) (fresh : newId ∉ ids) : s'.Orderly (newId :: ids) := by
  have more : s.Orderly (newId :: ids) :=
    orderly.mono fun id member => List.mem_cons_of_mem _ member
  cases h with
  | known member tenantEq identityEq keyEq => exact more
  | refused member tenantEq identityEq keyNe fixed => exact more
  | registered seen unknown tokens devices identities =>
      subst seen
      refine orderly.of_devices tokens
        (orderly.registered.created fresh unknown tokens.kind devices identities) ?_
      rintro other id ⟨d, member, rest⟩
      exact ⟨d, devices.mem_iff.mpr (List.mem_cons_of_mem _ member), rest⟩
  | rotated member tenantEq identityEq keyNe allowed accepted tokens identities devices =>
      have namesEq : ∀ e, (DeviceEntry.withKey request.publicKey (.ok now) e).names = e.names :=
        fun _ => rfl
      refine more.of_devices tokens
        (more.registered.change namesEq ?_ tokens.kind identities devices) ?_
      · intro d
        exact ⟨{ d with publicKey := request.publicKey, updatedAt := now }, rfl⟩
      · intro other id isAccepted
        rcases Store.hasAccepted_changeKey isAccepted with ⟨d, rest⟩
        exact ⟨d, devices ▸ rest⟩

/-- The look-up of a device that is there. -/
theorem exists_ends_lookUpDevice_of_found {d : Device} (orderly : s.Orderly ids)
    (timely : now.isTimely = true) (member : d.entry ∈ s.devices) (tenantEq : d.tenant = tenant)
    (identityEq : d.identityData = request.identityData)
    (answer : s.run (.getOrCreate
      (.firstSeen newId tenant request.identityData request.publicKey now)) =
        (.ok (d, false), s)) :
    ∃ r s', a.LookUp s newId tenant request now r s' ∧
      (a.lookUpDevice newId tenant request).Ends now wall s r s' := by
  by_cases keyEq : Text.trim d.publicKey = Text.trim request.publicKey
  · refine ⟨.ok d, s, .known member tenantEq identityEq keyEq,
      (Action.ends_now s).bind ((Action.ends_call answer).bind ?_)⟩
    have same : false = true ∨ Text.trim d.publicKey = Text.trim request.publicKey := .inr keyEq
    simp only [same, if_true]
    exact Action.ends_pure d s
  · have other : ¬(false = true ∨ Text.trim d.publicKey = Text.trim request.publicKey) := by
      rintro (isNew | same)
      · cases isNew
      · exact keyEq same
    by_cases fixed : (!a.allowKeyRotation) = true ∨ d.status ≠ .accepted
    · have isFixed : a.allowKeyRotation = false ∨ d.status ≠ .accepted := by
        rwa [Bool.not_eq_true'] at fixed
      refine ⟨_, s, .refused member tenantEq identityEq keyEq isFixed,
        (Action.ends_now s).bind ((Action.ends_call answer).bind ?_)⟩
      simp only [other, fixed, if_true, if_false]
      exact Action.ends_fail .notEntitled s
    · obtain ⟨allowed, accepted⟩ : a.allowKeyRotation = true ∧ d.status = .accepted := by
        simpa using fixed
      have isIt : d.entry.isAccepted tenant d.id = true :=
        Device.isAccepted_entry tenantEq accepted
      have any : s.devices.any (DeviceEntry.isAccepted tenant d.id) = true :=
        List.any_eq_true.mpr ⟨d.entry, member, isIt⟩
      obtain ⟨answered, devices, identities⟩ :=
        Store.run_rotateKey orderly.registered tenant d.id request.publicKey now
      have tokens :=
        Store.sameTokens_run s (c := .rotateKey tenant d.id request.publicKey now) rfl
      rw [StoreKind.kept_eq_ok _ _ (Instant.isLegible_of_isTimely timely)] at devices
      rw [any] at answered
      refine ⟨.ok d, _, .rotated member tenantEq identityEq keyEq allowed accepted tokens
        identities devices, (Action.ends_now s).bind ((Action.ends_call answer).bind ?_)⟩
      simp only [other, fixed, if_false]
      exact (Action.ends_call (Prod.ext answered rfl)).bind (Action.ends_pure d _)

/-- The look-up of a device ends in one of these ways, where the id for a new device is fresh. -/
theorem exists_ends_lookUpDevice (a : Admission) (wall : Int) (orderly : s.Orderly ids)
    (fresh : newId ∉ ids) (timely : now.isTimely = true) (tenant : Tenant)
    (request : AuthRequest) :
    ∃ r s', a.LookUp s newId tenant request now r s' ∧
      (a.lookUpDevice newId tenant request).Ends now wall s r s' := by
  obtain ⟨candidate, seen⟩ : ∃ candidate : Device,
    candidate = .firstSeen newId tenant request.identityData request.publicKey now := ⟨_, rfl⟩
  have found : Store.Registration s candidate (s.run (.getOrCreate candidate)) := by
    subst seen
    have legible := Instant.isLegible_of_isTimely timely
    exact Store.registration orderly.registered fresh legible legible
  cases answer : s.run (.getOrCreate candidate) with
  | mk result after =>
      rw [answer] at found
      cases found with
      | found member tenantEq identityEq =>
          subst seen
          exact exists_ends_lookUpDevice_of_found orderly timely member tenantEq identityEq answer
      | created unknown tokens devices identities =>
          refine ⟨.ok candidate, after, .registered seen ?_ tokens devices identities, ?_⟩
          · rw [seen] at unknown
            exact unknown
          · subst seen
            refine (Action.ends_now s).bind ((Action.ends_call answer).bind ?_)
            simp only [true_or, if_true]
            exact Action.ends_pure _ after

/-! ## The whole request -/

/-- The ways that a request for a token ends. -/
inductive Grant (a : Admission) (s : Store) (given : FreshIds) (body : Bytes)
    (signature : Option String) (now : Instant) (wall : Int) :
    Except Failure Token → Store → Prop where
  | unchecked {e : Failure} (failed : a.check wall body signature = .error e) :
      Grant a s given body signature now wall (.error e) s
  | refused {request : AuthRequest} {tenant : Tenant} {e : Failure} {s' : Store}
      (checked : a.check wall body signature = .ok (request, tenant))
      (lookedUp : a.LookUp s given.device tenant request now (.error e) s') :
      Grant a s given body signature now wall (.error e) s'
  | issued {request : AuthRequest} {tenant : Tenant} {d : Device} {s₁ s' : Store}
      {r : Except Failure Token} (checked : a.check wall body signature = .ok (request, tenant))
      (lookedUp : a.LookUp s given.device tenant request now (.ok d) s₁)
      (issued : a.authority.Issuance s₁ given.token tenant d.id now r s') :
      Grant a s given body signature now wall r s'

/-- A request ends in one of these ways, where the ids for what it creates are fresh. -/
theorem exists_ends_grant (a : Admission) (wall : Int) {given : FreshIds} (orderly : s.Orderly ids)
    (freshDevice : given.device ∉ ids) (freshToken : ∀ e ∈ s.tokens, e.id ≠ given.token)
    (timely : now.isTimely = true) (body : Bytes) (signature : Option String) :
    ∃ r s', a.Grant s given body signature now wall r s' ∧
      (a.grant given body signature).Ends now wall s r s' := by
  cases checked : a.check wall body signature with
  | error e =>
      have stops : (Action.ofExcept (a.check wall body signature)).Ends now wall s (.error e) s :=
        checked ▸ Action.ends_ofExcept _ s
      exact ⟨_, s, .unchecked checked, (Action.ends_wallSeconds s).bind stops.bind_error⟩
  | ok result =>
      obtain ⟨request, tenant⟩ := result
      have goes : (Action.ofExcept (a.check wall body signature)).Ends now wall s
          (.ok (request, tenant)) s := checked ▸ Action.ends_ofExcept _ s
      obtain ⟨r, s₁, lookedUp, ends⟩ :=
        exists_ends_lookUpDevice a wall orderly freshDevice timely tenant request
      cases r with
      | error e =>
          exact ⟨_, s₁, .refused checked lookedUp,
            (Action.ends_wallSeconds s).bind (goes.bind ends.bind_error)⟩
      | ok d =>
          have freshLater : ∀ e ∈ s₁.tokens, e.id ≠ given.token := by
            rw [lookedUp.sameTokens.tokens]
            exact freshToken
          obtain ⟨r, s', issued, issueEnds⟩ := Authority.exists_issuance
            (lookedUp.orderly orderly freshDevice) freshLater
          exact ⟨r, s', .issued checked lookedUp issued,
            (Action.ends_wallSeconds s).bind (goes.bind (ends.bind issueEnds))⟩

theorem Grant.orderly {given : FreshIds} {body : Bytes} {signature : Option String}
    {r : Except Failure Token} (h : a.Grant s given body signature now wall r s')
    (orderly : s.Orderly ids) (freshDevice : given.device ∉ ids)
    (freshToken : ∀ e ∈ s.tokens, e.id ≠ given.token) (timely : now.isTimely = true)
    (expires : ∀ t, r = .ok t → t.expiresAt.isTimely = true) :
    s'.Orderly (given.device :: ids) := by
  cases h with
  | unchecked failed => exact orderly.mono fun id member => List.mem_cons_of_mem _ member
  | refused checked lookedUp => exact lookedUp.orderly orderly freshDevice
  | issued checked lookedUp issued =>
      apply issued.orderly (lookedUp.orderly orderly freshDevice) ?_ timely expires
      rw [lookedUp.sameTokens.tokens]
      exact freshToken

end Admission

end DeviceAdmission
