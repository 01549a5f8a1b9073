import DeviceAdmission.Proofs.Service.Paths
import DeviceAdmission.Proofs.Service.Quiet
import DeviceAdmission.Proofs.Store.Sight

/-!
# Requests over stores that cannot all be read

Where nobody interferes, the look-up of a device and the issuance of a token each end in one of a
few ways, also over a store with entries that cannot be read. An entry that cannot be read ends the
operation that comes upon it with the fault of the store and leaves everything as it was. All of
this is told apart by the store and the clock of the service, whatever the other clock shows.
-/

namespace DeviceAdmission

open TokenEntry

/-! ## Looks at the status -/

namespace Store

variable {s s' : Store} {ids : List String} {tenant : Tenant} {id : String} {d : Device}

/-- The look at a device that can be read tells whether it is accepted. -/
theorem Distinct.look_eq (distinct : s.Distinct ids) (member : d.entry ∈ s.devices) :
    s.look d.tenant d.id =
      if d.status = .accepted then .ok () else .error .notEntitled := by
  rw [look, run_getDevice_of_uniqueId distinct.uniqueId member]

end Store

namespace Authority

variable {a : Authority} {now : Instant} {wall : Int} {s s' : Store} {ids : List String}
variable {tenant : Tenant} {deviceId tokenId : String}

theorem ends_look (a : Authority) (now : Instant) (wall : Int) (s : Store) (tenant : Tenant)
    (deviceId : String) :
    (a.ensureAccepted tenant deviceId).Ends now wall s (s.look tenant deviceId) s := by
  have answer := Store.run_getDevice s tenant deviceId
  unfold Store.look
  rw [answer]
  cases found : TableStore.readFound DeviceEntry.read
      (s.devices.find? (DeviceEntry.isDevice tenant deviceId)) with
  | error fault =>
      rw [found] at answer
      exact (Action.ends_call_error answer).bind_error
  | ok device? =>
      rw [found] at answer
      apply (Action.ends_call answer).bind
      cases device? with
      | none => exact Action.ends_fail .notEntitled s
      | some device =>
          dsimp only
          by_cases accepted : device.status = .accepted
          · rw [if_pos accepted, if_pos accepted]
            exact Action.ends_pure () s
          · rw [if_neg accepted, if_neg accepted]
            exact Action.ends_fail .notEntitled s

/-! ## Issuances -/

/-- The ways that an issuance ends, by the first step that does not pass. -/
inductive Dispatch (a : Authority) (s : Store) (tokenId : String) (tenant : Tenant)
    (deviceId : String) (now : Instant) : Except Failure Token → Store → Prop where
  | refused {e : Failure} (looked : s.look tenant deviceId = .error e) :
      Dispatch a s tokenId tenant deviceId now (.error e) s
  | notMinted {e : Failure} (looked : s.look tenant deviceId = .ok ())
      (failed : a.mint tokenId tenant deviceId now = .error e) :
      Dispatch a s tokenId tenant deviceId now (.error e) s
  | stopped {candidate : Token} {fault : StoreFault} (looked : s.look tenant deviceId = .ok ())
      (minted : a.mint tokenId tenant deviceId now = .ok candidate)
      (answer : s.run (.insertOrGetLive candidate now) = (.error fault, s)) :
      Dispatch a s tokenId tenant deviceId now
        (.error (.internal (.storeFailed StoreMethod.insertOrGetLive.name fault))) s
  | issued {candidate t : Token} {s' : Store} (looked : s.look tenant deviceId = .ok ())
      (minted : a.mint tokenId tenant deviceId now = .ok candidate)
      (answer : s.run (.insertOrGetLive candidate now) = (.ok t, s')) :
      Dispatch a s tokenId tenant deviceId now (.ok t) s'

theorem Dispatch.sameDevices {r : Except Failure Token}
    (dispatch : a.Dispatch s tokenId tenant deviceId now r s') : s.SameDevices s' := by
  cases dispatch with
  | refused looked => exact .refl s
  | notMinted looked failed => exact .refl s
  | stopped looked minted answer => exact .refl s
  | @issued candidate t s' looked minted answer =>
      have same := Store.sameDevices_run s (c := .insertOrGetLive candidate now) rfl
      rw [answer] at same
      exact same

/-- An issuance over a sound store goes in one of these ways. -/
theorem exists_dispatch (sound : s.Sound) (a : Authority) (tokenId : String) (tenant : Tenant)
    (deviceId : String) (now : Instant) :
    ∃ r s', a.Dispatch s tokenId tenant deviceId now r s' := by
  cases looked : s.look tenant deviceId with
  | error e => exact ⟨_, _, .refused looked⟩
  | ok done =>
      cases minted : a.mint tokenId tenant deviceId now with
      | error e => exact ⟨_, _, .notMinted looked minted⟩
      | ok candidate =>
          have inserted := Store.insertion sound candidate now
          cases answer : s.run (.insertOrGetLive candidate now) with
          | mk result after =>
              rw [answer] at inserted
              cases result with
              | error fault =>
                  cases inserted
                  exact ⟨_, _, .stopped looked minted answer⟩
              | ok t => exact ⟨_, _, .issued looked minted answer⟩

/-- An issuance ends in the way that it goes. -/
theorem Dispatch.ends {r : Except Failure Token}
    (dispatch : a.Dispatch s tokenId tenant deviceId now r s') (wall : Int) :
    (a.issue tokenId tenant deviceId).Ends now wall s r s' := by
  have look := ends_look a now wall s tenant deviceId
  have mint : ∀ r, a.mint tokenId tenant deviceId now = r →
      (Action.ofExcept (a.mint tokenId tenant deviceId now)).Ends now wall s r s := by
    rintro r rfl
    exact Action.ends_ofExcept _ s
  have same := dispatch.sameDevices
  cases dispatch with
  | refused looked =>
      rw [looked] at look
      exact look.bind_error
  | notMinted looked failed =>
      rw [looked] at look
      exact look.bind ((Action.ends_now s).bind (mint _ failed).bind_error)
  | stopped looked minted answer =>
      rw [looked] at look
      exact look.bind ((Action.ends_now s).bind ((mint _ minted).bind
        (Action.ends_call_error answer).bind_error))
  | issued looked minted answer =>
      have again := ends_look a now wall s' tenant deviceId
      rw [Store.look_of_sameDevices same, looked] at again
      rw [looked] at look
      exact look.bind ((Action.ends_now s).bind ((mint _ minted).bind
        ((Action.ends_call answer).bind (again.attempt.bind (Action.ends_pure _ s')))))

/-- A device that is not accepted gets no token. -/
theorem ends_issue_of_unaccepted {d : Device} (distinct : s.Distinct ids)
    (member : d.entry ∈ s.devices) (unaccepted : d.status ≠ .accepted) (tokenId : String) :
    (a.issue tokenId d.tenant d.id).Ends now wall s (.error .notEntitled) s := by
  have look := ends_look a now wall s d.tenant d.id
  rw [distinct.look_eq member, if_neg unaccepted] at look
  exact look.bind_error

end Authority

/-! ## Look-ups -/

namespace Admission

variable {a : Admission} {now : Instant} {wall : Int} {s s' : Store} {ids : List String}
variable {newId : String} {tenant : Tenant} {request : AuthRequest}

/-- The ways that the look-up of a device ends, where the times of a new device can be kept. -/
inductive Encounter (a : Admission) (s : Store) (newId : String) (tenant : Tenant)
    (request : AuthRequest) (now : Instant) : Except Failure Device → Store → Prop where
  | registered
      (unknown : ∀ e ∈ s.devices, e.hasIdentity tenant request.identityData = false) :
      Encounter a s newId tenant request now
        (.ok (.firstSeen newId tenant request.identityData request.publicKey now))
        (s.run (.getOrCreate
          (.firstSeen newId tenant request.identityData request.publicKey now))).2
  | unreadable {e : DeviceEntry} {fault : StoreFault} (member : e ∈ s.devices)
      (identity : e.hasIdentity tenant request.identityData = true)
      (read : e.read = .error fault) :
      Encounter a s newId tenant request now
        (.error (.internal (.storeFailed StoreMethod.getOrCreate.name (.deviceUnreadable fault)))) s
  | known {d : Device} (member : d.entry ∈ s.devices)
      (identity : d.entry.hasIdentity tenant request.identityData = true)
      (keyEq : Text.trim d.publicKey = Text.trim request.publicKey) :
      Encounter a s newId tenant request now (.ok d) s
  | refused {d : Device} (member : d.entry ∈ s.devices)
      (identity : d.entry.hasIdentity tenant request.identityData = true)
      (keyNe : Text.trim d.publicKey ≠ Text.trim request.publicKey)
      (fixed : (!a.allowKeyRotation) = true ∨ d.status ≠ .accepted) :
      Encounter a s newId tenant request now (.error .notEntitled) s
  | rotated {d : Device} (member : d.entry ∈ s.devices)
      (identity : d.entry.hasIdentity tenant request.identityData = true)
      (keyNe : Text.trim d.publicKey ≠ Text.trim request.publicKey)
      (allowed : ¬((!a.allowKeyRotation) = true ∨ d.status ≠ .accepted)) :
      Encounter a s newId tenant request now (.ok d)
        (s.run (.rotateKey tenant d.id request.publicKey now)).2

/-- A rotation of the key of an accepted device is answered that it was done. -/
theorem run_rotateKey_of_accepted {d : Device} (distinct : s.Distinct ids)
    (member : d.entry ∈ s.devices) (tenantEq : d.tenant = tenant) (accepted : d.status = .accepted)
    (key : String) (now : Instant) :
    s.run (.rotateKey tenant d.id key now) =
      (.ok true, (s.run (.rotateKey tenant d.id key now)).2) := by
  have any : s.devices.any (DeviceEntry.isAccepted tenant d.id) = true :=
    List.any_eq_true.mpr ⟨d.entry, member, Device.isAccepted_entry tenantEq accepted⟩
  have answered := (distinct.run_rotateKey tenant d.id key now).1
  rw [any] at answered
  exact Prod.ext answered rfl

/-- A device that is unknown is registered. -/
theorem run_getOrCreate_of_unknown {candidate : Device} (distinct : s.Distinct ids)
    (fresh : candidate.id ∉ ids)
    (legible : s.kind = .tables →
      candidate.createdAt.isLegible = true ∧ candidate.updatedAt.isLegible = true)
    (unknown : ∀ e ∈ s.devices,
      e.hasIdentity candidate.tenant candidate.identityData = false) :
    s.run (.getOrCreate candidate) =
        (.ok (candidate, true), (s.run (.getOrCreate candidate)).2) ∧
      (s.run (.getOrCreate candidate)).2.devices.Perm (candidate.entry :: s.devices) := by
  obtain ⟨answer, devices⟩ := distinct.getOrCreate_unknown fresh unknown
  rw [StoreKind.deviceEntry_eq legible] at answer devices
  rw [DeviceEntry.sighted_entry] at answer
  exact ⟨Prod.ext answer rfl, devices⟩

theorem run_getOrCreate_firstSeen {candidate : Device} (distinct : s.Distinct ids)
    (fresh : newId ∉ ids) (legible : s.kind = .tables → now.isLegible = true)
    (unknown : ∀ e ∈ s.devices, e.hasIdentity tenant request.identityData = false)
    (seen : candidate = .firstSeen newId tenant request.identityData request.publicKey now) :
    s.run (.getOrCreate candidate) =
        (.ok (candidate, true), (s.run (.getOrCreate candidate)).2) ∧
      (s.run (.getOrCreate candidate)).2.devices.Perm (candidate.entry :: s.devices) := by
  apply run_getOrCreate_of_unknown distinct
  · rw [seen]
    exact fresh
  · intro isTables
    rw [seen]
    exact ⟨legible isTables, legible isTables⟩
  · rw [seen]
    exact unknown

/-- The look-up of a device goes in one of these ways. -/
theorem exists_encounter (a : Admission) (s : Store) (newId : String) (tenant : Tenant)
    (request : AuthRequest) (now : Instant) :
    ∃ r s', a.Encounter s newId tenant request now r s' := by
  by_cases unknown : ∀ e ∈ s.devices, e.hasIdentity tenant request.identityData = false
  · exact ⟨_, _, .registered unknown⟩
  · obtain ⟨e, member, identity⟩ : ∃ e ∈ s.devices,
        e.hasIdentity tenant request.identityData = true := by
      simpa using unknown
    cases read : e.read with
    | error fault => exact ⟨_, _, .unreadable member identity read⟩
    | ok d =>
        rw [DeviceEntry.entry_of_read read] at member identity
        by_cases keyEq : Text.trim d.publicKey = Text.trim request.publicKey
        · exact ⟨_, _, .known member identity keyEq⟩
        · by_cases fixed : (!a.allowKeyRotation) = true ∨ d.status ≠ .accepted
          · exact ⟨_, _, .refused member identity keyEq fixed⟩
          · exact ⟨_, _, .rotated member identity keyEq fixed⟩

/-- The look-up of a device ends in the way that it goes, where the id for a new device is fresh. -/
theorem Encounter.ends {r : Except Failure Device}
    (encounter : a.Encounter s newId tenant request now r s') (distinct : s.Distinct ids)
    (fresh : newId ∉ ids) (legible : s.kind = .tables → now.isLegible = true) (wall : Int) :
    (a.lookUpDevice newId tenant request).Ends now wall s r s' := by
  have found : ∀ d : Device, d.entry ∈ s.devices →
      d.entry.hasIdentity tenant request.identityData = true →
        (a.call (.getOrCreate
          (.firstSeen newId tenant request.identityData request.publicKey now))).Ends now wall s
            (.ok (d, false)) s := fun d member identity =>
    Action.ends_call (distinct.getOrCreate_known member identity)
  cases encounter with
  | registered unknown =>
      obtain ⟨candidate, seen⟩ : ∃ candidate : Device,
        candidate = .firstSeen newId tenant request.identityData request.publicKey now := ⟨_, rfl⟩
      obtain ⟨answer, -⟩ := run_getOrCreate_firstSeen distinct fresh legible unknown seen
      rw [seen] at answer
      refine (Action.ends_now s).bind ((Action.ends_call answer).bind ?_)
      simp only [true_or, if_true]
      exact Action.ends_pure _ _
  | unreadable member identity read =>
      refine (Action.ends_now s).bind (Action.ends_call_error ?_).bind_error
      rw [distinct.getOrCreate_known member identity, DeviceEntry.sighted, read]
  | @known d member identity keyEq =>
      refine (Action.ends_now s).bind ((found d member identity).bind ?_)
      have same : false = true ∨ Text.trim d.publicKey = Text.trim request.publicKey :=
        .inr keyEq
      simp only [same, if_true]
      exact Action.ends_pure d s
  | @refused d member identity keyNe fixed =>
      refine (Action.ends_now s).bind ((found d member identity).bind ?_)
      have other : ¬(false = true ∨ Text.trim d.publicKey = Text.trim request.publicKey) :=
        not_or.mpr ⟨nofun, keyNe⟩
      simp only [other, fixed, if_true, if_false]
      exact Action.ends_fail .notEntitled s
  | @rotated d member identity keyNe allowed =>
      refine (Action.ends_now s).bind ((found d member identity).bind ?_)
      have other : ¬(false = true ∨ Text.trim d.publicKey = Text.trim request.publicKey) :=
        not_or.mpr ⟨nofun, keyNe⟩
      have accepted : d.status = .accepted := Decidable.not_not.mp fun status =>
        allowed (.inr status)
      have answer := run_rotateKey_of_accepted distinct member
        (DeviceEntry.hasIdentity_iff.mp identity).1 accepted request.publicKey now
      simp only [other, allowed, if_false]
      exact (Action.ends_call answer).bind (Action.ends_pure d _)

theorem Encounter.sameTokens {r : Except Failure Device}
    (encounter : a.Encounter s newId tenant request now r s') : s.SameTokens s' := by
  cases encounter with
  | registered unknown => exact Store.sameTokens_run s rfl
  | unreadable member identity read => exact .refl s
  | known member identity keyEq => exact .refl s
  | refused member identity keyNe fixed => exact .refl s
  | rotated member identity keyNe allowed => exact Store.sameTokens_run s rfl

theorem Encounter.distinct {r : Except Failure Device}
    (encounter : a.Encounter s newId tenant request now r s') (distinct : s.Distinct ids)
    (fresh : newId ∉ ids) : s'.Distinct (newId :: ids) := by
  have more : ∀ id ∈ ids, id ∈ newId :: ids := fun id member => List.mem_cons_of_mem _ member
  cases encounter with
  | registered unknown =>
      obtain ⟨candidate, seen⟩ : ∃ candidate : Device,
        candidate = .firstSeen newId tenant request.identityData request.publicKey now := ⟨_, rfl⟩
      have idEq : candidate.id = newId := by rw [seen]; rfl
      rw [← seen, ← idEq]
      apply distinct.run (c := .getOrCreate candidate)
      rintro d ⟨⟩
      rw [idEq]
      exact fresh
  | unreadable member identity read => exact distinct.mono more
  | known member identity keyEq => exact distinct.mono more
  | refused member identity keyNe fixed => exact distinct.mono more
  | @rotated d member identity keyNe allowed =>
      have left := distinct.run (c := .rotateKey tenant d.id request.publicKey now) nofun
      exact left.mono more

/-- What is left of the device that was found, with the key of the request. -/
theorem Encounter.exists_device {d : Device}
    (encounter : a.Encounter s newId tenant request now (.ok d) s') (distinct : s.Distinct ids)
    (fresh : newId ∉ ids) (legible : s.kind = .tables → now.isLegible = true) :
    ∃ d' : Device, d'.entry ∈ s'.devices ∧
      d'.entry.hasIdentity tenant request.identityData = true ∧ d'.id = d.id ∧
      d'.status = d.status ∧ Text.trim d'.publicKey = Text.trim request.publicKey := by
  cases encounter with
  | registered unknown =>
      obtain ⟨candidate, seen⟩ : ∃ candidate : Device,
        candidate = .firstSeen newId tenant request.identityData request.publicKey now := ⟨_, rfl⟩
      have identity : candidate.entry.hasIdentity tenant request.identityData = true := by
        rw [seen]
        exact DeviceEntry.hasIdentity_iff.mpr ⟨rfl, rfl⟩
      have keyEq : candidate.publicKey = request.publicKey := by
        rw [seen]
        rfl
      obtain ⟨-, devices⟩ := run_getOrCreate_firstSeen distinct fresh legible unknown seen
      rw [← seen]
      exact ⟨candidate, devices.mem_iff.mpr List.mem_cons_self, identity, rfl, rfl,
        congrArg Text.trim keyEq⟩
  | known member identity keyEq => exact ⟨d, member, identity, rfl, rfl, keyEq⟩
  | rotated member identity keyNe allowed =>
      have tenantEq : d.tenant = tenant := (DeviceEntry.hasIdentity_iff.mp identity).1
      have accepted : d.status = .accepted := Decidable.not_not.mp fun status =>
        allowed (.inr status)
      have kept : s.kind.kept 6 now = .ok now := by
        cases kindEq : s.kind with
        | memory => rfl
        | tables => exact StoreKind.tables.kept_eq_ok 6 (legible kindEq)
      obtain ⟨-, devices, -⟩ := distinct.run_rotateKey tenant d.id request.publicKey now
      refine ⟨{ d with publicKey := request.publicKey, updatedAt := now }, ?_, identity, rfl, rfl,
        rfl⟩
      rw [devices, kept]
      exact List.mem_map.mpr ⟨d.entry, member, if_pos (Device.isAccepted_entry tenantEq accepted)⟩

/-- A device that is not accepted when it is looked up gets no token. -/
theorem Encounter.ends_issue_of_unaccepted {d : Device}
    (encounter : a.Encounter s newId tenant request now (.ok d) s') (distinct : s.Distinct ids)
    (fresh : newId ∉ ids) (legible : s.kind = .tables → now.isLegible = true)
    (unaccepted : d.status ≠ .accepted) (tokenId : String) (wall : Int) :
    (a.authority.issue tokenId tenant d.id).Ends now wall s' (.error .notEntitled) s' := by
  obtain ⟨d', member, identity, idEq, statusEq, -⟩ :=
    encounter.exists_device distinct fresh legible
  rw [← statusEq] at unaccepted
  rw [← idEq, ← (DeviceEntry.hasIdentity_iff.mp identity).1]
  exact Authority.ends_issue_of_unaccepted (encounter.distinct distinct fresh) member unaccepted
    tokenId

/-! ## Requests -/

section Requests

variable {given : FreshIds} {body : Bytes} {signature : Option String}
variable {r : Except Failure Token} {d : Device} {e : Failure} {s₁ : Store}

theorem ends_grant_of_unchecked (failed : a.check wall body signature = .error e) :
    (a.grant given body signature).Ends now wall s (.error e) s := by
  have stops : (Action.ofExcept (a.check wall body signature)).Ends now wall s (.error e) s :=
    failed ▸ Action.ends_ofExcept _ s
  exact (Action.ends_wallSeconds s).bind stops.bind_error

theorem ends_grant_of_refused (checked : a.check wall body signature = .ok (request, tenant))
    (lookedUp : (a.lookUpDevice given.device tenant request).Ends now wall s (.error e) s') :
    (a.grant given body signature).Ends now wall s (.error e) s' := by
  have goes : (Action.ofExcept (a.check wall body signature)).Ends now wall s
      (.ok (request, tenant)) s := checked ▸ Action.ends_ofExcept _ s
  exact (Action.ends_wallSeconds s).bind (goes.bind lookedUp.bind_error)

theorem ends_grant_of_found (checked : a.check wall body signature = .ok (request, tenant))
    (lookedUp : (a.lookUpDevice given.device tenant request).Ends now wall s (.ok d) s₁)
    (issued : (a.authority.issue given.token tenant d.id).Ends now wall s₁ r s') :
    (a.grant given body signature).Ends now wall s r s' := by
  have goes : (Action.ofExcept (a.check wall body signature)).Ends now wall s
      (.ok (request, tenant)) s := checked ▸ Action.ends_ofExcept _ s
  exact (Action.ends_wallSeconds s).bind (goes.bind (lookedUp.bind issued))

end Requests

end Admission

end DeviceAdmission
