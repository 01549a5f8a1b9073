import DeviceAdmission.Proofs.Service.Encounters
import DeviceAdmission.Proofs.Service.Run
import DeviceAdmission.Proofs.Store.Insertions
import DeviceAdmission.Proofs.Store.Readback

/-!
# What an issuance does

Where nobody interferes, an issuance over a sound store is decided by the record of the device and
by its token that is not revoked. No token is issued for a device that is missing or not accepted,
the live token of an accepted device is given again, and where there is none a new one is added in
place of the one that has expired. The status that is looked up again at the end is the one that was
looked up first. A record that cannot be read stops the issuance, and changes nothing.
-/

namespace DeviceAdmission

/-- Whether the signing key of a pair signs every message. -/
def TokenKeys.Signs (keys : TokenKeys) : Prop :=
  ∀ message, ∃ signature, keys.sign message = .ok signature

namespace Authority

variable {a : Authority} {s : Store} {tokenId deviceId : String} {tenant : Tenant}
variable {now : Instant}

/-- With such a key a token is minted at every time whose expiry is in range. -/
theorem exists_mint (signs : a.keys.Signs)
    (inRange : (now.add a.policy.expiration).isInRange = true) (tokenId : String) (tenant : Tenant)
    (deviceId : String) : ∃ t, a.mint tokenId tenant deviceId now = .ok t := by
  obtain ⟨signature, signed⟩ := signs
    (Jws.message (a.newClaims tokenId tenant deviceId now).json.write)
  have encoded := TokenClaims.encode_eq_ok_iff.mpr ⟨signature, signed, rfl⟩
  simp [mint, encoded, inRange, Except.mapError, bind, Except.bind, pure, Except.pure]

end Authority

/-! ## By the records of the store -/

namespace Store

variable {s : Store} {tenant : Tenant} {deviceId : String} {now : Instant} {new : Token}

/-- What an issuance comes to by the records of the device and of its token, where `new` is the
token that is minted. -/
def issuance (s : Store) (tenant : Tenant) (deviceId : String) (now : Instant) (new : Token) :
    Except Failure Token × Store :=
  match s.devices.find? (DeviceEntry.isDevice tenant deviceId) with
  | none => (.error .notEntitled, s)
  | some record =>
    match record.read with
    | .error fault => (.error (.internal (.storeFailed "get_device" fault)), s)
    | .ok device =>
      if device.status ≠ .accepted then (.error .notEntitled, s)
      else
        match s.liveOrNew tenant deviceId now new with
        | (.ok t, left) => (.ok t, left)
        | (.error fault, left) =>
          (.error (.internal (.storeFailed "insert_or_get_live" fault)), left)

/-- Both parts of an issuance are decided one after the other. -/
theorem issuance_eq :
    s.issuance tenant deviceId now new =
      match s.look tenant deviceId with
      | .error e => (.error e, s)
      | .ok () =>
        match s.liveOrNew tenant deviceId now new with
        | (.ok t, left) => (.ok t, left)
        | (.error fault, left) =>
          (.error (.internal (.storeFailed "insert_or_get_live" fault)), left) := by
  rw [look, run_getDevice, issuance]
  cases s.devices.find? (DeviceEntry.isDevice tenant deviceId) with
  | none => rfl
  | some record =>
      simp only [TableStore.readFound]
      cases record.read with
      | error fault => rfl
      | ok device =>
          simp only [Except.map]
          by_cases accepted : device.status = .accepted
          · simp only [accepted, ne_eq, not_true_eq_false, if_false, if_true]
          · simp only [accepted, ne_eq, not_false_eq_true, if_true, if_false]

/-- A token that cannot be read leaves the store as it was. -/
theorem eq_of_liveOrNew_error {fault : StoreFault} {left : Store}
    (failed : s.liveOrNew tenant deviceId now new = (.error fault, left)) : left = s := by
  unfold liveOrNew at failed
  split at failed
  · cases failed
  · split at failed
    · cases failed
      rfl
    · split at failed
      · cases failed
      · cases failed

end Store

/-! ## Main statement -/

namespace Authority

variable {a : Authority} {s : Store} {tokenId deviceId : String} {tenant : Tenant}
variable {now : Instant}

/-- The issuance goes as the records of the store decide. -/
theorem dispatch_issuance (sound : s.Sound) (fresh : ∀ e ∈ s.tokens, e.id ≠ tokenId) {new : Token}
    (minted : a.mint tokenId tenant deviceId now = .ok new) :
    a.Dispatch s tokenId tenant deviceId now (s.issuance tenant deviceId now new).1
      (s.issuance tenant deviceId now new).2 := by
  have made := minting minted
  rw [Store.issuance_eq]
  cases looked : s.look tenant deviceId with
  | error e => exact .refused looked
  | ok done =>
      rw [← made.idEq] at fresh
      have answer := Store.run_insertOrGetLive_eq sound fresh now
      rw [made.tenantEq, made.deviceEq] at answer
      cases inserted : s.liveOrNew tenant deviceId now new with
      | mk result left =>
          rw [inserted] at answer
          cases result with
          | error fault =>
              obtain rfl := Store.eq_of_liveOrNew_error inserted
              exact .stopped looked minted answer
          | ok t => exact .issued looked minted answer

/-- The exact effect of an issuance that nobody interferes with, over any store with at most one
unrevoked token of a device, with a key that signs, an expiry in the years 1970 to 9999 and a fresh
id: a token for the device is minted, and the issuance ends and leaves the store as its records
decide. -/
theorem issue_exact (a : Authority) {s : Store} (sound : s.Sound) (signs : a.keys.Signs)
    (now : Instant) (timely : (now.add a.policy.expiration).isTimely = true) (tokenId : String)
    (fresh : ∀ e ∈ s.tokens, e.id ≠ tokenId) (tenant : Tenant) (deviceId : String) (wall : Int) :
    ∃ new, a.mint tokenId tenant deviceId now = .ok new ∧ new.id = tokenId ∧
      new.tenant = tenant ∧ new.deviceId = deviceId ∧ new.revoked = false ∧
        (a.issue tokenId tenant deviceId).Ends now wall s
          (s.issuance tenant deviceId now new).1 (s.issuance tenant deviceId now new).2 := by
  obtain ⟨new, minted⟩ :=
    exists_mint signs (Instant.isInRange_of_isTimely timely) tokenId tenant deviceId
  have made := minting minted
  exact ⟨new, minted, made.idEq, made.tenantEq, made.deviceEq, made.unrevoked,
    (dispatch_issuance sound fresh minted).ends wall⟩

end Authority

namespace Sample

/-- The token that the device of the sample gets when the one before has expired. -/
def renewed : Token where
  id := "t3"
  deviceId := "d"
  tenant := .default
  raw :=
    "eyJ0eXAiOiJKV1QiLCJhbGciOiJSUzI1NiJ9." ++
      "eyJqdGkiOiJ0MyIsInN1YiI6ImQiLCJpc3MiOiJhZG1pc3Npb24iLCJpYXQiOjE2MiwiZXhwIjoyMjJ9.dQ"
  issuedAt := .ofSeconds 162
  expiresAt := .ofSeconds 222
  revoked := false

/-- In the second in which its token expires the device of the sample is issued another one. -/
theorem issue_exact_renewed :
    (issued .tables).store.Sound ∧
      (admission.authority.issue "t3" .default "d").Ends (.ofSeconds 162) 0 (issued .tables).store
        (.ok renewed)
        (((issued .tables).store.withTokensRevoked .default "d").withToken renewed) := by
  have sound : (issued .tables).store.Sound :=
    ((reached_issued .tables).kept (by decide +kernel)).sound
  have fresh : ∀ e ∈ (issued .tables).store.tokens, e.id ≠ "t3" := by decide +kernel
  obtain ⟨new, minted, -, -, -, -, ends⟩ := admission.authority.issue_exact sound
    (fun _ => ⟨_, rfl⟩) (.ofSeconds 162) (by decide) "t3" fresh .default "d" 0
  have renewedEq : admission.authority.mint "t3" .default "d" (.ofSeconds 162) = .ok renewed := by
    decide +kernel
  obtain rfl : new = renewed := Except.ok.inj (minted.symm.trans renewedEq)
  have outcome : (issued .tables).store.issuance .default "d" (.ofSeconds 162) renewed =
      (.ok renewed, ((issued .tables).store.withTokensRevoked .default "d").withToken renewed) := by
    decide +kernel
  rw [outcome] at ends
  exact ⟨sound, ends⟩

/-- Tables with an accepted device and a token of it that expires in the year 10000. -/
def unreadableStore : Store :=
  .tables
    { devices := [.ofDevice { earlyDevice with status := .accepted }]
      tokens := [.ofToken (expiringToken 253402300800)] }

/-- An accepted device is not always issued a token: where its live token cannot be read, the
issuance fails. -/
theorem not_always_issued : ¬∀ (a : Authority) (s : Store) (now : Instant) (tokenId : String)
    (tenant : Tenant) (deviceId : String) (wall : Int), s.Sound → a.keys.Signs →
      (now.add a.policy.expiration).isTimely = true → (∀ e ∈ s.tokens, e.id ≠ tokenId) →
        s.HasAccepted tenant deviceId →
          ∃ t left, (a.issue tokenId tenant deviceId).Ends now wall s (.ok t) left := by
  intro claim
  have sound : unreadableStore.Sound :=
    ⟨fun _ _ => List.countP_le_length, fun _ => by decide⟩
  have accepted : unreadableStore.HasAccepted .default "d" := by
    refine ⟨{ earlyDevice with status := .accepted }, ?_, rfl, rfl, rfl⟩
    exact List.mem_singleton.mpr (Ledger.entry_ofDevice (by decide)).symm
  obtain ⟨t, left, ends⟩ := claim admission.authority unreadableStore (.ofSeconds 0) "t1" .default
    "d" 0 sound (fun _ => ⟨_, rfl⟩) (by decide) (by decide) accepted
  have failed : ((admission.authority.issue "t1" .default "d").run
      (World.quiet unreadableStore (.ofSeconds 0) 0)).1.toOption = none := by decide +kernel
  rw [ends.run_quiet.1] at failed
  cases failed

end Sample

end DeviceAdmission
