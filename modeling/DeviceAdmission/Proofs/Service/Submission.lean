import DeviceAdmission.Proofs.Crypto.RequestSignatures
import DeviceAdmission.Proofs.Service.Agreement

/-!
# What a submission yields

A submission gives a token only for a request that is authentic, to a device that was registered
before and is accepted; and the token is verified at the same instant. A device that is seen for the
first time is registered as pending and gets nothing.
-/

namespace DeviceAdmission

open TokenEntry

/-! ## Checks -/

namespace TenantResolver

/-- In signed mode the tenant is the one that a valid tenant token names. -/
theorem claimed_of_resolve {verifies : (message signature : Bytes) → Bool} {wall : Int}
    {token : Option String} {tenant : Tenant}
    (resolved : (signed verifies).resolve wall token = .ok tenant) :
    claimedTenant? verifies wall (Text.trim (token.getD "")) = some tenant.name ∧
      tenant.name ≠ "" := by
  simp only [resolve] at resolved
  split at resolved
  · cases resolved
  · cases claimed : claimedTenant? verifies wall (Text.trim (token.getD "")) with
    | none =>
        rw [claimed] at resolved
        cases resolved
    | some name =>
        rw [claimed] at resolved
        simp only at resolved
        split at resolved
        · cases resolved
        · rename_i notEmpty
          cases resolved
          constructor
          · rfl
          · rintro rfl
            exact notEmpty rfl

end TenantResolver

namespace Admission

variable {a : Admission} {wall : Int} {body : Bytes} {signature : Option String}
variable {request : AuthRequest} {tenant : Tenant}

/-- A request that passes the checks decodes, says who asks and with which key, carries a signature
of its body under this key, and belongs to a tenant. -/
theorem of_check (checked : a.check wall body signature = .ok (request, tenant)) :
    AuthRequest.decode body = .ok request ∧ request.validate = .ok () ∧
      a.signatures.accepts body request.publicKey (Text.trim (signature.getD "")) = true ∧
      a.tenants.resolve wall request.tenantToken = .ok tenant := by
  simp only [check, AuthRequest.parse, Bind.bind, Except.bind] at checked
  cases decoded : AuthRequest.decode body with
  | error fault =>
      rw [decoded] at checked
      cases checked
  | ok found =>
      rw [decoded] at checked
      simp only [Except.mapError] at checked
      cases valid : found.validate with
      | error failure =>
          rw [valid] at checked
          cases checked
      | ok done =>
          rw [valid] at checked
          simp only at checked
          split at checked
          · cases checked
          split at checked
          · cases checked
          split at checked
          · cases checked
          rename_i accepted
          cases resolved : a.tenants.resolve wall found.tenantToken with
          | error failure =>
              rw [resolved] at checked
              cases checked
          | ok name =>
              rw [resolved] at checked
              cases checked
              refine ⟨rfl, valid, ?_, resolved⟩
              simpa using accepted

/-- An accepted signature is, between its blanks, the base64 text of one that verifies. -/
theorem exists_of_accepts {scheme : SignatureScheme} {key text : String}
    (accepted : scheme.accepts body key (Text.trim text) = true) :
    ∃ bytes, Base64.decode? .standard (Text.trim text) = some bytes ∧
      scheme.verifies key body bytes = true := by
  rcases SignatureScheme.accepts_iff.mp accepted with ⟨-, raw, textEq, -, verifies⟩
  rw [Text.trim_trim] at textEq
  exact ⟨raw, Base64.decode?_eq_some_iff.mpr textEq, verifies⟩

/-! ## The device of a request -/

variable {s s' : Store} {ids : List String} {newId : String} {now : Instant} {d : Device}

/-- A device that is accepted after it was looked up was there before, with its status. Nothing of
it but its key has changed, and its key is the one of the request. -/
theorem LookUp.of_accepted (lookedUp : a.LookUp s newId tenant request now (.ok d) s')
    (registered : s'.Registered ids) (accepted : s'.HasAccepted tenant d.id) :
    d.entry ∈ s.devices ∧ d.tenant = tenant ∧ d.identityData = request.identityData ∧
      d.status = .accepted ∧
      ∃ d' : Device, d'.entry ∈ s'.devices ∧
        d' = { d with publicKey := d'.publicKey, updatedAt := d'.updatedAt } ∧
        Text.trim d'.publicKey = Text.trim request.publicKey := by
  cases lookedUp with
  | registered seen unknown tokens devices identities =>
      have member : d.entry ∈ s'.devices := devices.mem_iff.mpr List.mem_cons_self
      have status := registered.accepted member accepted
      rw [seen] at status
      cases status
  | known member tenantEq identityEq keyEq =>
      exact ⟨member, tenantEq, identityEq, registered.accepted member accepted, d, member, rfl,
        keyEq⟩
  | rotated member tenantEq identityEq keyNe allowed status tokens identities devices =>
      refine ⟨member, tenantEq, identityEq, status,
        { d with publicKey := request.publicKey, updatedAt := now }, ?_, rfl, rfl⟩
      rw [devices]
      exact List.mem_map.mpr ⟨d.entry, member, if_pos (Device.isAccepted_entry tenantEq status)⟩

/-- The look-up of a device that is unknown registers it as pending. -/
theorem LookUp.of_unknown {r : Except Failure Device}
    (lookedUp : a.LookUp s newId tenant request now r s')
    (unknown : ∀ e ∈ s.devices, e.hasIdentity tenant request.identityData = false) :
    r = .ok (.firstSeen newId tenant request.identityData request.publicKey now) ∧
      s'.devices.Perm ((Device.firstSeen newId tenant request.identityData request.publicKey
        now).entry :: s.devices) := by
  have known : ∀ d : Device, d.entry ∈ s.devices → d.tenant = tenant →
      d.identityData = request.identityData → False := by
    intro d member tenantEq identityEq
    have has : d.entry.hasIdentity tenant request.identityData = true :=
      DeviceEntry.hasIdentity_iff.mpr ⟨tenantEq, identityEq⟩
    rw [unknown d.entry member] at has
    cases has
  cases lookedUp with
  | registered seen unknown tokens devices identities =>
      subst seen
      exact ⟨rfl, devices⟩
  | known member tenantEq identityEq keyEq => exact (known _ member tenantEq identityEq).elim
  | refused member tenantEq identityEq keyNe fixed =>
      exact (known _ member tenantEq identityEq).elim
  | rotated member tenantEq identityEq keyNe allowed status tokens identities devices =>
      exact (known _ member tenantEq identityEq).elim

end Admission

/-! ## The token of a request -/

namespace Authority

variable {a : Authority} {s s' : Store} {tokenId deviceId : String} {tenant : Tenant}
variable {now : Instant} {t : Token}

/-- A device that is not accepted gets nothing, and nothing changes. -/
theorem Issuance.of_unfit {r : Except Failure Token}
    (issued : a.Issuance s tokenId tenant deviceId now r s')
    (unfit : ¬s.HasAccepted tenant deviceId) : r = .error .notEntitled ∧ s' = s := by
  cases issued with
  | notEntitled _ => exact ⟨rfl, rfl⟩
  | notMinted accepted failed => exact absurd accepted unfit
  | reused accepted member outstanding live => exact absurd accepted unfit
  | added accepted minted expired devices tokens => exact absurd accepted unfit

/-- A new token that holds for a second or longer expires after the second it was minted in. -/
theorem lt_expiry_of_mint (lasts : nanosPerSecond ≤ a.policy.expiration.nanos)
    (minted : a.mint tokenId tenant deviceId now = .ok t) :
    now.seconds < t.expiresAt.seconds := by
  rw [(minting minted).expiresAt, Instant.seconds_ofSeconds]
  simp only [nanosPerSecond] at lasts
  simp only [Instant.seconds, Instant.add, nanosPerSecond]
  omega

/-- A minted token that is live expires after the second of the clock. -/
theorem Minted.lt_expiry (minted : a.Minted t) (live : t.isExpiredAt now = false) :
    now.seconds < t.expiresAt.seconds := by
  rcases minted.claims with ⟨made, signature, -, -, -, -, -, expiryEq⟩
  have notOver : ¬t.expiresAt ≤ now := of_decide_eq_false live
  rw [expiryEq, ← Instant.le_seconds_iff] at notOver
  rw [expiryEq, Instant.seconds_ofSeconds]
  exact Int.lt_of_not_ge notOver

end Authority

/-- A request of a device that is unknown registers it as pending and is refused. -/
theorem Admission.Grant.of_unknown {a : Admission} {s s' : Store} {given : FreshIds}
    {body : Bytes} {signature : Option String} {now : Instant} {wall : Int}
    {request : AuthRequest} {tenant : Tenant} {ids : List String} {r : Except Failure Token}
    (granted : a.Grant s given body signature now wall r s') (orderly : s.Orderly ids)
    (fresh : given.device ∉ ids) (checked : a.check wall body signature = .ok (request, tenant))
    (unknown : ∀ e ∈ s.devices, e.hasIdentity tenant request.identityData = false) :
    r = .error .notEntitled ∧ s.SameTokens s' ∧
      s'.devices.Perm ((Device.firstSeen given.device tenant request.identityData
        request.publicKey now).entry :: s.devices) := by
  cases granted with
  | unchecked failed =>
      rw [checked] at failed
      cases failed
  | refused found lookedUp =>
      rw [checked] at found
      cases found
      cases (lookedUp.of_unknown unknown).1
  | @issued request tenant d s₁ s' r found lookedUp issued =>
      rw [checked] at found
      cases found
      rcases lookedUp.of_unknown unknown with ⟨seen, devices⟩
      cases seen
      have registered := (lookedUp.orderly orderly fresh).registered
      have unfit : ¬s₁.HasAccepted tenant given.device := by
        intro accepted
        have status := registered.accepted (devices.mem_iff.mpr List.mem_cons_self) accepted
        cases status
      obtain ⟨rfl, rfl⟩ := issued.of_unfit unfit
      exact ⟨rfl, lookedUp.sameTokens, devices⟩

namespace Run

variable {s : Admission} {r : Run} {s₁ s' : Store} {tokenId deviceId : String} {tenant : Tenant}
variable {now : Instant} {t : Token}

/-- The token of an issuance is one of the device, recorded with force, and expires later. -/
theorem Agrees.of_issuance (agrees : r.Agrees s) (calm : ∀ e ∈ r.past, e.Calm)
    (lasts : nanosPerSecond ≤ s.authority.policy.expiration.nanos)
    (timely : now.isTimely = true)
    (within : (now.add s.authority.policy.expiration).date.year ≤ 9999)
    (tokensEq : s₁.tokens = r.store.tokens)
    (issued : s.authority.Issuance s₁ tokenId tenant deviceId now (.ok t) s') :
    (s₁.HasAccepted tenant deviceId ∧ s'.devices = s₁.devices) ∧
      (t.tenant = tenant ∧ t.deviceId = deviceId ∧ t.revoked = false) ∧
      s.authority.Minted t ∧ t.expiresAt.isTimely = true ∧ now.seconds < t.expiresAt.seconds ∧
      t.entry ∈ s'.tokens := by
  cases issued with
  | reused accepted member outstanding live =>
      obtain ⟨unrevoked, tenantEq, deviceEq⟩ :=
        isOutstanding_iff.mp ((Token.isOutstanding_entry t).trans outstanding)
      have member₀ : t.entry ∈ r.store.tokens := tokensEq ▸ member
      rcases agrees.exists_handed member₀ unrevoked with ⟨later, e, earlier, past, handed, -⟩
      have inPast := mem_past past
      rcases agrees.handed e inPast t handed with ⟨-, minted⟩
      exact ⟨⟨accepted, rfl⟩, ⟨tenantEq, deviceEq, unrevoked⟩, minted,
        (calm e inPast).expires t handed, minted.lt_expiry live, member⟩
  | added accepted minted expired devices tokens =>
      obtain ⟨-, isMinted⟩ := Authority.minted_of_mints (Instant.isInRange_of_isTimely timely)
        ⟨tenant, deviceId, minted⟩
      have lt_expiry := Authority.lt_expiry_of_mint lasts minted
      have made := Authority.minting minted
      have expires : t.expiresAt.isTimely = true := by
        have least := (Instant.isTimely_iff.mp timely).1
        have most : t.expiresAt.seconds ≤ 253402300799 := by
          rw [made.expiresAt, Instant.seconds_ofSeconds]
          exact Instant.year_le_iff.mp within
        rw [Instant.isTimely_iff]
        omega
      rw [Authority.tokenEntry_of_mint s₁.kind timely minted expires] at tokens
      refine ⟨⟨accepted, devices.devices⟩, ⟨made.tenantEq, made.deviceEq, made.unrevoked⟩, isMinted,
        expires, lt_expiry, ?_⟩
      rw [tokens]
      exact mem_put_self

end Run

/-! ## Main statement -/

/-- A submission is answered with a raw token: the request is authentic, its device `d` was there
and accepted before, what is left of it is `d'` with the key of the request, and the token is
verified at the same instant as that of the device. -/
structure Admission.Admits (s : Admission) (before after : Store) (now : Instant) (wall : Int)
    (body : Bytes) (signature : Option String) (raw : String) (request : AuthRequest)
    (d d' : Device) : Prop where
  decoded : AuthRequest.decode body = .ok request
  signed : ∃ bytes, Base64.decode? .standard (Text.trim (signature.getD "")) = some bytes ∧
    s.signatures.verifies request.publicKey body bytes = true
  resolved : s.tenants.resolve wall request.tenantToken = .ok d.tenant
  claimed : ∀ verifies, s.tenants = .signed verifies →
    TenantResolver.claimedTenant? verifies wall (Text.trim (request.tenantToken.getD "")) =
        some d.tenant.name ∧ d.tenant.name ≠ ""
  existed : d.entry ∈ before.devices
  identity : d.identityData = request.identityData
  accepted : d.status = .accepted
  remains : d'.entry ∈ after.devices
  same : d' = { d with publicKey := d'.publicKey, updatedAt := d'.updatedAt }
  key : Text.trim d'.publicKey = Text.trim request.publicKey
  verified : ∃ v, ((s.authority.verify raw).run (World.quiet after now wall)).1 = .ok v ∧
    v.deviceId = d.id ∧ v.tenant = d.tenant

namespace Run

variable {s : Admission} {kind : StoreKind} {r : Run} {given : FreshIds} {now : Instant}
variable {wall : Int} {body : Bytes} {signature : Option String} {s' : Store} {t : Token}

/-- A request that is granted is one of a device that is admitted. -/
theorem Agrees.exists_admits (agrees : r.Agrees s) (calm : ∀ e ∈ r.past, e.Calm)
    (freshDevice : given.device ∉ deviceIds r.past)
    (freshToken : ∀ f ∈ r.store.tokens, f.id ≠ given.token) (matching : s.authority.keys.Match)
    (lasts : nanosPerSecond ≤ s.authority.policy.expiration.nanos)
    (leeway : 0 ≤ s.authority.policy.leeway.nanos) (timely : now.isTimely = true)
    (within : (now.add s.authority.policy.expiration).date.year ≤ 9999)
    (granted : s.Grant r.store given body signature now wall (.ok t) s') :
    ∃ request d d', s.Admits r.store s' now wall body signature t.raw request d d' := by
  have whole := granted
  cases granted with
  | @issued request tenant d s₁ s' result checked lookedUp issued =>
      have registered := (lookedUp.orderly agrees.orderly freshDevice).registered
      obtain ⟨⟨isAccepted, devicesEq⟩, ⟨tenantEq, deviceEq, unrevoked⟩, minted, expires,
        lt_expiry, member⟩ :=
        agrees.of_issuance calm lasts timely within lookedUp.sameTokens.tokens issued
      obtain ⟨existed, rfl, identity, accepted, d', remains, same, key⟩ :=
        lookedUp.of_accepted registered isAccepted
      obtain ⟨decoded, -, acceptable, resolved⟩ := Admission.of_check checked
      have orderly : s'.Orderly (given.device :: deviceIds r.past) := by
        apply whole.orderly agrees.orderly freshDevice freshToken timely
        rintro _ ⟨⟩
        exact expires
      refine ⟨request, d, d', decoded, Admission.exists_of_accepts acceptable, resolved, ?_,
        existed, identity, accepted, devicesEq ▸ remains, same, key, ?_⟩
      · intro verifies signedMode
        rw [signedMode] at resolved
        exact TenantResolver.claimed_of_resolve resolved
      · have itself : { t with revoked := false } = t := by rw [← unrevoked]
        have ends : (s.authority.verify t.raw).Ends now wall s'
            (t.verdict s.authority.policy.leeway now) s' :=
          Authority.ends_verify orderly timely member (itself.symm ▸ minted) matching expires
        have more : 0 ≤ s.authority.policy.leeway.wholeSeconds :=
          Int.tdiv_nonneg leeway (by decide)
        have notOver :
            ¬t.expiresAt.seconds + s.authority.policy.leeway.wholeSeconds ≤ now.seconds := by
          omega
        refine ⟨⟨t.id, t.deviceId, t.tenant, t.expiresAt⟩, ?_, deviceEq, tenantEq⟩
        rw [ends.run_quiet.1, Token.verdict, if_neg notOver, unrevoked]
        rfl

/-- A submission in a run without interference, whose ids are fresh and whose keys match. If it is
answered with a token, the device is admitted. If the request passes all checks and nobody with its
identity is known, it is refused, and nothing changes but that one pending device is registered. -/
theorem Reached.submission (reached : r.Reached s kind) (calm : ∀ e ∈ r.past, e.Calm)
    (given : FreshIds) (now : Instant)
    (freshTokens : (given.token :: tokenIds r.past).Nodup)
    (freshDevices : (given.device :: deviceIds r.past).Nodup)
    (matching : s.authority.keys.Match)
    (lasts : nanosPerSecond ≤ s.authority.policy.expiration.nanos)
    (leeway : 0 ≤ s.authority.policy.leeway.nanos) (since : 1970 ≤ now.date.year)
    (within : (now.add s.authority.policy.expiration).date.year ≤ 9999) (wall : Int)
    (body : Bytes) (signature : Option String) :
    (∀ raw w', (s.submit given body signature).run (World.quiet r.store now wall) = (.ok raw, w') →
        ∃ request d d', s.Admits r.store w'.store now wall body signature raw request d d') ∧
      ∀ request tenant, s.check wall body signature = .ok (request, tenant) →
        (∀ e ∈ r.store.devices, e.hasIdentity tenant request.identityData = false) →
        ∃ w', (s.submit given body signature).run (World.quiet r.store now wall) =
            (.error .notEntitled, w') ∧ r.store.SameTokens w'.store ∧
          w'.store.devices.Perm ((Device.firstSeen given.device tenant request.identityData
            request.publicKey now).entry :: r.store.devices) := by
  rcases List.nodup_cons.mp freshTokens with ⟨freshToken, pastTokens⟩
  rcases List.nodup_cons.mp freshDevices with ⟨freshDevice, pastDevices⟩
  have agrees := reached.agrees calm pastTokens pastDevices
  have newToken : ∀ f ∈ r.store.tokens, f.id ≠ given.token :=
    (reached.kept pastTokens).id_ne freshToken
  have timely : now.isTimely = true := by
    have least := Instant.year_ge_iff.mp since
    have most := Instant.year_le_iff.mp within
    simp only [nanosPerSecond] at lasts
    rw [Instant.isTimely_iff]
    simp only [Instant.seconds, Instant.add, nanosPerSecond] at least most ⊢
    omega
  obtain ⟨result, s', granted, ends⟩ := Admission.exists_ends_grant s wall agrees.orderly
    freshDevice newToken timely body signature
  obtain ⟨calls, ran⟩ := (ends.map Token.raw) []
  have ran : (s.submit given body signature).run (World.quiet r.store now wall) =
      (result.map Token.raw, Action.quietWorld now wall s' calls) := ran
  constructor
  · intro raw w' submitted
    rw [ran] at submitted
    cases result with
    | error e => cases submitted
    | ok t =>
        cases submitted
        exact agrees.exists_admits calm freshDevice newToken matching lasts leeway timely within
          granted
  · intro request tenant checked unknown
    obtain ⟨rfl, tokens, devices⟩ :=
      granted.of_unknown agrees.orderly freshDevice checked unknown
    exact ⟨_, ran, tokens, devices⟩

end Run

/-- The device of the sample gets its token again when it submits its request again. -/
theorem Sample.submission_admits :
    ∃ request d d', Sample.admission.Admits (Sample.issued .memory).store
      ((Sample.admission.submit ⟨"e", "t3"⟩ Sample.body (some "IA==")).run
        (World.quiet (Sample.issued .memory).store (.ofSeconds 104) 0)).2.store
      (.ofSeconds 104) 0 Sample.body (some "IA==") Sample.token.raw request d d' := by
  obtain ⟨admitted, -⟩ := (Sample.reached_issued .memory).submission
    (fun e member => Sample.calm .memory e (List.mem_cons_of_mem _ member)) ⟨"e", "t3"⟩
    (.ofSeconds 104) (by decide +kernel) (by decide +kernel) Sample.keys_match (by decide)
    (by decide) (by decide) (by decide) 0 Sample.body (some "IA==")
  exact admitted Sample.token.raw _ (Prod.ext (by decide +kernel) rfl)

end DeviceAdmission
