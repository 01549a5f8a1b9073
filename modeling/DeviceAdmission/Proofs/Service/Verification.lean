import DeviceAdmission.Proofs.Crypto.RequestSignatures
import DeviceAdmission.Proofs.Service.Quiet
import DeviceAdmission.Proofs.Service.Run

/-!
# Verification that nobody interferes with

What verification says of a recorded token depends on its expiry, on its mark of revocation and on
the clock, and on nothing else. Of any other raw text it says nothing good.
-/

namespace DeviceAdmission

open TokenEntry

/-- Whether everything that a key pair signs is verified. -/
def TokenKeys.Match (keys : TokenKeys) : Prop :=
  ∀ message signature, keys.sign message = .ok signature →
    keys.verifies message signature = true

namespace TokenKeys

variable {privateKey publicKey : String}

/-- Keys are had from two files that can be read, for signing from one and for verifying from the
other. -/
theorem ofKeyFiles_eq_ok_iff {keys : TokenKeys} :
    ofKeyFiles privateKey publicKey = .ok keys ↔
      ∃ privateBytes publicBytes, rsaKeyContents privateKey = .ok privateBytes ∧
        rsaKeyContents publicKey = .ok publicBytes ∧
          keys = ⟨Rsa.sign privateBytes, Rsa.verify publicBytes⟩ := by
  constructor
  · intro read
    rcases bind_eq_ok_iff.mp read with ⟨privateBytes, signing, read⟩
    rcases bind_eq_ok_iff.mp read with ⟨publicBytes, verification, ⟨⟩⟩
    exact ⟨privateBytes, publicBytes, eq_ok_of_mapError signing, eq_ok_of_mapError verification,
      rfl⟩
  · rintro ⟨privateBytes, publicBytes, privateEq, publicEq, rfl⟩
    rw [ofKeyFiles, privateEq, publicEq]
    rfl

/-- Tokens are signed as requests are. -/
theorem sign_of_ofKeyFiles {keys : TokenKeys} (read : ofKeyFiles privateKey publicKey = .ok keys)
    {message raw : Bytes} (made : RequestSigner.rsa privateKey message = .ok raw) :
    keys.sign message = .ok raw := by
  rcases ofKeyFiles_eq_ok_iff.mp read with ⟨privateBytes, publicBytes, privateEq, -, rfl⟩
  rw [RequestSigner.rsa_of_read privateEq] at made
  exact eq_ok_of_mapError made

/-- Keys can be read from two files with a private key and its public key, and they match. -/
theorem exists_match_of_isPair (pair : Rsa.IsPair privateKey publicKey) :
    ∃ keys, ofKeyFiles privateKey publicKey = .ok keys ∧ keys.Match := by
  rcases pair with ⟨privateBytes, publicBytes, k, privateEq, publicEq, isPrivate, isPublic⟩
  refine ⟨_, ofKeyFiles_eq_ok_iff.mpr ⟨privateBytes, publicBytes, privateEq, publicEq, rfl⟩, ?_⟩
  intro message signature signed
  exact (Rsa.verify_of_sign isPrivate isPublic signed).2

end TokenKeys

/-- The keys in two files match, and they sign. -/
theorem Sample.match_keyFiles :
    ∃ keys signature, TokenKeys.ofKeyFiles privateFile publicFile = .ok keys ∧ keys.Match ∧
      keys.sign emptyObject = .ok signature ∧ keys.verifies emptyObject signature = true := by
  rcases TokenKeys.exists_match_of_isPair isPair with ⟨keys, read, matching⟩
  rcases exists_signature with ⟨signature, made⟩
  have signed := TokenKeys.sign_of_ofKeyFiles read made
  exact ⟨keys, signature, read, matching, signed, matching _ _ signed⟩

/-- What verification says of a recorded token: first whether it has expired, with the leeway in
whole seconds, then whether it was revoked. -/
def Token.verdict (t : Token) (leeway : Span) (now : Instant) : Except Failure VerifiedToken :=
  if t.expiresAt.seconds + leeway.wholeSeconds ≤ now.seconds then .error .tokenExpired
  else if t.revoked then .error .tokenInvalid
  else .ok ⟨t.id, t.deviceId, t.tenant, t.expiresAt⟩

theorem saturated_le_iff {i n : Int} (least : minSigned ≤ n) (most : n < maxSigned) :
    saturated i ≤ n ↔ i ≤ n := by
  simp only [saturated]
  omega

namespace Authority

variable {a : Authority} {now : Instant} {wall : Int} {s : Store} {ids : List String} {t : Token}

/-- The sum of expiry and leeway is too large for 64 bits only where no clock gets to it. -/
theorem hasExpired_iff {claims : TokenClaims} (inRange : now.isInRange = true) :
    a.hasExpired claims now = true ↔
      claims.expiry + a.policy.leeway.wholeSeconds ≤ now.seconds := by
  have last : Instant.lastSecond < maxSigned := by decide
  have least := (seconds_of_isInRange inRange).1
  simp only [Instant.isInRange, Bool.and_eq_true, decide_eq_true_eq] at inRange
  rw [hasExpired, decide_eq_true_eq]
  exact saturated_le_iff least (Int.lt_of_le_of_lt inRange.2 last)

/-- The raw text of a minted token decodes to its claims. -/
theorem Minted.decode? (minted : a.Minted t) (matching : a.keys.Match)
    (least : 0 ≤ t.expiresAt.seconds) :
    ∃ claims, TokenClaims.decode? a.keys.verifies a.policy.issuer t.raw = some claims ∧
      claims.id = t.id ∧ claims.subject = t.deviceId ∧ claims.tenant = t.tenant.name ∧
      claims.expiry = t.expiresAt.seconds := by
  rcases minted.claims with ⟨now, signature, -, fits, signed, rawEq, -, expiryEq⟩
  have secondsEq : t.expiresAt.seconds = (a.newClaims t.id t.tenant t.deviceId now).expiry := by
    rw [expiryEq, Instant.seconds_ofSeconds]
  rw [secondsEq] at least
  have decoded := TokenClaims.decode?_tokenOf fits least (matching _ _ signed)
  rw [← rawEq] at decoded
  exact ⟨_, decoded, rfl, rfl, rfl, secondsEq.symm⟩

/-- A recorded token gets the verdict on it. -/
theorem ends_verify (orderly : s.Orderly ids) (timely : now.isTimely = true)
    (member : t.entry ∈ s.tokens) (minted : a.Minted { t with revoked := false })
    (matching : a.keys.Match) (expires : t.expiresAt.isTimely = true) :
    (a.verify t.raw).Ends now wall s (t.verdict a.policy.leeway now) s := by
  rcases minted.decode? matching (Instant.isTimely_iff.mp expires).1 with
    ⟨claims, decoded, idEq, subjectEq, tenantEq, expiryEq⟩
  simp only at decoded idEq subjectEq tenantEq expiryEq
  have expiry : a.hasExpired claims now = true ↔ _ :=
    hasExpired_iff (Instant.isInRange_of_isTimely timely)
  rw [expiryEq] at expiry
  unfold verify
  simp only [decoded, idEq, subjectEq, tenantEq]
  apply (Action.ends_now s).bind
  by_cases expired : a.hasExpired claims now = true
  · simp only [Token.verdict, expired, expiry.mp expired, if_true]
    exact Action.ends_fail .tokenExpired s
  have notExpired : ¬t.expiresAt.seconds + a.policy.leeway.wholeSeconds ≤ now.seconds :=
    mt expiry.mpr expired
  have found : s.run (.getToken ⟨t.tenant.name⟩ t.id) = (.ok (some t), s) := by
    rw [Store.run_getToken]
    have found := orderly.keyed.find?_of_mem member
    simp only [Token.entry] at found
    rw [found]
    rfl
  simp only [Token.verdict, expired, notExpired, if_false, Bool.false_eq_true]
  apply (Action.ends_call found).bind
  cases revoked : t.revoked with
  | true =>
      simp only [revoked, true_or, if_true]
      exact Action.ends_fail .tokenInvalid s
  | false =>
      obtain ⟨d, dMem, dTenant, dId, accepted⟩ := orderly.entitled t member revoked
      have answer := orderly.registered.run_getDevice dMem
      rw [dTenant, dId] at answer
      simp only [revoked, ne_eq, not_true_eq_false, or_false, Bool.false_eq_true, if_false]
      apply (Action.ends_call answer).bind
      simp only [accepted, dId, if_true]
      exact Action.ends_pure _ s

/-- Whatever is verified over an orderly store is a token of it with force, of an accepted
device. -/
theorem exists_of_verify {raw : String} {v : VerifiedToken} {w : World}
    (orderly : w.store.Orderly ids) (verified : ((a.verify raw).run w).1 = .ok v) :
    ∃ t : Token, t.entry ∈ w.store.tokens ∧ t.revoked = false ∧
      v = ⟨t.id, t.deviceId, t.tenant, t.expiresAt⟩ ∧ w.store.HasAccepted t.tenant t.deviceId := by
  obtain ⟨_, -, -, -, -, e, member, keyEq, deviceEq, unrevoked, expiresEq⟩ :=
    recorded_of_verify verified
  rcases orderly.readable e member with ⟨t, rfl⟩
  refine ⟨t, member, unrevoked, ?_, orderly.entitled t member unrevoked⟩
  rcases v with ⟨tokenId, deviceId, tenant, expiresAt⟩
  rcases Prod.mk.inj keyEq with ⟨rfl, rfl⟩
  cases Except.ok.inj expiresEq
  cases deviceEq
  rfl

end Authority

namespace Sample

theorem keys_match : admission.authority.keys.Match := by
  rintro message signature ⟨⟩
  exact decide_eq_true rfl

end Sample

end DeviceAdmission
