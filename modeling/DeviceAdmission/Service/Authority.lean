import DeviceAdmission.Crypto.Outline
import DeviceAdmission.Crypto.Rsa
import DeviceAdmission.Service.World
import DeviceAdmission.TokenClaims

/-!
# The token authority

Issues, verifies and revokes the tokens of accepted devices. A token is a signed text; what counts
is the record of it in the store, whose mark of revocation and whose device's status are looked up
again at every verification.
-/

namespace DeviceAdmission

/-- The key pair that tokens are signed with. -/
structure TokenKeys where
  sign : (message : Bytes) → Except SigningFault Bytes
  verifies : (message signature : Bytes) → Bool

/-- Why a key pair cannot be read. -/
inductive TokenKeysFault where
  | signingKey (fault : KeyFileFault)
  | verificationKey (fault : KeyFileFault)
  deriving DecidableEq, Repr

/-- The causes of the fault, the outermost first. -/
def TokenKeysFault.causes : TokenKeysFault → List String
  | signingKey fault => ["Failed to parse token signing key", fault.message]
  | verificationKey fault => ["Failed to parse token verification key", fault.message]

/-- The key pair in two PEM files. -/
def TokenKeys.ofKeyFiles (privateKey publicKey : String) : Except TokenKeysFault TokenKeys := do
  let signing ← (rsaKeyContents privateKey).mapError .signingKey
  let verification ← (rsaKeyContents publicKey).mapError .verificationKey
  pure ⟨Rsa.sign signing, Rsa.verify verification⟩

structure TokenPolicy where
  issuer : String
  /-- How long a token holds. -/
  expiration : Span
  /-- How much longer a token is verified. -/
  leeway : Span
  /-- How long a call to the store may take, in milliseconds. -/
  storageTimeout : Nat
  deriving DecidableEq, Repr

structure Authority where
  keys : TokenKeys
  policy : TokenPolicy

/-- What a token says once it is verified. -/
structure VerifiedToken where
  tokenId : String
  deviceId : String
  tenant : Tenant
  expiresAt : Instant
  deriving DecidableEq, Repr

namespace Authority

/-- Call the store within the time that the policy allows. -/
def call {α : Type} (a : Authority) (c : StoreCall α) : Action α :=
  Action.call a.policy.storageTimeout c

/-- Fail unless the device is accepted. -/
def ensureAccepted (a : Authority) (tenant : Tenant) (deviceId : String) : Action Unit := do
  match ← a.call (.getDevice tenant deviceId) with
  | some device => if device.status = .accepted then pure () else Action.fail .notEntitled
  | none => Action.fail .notEntitled

/-- The claims of a new token. -/
def newClaims (a : Authority) (tokenId : String) (tenant : Tenant) (deviceId : String)
    (now : Instant) : TokenClaims :=
  { id := tokenId, subject := deviceId, issuer := a.policy.issuer, issuedAt := now.seconds,
    expiry := (now.add a.policy.expiration).seconds, tenant := tenant.name }

/-- A new token. It expires at the whole second in which its time is over. Where that is beyond the
range of instants there is no sum of clock and lifetime, and the service panics at it before it
signs anything. Here the failure for an expiry out of range stands for the panic, and it comes after
the signing. -/
def mint (a : Authority) (tokenId : String) (tenant : Tenant) (deviceId : String) (now : Instant) :
    Except Failure Token := do
  let claims := a.newClaims tokenId tenant deviceId now
  let raw ← (claims.encode a.keys.sign).mapError fun fault => .internal (.signing fault)
  if (now.add a.policy.expiration).isInRange then
    pure
      { id := tokenId, deviceId, tenant, raw, issuedAt := now,
        expiresAt := .ofSeconds claims.expiry, revoked := false }
  else .error (.internal .expiryOutOfRange)

/-- The token of an accepted device: the live one if there is one, else a new one with the id. A
device that was rejected meanwhile loses the token again. -/
def issue (a : Authority) (tokenId : String) (tenant : Tenant) (deviceId : String) :
    Action Token := do
  a.ensureAccepted tenant deviceId
  let now ← Action.now
  let candidate ← Action.ofExcept (a.mint tokenId tenant deviceId now)
  let token ← a.call (.insertOrGetLive candidate now)
  match ← (a.ensureAccepted tenant deviceId).attempt with
  | .ok () => pure token
  | .error e => do
    let _ ← a.call (.revokeToken tenant token.id)
    Action.fail e

/-- Whether claims have expired, with the leeway in whole seconds. -/
def hasExpired (a : Authority) (claims : TokenClaims) (now : Instant) : Bool :=
  saturated (claims.expiry + a.policy.leeway.wholeSeconds) ≤ now.seconds

/-- Verify a token: that it is signed, has not expired, is recorded and not revoked, and that its
device is accepted. -/
def verify (a : Authority) (raw : String) : Action VerifiedToken := do
  match TokenClaims.decode? a.keys.verifies a.policy.issuer raw with
  | none => Action.fail .tokenInvalid
  | some claims =>
    let now ← Action.now
    if a.hasExpired claims now then Action.fail .tokenExpired
    else
      let tenant : Tenant := ⟨claims.tenant⟩
      match ← a.call (.getToken tenant claims.id) with
      | none => Action.fail .tokenInvalid
      | some token =>
        if token.revoked ∨ token.deviceId ≠ claims.subject then Action.fail .tokenInvalid
        else
          match ← a.call (.getDevice tenant claims.subject) with
          | some device =>
            if device.status = .accepted then pure ⟨token.id, device.id, tenant, token.expiresAt⟩
            else Action.fail .tokenInvalid
          | none => Action.fail .tokenInvalid

def revoke (a : Authority) (tenant : Tenant) (tokenId : String) : Action Unit := do
  if ← a.call (.revokeToken tenant tokenId) then pure () else Action.fail .tokenNotFound

/-- Revoke the tokens of a device that is no longer accepted: how many lost their force. -/
def onStatusChanged (a : Authority) (tenant : Tenant) (deviceId : String) (status : DeviceStatus) :
    Action Nat :=
  if status.revokesTokens then a.call (.revokeDeviceTokens tenant deviceId) else pure 0

end Authority

end DeviceAdmission
