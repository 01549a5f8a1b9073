import DeviceAdmission.Crypto.RequestSignature
import DeviceAdmission.Device
import DeviceAdmission.Failure
import DeviceAdmission.Jws.Envelope
import DeviceAdmission.Jws.RegisteredClaims

/-!
# Which tenant a request belongs to

In single mode every request belongs to the default tenant. In passthrough mode the tenant token is
the tenant's name as it stands. In signed mode the tenant token is a signed text with a claim that
names the tenant.
-/

namespace DeviceAdmission

inductive TenancyMode where
  | single
  | passthrough
  | signed
  deriving DecidableEq, Repr, Inhabited

def TenancyMode.name : TenancyMode → String
  | single => "single"
  | passthrough => "passthrough"
  | signed => "signed"

/-- The name of a mode as messages show it. -/
def TenancyMode.title : TenancyMode → String
  | single => "Single"
  | passthrough => "Passthrough"
  | signed => "Signed"

inductive TenantResolver where
  | single
  | passthrough
  /-- Tenant tokens are verified by the given check of raw signatures. -/
  | signed (verifies : (message signature : Bytes) → Bool)

namespace TenantResolver

def mode : TenantResolver → TenancyMode
  | single => .single
  | passthrough => .passthrough
  | signed _ => .signed

/-- How a resolver shows in logs. -/
def display (r : TenantResolver) : String :=
  "TenantResolver \x7b mode: " ++ r.mode.title ++ " \x7d"

/-- A tenant token is taken for this many seconds after it expired. -/
def leewaySeconds : Int := 60

/-- The notation of the claims of a tenant token. -/
def record : Json.Record (Option String) where
  name := "struct TenantClaims"
  blank := none
  fields :=
    [ { key := "tenant"
        isSet := Option.isSome
        read := fun _ => return some (← Json.Reader.text)
        required := true
        requiredInList := true } ]

/-- Whether the registered claims allow a tenant token at a time in seconds since 1970. -/
def isTimely (wallSeconds : Int) (r : Jws.RegisteredClaims) : Bool :=
  !r.audience.isGiven &&
    match r.expiry with
    | .given exp => wallSeconds - leewaySeconds ≤ exp
    | _ => true

/-- The tenant that a signed tenant token names. -/
def claimedTenant? (verifies : (message signature : Bytes) → Bool) (wallSeconds : Int)
    (token : String) : Option String := do
  let payload ← Jws.payload? verifies token
  let claimed ← match Json.Reader.run record.read payload with
    | .ok claimed => claimed
    | .error _ => none
  let registered ← Jws.RegisteredClaims.read? payload
  if isTimely wallSeconds registered then some claimed else none

/-- The tenant of a request with the tenant token, if it has one. -/
def resolve (r : TenantResolver) (wallSeconds : Int) (tenantToken : Option String) :
    Except Failure Tenant :=
  match r with
  | single => .ok .default
  | passthrough => .ok ⟨tenantToken.getD ""⟩
  | signed verifies =>
    let token := Text.trim (tenantToken.getD "")
    if token.isEmpty then .error .notEntitled
    else
      match claimedTenant? verifies wallSeconds token with
      | some name => if name.isEmpty then .error .notEntitled else .ok ⟨name⟩
      | none => .error .notEntitled

/-- The resolver of signed tenant tokens under the public key in a PEM file. -/
def ofKeyFile (text : String) : Except KeyFileFault TenantResolver := do
  let key ← rsaKeyContents text
  pure (signed (Rsa.verify key))

/-- What is said when the key for tenant tokens cannot be read. -/
def keyFileMessage (fault : KeyFileFault) : String :=
  "Failed to parse tenant verification key: " ++ fault.message

end TenantResolver

end DeviceAdmission
