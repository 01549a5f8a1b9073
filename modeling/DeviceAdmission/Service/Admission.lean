import DeviceAdmission.AuthRequest
import DeviceAdmission.Service.Authority
import DeviceAdmission.TenantResolver

/-!
# Admission of devices

A device applies with a signed request. The checks come in a fixed order and the first that fails
ends the request: the request is decoded, its fields and its signature are there, its key can be
read, the signature verifies, and its tenant is known. Only then is the device looked up, or
registered as pending, and an accepted device gets its token.
-/

namespace DeviceAdmission

/-- The ids that an operation gives to what it creates. -/
structure FreshIds where
  device : String
  token : String
  deriving DecidableEq, Repr

structure Admission where
  authority : Authority
  signatures : SignatureScheme
  tenants : TenantResolver
  /-- How long a call to the store may take, in milliseconds. -/
  storageTimeout : Nat
  /-- Whether an accepted device may replace its key by signing with a new one. -/
  allowKeyRotation : Bool

namespace Admission

/-- Call the store within the time that is allowed. -/
def call {α : Type} (s : Admission) (c : StoreCall α) : Action α :=
  Action.call s.storageTimeout c

/-- The checks of a request that need no store: the request and its tenant. -/
def check (s : Admission) (wallSeconds : Int) (body : Bytes) (signature : Option String) :
    Except Failure (AuthRequest × Tenant) := do
  let request ← AuthRequest.parse body
  request.validate
  let signature := Text.trim (signature.getD "")
  if signature.isEmpty then .error .signatureMissing
  else if !s.signatures.isReadable request.publicKey then .error (.invalid .keyUnreadable)
  else if !s.signatures.accepts body request.publicKey signature then .error .signatureInvalid
  else
    let tenant ← s.tenants.resolve wallSeconds request.tenantToken
    pure (request, tenant)

/-- The device of a checked request, registered if it is seen for the first time. Its key stays as
it was first seen until the device is accepted, and then changes only where that is allowed. -/
def lookUpDevice (s : Admission) (newId : String) (tenant : Tenant) (request : AuthRequest) :
    Action Device := do
  let now ← Action.now
  let candidate := Device.firstSeen newId tenant request.identityData request.publicKey now
  let (device, created) ← s.call (.getOrCreate candidate)
  if created ∨ Text.trim device.publicKey = Text.trim request.publicKey then pure device
  else if !s.allowKeyRotation ∨ device.status ≠ .accepted then Action.fail .notEntitled
  else if ← s.call (.rotateKey tenant device.id request.publicKey now) then pure device
  else Action.fail .notEntitled

/-- Process a signed request: the token of its device. -/
def grant (s : Admission) (ids : FreshIds) (body : Bytes) (signature : Option String) :
    Action Token := do
  let wallSeconds ← Action.wallSeconds
  let (request, tenant) ← Action.ofExcept (s.check wallSeconds body signature)
  let device ← s.lookUpDevice ids.device tenant request
  s.authority.issue ids.token tenant device.id

/-- Answer a signed request: the raw token of its device. -/
def submit (s : Admission) (ids : FreshIds) (body : Bytes) (signature : Option String) :
    Action String := do
  let token ← s.grant ids body signature
  pure token.raw

/-- Set the status of a device. The status is written before tokens are revoked, so that
verification sees it meanwhile. -/
def setStatus (s : Admission) (tenant : Tenant) (deviceId : String) (status : DeviceStatus) :
    Action Unit := do
  let now ← Action.now
  if ← s.call (.updateStatus tenant deviceId status now) then
    let _ ← s.authority.onStatusChanged tenant deviceId status
    pure ()
  else Action.fail .deviceNotFound

def accept (s : Admission) (tenant : Tenant) (deviceId : String) : Action Unit :=
  s.setStatus tenant deviceId .accepted

def reject (s : Admission) (tenant : Tenant) (deviceId : String) : Action Unit :=
  s.setStatus tenant deviceId .rejected

def reset (s : Admission) (tenant : Tenant) (deviceId : String) : Action Unit :=
  s.setStatus tenant deviceId .pending

def getDevice (s : Admission) (tenant : Tenant) (deviceId : String) : Action Device := do
  match ← s.call (.getDevice tenant deviceId) with
  | some device => pure device
  | none => Action.fail .deviceNotFound

def listDevices (s : Admission) (tenant : Tenant) (request : PageRequest) :
    Action (Page Device) := do
  let found ← s.call (.listDevices tenant request.skip request.limit)
  pure (request.paginate found)

/-- Verify a raw token, with blanks around it ignored. -/
def verify (s : Admission) (raw : String) : Action VerifiedToken :=
  s.authority.verify (Text.trim raw)

def revokeToken (s : Admission) (tenant : Tenant) (tokenId : String) : Action Unit :=
  s.authority.revoke tenant tokenId

end Admission

end DeviceAdmission
