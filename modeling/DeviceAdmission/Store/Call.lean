import DeviceAdmission.Token

/-!
# Calls to a store

What the service asks of a store, each call with the type of its answer. Devices and tokens are
looked up within a tenant.
-/

namespace DeviceAdmission

/-- The ways to call a store. -/
inductive StoreMethod where
  | getOrCreate
  | getDevice
  | listDevices
  | updateStatus
  | rotateKey
  | insertOrGetLive
  | getToken
  | revokeToken
  | revokeDeviceTokens
  deriving DecidableEq, Repr

def StoreMethod.name : StoreMethod → String
  | getOrCreate => "get_or_create"
  | getDevice => "get_device"
  | listDevices => "list_devices"
  | updateStatus => "update_status"
  | rotateKey => "rotate_key"
  | insertOrGetLive => "insert_or_get_live"
  | getToken => "get_token"
  | revokeToken => "revoke_token"
  | revokeDeviceTokens => "revoke_device_tokens"

/-- A call to a store that answers with an `α`. -/
inductive StoreCall : Type → Type where
  /-- The device with the candidate's tenant and identity data, which is the candidate itself if
  there was none; and whether the candidate was stored. -/
  | getOrCreate (candidate : Device) : StoreCall (Device × Bool)
  | getDevice (tenant : Tenant) (id : String) : StoreCall (Option Device)
  /-- The tenant's devices in the order of their ids, without the first `skip`, at most `limit`. -/
  | listDevices (tenant : Tenant) (skip limit : Nat) : StoreCall (List Device)
  /-- Set the status of a device; whether there is such a device. -/
  | updateStatus (tenant : Tenant) (id : String) (status : DeviceStatus) (now : Instant) :
      StoreCall Bool
  /-- Set the key of a device if it is accepted; whether it was set. -/
  | rotateKey (tenant : Tenant) (id key : String) (now : Instant) : StoreCall Bool
  /-- The live token of the candidate's device, which is the candidate itself if there was none.
  Unrevoked tokens of the device that have expired are revoked first. -/
  | insertOrGetLive (candidate : Token) (now : Instant) : StoreCall Token
  | getToken (tenant : Tenant) (id : String) : StoreCall (Option Token)
  /-- Revoke a token; whether there is such a token. -/
  | revokeToken (tenant : Tenant) (id : String) : StoreCall Bool
  /-- Revoke the tokens of a device; how many were not revoked before. -/
  | revokeDeviceTokens (tenant : Tenant) (deviceId : String) : StoreCall Nat

namespace StoreCall

variable {α : Type}

def method : StoreCall α → StoreMethod
  | getOrCreate _ => .getOrCreate
  | getDevice _ _ => .getDevice
  | listDevices _ _ _ => .listDevices
  | updateStatus _ _ _ _ => .updateStatus
  | rotateKey _ _ _ _ => .rotateKey
  | insertOrGetLive _ _ => .insertOrGetLive
  | getToken _ _ => .getToken
  | revokeToken _ _ => .revokeToken
  | revokeDeviceTokens _ _ => .revokeDeviceTokens

/-- The tenant that a call is about. -/
def tenant : StoreCall α → Tenant
  | getOrCreate candidate => candidate.tenant
  | getDevice tenant _ => tenant
  | listDevices tenant _ _ => tenant
  | updateStatus tenant _ _ _ => tenant
  | rotateKey tenant _ _ _ => tenant
  | insertOrGetLive candidate _ => candidate.tenant
  | getToken tenant _ => tenant
  | revokeToken tenant _ => tenant
  | revokeDeviceTokens tenant _ => tenant

/-- The device that a call names, if it names one. -/
def deviceId? : StoreCall α → Option String
  | getOrCreate candidate => some candidate.id
  | getDevice _ id => some id
  | listDevices _ _ _ => none
  | updateStatus _ id _ _ => some id
  | rotateKey _ id _ _ => some id
  | insertOrGetLive candidate _ => some candidate.deviceId
  | getToken _ _ => none
  | revokeToken _ _ => none
  | revokeDeviceTokens _ id => some id

end StoreCall

namespace Token

/-- Whether a token is one of the device's and not revoked. -/
def isOutstanding (t : Token) (tenant : Tenant) (deviceId : String) : Bool :=
  !t.revoked && t.tenant = tenant && t.deviceId = deviceId

def revoke (t : Token) : Token :=
  { t with revoked := true }

end Token

end DeviceAdmission
