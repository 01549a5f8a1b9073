import DeviceAdmission.Store.Call

/-!
# The store in memory

Devices by tenant and id, in that order, an index from tenant and identity data to the id, and
tokens by tenant and id. No call fails.
-/

namespace DeviceAdmission

structure MemoryStore where
  /-- Sorted by tenant and id, which together are unique. -/
  devices : List Device
  /-- The id of the device of a tenant with the identity data. -/
  identities : List ((Tenant × String) × String)
  /-- Tenant and id together are unique. The order means nothing. -/
  tokens : List Token
  deriving DecidableEq, Repr

namespace MemoryStore

def empty : MemoryStore := ⟨[], [], []⟩

/-- Whether a device is the one with the tenant and id. -/
def isDevice (tenant : Tenant) (id : String) (d : Device) : Bool :=
  d.tenant = tenant && d.id = id

/-- Whether a token is the one with the tenant and id. -/
def isToken (tenant : Tenant) (id : String) (t : Token) : Bool :=
  t.tenant = tenant && t.id = id

/-- Devices are kept in the order of tenants and, within a tenant, of ids. -/
def precedes (d e : Device) : Bool :=
  d.tenant.name < e.tenant.name || (d.tenant.name = e.tenant.name && d.id < e.id)

/-- Put a device where it belongs, in place of one with the same tenant and id. -/
def putDevice (d : Device) : List Device → List Device
  | [] => [d]
  | e :: rest =>
    if precedes d e then d :: e :: rest
    else if isDevice d.tenant d.id e then d :: rest
    else e :: putDevice d rest

/-- Put an id under an identity, in place of the one before. -/
def putIdentity (identity : Tenant × String) (id : String) :
    List ((Tenant × String) × String) → List ((Tenant × String) × String)
  | [] => [(identity, id)]
  | entry :: rest =>
    if entry.1 = identity then (identity, id) :: rest else entry :: putIdentity identity id rest

/-- Put a token, in place of one with the same tenant and id. -/
def putToken (t : Token) : List Token → List Token
  | [] => [t]
  | u :: rest => if isToken t.tenant t.id u then t :: rest else u :: putToken t rest

def device? (s : MemoryStore) (tenant : Tenant) (id : String) : Option Device :=
  s.devices.find? (isDevice tenant id)

def token? (s : MemoryStore) (tenant : Tenant) (id : String) : Option Token :=
  s.tokens.find? (isToken tenant id)

/-- The id under an identity. -/
def identity? (s : MemoryStore) (identity : Tenant × String) : Option String :=
  (s.identities.find? (·.1 = identity)).map (·.2)

/-- Change the device with the tenant and id. -/
def changeDevice (s : MemoryStore) (tenant : Tenant) (id : String) (f : Device → Device) :
    MemoryStore :=
  { s with devices := s.devices.map fun d => if isDevice tenant id d then f d else d }

def getOrCreate (s : MemoryStore) (candidate : Device) : (Device × Bool) × MemoryStore :=
  let identity := (candidate.tenant, candidate.identityData)
  match (s.identity? identity).bind (s.device? candidate.tenant) with
  | some existing => ((existing, false), s)
  | none =>
    ((candidate, true),
      { s with
        identities := putIdentity identity candidate.id s.identities
        devices := putDevice candidate s.devices })

def listDevices (s : MemoryStore) (tenant : Tenant) (skip limit : Nat) : List Device :=
  ((s.devices.filter (·.tenant = tenant)).drop skip).take limit

def updateStatus (s : MemoryStore) (tenant : Tenant) (id : String) (status : DeviceStatus)
    (now : Instant) : Bool × MemoryStore :=
  match s.device? tenant id with
  | none => (false, s)
  | some _ => (true, s.changeDevice tenant id fun d => { d with status, updatedAt := now })

def rotateKey (s : MemoryStore) (tenant : Tenant) (id key : String) (now : Instant) :
    Bool × MemoryStore :=
  match s.device? tenant id with
  | none => (false, s)
  | some device =>
    if device.status = .accepted then
      (true, s.changeDevice tenant id fun d => { d with publicKey := key, updatedAt := now })
    else (false, s)

/-- Visit tokens for the live one of a device. Unrevoked tokens of the device that have expired are
revoked on the way; the first that has not expired ends the visit. -/
def takeLive (tenant : Tenant) (deviceId : String) (now : Instant) :
    List Token → Option Token × List Token
  | [] => (none, [])
  | t :: rest =>
    if t.isOutstanding tenant deviceId then
      if t.isExpiredAt now then
        let visited := takeLive tenant deviceId now rest
        (visited.1, t.revoke :: visited.2)
      else (some t, t :: rest)
    else
      let visited := takeLive tenant deviceId now rest
      (visited.1, t :: visited.2)

def insertOrGetLive (s : MemoryStore) (candidate : Token) (now : Instant) : Token × MemoryStore :=
  match takeLive candidate.tenant candidate.deviceId now s.tokens with
  | (some existing, tokens) => (existing, { s with tokens })
  | (none, tokens) => (candidate, { s with tokens := putToken candidate tokens })

def revokeToken (s : MemoryStore) (tenant : Tenant) (id : String) : Bool × MemoryStore :=
  match s.token? tenant id with
  | none => (false, s)
  | some _ =>
    (true, { s with tokens := s.tokens.map fun t => if isToken tenant id t then t.revoke else t })

def revokeDeviceTokens (s : MemoryStore) (tenant : Tenant) (deviceId : String) :
    Nat × MemoryStore :=
  ((s.tokens.filter fun t => t.isOutstanding tenant deviceId).length,
    { s with
      tokens := s.tokens.map fun t => if t.isOutstanding tenant deviceId then t.revoke else t })

/-- Answer a call. -/
def run {α : Type} (s : MemoryStore) : StoreCall α → α × MemoryStore
  | .getOrCreate candidate => s.getOrCreate candidate
  | .getDevice tenant id => (s.device? tenant id, s)
  | .listDevices tenant skip limit => (s.listDevices tenant skip limit, s)
  | .updateStatus tenant id status now => s.updateStatus tenant id status now
  | .rotateKey tenant id key now => s.rotateKey tenant id key now
  | .insertOrGetLive candidate now => s.insertOrGetLive candidate now
  | .getToken tenant id => (s.token? tenant id, s)
  | .revokeToken tenant id => s.revokeToken tenant id
  | .revokeDeviceTokens tenant deviceId => s.revokeDeviceTokens tenant deviceId

end MemoryStore

end DeviceAdmission
