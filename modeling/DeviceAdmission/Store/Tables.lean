import DeviceAdmission.Paging
import DeviceAdmission.Store.Call
import DeviceAdmission.Store.Fault

/-!
# The store in tables

Devices and tokens as rows of two tables, as a database on disk keeps them. Ids are unique over all
tenants, a tenant's devices have different identity data, and a device has at most one token that is
not revoked. A status is kept by its name. Times are kept as timestamps and read back strictly, so a
row with a time outside the years 0 to 9999 cannot be read. A call that fails leaves both tables as
they were, but for a new device whose row cannot be read.
-/

namespace DeviceAdmission

structure DeviceRow where
  id : String
  tenant : Tenant
  identityData : String
  publicKey : String
  status : String
  createdAt : String
  updatedAt : String
  deriving DecidableEq, Repr

structure TokenRow where
  id : String
  tenant : Tenant
  deviceId : String
  raw : String
  issuedAt : String
  expiresAt : String
  revoked : Bool
  deriving DecidableEq, Repr

/-- How a time is kept in a row. -/
def timestamp (t : Instant) : String :=
  Rfc3339.write .offset t

/-- Read a time from the column of a row. -/
def readTimestamp (column : Nat) (text : String) : Except StoreFault Instant :=
  (Rfc3339.read? text).elim (.error (.timeUnreadable column)) .ok

namespace DeviceRow

def ofDevice (d : Device) : DeviceRow :=
  { id := d.id, tenant := d.tenant, identityData := d.identityData, publicKey := d.publicKey,
    status := d.status.name, createdAt := timestamp d.createdAt,
    updatedAt := timestamp d.updatedAt }

/-- Read a status from a row. -/
def readStatus (name : String) : Except StoreFault DeviceStatus :=
  (DeviceStatus.ofName? name).elim (.error .statusUnreadable) .ok

/-- The device of a row. Its times stand in the columns 5 and 6. -/
def read (r : DeviceRow) : Except StoreFault Device := do
  let status ← readStatus r.status
  let createdAt ← readTimestamp 5 r.createdAt
  let updatedAt ← readTimestamp 6 r.updatedAt
  pure
    { id := r.id, identityData := r.identityData, publicKey := r.publicKey, status,
      tenant := r.tenant, createdAt, updatedAt }

def isDevice (tenant : Tenant) (id : String) (r : DeviceRow) : Bool :=
  r.tenant = tenant && r.id = id

def hasIdentity (tenant : Tenant) (identityData : String) (r : DeviceRow) : Bool :=
  r.tenant = tenant && r.identityData = identityData

end DeviceRow

namespace TokenRow

/-- The row of a token. A new row is never revoked. -/
def ofToken (t : Token) : TokenRow :=
  { id := t.id, tenant := t.tenant, deviceId := t.deviceId, raw := t.raw,
    issuedAt := timestamp t.issuedAt, expiresAt := timestamp t.expiresAt, revoked := false }

/-- The token of a row. Its times stand in the columns 4 and 5. -/
def read (r : TokenRow) : Except StoreFault Token := do
  let issuedAt ← readTimestamp 4 r.issuedAt
  let expiresAt ← readTimestamp 5 r.expiresAt
  pure
    { id := r.id, deviceId := r.deviceId, tenant := r.tenant, raw := r.raw, issuedAt, expiresAt,
      revoked := r.revoked }

def isToken (tenant : Tenant) (id : String) (r : TokenRow) : Bool :=
  r.tenant = tenant && r.id = id

def isOutstanding (tenant : Tenant) (deviceId : String) (r : TokenRow) : Bool :=
  !r.revoked && r.tenant = tenant && r.deviceId = deviceId

def revoke (r : TokenRow) : TokenRow :=
  { r with revoked := true }

end TokenRow

structure TableStore where
  devices : List DeviceRow
  tokens : List TokenRow
  deriving DecidableEq, Repr

namespace TableStore

def empty : TableStore := ⟨[], []⟩

def deviceRow? (s : TableStore) (tenant : Tenant) (id : String) : Option DeviceRow :=
  s.devices.find? (DeviceRow.isDevice tenant id)

def tokenRow? (s : TableStore) (tenant : Tenant) (id : String) : Option TokenRow :=
  s.tokens.find? (TokenRow.isToken tenant id)

/-- Read the row that was found, if one was. -/
def readFound {ρ α : Type} (read : ρ → Except StoreFault α) :
    Option ρ → Except StoreFault (Option α)
  | none => .ok none
  | some row => (read row).map some

/-- Add a row for the candidate unless its tenant has a device with its identity data; whether it
was added. -/
def addDevice (s : TableStore) (candidate : Device) : Except StoreFault (TableStore × Bool) :=
  if s.devices.any (DeviceRow.hasIdentity candidate.tenant candidate.identityData) then
    .ok (s, false)
  else if s.devices.any (·.id = candidate.id) then .error (.idTaken .devices)
  else .ok ({ s with devices := s.devices ++ [.ofDevice candidate] }, true)

def getOrCreate (s : TableStore) (candidate : Device) :
    Except StoreFault (Device × Bool) × TableStore :=
  match s.addDevice candidate with
  | .error fault => (.error fault, s)
  | .ok (s, created) =>
    match s.devices.find? (DeviceRow.hasIdentity candidate.tenant candidate.identityData) with
    | none => (.error .deviceMissing, s)
    | some row =>
      match row.read with
      | .ok device => (.ok (device, created), s)
      | .error fault => (.error (.deviceUnreadable fault), s)

/-- The rows of a tenant's devices in the order of their ids. -/
def tenantRows (s : TableStore) (tenant : Tenant) : List DeviceRow :=
  (s.devices.filter (·.tenant = tenant)).mergeSort fun a b => a.id ≤ b.id

/-- Nothing is found behind the greatest offset. -/
def listDevices (s : TableStore) (tenant : Tenant) (skip limit : Nat) :
    Except StoreFault (List Device) :=
  if maxOffset < skip then .ok []
  else (((s.tenantRows tenant).drop skip).take (min limit maxOffset)).mapM DeviceRow.read

def updateStatus (s : TableStore) (tenant : Tenant) (id : String) (status : DeviceStatus)
    (now : Instant) : Bool × TableStore :=
  (s.devices.any (DeviceRow.isDevice tenant id),
    { s with devices := s.devices.map fun r =>
        if r.isDevice tenant id then { r with status := status.name, updatedAt := timestamp now }
        else r })

/-- Whether a row is the accepted device with the tenant and id. -/
def isAcceptedDevice (tenant : Tenant) (id : String) (r : DeviceRow) : Bool :=
  r.isDevice tenant id && r.status = DeviceStatus.accepted.name

def rotateKey (s : TableStore) (tenant : Tenant) (id key : String) (now : Instant) :
    Bool × TableStore :=
  (s.devices.any (isAcceptedDevice tenant id),
    { s with devices := s.devices.map fun r =>
        if isAcceptedDevice tenant id r then { r with publicKey := key, updatedAt := timestamp now }
        else r })

/-- Add a row for the candidate, unless its id is taken or its device has a row that is not
revoked. -/
def addToken (s : TableStore) (candidate : Token) : Except StoreFault TableStore :=
  if s.tokens.any (·.id = candidate.id) then .error (.idTaken .tokens)
  else if s.tokens.any (TokenRow.isOutstanding candidate.tenant candidate.deviceId) then
    .error .liveTokenTaken
  else .ok { s with tokens := s.tokens ++ [.ofToken candidate] }

/-- Revoke the row with the id. -/
def retire (s : TableStore) (id : String) : TableStore :=
  { s with tokens := s.tokens.map fun r => if r.id = id then r.revoke else r }

/-- The steps of `insertOrGetLive`, which all take effect or none. -/
def insertOrGetLiveSteps (s : TableStore) (candidate : Token) (now : Instant) :
    Except StoreFault (Token × TableStore) := do
  let found ← readFound TokenRow.read
    (s.tokens.find? (TokenRow.isOutstanding candidate.tenant candidate.deviceId))
  match found with
  | none => pure (candidate, ← s.addToken candidate)
  | some existing =>
    if existing.isExpiredAt now then pure (candidate, ← (s.retire existing.id).addToken candidate)
    else pure (existing, s)

def insertOrGetLive (s : TableStore) (candidate : Token) (now : Instant) :
    Except StoreFault Token × TableStore :=
  match s.insertOrGetLiveSteps candidate now with
  | .ok (token, s') => (.ok token, s')
  | .error fault => (.error fault, s)

def revokeToken (s : TableStore) (tenant : Tenant) (id : String) : Bool × TableStore :=
  (s.tokens.any (TokenRow.isToken tenant id),
    { s with tokens := s.tokens.map fun r => if r.isToken tenant id then r.revoke else r })

def revokeDeviceTokens (s : TableStore) (tenant : Tenant) (deviceId : String) :
    Nat × TableStore :=
  ((s.tokens.filter (TokenRow.isOutstanding tenant deviceId)).length,
    { s with tokens := s.tokens.map fun r =>
        if r.isOutstanding tenant deviceId then r.revoke else r })

/-- An answer that cannot fail. -/
def sure {α : Type} (r : α × TableStore) : Except StoreFault α × TableStore :=
  (.ok r.1, r.2)

/-- Answer a call. -/
def run {α : Type} (s : TableStore) : StoreCall α → Except StoreFault α × TableStore
  | .getOrCreate candidate => s.getOrCreate candidate
  | .getDevice tenant id => (readFound DeviceRow.read (s.deviceRow? tenant id), s)
  | .listDevices tenant skip limit => (s.listDevices tenant skip limit, s)
  | .updateStatus tenant id status now => sure (s.updateStatus tenant id status now)
  | .rotateKey tenant id key now => sure (s.rotateKey tenant id key now)
  | .insertOrGetLive candidate now => s.insertOrGetLive candidate now
  | .getToken tenant id => (readFound TokenRow.read (s.tokenRow? tenant id), s)
  | .revokeToken tenant id => sure (s.revokeToken tenant id)
  | .revokeDeviceTokens tenant deviceId => sure (s.revokeDeviceTokens tenant deviceId)

end TableStore

end DeviceAdmission
