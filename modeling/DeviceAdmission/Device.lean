import DeviceAdmission.Json.Value
import DeviceAdmission.Time.Rfc3339

/-!
# Devices and their tenants

A device is a claimed hardware identity with the public key it was first seen with. It belongs to a
tenant, and an operator decides whether it is accepted.
-/

namespace DeviceAdmission

/-- The scope that devices and tokens belong to. The empty name is the default scope. -/
structure Tenant where
  name : String
  deriving DecidableEq, Repr

namespace Tenant

/-- The scope of deployments with a single tenant. -/
def default : Tenant := ⟨""⟩

instance : Inhabited Tenant := ⟨default⟩

def isDefault (t : Tenant) : Bool := t.name.isEmpty

/-- The tenant's name as it is shown to people. -/
def display (t : Tenant) : String :=
  if t.isDefault then "<default>" else t.name

end Tenant

/-- Whether a device may hold tokens. -/
inductive DeviceStatus where
  | pending
  | accepted
  | rejected
  deriving DecidableEq, Repr, Inhabited

namespace DeviceStatus

def name : DeviceStatus → String
  | pending => "pending"
  | accepted => "accepted"
  | rejected => "rejected"

def ofName? (s : String) : Option DeviceStatus :=
  if s = "pending" then some pending
  else if s = "accepted" then some accepted
  else if s = "rejected" then some rejected
  else none

/-- Whether a device that gets this status loses its tokens. -/
def revokesTokens (s : DeviceStatus) : Bool :=
  s ≠ accepted

@[simp] theorem ofName?_name (s : DeviceStatus) : ofName? s.name = some s := by
  cases s <;> rfl

/-- A text is read as a status exactly when it is the name of that status. -/
theorem ofName?_eq_some_iff {text : String} {s : DeviceStatus} :
    ofName? text = some s ↔ text = s.name := by
  constructor
  · intro h
    unfold ofName? at h
    split at h
    · cases h; assumption
    · split at h
      · cases h; assumption
      · split at h
        · cases h; assumption
        · cases h
  · rintro rfl
    exact ofName?_name s

end DeviceStatus

structure Device where
  id : String
  /-- What the device says it is. -/
  identityData : String
  publicKey : String
  status : DeviceStatus
  tenant : Tenant
  createdAt : Instant
  updatedAt : Instant
  deriving DecidableEq, Repr

namespace Device

/-- A device seen for the first time. -/
def firstSeen (id : String) (tenant : Tenant) (identityData publicKey : String) (now : Instant) :
    Device :=
  { id, identityData, publicKey, status := .pending, tenant, createdAt := now, updatedAt := now }

/-- A device as a document. The default tenant is left out. -/
def json (d : Device) : Json.Value :=
  .object <|
    [("id", .text d.id), ("id_data", .text d.identityData), ("pubkey", .text d.publicKey),
      ("status", .text d.status.name)] ++
    (if d.tenant.isDefault then [] else [("tenant_id", Json.Value.text d.tenant.name)]) ++
    [("created_ts", .text (Rfc3339.write .letter d.createdAt)),
      ("updated_ts", .text (Rfc3339.write .letter d.updatedAt))]

end Device

end DeviceAdmission
