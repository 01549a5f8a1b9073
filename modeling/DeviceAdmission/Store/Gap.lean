import DeviceAdmission.Store.Basic

/-!
# Gaps of a store

A store whose tables were made by others may lack what the calls to it need: columns, rows that can
be read, or the rule that a tenant's devices have different identity data. A call that needs what is
not there is always refused.
-/

namespace DeviceAdmission

/-- What a store lacks. -/
inductive StoreGap where
  | column (table : Table) (name : String)
  /-- Some rows of a table cannot be read. -/
  | rows (table : Table)
  /-- Devices of a tenant may have the same identity data. -/
  | identity
  deriving DecidableEq, Repr

/-- The columns of a table, in the order of its rows. -/
def Table.columns : Table → List String
  | devices => ["id", "tenant_id", "id_data", "pubkey", "status", "created_ts", "updated_ts"]
  | tokens => ["id", "tenant_id", "device_id", "token", "issued_at", "expires_at", "revoked"]

namespace StoreMethod

/-- The table that a method works on. -/
def table : StoreMethod → Table
  | getOrCreate | getDevice | listDevices | updateStatus | rotateKey => .devices
  | insertOrGetLive | getToken | revokeToken | revokeDeviceTokens => .tokens

/-- The columns that a method names. -/
def columns : StoreMethod → List String
  | updateStatus => ["status", "updated_ts", "tenant_id", "id"]
  | rotateKey => ["pubkey", "updated_ts", "tenant_id", "id", "status"]
  | revokeToken => ["revoked", "tenant_id", "id"]
  | revokeDeviceTokens => ["revoked", "tenant_id", "device_id"]
  | method => method.table.columns

end StoreMethod

namespace StoreGap

/-- Whether a method cannot do with the gap. -/
def stops (method : StoreMethod) : StoreGap → Bool
  | column table name => table = method.table && method.columns.contains name
  | rows table => table = method.table
  | identity => method = .getOrCreate

def fault : StoreGap → StoreFault
  | column _ name => .medium ("no such column: " ++ name)
  | rows _ => .medium "database disk image is malformed"
  | identity =>
    .medium "ON CONFLICT clause does not match any PRIMARY KEY or UNIQUE constraint"

end StoreGap

/-- A store as it was found, with what it lacks. -/
structure FoundStore where
  store : Store
  gaps : List StoreGap
  deriving DecidableEq, Repr

namespace FoundStore

/-- A store that lacks nothing. -/
def whole (store : Store) : FoundStore := ⟨store, []⟩

/-- Why a method is always refused, if it is. -/
def refusal? (s : FoundStore) (method : StoreMethod) : Option StoreFault :=
  (s.gaps.find? (·.stops method)).map StoreGap.fault

/-- A store that lacks nothing refuses no method for good. -/
@[simp] theorem refusal?_whole (store : Store) (method : StoreMethod) :
    (whole store).refusal? method = none := rfl

end FoundStore

end DeviceAdmission
