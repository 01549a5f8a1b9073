import DeviceAdmission.Config.Basic
import DeviceAdmission.Store.Bounded

/-!
# Defaults

What holds where a configuration leaves something unset. The paths of keys, the key of tenant tokens
and the directory of logs have no default. The main statements are that filling in the defaults of a
section twice is the same as once.
-/

namespace DeviceAdmission.Config

namespace Default

def bind : String := "0.0.0.0"

def port : Nat := 8080

def backend : StoreKind := .tables

def databasePath : String := "devauth.db"

def issuer : String := "devauth"

/-- One week. -/
def expirationSeconds : Int := 604800

def leewaySeconds : Int := 0

def tenancyMode : TenancyMode := .single

def managementHeader : String := "x-devauth-tenant"

def allowKeyRotation : Bool := true

def logLevel : String := "info"

def logJson : Bool := false

end Default

/-- A field, set to the default where it is unset. -/
def filled {α : Type} (dflt : α) (a : Option α) : Option α :=
  some (a.getD dflt)

def Server.withDefaults (s : Server) : Server :=
  { bind := filled Default.bind s.bind, port := filled Default.port s.port }

def Storage.withDefaults (s : Storage) : Storage :=
  { backend := filled Default.backend s.backend
    path := filled Default.databasePath s.path
    timeoutMillis := filled defaultStorageTimeout s.timeoutMillis }

def Tokens.withDefaults (s : Tokens) : Tokens :=
  { s with
    issuer := filled Default.issuer s.issuer
    expirationSeconds := filled Default.expirationSeconds s.expirationSeconds
    leewaySeconds := filled Default.leewaySeconds s.leewaySeconds }

def Tenancy.withDefaults (s : Tenancy) : Tenancy :=
  { s with
    mode := filled Default.tenancyMode s.mode
    managementHeader := filled Default.managementHeader s.managementHeader }

def Pagination.withDefaults (s : Pagination) : Pagination :=
  { defaultPerPage := filled PageRequest.defaultPerPage s.defaultPerPage
    maxPerPage := filled PageRequest.defaultMaxPerPage s.maxPerPage }

def Devices.withDefaults (s : Devices) : Devices :=
  { allowKeyRotation := filled Default.allowKeyRotation s.allowKeyRotation }

def Logging.withDefaults (s : Logging) : Logging :=
  { s with level := filled Default.logLevel s.level, json := filled Default.logJson s.json }

/-- A configuration with every default filled in. -/
def withDefaults (c : Config) : Config :=
  { server := some (c.server.getD .blank).withDefaults
    storage := some (c.storage.getD .blank).withDefaults
    tokens := some (c.tokens.getD .blank).withDefaults
    tenancy := some (c.tenancy.getD .blank).withDefaults
    pagination := some (c.pagination.getD .blank).withDefaults
    devices := some (c.devices.getD .blank).withDefaults
    logging := some (c.logging.getD .blank).withDefaults }

/-- A field that is filled is not changed by a default. -/
@[simp] theorem filled_filled {α : Type} (d e : α) (a : Option α) :
    filled e (filled d a) = filled d a := rfl

end DeviceAdmission.Config
