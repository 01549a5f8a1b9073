import DeviceAdmission.Config.Defaults
import DeviceAdmission.Net.SocketAddress

/-!
# Settings

A configuration in one flat record, as the service is started with. What is unset takes its default;
the paths of the two keys have to be set, and in signed mode the path of the key for tenant tokens.
-/

namespace DeviceAdmission

structure Settings where
  bind : String
  port : Nat
  backend : StoreKind
  databasePath : String
  storageTimeout : Nat
  privateKeyPath : String
  publicKeyPath : String
  issuer : String
  expirationSeconds : Int
  leewaySeconds : Int
  tenancyMode : TenancyMode
  verifyKeyPath : Option String
  managementHeader : String
  defaultPerPage : Nat
  maxPerPage : Nat
  allowKeyRotation : Bool
  logLevel : String
  logDirectory : Option String
  logJson : Bool
  deriving DecidableEq, Repr

/-- What has to be set and is not. -/
inductive SettingsFault where
  | verifyKeyPath
  | privateKeyPath
  | publicKeyPath
  deriving DecidableEq, Repr

def SettingsFault.message : SettingsFault → String
  | verifyKeyPath => "tenancy.verifyKeyPath is required in signed mode"
  | privateKeyPath => "jwt.privateKeyPath is required"
  | publicKeyPath => "jwt.publicKeyPath is required"

/-- A listen address that is no socket address. -/
structure ListenFault where
  address : String
  deriving DecidableEq, Repr

/-- The causes of the fault, the outermost first. -/
def ListenFault.causes (f : ListenFault) : List String :=
  ["Invalid listen address " ++ f.address, "invalid socket address syntax"]

namespace Settings

open Config

/-- The value of a field that has to be set. -/
def required {α : Type} (fault : SettingsFault) (a : Option α) : Except SettingsFault α :=
  a.elim (.error fault) .ok

/-- The path of the key for tenant tokens, which only signed mode has. -/
def verifyKeyPathOf (mode : TenancyMode) (path : Option String) :
    Except SettingsFault (Option String) :=
  match mode with
  | .signed => (required .verifyKeyPath path).map some
  | .single | .passthrough => .ok none

/-- The settings of a configuration. -/
def ofConfig (c : Config) : Except SettingsFault Settings := do
  let server := c.server.getD .blank
  let storage := c.storage.getD .blank
  let tokens := c.tokens.getD .blank
  let tenancy := c.tenancy.getD .blank
  let pagination := c.pagination.getD .blank
  let devices := c.devices.getD .blank
  let logging := c.logging.getD .blank
  let tenancyMode := tenancy.mode.getD default
  let verifyKeyPath ← verifyKeyPathOf tenancyMode tenancy.verifyKeyPath
  let privateKeyPath ← required .privateKeyPath tokens.privateKeyPath
  let publicKeyPath ← required .publicKeyPath tokens.publicKeyPath
  pure
    { bind := server.bind.getD Default.bind
      port := server.port.getD Default.port
      backend := storage.backend.getD default
      databasePath := storage.path.getD Default.databasePath
      storageTimeout := storage.timeoutMillis.getD defaultStorageTimeout
      privateKeyPath
      publicKeyPath
      issuer := tokens.issuer.getD Default.issuer
      expirationSeconds := tokens.expirationSeconds.getD Default.expirationSeconds
      leewaySeconds := tokens.leewaySeconds.getD Default.leewaySeconds
      tenancyMode
      verifyKeyPath
      managementHeader := tenancy.managementHeader.getD Default.managementHeader
      defaultPerPage := pagination.defaultPerPage.getD PageRequest.defaultPerPage
      maxPerPage := pagination.maxPerPage.getD PageRequest.defaultMaxPerPage
      allowKeyRotation := devices.allowKeyRotation.getD true
      logLevel := logging.level.getD Default.logLevel
      logDirectory := logging.directory
      logJson := logging.json.getD false }

/-- The text of the address to listen on. -/
def listenText (s : Settings) : String :=
  s.bind ++ ":" ++ String.ofList (Numeral.write s.port)

/-- The address to listen on. -/
def listenAddress (s : Settings) : Except ListenFault SocketAddress :=
  (SocketAddress.read? s.listenText).elim (.error ⟨s.listenText⟩) .ok

end Settings

end DeviceAdmission
