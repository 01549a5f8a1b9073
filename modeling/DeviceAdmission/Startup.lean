import DeviceAdmission.Config.Settings
import DeviceAdmission.Database.Opening
import DeviceAdmission.Gateway.Basic
import DeviceAdmission.Host.Basic

/-!
# Starting the service

The service is put together from its settings and from what they name on the host: the store first,
then the key pair, then the key for tenant tokens. The first thing that cannot be had is the fault.
-/

namespace DeviceAdmission

/-- What a key file is for. -/
inductive KeyPurpose where
  | signing
  | verification
  | tenants
  deriving DecidableEq, Repr

def KeyPurpose.title : KeyPurpose → String
  | signing => "server private key"
  | verification => "server public key"
  | tenants => "tenant verification key"

/-- Why the service cannot be started. -/
inductive StartFault where
  | database (fault : Database.Fault)
  | keyFile (purpose : KeyPurpose) (path : String) (fault : FileFault)
  | tokenKeys (fault : TokenKeysFault)
  | spanTooLong (seconds : Int)
  | verifyKeyPathMissing
  | tenantKey (fault : KeyFileFault)
  | managementHeader (fault : HeaderNameFault)
  deriving DecidableEq, Repr

/-- The causes of the fault, the outermost first. -/
def StartFault.causes : StartFault → List String
  | database fault => fault.causes
  | keyFile purpose path fault =>
    ["Failed to read " ++ purpose.title ++ " from " ++ path, fault.message]
  | tokenKeys fault => fault.causes
  | spanTooLong seconds =>
    ["Number of seconds out of range: " ++ String.ofList (Numeral.writeInt seconds)]
  | verifyKeyPathMissing => ["Signed tenancy requires a verification key"]
  | tenantKey fault => ["Failed to parse tenant verification key", fault.message]
  | managementHeader fault => fault.causes

namespace Startup

/-- The span of a setting in seconds. -/
def span (seconds : Int) : Except StartFault Span :=
  (Span.ofSeconds? seconds).elim (.error (.spanTooLong seconds)) .ok

/-- The policy for tokens that the settings ask for. -/
def policy (s : Settings) : Except StartFault TokenPolicy := do
  let expiration ← span s.expirationSeconds
  let leeway ← span s.leewaySeconds
  pure { issuer := s.issuer, expiration, leeway, storageTimeout := s.storageTimeout }

/-- The authority over tokens, from the settings and the texts of the two key files. -/
def authority (s : Settings) (privateKey publicKey : String) : Except StartFault Authority := do
  let keys ← (TokenKeys.ofKeyFiles privateKey publicKey).mapError .tokenKeys
  pure ⟨keys, ← policy s⟩

/-- The gateway, once the parts that depend on files are there. -/
def gateway (s : Settings) (authority : Authority) (tenants : TenantResolver) :
    Except StartFault Gateway := do
  let settings ←
    (GatewaySettings.ofHeader s.managementHeader s.defaultPerPage s.maxPerPage).mapError
      .managementHeader
  pure
    { settings
      service :=
        { authority, tenants, signatures := .rsa, storageTimeout := s.storageTimeout
          allowKeyRotation := s.allowKeyRotation } }

/-- The resolver of signed tenant tokens, from the text of the key file. -/
def signedResolver (key : String) : Except StartFault TenantResolver :=
  (TenantResolver.ofKeyFile key).mapError .tenantKey

variable {m : Type → Type} [Monad m] [Host m]

def openStore (s : Settings) : ExceptT StartFault m FoundStore :=
  match s.backend with
  | .memory => pure (.whole (.empty .memory))
  | .tables => ExceptT.adapt .database (Database.openNamed s.databasePath)

def readKey (purpose : KeyPurpose) (path : String) : ExceptT StartFault m String :=
  ExceptT.mk ((·.mapError (.keyFile purpose path)) <$> Host.readText path)

def tenantResolver (s : Settings) : ExceptT StartFault m TenantResolver :=
  match s.tenancyMode, s.verifyKeyPath with
  | .single, _ => pure .single
  | .passthrough, _ => pure .passthrough
  | .signed, none => throw .verifyKeyPathMissing
  | .signed, some path => do
    let key ← readKey .tenants path
    liftExcept (signedResolver key)

/-- The gateway and the store that the settings ask for. -/
def start (s : Settings) : ExceptT StartFault m (Gateway × FoundStore) := do
  let store ← openStore s
  let privateKey ← readKey .signing s.privateKeyPath
  let publicKey ← readKey .verification s.publicKeyPath
  let authority ← liftExcept (authority s privateKey publicKey)
  let tenants ← tenantResolver s
  let gateway ← liftExcept (gateway s authority tenants)
  pure (gateway, store)

end Startup

end DeviceAdmission
