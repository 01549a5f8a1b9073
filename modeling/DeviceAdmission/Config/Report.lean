import DeviceAdmission.Config.Basic

/-!
# Checking a configuration

What is wrong with a configuration and what is only remarkable, each with its place. Errors keep the
service from starting; warnings are shown and change nothing.
-/

namespace DeviceAdmission.Config

inductive Severity where
  | error
  | warning
  deriving DecidableEq, Repr

inductive Finding where
  | portZero
  | portPrivileged (port : Nat)
  | databasePathMissing
  | storeVolatile
  | storageTimeoutZero
  | privateKeyPathMissing
  | publicKeyPathMissing
  | issuerMissing
  | expirationNotPositive
  | leewayNegative
  | leewayTooLong
  | verifyKeyPathMissing
  | verifyKeyPathUnused
  | managementHeaderInvalid (name : String)
  | defaultPerPageZero
  | maxPerPageTooSmall
  deriving DecidableEq, Repr

namespace Finding

def severity : Finding → Severity
  | portPrivileged _ | storeVolatile | leewayTooLong | verifyKeyPathUnused => .warning
  | _ => .error

/-- The place in the configuration that a finding is about. -/
def place : Finding → String
  | portZero | portPrivileged _ => "server.port"
  | databasePathMissing => "storage.path"
  | storeVolatile => "storage.backend"
  | storageTimeoutZero => "storage.timeoutMs"
  | privateKeyPathMissing => "jwt.privateKeyPath"
  | publicKeyPathMissing => "jwt.publicKeyPath"
  | issuerMissing => "jwt.issuer"
  | expirationNotPositive => "jwt.expirationSecs"
  | leewayNegative | leewayTooLong => "jwt.leewaySecs"
  | verifyKeyPathMissing | verifyKeyPathUnused => "tenancy.verifyKeyPath"
  | managementHeaderInvalid _ => "tenancy.managementHeader"
  | defaultPerPageZero => "pagination.defaultPerPage"
  | maxPerPageTooSmall => "pagination.maxPerPage"

def text : Finding → String
  | portZero => "port must be > 0"
  | portPrivileged port =>
    "Port " ++ String.ofList (Numeral.write port) ++
      " requires elevated privileges; consider using a port >= 1024"
  | databasePathMissing => "SQLite backend requires a database path"
  | storeVolatile => "Memory backend keeps devices and tokens only until restart"
  | storageTimeoutZero => "timeoutMs must be >= 1"
  | privateKeyPathMissing => "Token signing key path is required"
  | publicKeyPathMissing => "Token verification key path is required"
  | issuerMissing => "issuer cannot be empty"
  | expirationNotPositive => "expirationSecs must be > 0"
  | leewayNegative => "leewaySecs cannot be negative"
  | leewayTooLong => "leewaySecs is not shorter than the token lifetime"
  | verifyKeyPathMissing => "Signed tenancy requires a verification key path"
  | verifyKeyPathUnused => "verifyKeyPath is only used in signed mode"
  | managementHeaderInvalid name => "'" ++ name ++ "' is not a valid header name"
  | defaultPerPageZero => "defaultPerPage must be >= 1"
  | maxPerPageTooSmall => "maxPerPage must be >= defaultPerPage"

/-- The place and the text of a finding. -/
def message (f : Finding) : String :=
  f.place ++ ": " ++ f.text

end Finding

/-- A finding where a condition holds. -/
def finding (condition : Bool) (f : Finding) : List Finding :=
  if condition then [f] else []

/-- Whether a text is unset or blank. -/
def isBlank (s : Option String) : Bool :=
  s.all Text.isBlankText

def Server.findings (s : Server) : List Finding :=
  match s.port with
  | none => []
  | some port => finding (port = 0) .portZero ++
      finding (0 < port && port < 1024) (.portPrivileged port)

def Storage.findings (s : Storage) : List Finding :=
  (match s.backend.getD default with
    | .tables => finding (isBlank s.path) .databasePathMissing
    | .memory => [.storeVolatile]) ++
  finding (s.timeoutMillis = some 0) .storageTimeoutZero

def Tokens.findings (s : Tokens) : List Finding :=
  finding (isBlank s.privateKeyPath) .privateKeyPathMissing ++
  finding (isBlank s.publicKeyPath) .publicKeyPathMissing ++
  finding (isBlank s.issuer) .issuerMissing ++
  finding (s.expirationSeconds.any (· ≤ 0)) .expirationNotPositive ++
  finding (s.leewaySeconds.any (· < 0)) .leewayNegative ++
  finding (s.leewaySeconds.any fun leeway =>
    0 ≤ leeway && s.expirationSeconds.getD maxSigned ≤ leeway) .leewayTooLong

/-- The characters that the name of a management header may be configured with. -/
def isHeaderChar (c : Char) : Bool :=
  c.isAlphanum || c = '-' || c = '_'

/-- Whether a text may be configured as the name of the management header. -/
def isManagementHeader (s : String) : Bool :=
  !s.isEmpty && s.toList.all isHeaderChar

def Tenancy.findings (s : Tenancy) : List Finding :=
  let isSigned := s.mode.getD default = .signed
  finding (isSigned && isBlank s.verifyKeyPath) .verifyKeyPathMissing ++
  finding (!isSigned && !isBlank s.verifyKeyPath) .verifyKeyPathUnused ++
  (match s.managementHeader with
    | none => []
    | some name => finding (!isManagementHeader name) (.managementHeaderInvalid name))

def Pagination.findings (s : Pagination) : List Finding :=
  finding (s.defaultPerPage = some 0) .defaultPerPageZero ++
  (match s.defaultPerPage, s.maxPerPage with
    | some least, some most => finding (most < least) .maxPerPageTooSmall
    | _, _ => [])

/-- All that there is to say of a configuration, section after section. Only the section of tokens
is looked at where it is missing. -/
def findings (c : Config) : List Finding :=
  c.server.elim [] Server.findings ++
  c.storage.elim [] Storage.findings ++
  (c.tokens.getD .blank).findings ++
  c.tenancy.elim [] Tenancy.findings ++
  c.pagination.elim [] Pagination.findings

def errors (c : Config) : List Finding :=
  c.findings.filter (·.severity = .error)

def warnings (c : Config) : List Finding :=
  c.findings.filter (·.severity = .warning)

/-- A configuration is valid when nothing in it is an error. -/
def isValid (c : Config) : Bool :=
  c.errors.isEmpty

end DeviceAdmission.Config
