import DeviceAdmission.Json.Shape
import DeviceAdmission.Paging
import DeviceAdmission.Store.Basic
import DeviceAdmission.TenantResolver

/-!
# Configurations

A configuration has seven sections, and everything in it may be left unset. It is read from a tree
of values and written back as one, without what is unset.
-/

namespace DeviceAdmission

namespace Config

structure Server where
  bind : Option String
  port : Option Nat
  deriving DecidableEq, Repr

structure Storage where
  backend : Option StoreKind
  path : Option String
  timeoutMillis : Option Nat
  deriving DecidableEq, Repr

structure Tokens where
  privateKeyPath : Option String
  publicKeyPath : Option String
  issuer : Option String
  expirationSeconds : Option Int
  leewaySeconds : Option Int
  deriving DecidableEq, Repr

structure Tenancy where
  mode : Option TenancyMode
  verifyKeyPath : Option String
  managementHeader : Option String
  deriving DecidableEq, Repr

structure Pagination where
  defaultPerPage : Option Nat
  maxPerPage : Option Nat
  deriving DecidableEq, Repr

structure Devices where
  allowKeyRotation : Option Bool
  deriving DecidableEq, Repr

structure Logging where
  level : Option String
  directory : Option String
  json : Option Bool
  deriving DecidableEq, Repr

def Server.blank : Server := ⟨none, none⟩

def Storage.blank : Storage := ⟨none, none, none⟩

def Tokens.blank : Tokens := ⟨none, none, none, none, none⟩

def Tenancy.blank : Tenancy := ⟨none, none, none⟩

def Pagination.blank : Pagination := ⟨none, none⟩

def Devices.blank : Devices := ⟨none⟩

def Logging.blank : Logging := ⟨none, none, none⟩

end Config

structure Config where
  server : Option Config.Server
  storage : Option Config.Storage
  tokens : Option Config.Tokens
  tenancy : Option Config.Tenancy
  pagination : Option Config.Pagination
  devices : Option Config.Devices
  logging : Option Config.Logging
  deriving DecidableEq, Repr

namespace Config

def blank : Config := ⟨none, none, none, none, none, none, none⟩

/-! ## Reading -/

open Json (Shape ShapeField ShapeRecord)

/-- The greatest number of a port. -/
def maxPort : Nat := 65535

def portNumber : Shape Nat := Shape.natural "u16" maxPort

def millis : Shape Nat := Shape.natural "u64" maxWord

def count : Shape Nat := Shape.natural "usize" maxWord

def seconds : Shape Int := Shape.integer "i64" minSigned maxSigned

def storeKinds : List (String × StoreKind) :=
  [("sqlite", .tables), ("memory", .memory)]

def tenancyModes : List (String × TenancyMode) :=
  [TenancyMode.single, .passthrough, .signed].map fun m => (m.name, m)

/-- A field that is set to a value of the shape, or left unset by a null. -/
def field {σ α : Type} (key : String) (shape : Shape α) (set : σ → Option α → σ) : ShapeField σ :=
  ⟨key, fun sofar v => (Shape.optional shape v).map (set sofar)⟩

def Server.record : ShapeRecord Server where
  name := "struct ServerConfig"
  blank := .blank
  fields :=
    [ field "bind" Shape.text fun s v => { s with bind := v },
      field "port" portNumber fun s v => { s with port := v } ]

def Storage.record : ShapeRecord Storage where
  name := "struct StorageConfig"
  blank := .blank
  fields :=
    [ field "backend" (Shape.choice storeKinds) fun s v => { s with backend := v },
      field "path" Shape.text fun s v => { s with path := v },
      field "timeoutMs" millis fun s v => { s with timeoutMillis := v } ]

def Tokens.record : ShapeRecord Tokens where
  name := "struct JwtConfig"
  blank := .blank
  fields :=
    [ field "privateKeyPath" Shape.text fun s v => { s with privateKeyPath := v },
      field "publicKeyPath" Shape.text fun s v => { s with publicKeyPath := v },
      field "issuer" Shape.text fun s v => { s with issuer := v },
      field "expirationSecs" seconds fun s v => { s with expirationSeconds := v },
      field "leewaySecs" seconds fun s v => { s with leewaySeconds := v } ]

def Tenancy.record : ShapeRecord Tenancy where
  name := "struct TenancyConfig"
  blank := .blank
  fields :=
    [ field "mode" (Shape.choice tenancyModes) fun s v => { s with mode := v },
      field "verifyKeyPath" Shape.text fun s v => { s with verifyKeyPath := v },
      field "managementHeader" Shape.text fun s v => { s with managementHeader := v } ]

def Pagination.record : ShapeRecord Pagination where
  name := "struct PaginationConfig"
  blank := .blank
  fields :=
    [ field "defaultPerPage" count fun s v => { s with defaultPerPage := v },
      field "maxPerPage" count fun s v => { s with maxPerPage := v } ]

def Devices.record : ShapeRecord Devices where
  name := "struct DevicesConfig"
  blank := .blank
  fields := [ field "allowAcceptedKeyRotation" Shape.bool fun _ v => ⟨v⟩ ]

def Logging.record : ShapeRecord Logging where
  name := "struct LoggingConfig"
  blank := .blank
  fields :=
    [ field "level" Shape.text fun s v => { s with level := v },
      field "dir" Shape.text fun s v => { s with directory := v },
      field "json" Shape.bool fun s v => { s with json := v } ]

def record : ShapeRecord Config where
  name := "struct DevAuthConfig"
  blank := .blank
  fields :=
    [ field "server" Server.record.shape fun c v => { c with server := v },
      field "storage" Storage.record.shape fun c v => { c with storage := v },
      field "jwt" Tokens.record.shape fun c v => { c with tokens := v },
      field "tenancy" Tenancy.record.shape fun c v => { c with tenancy := v },
      field "pagination" Pagination.record.shape fun c v => { c with pagination := v },
      field "devices" Devices.record.shape fun c v => { c with devices := v },
      field "logging" Logging.record.shape fun c v => { c with logging := v } ]

/-- Read a configuration from a tree. -/
def ofTree (v : Json.Value) : Except Json.Problem Config :=
  record.shape v

/-! ## Writing -/

/-- A field with a value, or none where it is unset. -/
def written {α : Type} (key : String) (write : α → Json.Value) (a : Option α) : Json.Fields :=
  (a.map fun a => (key, write a)).toList

def integerValue (i : Int) : Json.Value :=
  .number (.integer i)

/-- The name of a kind of store. -/
def storeKindName : StoreKind → String
  | .tables => "sqlite"
  | .memory => "memory"

def Server.tree (s : Server) : Json.Value :=
  .object (written "bind" .text s.bind ++ written "port" .natural s.port)

def Storage.tree (s : Storage) : Json.Value :=
  .object (written "backend" (fun k => .text (storeKindName k)) s.backend ++
    written "path" .text s.path ++ written "timeoutMs" .natural s.timeoutMillis)

def Tokens.tree (s : Tokens) : Json.Value :=
  .object (written "privateKeyPath" .text s.privateKeyPath ++
    written "publicKeyPath" .text s.publicKeyPath ++ written "issuer" .text s.issuer ++
    written "expirationSecs" integerValue s.expirationSeconds ++
    written "leewaySecs" integerValue s.leewaySeconds)

def Tenancy.tree (s : Tenancy) : Json.Value :=
  .object (written "mode" (fun m => .text m.name) s.mode ++
    written "verifyKeyPath" .text s.verifyKeyPath ++
    written "managementHeader" .text s.managementHeader)

def Pagination.tree (s : Pagination) : Json.Value :=
  .object (written "defaultPerPage" .natural s.defaultPerPage ++
    written "maxPerPage" .natural s.maxPerPage)

def Devices.tree (s : Devices) : Json.Value :=
  .object (written "allowAcceptedKeyRotation" .bool s.allowKeyRotation)

def Logging.tree (s : Logging) : Json.Value :=
  .object (written "level" .text s.level ++ written "dir" .text s.directory ++
    written "json" .bool s.json)

/-- Write a configuration as a tree. -/
def tree (c : Config) : Json.Value :=
  .object (written "server" Server.tree c.server ++ written "storage" Storage.tree c.storage ++
    written "jwt" Tokens.tree c.tokens ++ written "tenancy" Tenancy.tree c.tenancy ++
    written "pagination" Pagination.tree c.pagination ++ written "devices" Devices.tree c.devices ++
    written "logging" Logging.tree c.logging)

end Config

end DeviceAdmission
