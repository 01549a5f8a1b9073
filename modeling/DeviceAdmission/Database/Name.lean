import DeviceAdmission.Database.Fault
import DeviceAdmission.Http.Percent
import DeviceAdmission.Text.Split
import DeviceAdmission.Text.Utf8

/-!
# Names of databases

A database is named by a path, or by a URI: a path after `file:`, with percent escapes, and
parameters after a question mark. Some parameters say how the database is used.
-/

namespace DeviceAdmission.Database

/-- How the file of a database is opened. -/
inductive Access where
  | readOnly
  | readWrite
  /-- As `readWrite`, but a file that is missing is made. -/
  | create
  /-- There is no file. -/
  | memory
  deriving DecidableEq, Repr

namespace Access

def named? (value : Bytes) : Option Access :=
  if value = Utf8.encode "ro" then some readOnly
  else if value = Utf8.encode "rw" then some readWrite
  else if value = Utf8.encode "rwc" then some create
  else if value = Utf8.encode "memory" then some memory
  else none

/-- How much may be done with a file. Where there is none, everything may. -/
def extent : Access → Nat
  | readOnly => 1
  | readWrite => 2
  | create => 3
  | memory => 4

/-- A database that is opened in one way may be opened in another that does no more, and always
without a file. -/
def allows (a b : Access) : Bool :=
  b = memory || b.extent ≤ a.extent

/-- A database may be opened as it is opened already. -/
theorem allows_self (a : Access) : a.allows a = true := by
  cases a <;> rfl

end Access

/-- How a database goes about files. -/
inductive FileSystem where
  /-- Files are locked while they are read or written. -/
  | locked
  /-- Files are locked as long as they are open. -/
  | lockedForGood
  /-- A file is locked by another one beside it. -/
  | lockedByFiles
  /-- Files are not locked. -/
  | unlocked
  /-- There are no files. -/
  | memory
  deriving DecidableEq, Repr

def FileSystem.named? (name : Bytes) : Option FileSystem :=
  if name = Utf8.encode "unix" then some locked
  else if name = Utf8.encode "unix-excl" then some lockedForGood
  else if name = Utf8.encode "unix-dotfile" then some lockedByFiles
  else if name = Utf8.encode "unix-none" then some unlocked
  else if name = Utf8.encode "memdb" then some memory
  else none

structure Name where
  file : Bytes
  parameters : List (Bytes × Bytes)
  access : Access
  fileSystem : FileSystem
  deriving DecidableEq, Repr

namespace Name

/-- The database in the file at a path. -/
def ofPath (path : Bytes) : Name :=
  { file := path, parameters := [], access := .create, fileSystem := .locked }

/-- The value of the first parameter with the name. -/
def parameter? (n : Name) (name : String) : Option Bytes :=
  (n.parameters.find? (·.1 = Utf8.encode name)).map (·.2)

/-- A part of a URI with its escapes resolved. Nothing counts after an escaped NUL. -/
def unescaped (part : Bytes) : Bytes :=
  (Http.Percent.decode part).takeWhile (· ≠ 0)

/-- The parts before and after the first occurrence of a byte. Without it, all is before. -/
def cut (sep : UInt8) (bytes : Bytes) : Bytes × Bytes :=
  (bytes.takeWhile (· ≠ sep), (bytes.dropWhile (· ≠ sep)).drop 1)

/-- A parameter, unless its name is empty. -/
def parameterOf? (text : Bytes) : Option (Bytes × Bytes) :=
  let (name, value) := cut 61 text
  if unescaped name = [] then none else some (unescaped name, unescaped value)

def isCacheMode (value : Bytes) : Bool :=
  value = Utf8.encode "shared" || value = Utf8.encode "private"

/-- Let a parameter have its say on how the file is opened. -/
def withParameter (access : Access) : Bytes × Bytes → Except Problem Access
  | (name, value) =>
    if name = Utf8.encode "cache" then
      if isCacheMode value then .ok access
      else .error (.cacheModeUnknown (Utf8.decodeLossy value))
    else if name = Utf8.encode "mode" then
      match Access.named? value with
      | none => .error (.accessModeUnknown (Utf8.decodeLossy value))
      | some asked =>
        if access.allows asked then .ok asked
        else .error (.accessModeRefused (Utf8.decodeLossy value))
    else .ok access

/-- The file system that the last parameter on it asks for. -/
def fileSystemOf (parameters : List (Bytes × Bytes)) : Except Problem FileSystem :=
  match (parameters.filter (·.1 = Utf8.encode "vfs")).getLast? with
  | none => .ok .locked
  | some (_, value) =>
    (FileSystem.named? value).elim (.error (.fileSystemUnknown (Utf8.decodeLossy value))) .ok

/-- What is left of a URI behind its authority. Only this machine has a say. -/
def afterAuthority : Bytes → Except Problem Bytes
  | 47 :: 47 :: rest =>
    let authority := rest.takeWhile (· ≠ 47)
    if authority = [] ∨ authority = Utf8.encode "localhost" then .ok (rest.dropWhile (· ≠ 47))
    else .error (.foreign (Utf8.decodeLossy authority))
  | rest => .ok rest

/-- The name in a URI, without its scheme. -/
def ofUri (uri : Bytes) : Except Problem Name := do
  let (file, query) := cut 63 ((← afterAuthority uri).takeWhile (· ≠ 35))
  let parameters := (Text.splitAt 38 query).filterMap parameterOf?
  let access ← parameters.foldlM withParameter .create
  pure { file := unescaped file, parameters, access, fileSystem := ← fileSystemOf parameters }

def scheme : Bytes := Utf8.encode "file:"

/-- Read the name of a database. -/
def read (text : Bytes) : Except Problem Name :=
  if scheme.isPrefixOf text then ofUri (text.drop scheme.length) else .ok (ofPath text)

/-- A text without the scheme is a path. -/
theorem read_of_not_isPrefixOf {text : Bytes} (h : scheme.isPrefixOf text = false) :
    read text = .ok (ofPath text) := by
  simp [read, h]

/-- Whether the database is kept in no file. -/
def isFileless (n : Name) : Bool :=
  n.file = [] || n.file = Utf8.encode ":memory:" || n.access = .memory || n.fileSystem = .memory

/-! ## Switches -/

/-- The number that digits begin a text with. One that is too great for 31 bits counts as none. -/
def leadingNumber (value : Bytes) : Nat :=
  let n := (value.takeWhile fun b => 48 ≤ b ∧ b ≤ 57).foldl (fun n b => n * 10 + (b.toNat - 48)) 0
  if n < 0x80000000 then n else 0

/-- A letter in lower case. -/
def lowered (b : UInt8) : UInt8 :=
  if 65 ≤ b ∧ b ≤ 90 then b + 32 else b

/-- Whether a value switches something on: one of three words, or a number whose last byte is not
zero. -/
def isOn (value : Bytes) : Bool :=
  match value with
  | [] => false
  | first :: _ =>
    if 48 ≤ first ∧ first ≤ 57 then leadingNumber value % 256 ≠ 0
    else [Utf8.encode "on", Utf8.encode "yes", Utf8.encode "true"].contains (value.map lowered)

/-- Whether a parameter switches something on. -/
def switch (n : Name) (name : String) : Bool :=
  (n.parameter? name).any isOn

end Name

end DeviceAdmission.Database
