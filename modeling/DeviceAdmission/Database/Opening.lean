import DeviceAdmission.Database.Holding
import DeviceAdmission.Database.Layout
import DeviceAdmission.Database.Name
import DeviceAdmission.Host.Basic

/-!
# Opening a database

A database is opened in three stages: its file is found or made, the file is set to keep a log, and
the tables are laid out. The main functions are `openContents`, on the contents of a file, and
`openNamed`, on a host.
-/

namespace DeviceAdmission.Database

/-! ## Contents -/

/-- A file that goes with a database, named by what is put behind the name of the database. -/
structure Companion where
  suffix : String
  contents : Bytes
  deriving DecidableEq, Repr

/-- A database that has been opened in a file. -/
structure OpenedFile where
  found : FoundStore
  contents : Bytes
  companions : List Companion
  deriving DecidableEq, Repr

/-- How many bytes the name of the journal has beyond the name of the database. -/
def journalSuffixLength : Nat := 8

/-- Whether the file can be written. What is not logged goes through a journal. -/
def writing (use : FileUse) (logged : Bool) : Except Problem Unit :=
  if use.readOnly then .error .readOnly
  else if !logged && use.nameLength + journalSuffixLength > Header.longestName then
    .error .unopenable
  else .ok ()

/-- The number of the release that wrote a file last. -/
def writerNumber : Bytes := [0, 46, 122, 112]

/-- Bytes that stand for a number, the highest first. -/
def fourBytes (n : Nat) : Bytes :=
  [n / 0x1000000, n / 0x10000, n / 0x100, n].map fun part => UInt8.ofNat (part % 256)

/-- Contents with other bytes at a place. -/
def replaced (contents : Bytes) (place : Nat) (bytes : Bytes) : Bytes :=
  contents.take place ++ bytes ++ contents.drop (place + bytes.length)

/-- What is put in place of other bytes changes nothing about the length. -/
theorem length_replaced {contents bytes : Bytes} {place : Nat}
    (h : place + bytes.length ≤ contents.length) :
    (replaced contents place bytes).length = contents.length := by
  simp only [replaced, List.length_append, List.length_take, List.length_drop]
  omega

/-- The only page of a database that keeps a log and holds nothing outside it. -/
def freshPage : Bytes :=
  let header := Header.mark ++ [16, 0, 2, 2, 0, 64, 32, 32] ++ fourBytes 1 ++ fourBytes 1 ++
    List.replicate 60 0 ++ fourBytes 1 ++ writerNumber
  let page := header ++ [13, 0, 0, 0, 0, 16]
  page ++ List.replicate (4096 - page.length) 0

/-- The contents of a database that is set to keep a log, which counts as a change. -/
def asLogged (contents : Bytes) : Bytes :=
  if contents = [] then freshPage
  else
    let change := fourBytes (numberAt contents 24 4 + 1)
    let marked := replaced (replaced contents 18 [2, 2]) 24 change
    replaced (replaced marked 92 change) 96 writerNumber

/-- The byte that the row of a table in the schema begins with. It is no text: such a row has more
than 127 bytes. -/
def rowMark : UInt8 := 0x83

/-- What a log begins with: a mark and its version. An index of a log begins with a version too. -/
def logHead : Bytes := [55, 127, 6, 130, 0, 45, 226, 24]

def logIndexHead : Bytes := [24, 226, 45, 0]

/-- The files that go with a database which keeps a log. -/
def companions (wrote hasIndex : Bool) : List Companion :=
  ⟨"-wal", if wrote then logHead else []⟩ :: if hasIndex then [⟨"-shm", logIndexHead⟩] else []

/-- What is in a file: nothing yet, or a database that can be read. -/
def schemaOf (use : FileUse) (contents : Bytes) : Except Problem Schema := do
  if contents = [] then pure .empty
  else
    Header.check use contents
    Schema.ofContents contents

/-- Open the database in a file with the contents. A single byte counts as nothing. -/
def openContents (use : FileUse) (hasIndex : Bool) (contents : Bytes) :
    Except Fault OpenedFile := do
  let contents := if contents.length = 1 then [] else contents
  let use := { use with readOnly := use.readOnly || byteAt contents 18 > 2 }
  let schema ← (schemaOf use contents).mapError (.failed .logging)
  if use.keepsLog && !Header.isLogged contents then
    (writing use false).mapError (.failed .logging)
  let wrote ← (schema.takeAll (writing use use.keepsLog) Step.all).mapError (.failed .layout)
  let found := schema.store
  if use.keepsLog then
    let contents := if Header.isLogged contents then contents else asLogged contents
    pure { found, contents, companions := companions wrote hasIndex }
  else
    let contents := if wrote then contents ++ [rowMark] else contents
    pure { found, contents, companions := [] }

/-! ## Files -/

namespace Name

/-- Whether the file system lets those who use a file share memory. -/
def sharesMemory : FileSystem → Bool
  | .locked | .lockedForGood => true
  | _ => false

/-- How the file of a database is used, given the length of its name. -/
def use (n : Name) (nameLength : Nat) : FileUse :=
  let unchanging := n.switch "immutable"
  { readOnly := n.access = .readOnly || unchanging, unchanging, nameLength
    keepsLog := sharesMemory n.fileSystem && !unchanging && !n.switch "nolock" }

end Name

/-- The store of a database that is kept in no file. -/
def openFileless (n : Name) : Except Fault FoundStore :=
  if n.access = .readOnly then .error (.failed .layout .readOnly)
  else .ok (.whole (.empty .tables))

/-- The path of a database has at most this many bytes, while names are followed and in the end. -/
def longestDetour : Nat := 511

def longestPath : Nat := 504

variable {m : Type → Type} [Monad m] [Host m]

/-- Where names lead from a place. A name may be missing, but not stand in a file. -/
def resolve : Place → (names : List Bytes) → m (Option Place)
  | here, [] => pure (some here)
  | here, name :: names =>
    if Path.isIdle name then resolve here names
    else if name = Path.parent then resolve here.dropLast names
    else
      let next := here ++ [name]
      if next.path.length > longestDetour then pure none
      else do
        match ← Host.lookUp next.path with
        | .ok _ | .error .missing => resolve next names
        | .error _ => pure none

/-- The place of the file of a database, if it can have one. -/
def placeOf (file : Bytes) : m (Option Place) := do
  let start ← if Path.isAbsolute file then pure [] else Host.workingDirectory
  let place? ← resolve [] (Path.names start ++ Path.names file)
  pure (place?.filter fun place => place ≠ [] ∧ place.path.length ≤ longestPath)

/-- The contents of the file of a database, which is made if it is missing and may be made. -/
def contentsAt (n : Name) (place : Place) : ExceptT Problem m Bytes := do
  match ← ExceptT.lift (Host.lookUp place.path) with
  | .ok (.file contents) => pure contents
  | .ok .directory => throw (if n.access = .readOnly then .unreadable else .unopenable)
  | .error .missing =>
    unless n.access = .create do throw .unopenable
    match ← ExceptT.lift (Host.writeFile place.path []) with
    | .ok () => pure []
    | .error _ => throw .unopenable
  | .error _ => throw .unopenable

/-- Check that the file is there whose rights the file of a database is to have, if one is named. -/
def checkModel (n : Name) : ExceptT Problem m Unit := do
  match n.parameter? "modeof" with
  | none => pure ()
  | some model =>
    match ← ExceptT.lift (Host.lookUp model) with
    | .ok _ => pure ()
    | .error _ => throw .unreadable

/-- Write a file unless there is one. -/
def writeNew (path contents : Bytes) : m Unit := do
  match ← Host.lookUp path with
  | .error .missing => do let _ ← Host.writeFile path contents
  | _ => pure ()

/-- The file of a database and what it holds. -/
def findFile (n : Name) : ExceptT Problem m (Place × Bytes) := do
  match ← ExceptT.lift (placeOf n.file) with
  | none => throw .unopenable
  | some place =>
    checkModel n
    pure (place, ← contentsAt n place)

/-- Open the database in the file that a path or a URI names. -/
def openFile (path : String) (n : Name) : ExceptT Fault m FoundStore := do
  let (place, contents) ← ExceptT.adapt (.failed (.opening path)) (findFile n)
  let use := n.use (place.getLastD []).length
  match openContents use (n.fileSystem = .locked) contents with
  | .error fault => throw fault
  | .ok opened =>
    ExceptT.lift do
      if opened.contents ≠ contents then
        let _ ← Host.writeFile place.path opened.contents
      opened.companions.forM fun c =>
        writeNew (place.withSuffix (Utf8.encode c.suffix)).path c.contents
      pure opened.found

/-- Open the database that a path or a URI names. -/
def openNamed (path : String) : ExceptT Fault m FoundStore := do
  let text := Utf8.encode path
  match text.findIdx? (· = 0), Name.read text with
  | some position, _ => throw (.nulInPath path position)
  | none, .error problem => throw (.failed (.opening path) problem)
  | none, .ok n =>
    if n.isFileless then liftExcept (openFileless n)
    else openFile path n

end DeviceAdmission.Database
