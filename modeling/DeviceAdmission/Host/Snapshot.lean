import DeviceAdmission.Host.Basic

/-!
# Snapshots of a machine

A host that is a value: the files, the directories and the variables that a program can see. Paths
are followed name by name from the root or from the working directory.
-/

namespace DeviceAdmission

structure Snapshot where
  workingDirectory : Place
  files : List (Place × Bytes)
  /-- The directories that may hold nothing. -/
  directories : List Place
  environment : Environment
  input : Bytes
  deriving Repr

namespace Snapshot

/-- Where a path begins. -/
def origin (s : Snapshot) (path : Bytes) : Place :=
  if Path.isAbsolute path then [] else s.workingDirectory

/-- A directory is on the way to a file, to another directory or to the working directory. -/
def isDirectory (s : Snapshot) (p : Place) : Bool :=
  (s.files.any fun f => p.isPrefixOf f.1.dropLast) ||
    (s.workingDirectory :: s.directories).any fun d => p.isPrefixOf d

/-- What is at a place, if anything. -/
def entry? (s : Snapshot) (p : Place) : Option Entry :=
  match s.files.find? (·.1 = p) with
  | some f => some (.file f.2)
  | none => if s.isDirectory p then some .directory else none

/-- A name has at most this many bytes. -/
def maxName : Nat := 255

/-- A path has fewer than this many bytes. -/
def pathLimit : Nat := 4096

/-- Where names lead from a place. On the way lie only directories. -/
def follow (s : Snapshot) : Place → List Bytes → Except FileFault Place
  | here, [] => .ok here
  | here, name :: names =>
    match s.entry? here with
    | some (.file _) => .error .notDirectory
    | none => .error .missing
    | some .directory =>
      if Path.isIdle name then follow s here names
      else if name = Path.parent then follow s here.dropLast names
      else if name.length > maxName then .error .nameTooLong
      else follow s (here ++ [name]) names

/-- Refuse a path that no machine follows. -/
def checkPath (path : Bytes) : Except FileFault Unit :=
  if path.contains 0 then .error .nulInName
  else if path = [] then .error .missing
  else if path.length ≥ pathLimit then .error .nameTooLong
  else .ok ()

/-- Where a path leads. -/
def locate (s : Snapshot) (path : Bytes) : Except FileFault Place := do
  checkPath path
  s.follow (s.origin path) (Path.names path)

/-- What a path leads to. -/
def lookUp (s : Snapshot) (path : Bytes) : Except FileFault Entry := do
  let p ← s.locate path
  (s.entry? p).elim (.error .missing) .ok

/-- The names in a path, without the empty ones after its last slashes. -/
def untrailedNames (path : Bytes) : List Bytes :=
  ((Path.names path).reverse.dropWhile (· = [])).reverse

/-- Make one directory. Its path ends with a new name in a directory that is there. -/
def addDirectory (s : Snapshot) (path : Bytes) : Except FileFault Snapshot := do
  checkPath path
  let names := untrailedNames path
  let name := names.getLastD Path.here
  let p ← s.follow (s.origin path) (names.dropLast ++ [Path.here])
  if name = Path.here ∨ name = Path.parent then .error .alreadyExists
  else if name.length > maxName then .error .nameTooLong
  else if (s.entry? (p ++ [name])).isSome then .error .alreadyExists
  else .ok { s with directories := (p ++ [name]) :: s.directories }

/-- Write a file, in place of the one that was there. -/
def writeFile (s : Snapshot) (path contents : Bytes) : Except FileFault Snapshot := do
  let p ← s.locate path
  match s.entry? p with
  | some .directory => .error .isDirectory
  | _ => .ok { s with files := (p, contents) :: s.files.filter (·.1 ≠ p) }

/-- Go on with a changed snapshot, or stay with this one where the change fails. -/
def change (f : Snapshot → Except FileFault Snapshot) :
    StateM Snapshot (Except FileFault Unit) := do
  match f (← get) with
  | .ok s => set s; pure (.ok ())
  | .error fault => pure (.error fault)

instance : Host (StateM Snapshot) where
  readVariable name := return (← get).environment.get? name
  readInput := return (← get).input
  workingDirectory := return (← get).workingDirectory.path
  lookUp path := return (← get).lookUp path
  addDirectory path := change (·.addDirectory path)
  writeFile path contents := change (·.writeFile path contents)

end Snapshot

end DeviceAdmission
