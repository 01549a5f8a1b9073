import DeviceAdmission.Config.Reference
import DeviceAdmission.Host.Path
import DeviceAdmission.Text.Numeral
import DeviceAdmission.Text.Utf8

/-!
# The host

What the program asks of the machine that it runs on: variables, files, directories and its input.
Commands are written for any host, so the same command runs on a machine and on a description of
one.
-/

namespace DeviceAdmission

/-- Why a file or a directory cannot be had. -/
inductive FileFault where
  | missing
  | notDirectory
  | isDirectory
  | alreadyExists
  | nameTooLong
  | nulInName
  | notText
  /-- Whatever else the machine reports, with its number. -/
  | reported (text : String) (number : Nat)
  deriving DecidableEq, Repr

namespace FileFault

/-- A fault that the machine reports under a number. -/
def numbered (text : String) (number : Nat) : String :=
  text ++ " (os error " ++ String.ofList (Numeral.write number) ++ ")"

def message : FileFault → String
  | missing => numbered "No such file or directory" 2
  | notDirectory => numbered "Not a directory" 20
  | isDirectory => numbered "Is a directory" 21
  | alreadyExists => numbered "File exists" 17
  | nameTooLong => numbered "File name too long" 36
  | nulInName => "file name contained an unexpected NUL byte"
  | notText => "stream did not contain valid UTF-8"
  | reported text number => numbered text number

end FileFault

/-- What is at a place. -/
inductive Entry where
  | file (contents : Bytes)
  | directory
  deriving DecidableEq, Repr

class Host (m : Type → Type) where
  /-- The value of a variable that is set. -/
  readVariable : (name : String) → m (Option String)
  /-- All of the standard input. -/
  readInput : m Bytes
  /-- The path of the working directory. -/
  workingDirectory : m Bytes
  /-- What a path leads to. -/
  lookUp : (path : Bytes) → m (Except FileFault Entry)
  /-- Make one directory, which must not be there yet. -/
  addDirectory : (path : Bytes) → m (Except FileFault Unit)
  /-- Write a file, which is made if it is missing. -/
  writeFile : (path contents : Bytes) → m (Except FileFault Unit)

namespace Host

variable {m : Type → Type} [Monad m] [Host m]

/-- Those of some variables that are set. -/
def readVariables : (names : List String) → m Environment
  | [] => pure []
  | name :: names => do
    let value ← readVariable name
    let others ← readVariables names
    pure (value.toList.map (name, ·) ++ others)

/-- The contents of an entry, if it is a file. -/
def contentsOf : Entry → Except FileFault Bytes
  | .file contents => .ok contents
  | .directory => .error .isDirectory

def readFile (path : String) : m (Except FileFault Bytes) := do
  pure ((← lookUp (Utf8.encode path)).bind contentsOf)

/-- A file of text. -/
def readText (path : String) : m (Except FileFault String) := do
  let contents ← readFile path
  pure (contents.bind fun bytes => (Utf8.decode? bytes).elim (.error .notText) .ok)

/-- Forgive a fault where there is a directory all the same. -/
def unlessDirectory (path : Bytes) : Except FileFault Unit → m (Except FileFault Unit)
  | .ok () => pure (.ok ())
  | .error fault => do
    match ← lookUp path with
    | .ok .directory => pure (.ok ())
    | _ => pure (.error fault)

/-- Make the first of some directories, each of which lies in the one after it. One that lies in
nothing is tried again once those around it are there. -/
def addDirectories : (paths : List Bytes) → m (Except FileFault Unit)
  | [] => pure (.ok ())
  | path :: around => do
    match ← addDirectory path with
    | .error .missing =>
      match ← addDirectories around with
      | .error fault => pure (.error fault)
      | .ok () => unlessDirectory path (← addDirectory path)
    | result => unlessDirectory path result

/-- Make a directory and those that it lies in, unless they are there. -/
def makeDirectory (path : String) : m (Except FileFault Unit) :=
  let path := Utf8.encode path
  if path = [] then pure (.ok ()) else addDirectories (path :: Path.enclosing path)

end Host

end DeviceAdmission
