import DeviceAdmission.CommandLine.Basic

/-!
# The program

Runs the command line on the machine. A database is held in memory while the program runs.
-/

namespace DeviceAdmission

/-- What an error of the machine says of a file. -/
def FileFault.ofError : IO.Error → FileFault
  | .noFileOrDirectory _ _ _ => missing
  | .alreadyExists _ _ _ => alreadyExists
  | .inappropriateType _ 20 _ => notDirectory
  | .inappropriateType _ 21 _ => isDirectory
  | .permissionDenied _ number text => reported text number.toNat
  | e => reported e.toString 0

/-- Run what may fail with an error of the machine. -/
def attempt {α : Type} (x : IO α) : IO (Except FileFault α) := do
  match ← x.toBaseIO with
  | .ok a => pure (.ok a)
  | .error e => pure (.error (.ofError e))

def readBytes (path : String) : IO Bytes := do
  pure (← IO.FS.readBinFile path).toList

/-- A path of the machine, unless it is no text. -/
def machinePath (path : Bytes) : Except FileFault String :=
  (Utf8.decode? path).elim (.error .missing) .ok

/-- What a path of the machine leads to. -/
def lookUpOnMachine (path : Bytes) : IO (Except FileFault Entry) := do
  match machinePath path with
  | .error fault => pure (.error fault)
  | .ok path =>
    match ← attempt (readBytes path) with
    | .ok contents => pure (.ok (.file contents))
    | .error .isDirectory => pure (.ok .directory)
    | .error fault => pure (.error fault)

instance : Host IO where
  readVariable name := IO.getEnv name
  readInput := do
    pure (← (← IO.getStdin).readBinToEnd).toList
  workingDirectory := do
    pure (Utf8.encode (← IO.currentDir).toString)
  lookUp := lookUpOnMachine
  addDirectory path :=
    match machinePath path with
    | .ok path => attempt (IO.FS.createDir path)
    | .error fault => pure (.error fault)
  writeFile path contents :=
    match machinePath path with
    | .ok path => attempt (IO.FS.writeBinFile path ⟨contents.toArray⟩)
    | .error fault => pure (.error fault)

end DeviceAdmission

def main (arguments : List String) : IO UInt32 := do
  let outcome ← DeviceAdmission.CommandLine.run (m := IO) arguments
  (← IO.getStdout).putStr outcome.output
  (← IO.getStderr).putStr outcome.errors
  pure outcome.code.toUInt32
