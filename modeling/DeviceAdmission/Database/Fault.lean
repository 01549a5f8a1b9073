import DeviceAdmission.Store.Fault
import DeviceAdmission.Text.Numeral

/-!
# Faults of a database

Why a database cannot be opened: at which stage, and what the problem is. Each problem has a message
of its own and belongs to a class with a number and a title.
-/

namespace DeviceAdmission.Database

/-- The classes of problems. -/
inductive ProblemClass where
  | general
  | notAllowed
  | readOnly
  | inputOutput
  | malformed
  | unopenable
  | notDatabase
  | notUnique
  deriving DecidableEq, Repr

namespace ProblemClass

def number : ProblemClass → Nat
  | general => 1
  | notAllowed => 3
  | readOnly => 8
  | inputOutput => 10
  | malformed => 11
  | unopenable => 14
  | notDatabase => 26
  | notUnique => 2067

def title : ProblemClass → String
  | general => "SQL error or missing database"
  | notAllowed => "Access permission denied"
  | readOnly => "Attempt to write a readonly database"
  | inputOutput => "Some kind of disk I/O error occurred"
  | malformed => "The database disk image is malformed"
  | unopenable => "Unable to open the database file"
  | notDatabase => "File opened that is not a database file"
  | notUnique => "A UNIQUE constraint failed"

def message (c : ProblemClass) : String :=
  "Error code " ++ String.ofList (Numeral.write c.number) ++ ": " ++ c.title

end ProblemClass

/-- What a name may already belong to. -/
inductive NameOwner where
  | table
  | index
  deriving DecidableEq, Repr

def NameOwner.noun : NameOwner → String
  | table => "a table"
  | index => "an index"

inductive Problem where
  /-- The name of the database is on another machine. -/
  | foreign (authority : String)
  | cacheModeUnknown (value : String)
  | accessModeUnknown (value : String)
  | accessModeRefused (value : String)
  | fileSystemUnknown (name : String)
  /-- The file, or one that goes with it, cannot be opened. -/
  | unopenable
  | unreadable
  | readOnly
  | notDatabase
  | malformed
  /-- The tree of a table or an index is not in the database. -/
  | rootMissing (name : String)
  | formatUnsupported
  /-- A statement names a column that is not there, at a place counted in bytes. -/
  | columnMissing (name statements : String) (offset : Nat)
  | nameTaken (owner : NameOwner) (name : String)
  | viewIndexed
  /-- Several rows agree in columns of a table where at most one may. -/
  | notUnique (table : Table) (columns : List String)
  deriving DecidableEq, Repr

namespace Problem

def kind : Problem → ProblemClass
  | foreign _ | cacheModeUnknown _ | accessModeUnknown _ | fileSystemUnknown _ => .general
  | accessModeRefused _ => .notAllowed
  | unopenable => .unopenable
  | unreadable => .inputOutput
  | readOnly => .readOnly
  | notDatabase => .notDatabase
  | malformed | rootMissing _ => .malformed
  | formatUnsupported | columnMissing _ _ _ | nameTaken _ _ | viewIndexed => .general
  | notUnique _ _ => .notUnique

def message : Problem → String
  | foreign authority => "invalid uri authority: " ++ authority
  | cacheModeUnknown value => "no such cache mode: " ++ value
  | accessModeUnknown value => "no such access mode: " ++ value
  | accessModeRefused value => "access mode not allowed: " ++ value
  | fileSystemUnknown name => "no such vfs: " ++ name
  | unopenable => "unable to open database file"
  | unreadable => "disk I/O error"
  | readOnly => "attempt to write a readonly database"
  | notDatabase => "file is not a database"
  | malformed => "database disk image is malformed"
  | rootMissing name => "malformed database schema (" ++ name ++ ") - invalid rootpage"
  | formatUnsupported => "unsupported file format"
  | columnMissing name statements offset =>
    "no such column: " ++ name ++ " in " ++ statements ++ " at offset " ++
      String.ofList (Numeral.write offset)
  | nameTaken owner name => "there is already " ++ owner.noun ++ " named " ++ name
  | viewIndexed => "views may not be indexed"
  | notUnique table columns =>
    "UNIQUE constraint failed: " ++ ", ".intercalate (columns.map ((table.name ++ ".") ++ ·))

end Problem

/-- The stages of opening a database. -/
inductive Stage where
  /-- The file under the path is to be opened. -/
  | opening (path : String)
  /-- The database is to keep a log of what is written. -/
  | logging
  /-- The tables are to be there. -/
  | layout
  deriving DecidableEq, Repr

namespace Stage

def title : Stage → String
  | opening _ => "Failed to open SQLite database"
  | logging => "Failed to enable WAL journal"
  | layout => "Failed to initialize devauth schema"

/-- What is said of a problem at a stage. The first stage tells what it cannot open. -/
def message : Stage → Problem → String
  | opening path, .unopenable => Problem.unopenable.message ++ ": " ++ path
  | _, problem => problem.message

end Stage

inductive Fault where
  /-- A NUL character stands in the path, at a place counted in bytes. -/
  | nulInPath (path : String) (position : Nat)
  | failed (stage : Stage) (problem : Problem)
  deriving DecidableEq, Repr

/-- The causes of the fault, the outermost first. -/
def Fault.causes : Fault → List String
  | nulInPath path position =>
    let message := "nul byte found in provided data at position: " ++
      String.ofList (Numeral.write position)
    [(Stage.opening path).title, message, message]
  | failed stage problem => [stage.title, stage.message problem, problem.kind.message]

end DeviceAdmission.Database
