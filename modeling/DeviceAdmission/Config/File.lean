import DeviceAdmission.Host.Basic
import DeviceAdmission.Json.Value
import DeviceAdmission.Text.Blank
import DeviceAdmission.Yaml.Tree

/-!
# Configuration files

A configuration is kept in a YAML file. A file that is not there, that is blank or that holds
nothing stands for the configuration in which nothing is set.
-/

namespace DeviceAdmission.Config

/-- Why a configuration file gives no tree. -/
inductive ConfigFileFault where
  | unreadable (path : String) (fault : FileFault)
  | malformed (path : String)
  deriving DecidableEq, Repr

/-- The causes of the fault, the outermost first. -/
def ConfigFileFault.causes : ConfigFileFault → List String
  | unreadable path fault => ["Failed to read config file: " ++ path, fault.message]
  | malformed path => ["Failed to parse config YAML at: " ++ path]

/-- The tree in which nothing is set. -/
def emptyTree : Json.Value := .object []

/-- A document that holds nothing sets nothing. -/
def treeOfDocument : Json.Value → Json.Value
  | .null => emptyTree
  | tree => tree

/-- The tree of the configuration in a text. -/
def treeOfText? (text : String) : Option Json.Value :=
  if Text.trim text = "" then some emptyTree else (Yaml.read? text).map treeOfDocument

/-- Whether a fault says that there is no file under the path. -/
def isAbsence : FileFault → Bool
  | .missing | .notDirectory | .nameTooLong | .nulInName => true
  | _ => false

/-- The tree of the configuration in the file at a path, from what reading the file gave. -/
def treeOfFile (path : String) : Except FileFault String → Except ConfigFileFault Json.Value
  | .error fault => if isAbsence fault then .ok emptyTree else .error (.unreadable path fault)
  | .ok text => (treeOfText? text).elim (.error (.malformed path)) .ok

/-- Read the tree of the configuration in the file at a path. -/
def readTree {m : Type → Type} [Monad m] [Host m] (path : String) :
    m (Except ConfigFileFault Json.Value) := do
  pure (treeOfFile path (← Host.readText path))

end DeviceAdmission.Config
