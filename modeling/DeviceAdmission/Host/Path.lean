import DeviceAdmission.Text.Split
import DeviceAdmission.Text.Utf8

/-!
# Paths

A path is a byte string: names with slashes between them, from the root if a slash comes first and
from the working directory otherwise. A place is what a path without detours leads to, as the names
from the root.
-/

namespace DeviceAdmission

/-- The names from the root to a file or a directory. -/
abbrev Place := List Bytes

namespace Path

/-- The byte between two names. -/
def slash : UInt8 := 47

/-- The name that stays where it is. -/
def here : Bytes := [46]

/-- The name that leads to the directory around. -/
def parent : Bytes := [46, 46]

def isAbsolute (path : Bytes) : Bool :=
  path.head? = some slash

/-- The names in a path as they stand. Two slashes in a row have an empty name between them. -/
def names (path : Bytes) : List Bytes :=
  Text.splitAt slash path

/-- The names with slashes between them are the path again. -/
theorem joinWith_names (path : Bytes) : Text.joinWith slash (names path) = path :=
  Text.joinWith_splitAt slash path

/-- Whether a name adds nothing to a path that goes on before or after it. -/
def isIdle (name : Bytes) : Bool :=
  name = [] || name = here

/-- The names that matter: all but the idle ones, save that a relative path may begin with the name
that stays where it is. -/
def steps (path : Bytes) : List Bytes :=
  (if (names path).head? = some here then [here] else []) ++ (names path).filter (!isIdle ·)

/-- A path along the names, from the root if it is absolute. -/
def ofSteps (absolute : Bool) (names : List Bytes) : Bytes :=
  (if absolute then [slash] else []) ++ Text.joinWith slash names

/-- The paths of the directories that a path leads through, the innermost first. -/
def enclosing (path : Bytes) : List Bytes :=
  let absolute := isAbsolute path
  let counts := (List.range (steps path).length).reverse
  (counts.map fun n => ofSteps absolute ((steps path).take n)).filter (· ≠ [])

end Path

namespace Place

/-- The path of a place. -/
def path (p : Place) : Bytes :=
  p.flatMap (Path.slash :: ·)

/-- A file beside the one at a place, with more letters in its name. -/
def withSuffix (p : Place) (suffix : Bytes) : Place :=
  p.dropLast ++ [p.getLastD [] ++ suffix]

end Place

end DeviceAdmission
