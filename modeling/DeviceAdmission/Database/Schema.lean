import DeviceAdmission.Database.Declaration
import DeviceAdmission.Database.Image
import DeviceAdmission.Database.TextForm

/-!
# Schemas

The first table of a database tells of all others, with the views and the indexes, by the statements
that made them. A table is found by its name, with its rows.
-/

namespace DeviceAdmission.Database

/-- What the first table of a database tells of: tables, views and indexes. -/
structure Object where
  kind : String
  /-- In lower case, as the name of its table. -/
  name : String
  table : String
  root : Nat
  statement : String
  deriving DecidableEq, Repr

namespace Object

/-- The text in a cell, if it is one. -/
def textOf? (form : TextForm) : Cell → Option String
  | .text bytes => form.read? bytes
  | _ => none

/-- The object of a row. -/
def ofRow? (form : TextForm) : List Cell → Option Object
  | kind :: name :: table :: .integer root :: rest => do
    let kind ← textOf? form kind
    let name ← textOf? form name
    let statement := (rest.head?.bind (textOf? form)).getD ""
    let table ← textOf? form table
    pure ⟨kind, Word.folded name, Word.folded table, root.toNat, statement⟩
  | _ => none

/-- Whether the tree of an object can be in an image. An index that has no statement of its own
always has a tree. -/
def isRootedIn (im : Image) (o : Object) : Bool :=
  o.root ≤ im.pageCount && (o.statement ≠ "" || 2 ≤ o.root)

/-- Whether rows can be asked of an object. -/
def isRelation (o : Object) : Bool :=
  o.kind = "table" || o.kind = "view"

end Object

/-- The objects of a database, with the text form of their rows and of all others. -/
structure Schema where
  image : Image
  form : TextForm
  objects : List Object
  deriving DecidableEq, Repr

namespace Schema

/-- The schema of a database file. -/
def ofContents (contents : Bytes) : Except Problem Schema :=
  let image := Image.ofContents contents
  let form := TextForm.ofHeader contents
  let (rows, complete) := image.table 1
  let objects := rows.filterMap (Object.ofRow? form)
  match objects.find? (!·.isRootedIn image) with
  | some o => .error (.rootMissing o.name)
  | none => if complete then .ok ⟨image, form, objects⟩ else .error .malformed

/-- The schema of a file that holds nothing. -/
def empty : Schema := ⟨⟨[], 4096, 0, 0⟩, .utf8, []⟩

def relation? (s : Schema) (name : String) : Option Object :=
  s.objects.find? fun o => o.isRelation && o.name = name

def hasIndex (s : Schema) (name : String) : Bool :=
  s.objects.any fun o => o.kind = "index" && o.name = name

end Schema

/-- A table that is there. -/
structure FoundTable where
  declaration : Declaration
  rows : List (List Cell)
  /-- Whether these are all rows. Otherwise some of their pages cannot be read. -/
  isComplete : Bool
  deriving DecidableEq, Repr

namespace FoundTable

/-- The table of an object. -/
def ofObject (s : Schema) (o : Object) : FoundTable :=
  let (rows, isComplete) := s.image.table o.root
  { declaration := .ofTable o.statement, rows, isComplete }

def has (t : FoundTable) (column : String) : Bool :=
  t.declaration.columns.contains column

/-- The cell of a row in a column. -/
def cell (t : FoundTable) (row : List Cell) (column : String) : Cell :=
  (row[t.declaration.columns.idxOf column]?).getD .null

end FoundTable

end DeviceAdmission.Database
