import DeviceAdmission.Json.ValueReader

/-!
# Reading records

A record is read from an object, whose unknown fields are passed over, or from a list of its fields
in their order. A field that an object repeats, or that is missing though required, is a fault; so
is a list that is too short for the required fields or longer than all of them.
-/

namespace DeviceAdmission.Json

namespace Reader

/-- Stop because a value of another type was expected. A scalar is read first, so that its own
faults come before; a container is left in place. -/
def wrongType {α : Type} (expected : String) : Reader α := do
  let b ← valueStart
  match ← scalar b with
  | some .null => failHere (.wrongType .null expected)
  | some (.bool b) => failHere (.wrongType (.bool b) expected)
  | some (.number (.integer i)) => failHere (.wrongType (.integer i) expected)
  | some (.number (.real x)) => failHere (.wrongType (.real x) expected)
  | some (.text s) => failHere (.wrongType (.text s) expected)
  | some (.list _) => failHere (.wrongType .list expected)
  | some (.object _) => failHere (.wrongType .object expected)
  | none => failHere (.wrongType (if b = 91 then .list else .object) expected)

/-- How messages name a text. -/
def textName : String := "a string"

/-- Read a text. -/
def text : Reader String := do
  if (← valueStart) = 34 then
    skip 1
    textContent
  else wrongType textName

/-- Read a value by `r`, or a null as nothing. -/
def optional {α : Type} (r : Reader α) : Reader (Option α) := do
  match ← peekPastSpace with
  | some 110 =>
    skip 1
    literal [117, 108, 108]
    pure none
  | _ => return some (← r)

end Reader

/-- A field of a record that is being collected in a `σ`. -/
structure Field (σ : Type) where
  key : String
  isSet : σ → Bool
  read : σ → Reader σ
  /-- Whether an object without the field is refused. -/
  required : Bool
  /-- Whether a list that ends before the field is refused. -/
  requiredInList : Bool

structure Record (σ : Type) where
  /-- How messages name the record. -/
  name : String
  blank : σ
  fields : List (Field σ)

namespace Record

variable {σ : Type}

/-- How messages name the list form of the record. -/
def listName (r : Record σ) : String :=
  r.name ++ " with " ++ String.ofList (Numeral.write r.fields.length) ++
    (if r.fields.length = 1 then " element" else " elements")

/-- Read the fields of an object whose opening bracket is past. -/
def readFields (r : Record σ) : (fuel : Nat) → (first : Bool) → σ → Reader σ
  | 0, _, _ => Reader.failNext .objectEnds
  | fuel + 1, first, sofar => do
    if ← Reader.moreFields first then
      Reader.skip 1
      let key ← Reader.textContent
      match r.fields.find? (·.key = key) with
      | none =>
        Reader.colon
        Reader.passValue
        readFields r fuel false sofar
      | some field =>
        if field.isSet sofar then
          if (← Reader.peekPastSpace) = some 125 then Reader.skip 1
          Reader.failHere (.fieldRepeated key)
        else
          Reader.colon
          readFields r fuel false (← field.read sofar)
    else
      Reader.skip 1
      match r.fields.find? fun f => f.required && !f.isSet sofar with
      | some field => Reader.failHere (.fieldMissing field.key)
      | none => pure sofar

/-- Read fields from a list whose opening bracket is past. -/
def readItems (r : Record σ) : (index : Nat) → List (Field σ) → σ → Reader σ
  | _, [], sofar => do
    Reader.listEnd
    pure sofar
  | index, field :: fields, sofar => do
    if ← Reader.moreItems (index = 0) then
      readItems r (index + 1) fields (← field.read sofar)
    else if field.requiredInList then
      Reader.skip 1
      Reader.failHere (.wrongLength index r.listName)
    else readItems r (index + 1) fields sofar

/-- Read a record. -/
def read (r : Record σ) : Reader σ := do
  let b ← Reader.valueStart
  if b = 91 then
    Reader.skip 1
    r.readItems 0 r.fields r.blank
  else if b = 123 then
    Reader.skip 1
    r.readFields ((← get).rest.length + 1) true r.blank
  else Reader.wrongType r.name

end Record

end DeviceAdmission.Json
