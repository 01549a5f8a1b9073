import DeviceAdmission.Json.Fault
import DeviceAdmission.Json.Value

/-!
# Shapes of values

A shape reads a value that is in memory as something of a certain type, or says how the value
differs from what was expected. A record is read from an object, whose unknown fields are passed
over, or from a list of its fields in their order; fields that are missing keep what the blank
record holds.
-/

namespace DeviceAdmission.Json

/-- A reader of values as an `α`. -/
abbrev Shape (α : Type) := Value → Except Problem α

/-- What a value is, where another type was expected. -/
def Value.found : Value → Found
  | .null => .null
  | .bool b => .bool b
  | .number (.integer i) => .integer i
  | .number (.real x) => .real x
  | .text s => .text s
  | .list _ => .list
  | .object _ => .object

namespace Shape

/-- The problem that a value has not the type that `expected` names. -/
def otherType {α : Type} (expected : String) (v : Value) : Except Problem α :=
  .error (.wrongType v.found expected)

def text : Shape String
  | .text s => .ok s
  | v => otherType "a string" v

def bool : Shape Bool
  | .bool b => .ok b
  | v => otherType "a boolean" v

/-- An integer from `low` to `high`. The type is named in messages. -/
def integer (name : String) (low high : Int) : Shape Int
  | .number (.integer i) =>
    if low ≤ i ∧ i ≤ high then .ok i else .error (.wrongValue (.integer i) name)
  | v => otherType name v

/-- A natural number up to `high`. -/
def natural (name : String) (high : Nat) : Shape Nat :=
  fun v => (integer name 0 high v).map Int.toNat

/-- Nothing for a null, and else a value of the shape. -/
def optional {α : Type} (shape : Shape α) : Shape (Option α)
  | .null => .ok none
  | v => (shape v).map some

/-- The alternative that a name stands for. -/
def alternative {α : Type} (known : List (String × α)) (name : String) : Except Problem α :=
  match known.find? (·.1 = name) with
  | some (_, a) => .ok a
  | none => .error (.unknownVariant name (known.map (·.1)))

/-- One of the named alternatives: its name, or an object with the name as its only key and nothing
under it. -/
def choice {α : Type} (known : List (String × α)) : Shape α
  | .text name => alternative known name
  | .object [(name, v)] => do
    let a ← alternative known name
    if v.isNull then .ok a else otherType "unit" v
  | .object _ => .error (.wrongValue .object "map with a single key")
  | v => otherType "string or map" v

end Shape

/-- A field of a record that is being collected in a `σ`. -/
structure ShapeField (σ : Type) where
  key : String
  read : σ → Shape σ

structure ShapeRecord (σ : Type) where
  /-- How messages name the record. -/
  name : String
  blank : σ
  fields : List (ShapeField σ)

namespace ShapeRecord

variable {σ : Type}

/-- Read a field of an object. -/
def readField (r : ShapeRecord σ) (sofar : σ) (field : String × Value) : Except Problem σ :=
  match r.fields.find? (·.key = field.1) with
  | some f => f.read sofar field.2
  | none => .ok sofar

/-- Read the fields in their order from the items of a list. -/
def readItems : List (ShapeField σ) → List Value → σ → Except Problem σ
  | f :: fields, v :: items, sofar => do readItems fields items (← f.read sofar v)
  | _, _, sofar => .ok sofar

/-- The shape of a record. -/
def shape (r : ShapeRecord σ) : Shape σ
  | .object fields => fields.foldlM r.readField r.blank
  | .list items => do
    let read ← readItems r.fields items r.blank
    if items.length ≤ r.fields.length then .ok read
    else .error (.wrongLength items.length "fewer elements in array")
  | v => Shape.otherType r.name v

end ShapeRecord

end DeviceAdmission.Json
