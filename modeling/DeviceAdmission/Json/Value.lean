import DeviceAdmission.Number.Binary64

/-!
# JSON values

The values of JSON documents. A number is an integer, when it was written as one that fits in 64
bits, or a double. An object is a list of fields in the order in which they are written. In a sorted
value the fields are in the order of their keys, and a key that is given again replaces the value
before.
-/

namespace DeviceAdmission.Json

inductive Number where
  | integer (i : Int)
  | real (x : Binary64)
  deriving DecidableEq, Repr, Inhabited

inductive Value where
  | null
  | bool (b : Bool)
  | number (n : Number)
  | text (s : String)
  | list (items : List Value)
  | object (fields : List (String × Value))
  deriving Repr, Inhabited

/-- The fields of an object, in order. -/
abbrev Fields := List (String × Value)

/-- The value of the first field with the key. -/
def Fields.get? (fields : Fields) (key : String) : Option Value :=
  (fields.find? (·.1 = key)).map (·.2)

/-- Put a field where its key belongs in sorted fields, in place of a field of the same key. -/
def Fields.insertSorted (key : String) (value : Value) : Fields → Fields
  | [] => [(key, value)]
  | (k, v) :: rest =>
    if key < k then (key, value) :: (k, v) :: rest
    else if key = k then (key, value) :: rest
    else (k, v) :: insertSorted key value rest

/-- The fields sorted by key, the last of each key. -/
def Fields.sorted (fields : Fields) : Fields :=
  fields.foldl (fun sofar field => Fields.insertSorted field.1 field.2 sofar) []

mutual

/-- A value with the fields of all its objects sorted by key, the last of each key. -/
def Value.sorted : Value → Value
  | .list items => .list (sortedItems items)
  | .object fields => .object (Fields.sorted (sortedValues fields))
  | v => v

/-- Items, each of them sorted. -/
def sortedItems : List Value → List Value
  | [] => []
  | v :: rest => v.sorted :: sortedItems rest

/-- Fields in the same order, the value of each of them sorted. -/
def sortedValues : List (String × Value) → List (String × Value)
  | [] => []
  | (k, v) :: rest => (k, v.sorted) :: sortedValues rest

end

namespace Value

/-- The value of a field of an object; nothing for another value. -/
def get? (v : Value) (key : String) : Option Value :=
  match v with
  | .object fields => Fields.get? fields key
  | _ => none

def text? : Value → Option String
  | .text s => some s
  | _ => none

def bool? : Value → Option Bool
  | .bool b => some b
  | _ => none

def integer? : Value → Option Int
  | .number (.integer i) => some i
  | _ => none

def list? : Value → Option (List Value)
  | .list items => some items
  | _ => none

def fields? : Value → Option Fields
  | .object fields => some fields
  | _ => none

def isNull : Value → Bool
  | .null => true
  | _ => false

def natural (n : Nat) : Value :=
  .number (.integer n)

end Value

@[simp] theorem Fields.get?_nil (key : String) : Fields.get? [] key = none := rfl

/-- Putting a field gives its value under its key. -/
@[simp] theorem Fields.get?_insertSorted_self (key : String) (value : Value) (fields : Fields) :
    Fields.get? (Fields.insertSorted key value fields) key = some value := by
  induction fields with
  | nil => simp [Fields.insertSorted, Fields.get?]
  | cons field rest ih =>
    obtain ⟨k, v⟩ := field
    unfold Fields.insertSorted
    split
    · simp [Fields.get?]
    · split
      · simp [Fields.get?]
      · rename_i hne
        have hk : k ≠ key := fun h => hne h.symm
        simpa [Fields.get?, List.find?_cons, hk] using ih

end DeviceAdmission.Json
