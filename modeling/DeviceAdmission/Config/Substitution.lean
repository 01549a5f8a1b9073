import DeviceAdmission.Config.Reference
import DeviceAdmission.Text.Numeral

/-!
# Substitution in trees

References are resolved in every text of a tree, at whatever depth; keys are left alone. A missing
variable is reported with the place of the text that mentions it.
-/

namespace DeviceAdmission

/-- A step from a value to one inside it. -/
inductive TreeStep where
  | field (key : String)
  | item (index : Nat)
  deriving DecidableEq, Repr

namespace TreeStep

/-- The text of a place, and one step more. -/
def extend (place : String) : TreeStep → String
  | field key => if place.isEmpty then key else place ++ "." ++ key
  | item index => place ++ "[" ++ String.ofList (Numeral.write index) ++ "]"

/-- The text of a place that steps lead to, the first step first. -/
def write (steps : List TreeStep) : String :=
  steps.foldl extend ""

end TreeStep

/-- A variable that a tree refers to and that is not set, or is empty. -/
structure UnsetVariable where
  name : String
  /-- The steps to the text that refers to it, the last step first. -/
  steps : List TreeStep
  deriving DecidableEq, Repr

namespace UnsetVariable

/-- The place of the text that refers to the variable. -/
def place (u : UnsetVariable) : String :=
  TreeStep.write u.steps.reverse

def message (u : UnsetVariable) : String :=
  u.place ++ ": environment variable " ++ u.name ++ " is not set"

end UnsetVariable

namespace Substitution

open Json (Value)

mutual

/-- A tree with its references resolved, at the place that `steps` leads to. -/
def resolveAt (env : Environment) (steps : List TreeStep) : Value → Except UnsetVariable Value
  | .null => .ok .null
  | .bool b => .ok (.bool b)
  | .number n => .ok (.number n)
  | .text s => ((Reference.expand env s).mapError (⟨·, steps⟩)).map .text
  | .list items => (resolveItems env steps 0 items).map .list
  | .object fields => (resolveFields env steps fields).map .object

/-- The items of a list from `index` on. -/
def resolveItems (env : Environment) (steps : List TreeStep) :
    (index : Nat) → List Value → Except UnsetVariable (List Value)
  | _, [] => .ok []
  | index, v :: rest => do
    let v ← resolveAt env (.item index :: steps) v
    let rest ← resolveItems env steps (index + 1) rest
    pure (v :: rest)

/-- The fields of an object. -/
def resolveFields (env : Environment) (steps : List TreeStep) :
    List (String × Value) → Except UnsetVariable (List (String × Value))
  | [] => .ok []
  | (key, v) :: rest => do
    let v ← resolveAt env (.field key :: steps) v
    let rest ← resolveFields env steps rest
    pure ((key, v) :: rest)

end

/-- A tree with its references resolved. -/
def resolve (env : Environment) (v : Value) : Except UnsetVariable Value :=
  resolveAt env [] v

mutual

/-- The names that a tree mentions, in their order. -/
def mentions : Value → List String
  | .null => []
  | .bool _ => []
  | .number _ => []
  | .text s => Reference.names s
  | .list items => mentionsOfItems items
  | .object fields => mentionsOfFields fields

def mentionsOfItems : List Value → List String
  | [] => []
  | v :: rest => mentions v ++ mentionsOfItems rest

def mentionsOfFields : List (String × Value) → List String
  | [] => []
  | (_, v) :: rest => mentions v ++ mentionsOfFields rest

end

/-- Put a name where it belongs in sorted names, unless it is there. -/
def insertName (name : String) : List String → List String
  | [] => [name]
  | n :: rest =>
    if name < n then name :: n :: rest
    else if name = n then n :: rest
    else n :: insertName name rest

/-- The names that a tree mentions, sorted and each of them once. -/
def mentioned (v : Value) : List String :=
  (mentions v).foldl (fun sofar name => insertName name sofar) []

end Substitution

end DeviceAdmission
