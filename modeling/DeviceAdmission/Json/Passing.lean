import DeviceAdmission.Json.NumberReader
import DeviceAdmission.Json.TextReader

/-!
# Passing over values

A value whose field nobody asked for is passed over. Its notation is checked, but its texts are not
decoded, its numbers have no range and its nesting has no limit.
-/

namespace DeviceAdmission.Json.Reader

/-- The containers that are open, the innermost first: whether each is an object. -/
abbrev OpenContainers := List Bool

/-- Pass a value that does not nest. The byte `b` is next. The result says whether one was passed;
a container is left in place. -/
def passScalar (b : UInt8) : Reader Bool := do
  if b = 110 then
    skip 1
    literal [117, 108, 108]
    pure true
  else if b = 116 then
    skip 1
    literal [114, 117, 101]
    pure true
  else if b = 102 then
    skip 1
    literal [97, 108, 115, 101]
    pure true
  else if b = 45 then
    skip 1
    passNumber
    pure true
  else if isDigit b then
    passNumber
    pure true
  else if b = 34 then
    skip 1
    passText
    pure true
  else if b = 91 ∨ b = 123 then pure false
  else failNext .valueExpected

/-- Pass a key and the colon behind it. -/
def passKey : Reader Unit := do
  match ← peekPastSpace with
  | some 34 => skip 1
  | some _ => failNext .keyExpected
  | none => failNext .objectEnds
  passText
  match ← peekPastSpace with
  | some 58 => skip 1
  | some _ => failNext .colonExpected
  | none => failNext .objectEnds

/-- The fault of a container that the document ends in. -/
def endProblem (isObject : Bool) : Problem :=
  if isObject then .objectEnds else .listEnds

/-- Pass closing brackets and at most one comma. `fresh` says that the innermost container has no
value yet. The result is the containers in which the next value stands. -/
def passEnds : (fuel : Nat) → (fresh : Bool) → OpenContainers → Reader OpenContainers
  | 0, _, _ => failNext .valueEnds
  | _ + 1, _, [] => pure []
  | fuel + 1, fresh, isObject :: outer => do
    match ← peekPastSpace with
    | none => failNext (endProblem isObject)
    | some b =>
      if b = 44 ∧ !fresh then
        skip 1
        pure (isObject :: outer)
      else if b = (if isObject then 125 else 93) then
        skip 1
        passEnds fuel false outer
      else if fresh then pure (isObject :: outer)
      else failNext (if isObject then .objectCommaExpected else .listCommaExpected)

/-- Pass values until every container is closed. -/
def passNested : (fuel : Nat) → OpenContainers → Reader Unit
  | 0, _ => failNext .valueEnds
  | fuel + 1, containers => do
    match ← peekPastSpace with
    | none => failNext .valueEnds
    | some b =>
      let (fresh, inside) ←
        if ← passScalar b then pure (false, containers)
        else
          skip 1
          pure (true, (b = 123 : Bool) :: containers)
      let inside ← passEnds fuel fresh inside
      match inside with
      | [] => pure ()
      | isObject :: _ =>
        if isObject then passKey
        passNested fuel inside

/-- Pass one value. -/
def passValue : Reader Unit := do
  passNested ((← get).rest.length + 1) []

end DeviceAdmission.Json.Reader
