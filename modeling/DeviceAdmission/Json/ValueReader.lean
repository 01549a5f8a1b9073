import DeviceAdmission.Json.Passing

/-!
# Reading values

A value as it is written, with every field of its objects, and a document as a tree, whose objects
are sorted by key and in which the last value of a repeated key counts. Containers nest at most
`nestingLimit` deep.
-/

namespace DeviceAdmission.Json

/-- Containers inside containers are read up to this depth. -/
def nestingLimit : Nat := 127

namespace Reader

/-- What follows a list item: whether another item comes. -/
def moreItems (first : Bool) : Reader Bool := do
  match ← peekPastSpace with
  | none => failNext .listEnds
  | some b =>
    if b = 93 then pure false
    else if first then pure true
    else if b = 44 then
      skip 1
      match ← peekPastSpace with
      | some 93 => failNext .commaAtEnd
      | some _ => pure true
      | none => failNext .valueEnds
    else failNext .listCommaExpected

/-- What follows a field: whether another key comes, whose quote is then next. -/
def moreFields (first : Bool) : Reader Bool := do
  let found ← match ← peekPastSpace with
    | none => failNext .objectEnds
    | some b =>
      if b = 125 then pure (some 125)
      else if first then pure (some b)
      else if b = 44 then
        skip 1
        match ← peekPastSpace with
        | some 125 => failNext .commaAtEnd
        | b => pure b
      else failNext .objectCommaExpected
  match found with
  | some 125 => pure false
  | some 34 => pure true
  | some _ => failNext .keyExpected
  | none => failNext .valueEnds

/-- Pass the colon behind a key. -/
def colon : Reader Unit := do
  match ← peekPastSpace with
  | some 58 => skip 1
  | some _ => failNext .colonExpected
  | none => failNext .objectEnds

/-- The closing bracket of a list. -/
def listEnd : Reader Unit := do
  match ← peekPastSpace with
  | some 93 => skip 1
  | some 44 =>
    skip 1
    match ← peekPastSpace with
    | some 93 => failNext .commaAtEnd
    | _ => failNext .moreText
  | some _ => failNext .moreText
  | none => failNext .listEnds

/-- The closing bracket of an object. -/
def objectEnd : Reader Unit := do
  match ← peekPastSpace with
  | some 125 => skip 1
  | some 44 => failNext .commaAtEnd
  | some _ => failNext .moreText
  | none => failNext .objectEnds

/-- The items of a list up to its closing bracket, each read by `item`. -/
def itemsWith {α : Type} (item : Reader α) : (fuel : Nat) → (first : Bool) → Reader (List α)
  | 0, _ => failNext .listEnds
  | fuel + 1, first => do
    if ← moreItems first then
      let value ← item
      let rest ← itemsWith item fuel false
      pure (value :: rest)
    else pure []

/-- The fields of an object up to its closing bracket, each value read by `item`. -/
def fieldsWith {α : Type} (item : Reader α) : (fuel : Nat) → (first : Bool) →
    Reader (List (String × α))
  | 0, _ => failNext .objectEnds
  | fuel + 1, first => do
    if ← moreFields first then
      skip 1
      let key ← textContent
      colon
      let value ← item
      let rest ← fieldsWith item fuel false
      pure ((key, value) :: rest)
    else pure []

/-- A list whose opening bracket is next, each item read by `item`. -/
def listWith {α : Type} (item : Reader α) : Reader (List α) := do
  skip 1
  enclosed (itemsWith item ((← get).rest.length + 1) true) listEnd

/-- An object whose opening bracket is next, each value read by `item`. -/
def objectWith {α : Type} (item : Reader α) : Reader (List (String × α)) := do
  skip 1
  enclosed (fieldsWith item ((← get).rest.length + 1) true) objectEnd

/-- Read a value that does not nest, whose first byte `b` is next. A container is left in place. -/
def scalar (b : UInt8) : Reader (Option Value) := do
  if b = 110 then
    skip 1
    literal [117, 108, 108]
    pure (some .null)
  else if b = 116 then
    skip 1
    literal [114, 117, 101]
    pure (some (.bool true))
  else if b = 102 then
    skip 1
    literal [97, 108, 115, 101]
    pure (some (.bool false))
  else if b = 45 then
    skip 1
    return some (.number (← number true))
  else if isDigit b then
    return some (.number (← number false))
  else if b = 34 then
    skip 1
    return some (.text (← textContent))
  else if b = 91 ∨ b = 123 then pure none
  else failNext .valueExpected

/-- The first byte of a value, left in place. -/
def valueStart : Reader UInt8 := do
  match ← peekPastSpace with
  | some b => pure b
  | none => failNext .valueEnds

/-- Read a value as it is written, whose containers nest at most `depth` deep. -/
def value : (depth : Nat) → Reader Value
  | 0 => do
    match ← scalar (← valueStart) with
    | some v => pure v
    | none => failNext .nestingTooDeep
  | depth + 1 => do
    let b ← valueStart
    match ← scalar b with
    | some v => pure v
    | none =>
      if b = 91 then return .list (← listWith (value depth))
      else return .object (← objectWith (value depth))

end Reader

/-- The tree of a document. -/
def Value.read (bytes : Bytes) : Except Fault Value :=
  (Reader.run (Reader.value nestingLimit) bytes).map Value.sorted

end DeviceAdmission.Json
