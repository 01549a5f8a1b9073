import DeviceAdmission.Json.Writer

/-!
# HTTP messages

Requests as they arrive and responses as they leave. The body of a response keeps its structure
until it is written.
-/

namespace DeviceAdmission.Http

structure Request where
  method : String
  /-- Path and query as they were sent. -/
  target : String
  headers : List (String × Bytes)
  body : Bytes
  deriving Repr

inductive Body where
  | empty
  | text (s : String)
  | json (v : Json.Value)
  deriving Repr

structure Response where
  status : Nat
  /-- Names in small letters. -/
  headers : List (String × String)
  body : Body
  deriving Repr

/-- The bytes of a body. -/
def Body.bytes : Body → Bytes
  | empty => []
  | text s => Utf8.encode s
  | json v => v.write

/-- A letter in its small form. -/
def lowerChar (c : Char) : Char :=
  if 'A' ≤ c ∧ c ≤ 'Z' then Char.ofNat (c.toNat + 32) else c

/-- Header names are compared in small letters. -/
def lowerName (s : String) : String :=
  String.ofList (s.toList.map lowerChar)

/-- The first header of a name. -/
def Request.header? (r : Request) (name : String) : Option Bytes :=
  (r.headers.find? fun h => lowerName h.1 = lowerName name).map (·.2)

/-- The value of a header as text, if it is made of visible ASCII characters, spaces and tabs. -/
def headerText? (value : Bytes) : Option String :=
  if value.all fun b => b = 9 || (32 ≤ b && b < 127) then
    some (String.ofList (value.map fun b => Char.ofNat b.toNat))
  else none

/-- A response without a body. -/
def Response.bare (status : Nat) : Response :=
  ⟨status, [], .empty⟩

/-- A response with a document. -/
def Response.ofJson (status : Nat) (v : Json.Value) : Response :=
  ⟨status, [("content-type", "application/json")], .json v⟩

/-- A response with plain text. -/
def Response.ofText (status : Nat) (s : String) : Response :=
  ⟨status, [("content-type", "text/plain; charset=utf-8")], .text s⟩

/-- The response with the length of its body. -/
def Response.sized (r : Response) : Response :=
  { r with headers := r.headers ++ [("content-length", toString r.body.bytes.length)] }

end DeviceAdmission.Http
