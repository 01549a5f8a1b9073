import DeviceAdmission.Json.Fault
import DeviceAdmission.Text.Utf8

/-!
# Reading with a place

A cursor is the part of a document that is still to be read, with its place. A reader takes a value
off the front or stops with a fault. Faults about the next byte are placed behind it, faults about
bytes already read where the cursor stands.
-/

namespace DeviceAdmission.Json

/-- The place after one more byte; a line ends with a line feed. -/
def Position.after (p : Position) (b : UInt8) : Position :=
  if b = 10 then ⟨p.line + 1, 0⟩ else ⟨p.line, p.column + 1⟩

/-- The place after more bytes. -/
def Position.afterAll (p : Position) (bytes : Bytes) : Position :=
  bytes.foldl Position.after p

structure Cursor where
  rest : Bytes
  position : Position
  deriving Repr

/-- The cursor at the beginning of a document. -/
def Cursor.start (bytes : Bytes) : Cursor :=
  ⟨bytes, ⟨1, 0⟩⟩

/-- The cursor `n` bytes further, or at the end. -/
def Cursor.skip (c : Cursor) (n : Nat) : Cursor :=
  ⟨c.rest.drop n, c.position.afterAll (c.rest.take n)⟩

/-- White space between the parts of a document. -/
def isSpace (b : UInt8) : Bool :=
  b = 32 || b = 10 || b = 9 || b = 13

/-- The cursor at the next byte that is not white space. -/
def Cursor.skipSpace (c : Cursor) : Cursor :=
  c.skip (c.rest.takeWhile isSpace).length

/-- A reader takes a value off the front of a document, or stops with a fault. It leaves the cursor
where it stopped in either case, so that reading can go on behind a part that made no sense. -/
abbrev Reader (α : Type) := ExceptT Fault (StateM Cursor) α

namespace Reader

/-- Stop with a fault placed where the cursor stands. -/
def failHere {α : Type} (problem : Problem) : Reader α :=
  fun c => (.error ⟨problem, some c.position⟩, c)

/-- Stop with a fault placed behind the next byte, which is left in place. -/
def failNext {α : Type} (problem : Problem) : Reader α :=
  fun c => (.error ⟨problem, some (c.skip 1).position⟩, c)

/-- Stop with a fault placed `before` bytes further, having passed `n` bytes. -/
def failPast {α : Type} (problem : Problem) (before n : Nat) : Reader α :=
  fun c => (.error ⟨problem, some (c.skip before).position⟩, c.skip n)

/-- The next byte, left in place. -/
def peek : Reader (Option UInt8) :=
  fun c => (.ok c.rest.head?, c)

/-- The next byte that is not white space, left in place. -/
def peekPastSpace : Reader (Option UInt8) :=
  fun c => (.ok c.skipSpace.rest.head?, c.skipSpace)

/-- Pass `n` bytes. -/
def skip (n : Nat) : Reader Unit :=
  fun c => (.ok (), c.skip n)

/-- The next byte, passed. -/
def next : Reader (Option UInt8) :=
  fun c => (.ok c.rest.head?, c.skip 1)

/-- Pass bytes while they satisfy `p`, and give them. -/
def takeWhile (p : UInt8 → Bool) : Reader Bytes :=
  fun c =>
    let taken := c.rest.takeWhile p
    (.ok taken, c.skip taken.length)

/-- Pass the letters of a literal whose first letter is past. -/
def literal : Bytes → Reader Unit
  | [] => pure ()
  | expected :: letters => do
    match ← next with
    | none => failHere .valueEnds
    | some b => if b = expected then literal letters else failHere .literalExpected

/-- What a reader comes to, with reading going on where it stopped. -/
def attempt {α : Type} (r : Reader α) : Reader (Except Fault α) :=
  fun c =>
    let (result, c) := r c
    (.ok result, c)

/-- Read what is inside a container and then its end. The end is looked for even where the inside
made no sense; the first fault counts. -/
def enclosed {α : Type} (inside : Reader α) (ending : Reader Unit) : Reader α := do
  let result ← attempt inside
  let closed ← attempt ending
  match result, closed with
  | .ok a, .ok () => pure a
  | .error fault, _ => throw fault
  | .ok _, .error fault => throw fault

/-- Read a whole document. -/
def run {α : Type} (r : Reader α) (bytes : Bytes) : Except Fault α :=
  match r (.start bytes) with
  | (.error f, _) => .error f
  | (.ok a, c) =>
    match c.skipSpace.rest with
    | [] => .ok a
    | _ :: _ => .error ⟨.moreText, some (c.skipSpace.skip 1).position⟩

end Reader

end DeviceAdmission.Json
