import DeviceAdmission.Number.Shortest
import DeviceAdmission.Text.Quoted

/-!
# Faults of JSON documents

What can be wrong with a document, either in its notation or in the shape that a reader of a certain
type expects, and the message that says so. A fault of notation always has a place; a fault of shape
has one when the value was read from text.
-/

namespace DeviceAdmission.Json

/-- A place in a text: the line, counted from one, and the bytes read on it. -/
structure Position where
  line : Nat
  column : Nat
  deriving DecidableEq, Repr

/-- What stood where a value of another type was expected. -/
inductive Found where
  | null
  | bool (b : Bool)
  | integer (i : Int)
  | real (x : Binary64)
  | text (s : String)
  | list
  | object
  deriving DecidableEq, Repr

inductive Problem where
  | valueEnds
  | textEnds
  | listEnds
  | objectEnds
  | valueExpected
  | literalExpected
  | colonExpected
  | listCommaExpected
  | objectCommaExpected
  | keyExpected
  | commaAtEnd
  | moreText
  | numberMalformed
  | numberTooLarge
  | escapeUnknown
  | controlCharacter
  | bytesUnreadable
  | surrogateLone
  | surrogateUnfinished
  | nestingTooDeep
  | wrongType (found : Found) (expected : String)
  | wrongValue (found : Found) (expected : String)
  | wrongLength (length : Nat) (expected : String)
  | unknownVariant (name : String) (known : List String)
  | fieldMissing (name : String)
  | fieldRepeated (name : String)
  deriving DecidableEq, Repr

structure Fault where
  problem : Problem
  position : Option Position
  deriving DecidableEq, Repr

def Found.message : Found → String
  | .null => "null"
  | .bool true => "boolean `true`"
  | .bool false => "boolean `false`"
  | .integer i => "integer `" ++ String.ofList (Numeral.writeInt i) ++ "`"
  | .real x => "floating point `" ++ String.ofList x.write ++ "`"
  | .text s => "string " ++ Text.quoted s
  | .list => "sequence"
  | .object => "map"

/-- The known names, as they are listed in a message. -/
def knownNames : List String → String
  | [] => "there are no variants"
  | [a] => "expected `" ++ a ++ "`"
  | [a, b] => "expected `" ++ a ++ "` or `" ++ b ++ "`"
  | names => "expected one of " ++ ", ".intercalate (names.map fun n => "`" ++ n ++ "`")

def Problem.message : Problem → String
  | .valueEnds => "EOF while parsing a value"
  | .textEnds => "EOF while parsing a string"
  | .listEnds => "EOF while parsing a list"
  | .objectEnds => "EOF while parsing an object"
  | .valueExpected => "expected value"
  | .literalExpected => "expected ident"
  | .colonExpected => "expected `:`"
  | .listCommaExpected => "expected `,` or `]`"
  | .objectCommaExpected => "expected `,` or `\x7d`"
  | .keyExpected => "key must be a string"
  | .commaAtEnd => "trailing comma"
  | .moreText => "trailing characters"
  | .numberMalformed => "invalid number"
  | .numberTooLarge => "number out of range"
  | .escapeUnknown => "invalid escape"
  | .controlCharacter => "control character (\\u0000-\\u001F) found while parsing a string"
  | .bytesUnreadable => "invalid unicode code point"
  | .surrogateLone => "lone leading surrogate in hex escape"
  | .surrogateUnfinished => "unexpected end of hex escape"
  | .nestingTooDeep => "recursion limit exceeded"
  | .wrongType found expected => "invalid type: " ++ found.message ++ ", expected " ++ expected
  | .wrongValue found expected => "invalid value: " ++ found.message ++ ", expected " ++ expected
  | .wrongLength n expected =>
    "invalid length " ++ String.ofList (Numeral.write n) ++ ", expected " ++ expected
  | .unknownVariant name known => "unknown variant `" ++ name ++ "`, " ++ knownNames known
  | .fieldMissing name => "missing field `" ++ name ++ "`"
  | .fieldRepeated name => "duplicate field `" ++ name ++ "`"

def Position.message (p : Position) : String :=
  " at line " ++ String.ofList (Numeral.write p.line) ++
    " column " ++ String.ofList (Numeral.write p.column)

def Fault.message (f : Fault) : String :=
  f.problem.message ++ (f.position.map Position.message).getD ""

/-- A fault of shape in a value that was not read from text. -/
def Fault.unplaced (problem : Problem) : Fault :=
  ⟨problem, none⟩

end DeviceAdmission.Json
