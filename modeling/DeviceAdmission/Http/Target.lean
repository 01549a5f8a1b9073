import DeviceAdmission.Http.Percent
import DeviceAdmission.Text.Split

/-!
# Request targets

A target is a path and a query. It may name a scheme and a host in front, and a fragment behind, and
neither of them counts. A query is a list of names with values, in which a plus sign stands for a
space and bytes that are no text are shown as the replacement character.
-/

namespace DeviceAdmission.Http

structure Target where
  /-- Everything before the question mark, as it was sent. -/
  path : String
  /-- Everything behind the question mark. -/
  query : String
  deriving DecidableEq, Repr

namespace Target

def isSchemeChar (c : Char) : Bool :=
  c.isAlphanum || c = '+' || c = '-' || c = '.'

/-- What follows the scheme and the host of a target that names them. -/
def afterHost? (cs : List Char) : Option (List Char) :=
  match cs.dropWhile isSchemeChar with
  | ':' :: '/' :: '/' :: rest => some (rest.dropWhile fun c => c ≠ '/' && c ≠ '?' && c ≠ '#')
  | _ => none

/-- The path and query in front of a fragment. -/
def ofChars (cs : List Char) : Target :=
  let cs := ((afterHost? cs).getD cs).takeWhile (· ≠ '#')
  let path := cs.takeWhile (· ≠ '?')
  { path := if path.isEmpty then "/" else String.ofList path
    query := String.ofList ((cs.dropWhile (· ≠ '?')).drop 1) }

def ofText (s : String) : Target :=
  ofChars s.toList

/-- The parts of the path between its slashes. -/
def segments (t : Target) : List String :=
  (Text.splitAt '/' t.path.toList).map String.ofList

end Target

namespace Form

/-- A name or a value as it is meant. -/
def decode (bytes : Bytes) : String :=
  Utf8.decodeLossy (Percent.decode (bytes.map fun b => if b = 43 then 32 else b))

/-- The name and the value of a part, which are divided by the first equals sign. -/
def pair (bytes : Bytes) : String × String :=
  (decode (bytes.takeWhile (· ≠ 61)), decode ((bytes.dropWhile (· ≠ 61)).drop 1))

/-- The names and values of a query. Empty parts are passed over. -/
def pairs (query : String) : List (String × String) :=
  ((Text.splitAt 38 (Utf8.encode query)).filter (· ≠ [])).map pair

end Form

end DeviceAdmission.Http
