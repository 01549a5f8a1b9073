import DeviceAdmission.Text.Utf8

/-!
# Tokens

The parts that a document is made of: marks of documents, brackets of flow collections, starts and
ends of block collections as the indentation gives them, indicators, node properties, and scalars.
-/

namespace DeviceAdmission.Yaml

/-- How a scalar is written. Only a plain one may stand for something else than its text. -/
inductive ScalarStyle where
  | plain
  | quoted
  deriving DecidableEq, Repr

/-- What a node is said to be. The bytes need not be those of a text, as escapes may stand for any
bytes. -/
abbrev Tag := Bytes

/-- The tag that is a mere exclamation mark. -/
def bareTag : Tag := Utf8.encode "!"

/-- A tag that all documents share. -/
def sharedTag (name : String) : Tag :=
  Utf8.encode ("tag:yaml.org,2002:" ++ name)

inductive Token where
  | version (major minor : Nat)
  | tagHandle (handle : String) (expansion : Tag)
  | documentStart
  | documentEnd
  | blockSequenceStart
  | blockMappingStart
  | blockEnd
  | flowSequenceStart
  | flowSequenceEnd
  | flowMappingStart
  | flowMappingEnd
  | blockEntry
  | flowEntry
  | key
  | value
  | aliasOf (name : String)
  | anchor (name : String)
  | tag (handle : String) (suffix : Tag)
  | scalar (text : String) (style : ScalarStyle)
  deriving DecidableEq, Repr

end DeviceAdmission.Yaml
