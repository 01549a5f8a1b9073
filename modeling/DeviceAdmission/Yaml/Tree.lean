import DeviceAdmission.Json.Value
import DeviceAdmission.Yaml.Lexer
import DeviceAdmission.Yaml.Node

/-!
# Documents as trees

A document is read as a tree of values. A plain scalar stands for nothing, a truth value, an integer
or a double if it is written like one, and for its text else; a tag may ask for one of these. Keys
are the texts of scalars. Collections may be nested 128 deep, and aliases may be followed a hundred
times as often as the document has parts.
-/

namespace DeviceAdmission.Yaml

open Json (Value Fields)

/-! ## Scalars -/

def isNullText (s : String) : Bool :=
  ["null", "Null", "NULL", "~"].contains s

def boolOfText? (s : String) : Option Bool :=
  if ["true", "True", "TRUE"].contains s then some true
  else if ["false", "False", "FALSE"].contains s then some false
  else none

/-- The value of a digit below the base. -/
def digitBelow? (base : Nat) (c : Char) : Option Nat :=
  (hexDigit? c).filter (· < base)

/-- The number of one or more digits in a base. -/
def digits? (base : Nat) (cs : List Char) : Option Nat :=
  if cs.isEmpty then none
  else (cs.mapM (digitBelow? base)).map (·.foldl (fun n d => n * base + d) 0)

/-- A text without its sign, and whether the sign is a minus. -/
def withoutSign : List Char → Bool × List Char
  | '+' :: cs => (false, cs)
  | '-' :: cs => (true, cs)
  | cs => (false, cs)

/-- Whether decimal digits, with or without a sign, begin with a zero and are more than that. -/
def hasLeadingZero (cs : List Char) : Bool :=
  let digits := (withoutSign cs).2
  1 < digits.length && digits.head? = some '0' && digits.all Char.isDigit

/-- The number of digits that say their base in front, or that are decimal. -/
def naturalOfDigits? : List Char → Option Nat
  | '0' :: 'x' :: cs => digits? 16 cs
  | '0' :: 'o' :: cs => digits? 8 cs
  | '0' :: 'b' :: cs => digits? 2 cs
  | cs => digits? 10 cs

/-- The integer that a text is written as. -/
def integerOfText? (s : String) : Option Int :=
  let cs := s.toList
  if hasLeadingZero cs then none
  else
    let (isNegative, digits) := withoutSign cs
    (naturalOfDigits? digits).map fun n => if isNegative then -(n : Int) else n

/-- The greatest integer that is not read as a double. -/
def greatestInteger : Int := 340282366920938463463374607431768211455

/-- The least integer that is not read as a double. -/
def leastInteger : Int := -170141183460469231731687303715884105728

/-- Whether a text is an infinity or no number, which trees have no value for. -/
def isNotFinite (s : String) : Bool :=
  [".inf", ".Inf", ".INF", "+.inf", "+.Inf", "+.INF", "-.inf", "-.Inf", "-.INF", ".nan", ".NaN",
    ".NAN"].contains s

/-- The digits of an exponent with its sign. -/
def exponent? (cs : List Char) : Option Int :=
  let (isNegative, digits) := withoutSign cs
  (Numeral.read? digits).map fun n => if isNegative then -(n : Int) else n

/-- The double that a text is written as: digits with or without a point and an exponent. -/
def doubleOfText? (s : String) : Option Binary64 := do
  let (isNegative, cs) := withoutSign s.toList
  let (whole, cs) := (cs.takeWhile Char.isDigit, cs.dropWhile Char.isDigit)
  let (fraction, cs) := match cs with
    | '.' :: cs => (cs.takeWhile Char.isDigit, cs.dropWhile Char.isDigit)
    | cs => ([], cs)
  let exponent ← match cs with
    | [] => some 0
    | e :: cs => if e = 'e' || e = 'E' then exponent? cs else none
  let digits ← Numeral.read? (whole ++ fraction)
  Binary64.ofDecimal? isNegative digits (exponent - fraction.length)

/-- The value of a plain scalar. An integer of more than 64 bits that would fit in 128 has none. -/
def plainValue? (s : String) : Option Value :=
  if s.isEmpty || isNullText s then some .null
  else
    match boolOfText? s, integerOfText? s with
    | some b, _ => some (.bool b)
    | none, some i =>
      if fitsWord i then some (.number (.integer i))
      else if leastInteger ≤ i ∧ i ≤ greatestInteger then none
      else some (((doubleOfText? s).map fun x => Value.number (.real x)).getD (.text s))
    | none, none =>
      if isNotFinite s then some .null
      else if hasLeadingZero s.toList then some (.text s)
      else some (((doubleOfText? s).map fun x => Value.number (.real x)).getD (.text s))

/-- What is behind the exclamation mark that a tag of the document's own begins with. -/
def Tag.own? : Tag → Option Bytes
  | 33 :: name => some name
  | _ => none

/-- Whether a tag names a type of the document's own, of which no value can be made. A name whose
bytes are those of no text names nothing. -/
def namesOwnType (tag : Option Tag) : Bool :=
  ((tag.bind Tag.own?).bind Utf8.decode?).isSome

/-- The value of a scalar whose tag asks for an integer. -/
def taggedInteger? (s : String) : Option Value := do
  let i ← integerOfText? s
  if fitsWord i then some (.number (.integer i)) else none

/-- The value of a scalar whose tag asks for a double. -/
def taggedDouble? (s : String) : Option Value :=
  if isNotFinite s then some .null
  else (doubleOfText? s).map fun x => .number (.real x)

/-- The value of a scalar that no tag says anything about. -/
def untaggedValue? (text : String) : ScalarStyle → Option Value
  | .plain => plainValue? text
  | .quoted => some (.text text)

/-- The value of a scalar. -/
def Scalar.value? (s : Scalar) : Option Value :=
  if namesOwnType s.tag then none
  else
    match s.tag with
    | none => untaggedValue? s.text s.style
    | some tag =>
      if tag.own?.isSome then untaggedValue? s.text s.style
      else if tag = sharedTag "bool" then (boolOfText? s.text).map Value.bool
      else if tag = sharedTag "int" then taggedInteger? s.text
      else if tag = sharedTag "float" then taggedDouble? s.text
      else if tag = sharedTag "null" then if isNullText s.text then some .null else none
      else some (.text s.text)

/-! ## Trees -/

/-- A step of making a tree, with the number of aliases followed so far. -/
abbrev TreeReader := StateT Nat Option

namespace Document

/-- The greatest depth of nested collections. -/
def maxDepth : Nat := 128

/-- How often aliases may be followed. -/
def maxFollowed (d : Document) : Nat :=
  d.node.size * 100

/-- The node itself that a node stands for. -/
def follow (d : Document) (n : Node) : TreeReader Node := do
  match n with
  | .aliasOf number =>
    let followed := (← get) + 1
    if d.maxFollowed < followed then failure
    set followed
    liftM (d.anchors.node? number)
  | n => pure n

/-- The key that a node stands for. -/
def key (d : Document) (n : Node) : TreeReader String := do
  match ← d.follow n with
  | .scalar s => pure s.text
  | _ => failure

/-- The value of a node, with collections nested in it up to a depth. -/
def value (d : Document) : (depth : Nat) → Node → TreeReader Value
  | 0, n => do
    match ← d.follow n with
    | .scalar s => liftM s.value?
    | _ => failure
  | depth + 1, n => do
    match ← d.follow n with
    | .scalar s => liftM s.value?
    | .sequence tag items =>
      if namesOwnType tag then failure
      return .list (← items.mapM (value d depth))
    | .mapping tag pairs =>
      if namesOwnType tag then failure
      let fields ← pairs.mapM fun (k, v) => do pure (← d.key k, ← value d depth v)
      return .object (Fields.sorted fields)
    | .aliasOf _ => failure

/-- The tree of a document. -/
def tree? (d : Document) : Option Value :=
  ((d.value maxDepth d.node).run 0).map (·.1)

end Document

/-- Read the one document of a text as a tree. -/
def read? (s : String) : Option Value := do
  let tokens ← tokens? s.toList
  let document ← Document.ofTokens? tokens
  document.tree?

end DeviceAdmission.Yaml
