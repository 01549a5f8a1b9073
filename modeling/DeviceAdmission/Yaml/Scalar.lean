import DeviceAdmission.Yaml.Spot

/-!
# Texts of scalars

A scalar is written plain, between quotes, or as a block of indented lines. White space inside a
plain or quoted scalar is folded: a single line break stands for a space, and of several the first
is dropped.
-/

namespace DeviceAdmission.Yaml

/-! ## Folding -/

/-- White space between two words of a scalar. -/
structure Gap where
  /-- The blanks, where no line break was seen. -/
  blanks : List Char
  isBroken : Bool
  /-- The first line break; none where it was escaped. -/
  first : Option Char
  /-- The line breaks after the first. -/
  others : List Char

namespace Gap

def none : Gap := ⟨[], false, .none, []⟩

/-- A gap after an escaped line break. -/
def escaped : Gap := ⟨[], true, .none, []⟩

/-- What a gap stands for. -/
def fold (g : Gap) : List Char :=
  if !g.isBroken then g.blanks
  else
    match g.first with
    | some '\n' => if g.others.isEmpty then [' '] else g.others
    | some c => c :: g.others
    | .none => g.others

/-- A gap with one more character. -/
def add (g : Gap) (c : Char) : Gap :=
  if isBlank c then
    if g.isBroken then g else { g with blanks := g.blanks ++ [c] }
  else if g.isBroken then { g with others := g.others ++ [c] }
  else ⟨[], true, some c, []⟩

/-- Read a gap. A tab in the indentation of a line, left of the column `least`, is refused. -/
def read (least : Nat) : Gap → Spots → Option (Gap × Spots)
  | g, [] => some (g, [])
  | g, s :: rest =>
    if !isSpace s.char then some (g, s :: rest)
    else if s.char = '\t' ∧ g.isBroken ∧ s.mark.column < least then .none
    else read least (g.add s.char) rest

end Gap

/-! ## Plain scalars -/

def flowMarks : List Char := [',', '[', ']', '\x7b', '\x7d']

/-- Read a word of a plain scalar. In a flow collection it ends at the collection's marks. -/
def plainWord (inFlow : Bool) : Spots → Option (List Char × Spots)
  | [] => some ([], [])
  | s :: rest =>
    if isSpace s.char then some ([], s :: rest)
    else if inFlow && s.char = ':' && Spots.oneOfAt rest 0 ('?' :: flowMarks) then none
    else if (s.char = ':' && Spots.spaceAt rest 0) || (inFlow && flowMarks.contains s.char) then
      some ([], s :: rest)
    else (plainWord inFlow rest).map fun (word, rest) => (s.char :: word, rest)

structure PlainScalar where
  text : List Char
  /-- Whether a line break stands behind the text. -/
  isBroken : Bool

/-- Read the words of a plain scalar after a gap. Outside of flow collections every line has to
begin at the column `least` or right of it. -/
def plainWords (inFlow : Bool) (least : Nat) : (fuel : Nat) → (text : List Char) → Gap → Spots →
    Option (PlainScalar × Spots)
  | 0, _, _, _ => none
  | fuel + 1, text, gap, s => do
    if s.isDocumentMark || s.head? = some '#' then return (⟨text, gap.isBroken⟩, s)
    let (word, s') ← plainWord inFlow s
    if word.isEmpty then return (⟨text, gap.isBroken⟩, s)
    let text := text ++ gap.fold ++ word
    if !(s'.head?.any isSpace) then return (⟨text, false⟩, s')
    let (gap, s'') ← Gap.read least .none s'
    if !inFlow && s''.column < least then return (⟨text, gap.isBroken⟩, s'')
    plainWords inFlow least fuel text gap s''

/-- Read a plain scalar. -/
def plainScalar (inFlow : Bool) (least : Nat) (s : Spots) : Option (PlainScalar × Spots) :=
  plainWords inFlow least (s.length + 1) [] .none s

/-! ## Quoted scalars -/

/-- The characters that a letter behind a backslash stands for. -/
def escapes : List (Char × Char) :=
  [('0', '\x00'), ('a', '\x07'), ('b', '\x08'), ('t', '\t'), ('\t', '\t'), ('n', '\n'),
    ('v', '\x0B'), ('f', '\x0C'), ('r', '\r'), ('e', '\x1B'), (' ', ' '), ('"', '"'), ('/', '/'),
    ('\\', '\\'), ('N', nextLine), ('_', '\u00A0'), ('L', lineSeparator),
    ('P', paragraphSeparator)]

/-- The number of digits of an escape that gives a code point. -/
def escapeDigits? (c : Char) : Option Nat :=
  if c = 'x' then some 2 else if c = 'u' then some 4 else if c = 'U' then some 8 else none

/-- The value of a hexadecimal digit. -/
def hexDigit? (c : Char) : Option Nat :=
  if '0' ≤ c ∧ c ≤ '9' then some (c.toNat - 48)
  else if 'A' ≤ c ∧ c ≤ 'F' then some (c.toNat - 55)
  else if 'a' ≤ c ∧ c ≤ 'f' then some (c.toNat - 87)
  else none

/-- The character of a code point. -/
def charOfCode? (n : Nat) : Option Char :=
  if h : n.isValidChar then some (Char.ofNatAux n h) else none

/-- Read what stands behind a backslash. -/
def readEscape? : Spots → Option (Char × Spots)
  | [] => none
  | s :: rest =>
    match escapes.find? (·.1 = s.char) with
    | some (_, c) => some (c, rest)
    | none => do
      let count ← escapeDigits? s.char
      let digits ← (rest.take count).mapM fun t => hexDigit? t.char
      if digits.length < count then none
      else
        let c ← charOfCode? (digits.foldl (fun n d => n * 16 + d) 0)
        pure (c, rest.drop count)

inductive Quote where
  | single
  | double
  deriving DecidableEq, Repr

def Quote.char : Quote → Char
  | single => '\''
  | double => '"'

/-- Read the characters of a quoted scalar up to white space, an escaped line break or the closing
quote. The result says whether it was an escaped line break. -/
def quotedWord (q : Quote) : (fuel : Nat) → Spots → Option (List Char × Bool × Spots)
  | 0, _ => none
  | _ + 1, [] => some ([], false, [])
  | fuel + 1, s :: rest =>
    if isSpace s.char then some ([], false, s :: rest)
    else if q = .single ∧ s.char = '\'' ∧ Spots.head? rest = some '\'' then
      (quotedWord q fuel (rest.drop 1)).map fun (word, r) => ('\'' :: word, r)
    else if s.char = q.char then some ([], false, s :: rest)
    else if q = .double ∧ s.char = '\\' then
      if (Spots.head? rest).any isBreak then some ([], true, rest.drop 1)
      else do
        let (c, rest) ← readEscape? rest
        let (word, r) ← quotedWord q fuel rest
        pure (c :: word, r)
    else (quotedWord q fuel rest).map fun (word, r) => (s.char :: word, r)

/-- Read the rest of a quoted scalar. -/
def quotedWords (q : Quote) : (fuel : Nat) → (text : List Char) → Spots → Option (List Char × Spots)
  | 0, _, _ => none
  | fuel + 1, text, s => do
    if s.isEmpty || s.isDocumentMark then none
    let (word, isEscaped, s) ← quotedWord q (s.length + 1) s
    let text := text ++ word
    if s.head? = some q.char then return (text, s.drop 1)
    let (gap, s) ← Gap.read 0 (if isEscaped then .escaped else .none) s
    quotedWords q fuel (text ++ gap.fold) s

/-- Read a quoted scalar behind its opening quote. -/
def quotedScalar (q : Quote) (s : Spots) : Option (List Char × Spots) :=
  quotedWords q (s.length + 1) [] s

/-! ## Block scalars -/

/-- What is kept of the line breaks at the end of a block scalar. -/
inductive Chomping where
  | strip
  | clip
  | keep
  deriving DecidableEq, Repr

/-- The header of a block scalar: what is kept at the end, and how far the block is indented if the
header says so. -/
structure BlockHeader where
  chomping : Chomping
  indentation : Option Nat
  deriving DecidableEq, Repr

def chomping? (c : Char) : Option Chomping :=
  if c = '+' then some .keep else if c = '-' then some .strip else none

/-- Read a digit that is not zero. -/
def indentation? (c : Char) : Option Nat :=
  if '1' ≤ c ∧ c ≤ '9' then some (c.toNat - 48) else none

/-- Read the indicators of a block scalar, in either order. -/
def blockIndicators (s : Spots) : Option (BlockHeader × Spots) :=
  let first := s.head?
  let second := Spots.head? (s.drop 1)
  if first = some '0' then none
  else
    match first.bind chomping?, first.bind indentation? with
    | some chomping, _ =>
      if second = some '0' then none
      else
        match second.bind indentation? with
        | some n => some (⟨chomping, some n⟩, s.drop 2)
        | none => some (⟨chomping, none⟩, s.drop 1)
    | none, some n =>
      match second.bind chomping? with
      | some chomping => some (⟨chomping, some n⟩, s.drop 2)
      | none => some (⟨.clip, some n⟩, s.drop 1)
    | none, none => some (⟨.clip, none⟩, s)

/-- The rest of a line on which only blanks and a comment may stand, and what follows the line. -/
def restOfLine? (s : Spots) : Option Spots :=
  let s := (s.span isBlank).2
  let s := if s.head? = some '#' then (s.span (!isBreak ·)).2 else s
  match s with
  | [] => some []
  | t :: rest => if isBreak t.char then some rest else none

/-- Pass over empty lines and the indentation of the next line, which ends left of the column
`indent` where that is known. The result is the line breaks and the greatest column at which a line
began. -/
def blockBreaks (indent : Option Nat) : (greatest : Nat) → Spots → Option (List Char × Nat × Spots)
  | greatest, [] => some ([], greatest, [])
  | greatest, s :: rest =>
    let isIndentation := indent.all (s.mark.column < ·)
    if isIndentation && s.char = ' ' then blockBreaks indent greatest rest
    else if isIndentation && s.char = '\t' then none
    else
      let greatest := max greatest s.mark.column
      if isBreak s.char then
        (blockBreaks indent greatest rest).map fun (breaks, r) => (s.char :: breaks, r)
      else some ([], greatest, s :: rest)

/-- The line break behind a line of a block scalar as it stands before the next line: a folded one
joins two lines that do not begin with a blank. -/
def joinLines (isFolded : Bool) (lineBreak : Option Char) (others : List Char) : List Char :=
  if isFolded && lineBreak = some '\n' then if others.isEmpty then [' '] else []
  else lineBreak.toList

/-- Read the lines of a block scalar. The result is the text without what ends it, the break of the
last line and the breaks after it. -/
def blockLines (isLiteral : Bool) (indent : Nat) : (fuel : Nat) → (text : List Char) →
    (lineBreak : Option Char) → (others : List Char) → (wasBlank : Bool) → Spots →
    Option ((List Char × Option Char × List Char) × Spots)
  | 0, _, _, _, _, _ => none
  | fuel + 1, text, lineBreak, others, wasBlank, s => do
    if s.isEmpty || s.column ≠ indent then return ((text, lineBreak, others), s)
    let isBlankLine := s.head?.any isBlank
    let joined := joinLines (!isLiteral && !wasBlank && !isBlankLine) lineBreak others
    let (line, s) := s.span (!isBreak ·)
    let text := text ++ joined ++ others ++ line
    let (others, _, s') ← blockBreaks (some indent) 0 (s.drop 1)
    blockLines isLiteral indent fuel text s.head? others isBlankLine s'

/-- Read a block scalar behind its first indicator. `parent` is the column of the collection that it
stands in, if it stands in one. -/
def blockScalar (isLiteral : Bool) (parent : Option Nat) (s : Spots) :
    Option (List Char × Spots) := do
  let (header, s) ← blockIndicators s
  let s ← restOfLine? s
  let given := header.indentation.map fun n => parent.getD 0 + n
  let (others, greatest, s) ← blockBreaks given 0 s
  let least := max 1 ((parent.map (· + 1)).getD 0)
  let indent := given.getD (max greatest least)
  let ((text, lineBreak, others), s) ←
    blockLines isLiteral indent (s.length + 1) [] none others false s
  let lineBreak := lineBreak.toList
  match header.chomping with
  | .strip => pure (text, s)
  | .clip => pure (text ++ lineBreak, s)
  | .keep => pure (text ++ lineBreak ++ others, s)

end DeviceAdmission.Yaml
