/-!
# Characters with their places

A document is read as a list of characters, each with its line, column and index. Line breaks of all
kinds are one character here: the separators of lines and of paragraphs stay what they are, the
others become a line feed. A character that documents must not hold makes the whole document
unreadable.
-/

namespace DeviceAdmission.Yaml

/-- Where a character stands; all counted from zero. -/
structure Mark where
  line : Nat
  column : Nat
  index : Nat
  deriving DecidableEq, Repr

structure Spot where
  char : Char
  mark : Mark
  deriving DecidableEq, Repr

/-- The rest of a document. -/
abbrev Spots := List Spot

def lineSeparator : Char := '\u2028'

def paragraphSeparator : Char := '\u2029'

def nextLine : Char := '\u0085'

/-- The mark that may begin a line and counts as a blank there. -/
def byteOrderMark : Char := '\uFEFF'

/-- Whether documents may hold a character. -/
def isAllowed (c : Char) : Bool :=
  let n := c.toNat
  n = 9 || n = 10 || n = 13 || (0x20 ≤ n && n ≤ 0x7E) || n = 0x85 || (0xA0 ≤ n && n ≤ 0xD7FF) ||
    (0xE000 ≤ n && n ≤ 0xFFFD) || 0x10000 ≤ n

def isBreak (c : Char) : Bool :=
  c = '\n' || c = lineSeparator || c = paragraphSeparator

def isBlank (c : Char) : Bool :=
  c = ' ' || c = '\t'

/-- Whether a character is a blank or a break. -/
def isSpace (c : Char) : Bool :=
  isBlank c || isBreak c

/-- The characters of names. -/
def isWordChar (c : Char) : Bool :=
  c.isAlphanum || c = '_' || c = '-'

namespace Mark

def start : Mark := ⟨0, 0, 0⟩

/-- The mark behind a line break of some length. -/
def newLine (m : Mark) (length : Nat) : Mark :=
  ⟨m.line + 1, 0, m.index + length⟩

/-- The mark behind a character on the line. -/
def onLine (m : Mark) : Mark :=
  ⟨m.line, m.column + 1, m.index + 1⟩

end Mark

/-- Give places to the characters of a text that begins at a mark. -/
def place : Mark → List Char → Spots
  | _, [] => []
  | m, '\r' :: '\n' :: rest => ⟨'\n', m⟩ :: place (m.newLine 2) rest
  | m, c :: rest =>
    if c = '\r' ∨ c = nextLine then ⟨'\n', m⟩ :: place (m.newLine 1) rest
    else if isBreak c then ⟨c, m⟩ :: place (m.newLine 1) rest
    else ⟨c, m⟩ :: place m.onLine rest

/-- The spots of a document. -/
def spots? (cs : List Char) : Option Spots :=
  if cs.all isAllowed then some (place .start cs) else none

namespace Spots

def head? (s : Spots) : Option Char :=
  (List.head? s).map (·.char)

/-- The column of the first character. -/
def column (s : Spots) : Nat :=
  ((List.head? s).map (·.mark.column)).getD 0

/-- Whether a space or the end comes after `n` characters. -/
def spaceAt (s : Spots) (n : Nat) : Bool :=
  (s[n]?).all fun p => isSpace p.char

/-- Whether one of the characters comes after `n` others. -/
def oneOfAt (s : Spots) (n : Nat) (cs : List Char) : Bool :=
  (s[n]?).any fun p => cs.contains p.char

/-- The characters up to one that `p` refuses, and the rest. -/
def span (p : Char → Bool) (s : Spots) : List Char × Spots :=
  ((s.takeWhile fun t => p t.char).map (·.char), s.dropWhile fun t => p t.char)

/-- Whether a line begins with three of the character and a space. -/
def isRule (c : Char) (s : Spots) : Bool :=
  s.column = 0 && (s.take 3).map (·.char) = [c, c, c] && s.spaceAt 3

/-- Whether a line begins with the mark of a document's start or end. -/
def isDocumentMark (s : Spots) : Bool :=
  s.isRule '-' || s.isRule '.'

end Spots

end DeviceAdmission.Yaml
