/-!
# Declarations of tables

What the statement that made a table or an index says of columns: their names in order, and which
columns identify a row together. Names count without regard to case.
-/

namespace DeviceAdmission.Database

/-- A piece of a statement. -/
inductive Word where
  | plain (text : String)
  /-- A name between quotes, which is never a keyword. -/
  | quoted (text : String)
  | mark (c : Char)
  deriving DecidableEq, Repr

namespace Word

/-- A name as it is compared: ASCII letters in lower case. -/
def folded (text : String) : String :=
  String.ofList (text.toList.map Char.toLower)

/-- The name that a piece stands for, if it can be one. -/
def name? : Word → Option String
  | plain text | quoted text => some (folded text)
  | mark _ => none

def isKeyword (w : Word) (keyword : String) : Bool :=
  match w with
  | plain text => folded text = keyword
  | _ => false

/-! ## Reading -/

/-- The quote that ends a name which begins with a quote. -/
def closing? : Char → Option Char
  | '"' => some '"'
  | '\'' => some '\''
  | '[' => some ']'
  | c => if c.val = 96 then some c else none

/-- The text up to a quote, and what follows it. A quote that is written twice belongs to the
text. -/
def quotedText (quote : Char) : List Char → List Char × List Char
  | [] => ([], [])
  | c :: rest =>
    if c = quote then
      match rest with
      | d :: rest' =>
        if d = quote then
          let (text, after) := quotedText quote rest'
          (c :: text, after)
        else ([], rest)
      | [] => ([], [])
    else
      let (text, after) := quotedText quote rest
      (c :: text, after)

/-- What follows a comment that ends with a star and a slash. -/
def afterComment : List Char → List Char
  | '*' :: '/' :: rest => rest
  | _ :: rest => afterComment rest
  | [] => []

/-- Whether a character only parts others. -/
def isSpace (c : Char) : Bool :=
  c = ' ' || c = '\n' || c = '\t' || c = '\r' || c = '\x0c'

/-- Whether a character can stand in a name without quotes. -/
def isNameChar (c : Char) : Bool :=
  c.isAlphanum || c = '_' || c = '$' || 128 ≤ c.val

/-- The pieces of a text, at most `most` steps long. -/
def ofCharsUpTo : (most : Nat) → List Char → List Word
  | _, [] => []
  | 0, _ :: _ => []
  | most + 1, c :: rest =>
    match closing? c with
    | some quote =>
      let (text, after) := quotedText quote rest
      quoted (String.ofList text) :: ofCharsUpTo most after
    | none =>
      if isSpace c then ofCharsUpTo most rest
      else if c = '-' ∧ rest.head? = some '-' then ofCharsUpTo most (rest.dropWhile (· ≠ '\n'))
      else if c = '/' ∧ rest.head? = some '*' then ofCharsUpTo most (afterComment (rest.drop 1))
      else if isNameChar c then
        plain (String.ofList (c :: rest.takeWhile isNameChar)) ::
          ofCharsUpTo most (rest.dropWhile isNameChar)
      else mark c :: ofCharsUpTo most rest

/-- The pieces of a statement. -/
def ofText (text : String) : List Word :=
  ofCharsUpTo text.length text.toList

/-! ## Lists in brackets -/

/-- The items of a list whose bracket has been opened, and what follows the list. Commas within
`depth` inner brackets part nothing. -/
def items : (depth : Nat) → (item : List Word) → List Word → List (List Word) × List Word
  | _, item, [] => ([item.reverse], [])
  | depth, item, w :: rest =>
    if w = mark '(' then items (depth + 1) (w :: item) rest
    else if w = mark ')' then
      match depth with
      | 0 => ([item.reverse], rest)
      | depth + 1 => items depth (w :: item) rest
    else if w = mark ',' ∧ depth = 0 then
      let (others, after) := items 0 [] rest
      (item.reverse :: others, after)
    else items depth (w :: item) rest

/-- The first list in brackets, and what follows it. -/
def bracketed (words : List Word) : List (List Word) × List Word :=
  items 0 [] ((words.dropWhile (· ≠ mark '(')).drop 1)

/-- The names that the items of the first list begin with. -/
def leadingNames (words : List Word) : List String :=
  (bracketed words).1.filterMap fun item => item.head?.bind name?

end Word

/-- What is said of a table. -/
structure Declaration where
  columns : List String
  /-- Groups of columns in which no two rows agree. -/
  identities : List (List String)
  deriving DecidableEq, Repr

namespace Declaration

/-- The words that a rule on the whole table begins with. -/
def ruleWords : List String := ["constraint", "primary", "unique", "check", "foreign"]

def isRule (item : List Word) : Bool :=
  item.head?.any fun w => ruleWords.any w.isKeyword

/-- A rule without its name. -/
def unnamed : List Word → List Word
  | w :: name :: rest => if w.isKeyword "constraint" then rest else w :: name :: rest
  | item => item

/-- The columns that a rule makes an identity, if it does. -/
def identity? (rule : List Word) : Option (List String) :=
  let rule := unnamed rule
  if rule.head?.any fun w => w.isKeyword "primary" || w.isKeyword "unique" then
    some (Word.leadingNames rule)
  else none

/-- Read the statement that made a table. -/
def ofTable (statement : String) : Declaration :=
  let items := (Word.bracketed (Word.ofText statement)).1
  { columns := (items.filter (!isRule ·)).filterMap fun item => item.head?.bind Word.name?
    identities := (items.filter isRule).filterMap identity? }

/-- The columns that the statement of an index makes an identity, if it does so for all rows. -/
def identityOfIndex? (statement : String) : Option (List String) :=
  let words := Word.ofText statement
  if (words[1]?).any (·.isKeyword "unique") && (Word.bracketed words).2.isEmpty then
    some (Word.leadingNames words)
  else none

end Declaration

end DeviceAdmission.Database
