import DeviceAdmission.Yaml.Property

/-!
# Tokens of a document

Tokens are read one after another. Indentation opens and closes block collections: a line that
begins right of the current column opens one and a line left of it closes those that it leaves. What
may turn out to be a key is remembered until its colon is found, and the token of the key is then
put before it. Such a key ends on its line and is not longer than 1024 characters.
-/

namespace DeviceAdmission.Yaml

/-- A place where a key may have begun. -/
structure PossibleKey where
  /-- Whether what begins here must be a key. -/
  isRequired : Bool
  /-- The number of tokens before it. -/
  position : Nat
  mark : Mark

structure Lexer where
  rest : Spots
  /-- The tokens so far, the last first. -/
  tokens : List Token
  /-- A possible key of the innermost flow collection, and of those around it. -/
  key : Option PossibleKey
  outerKeys : List (Option PossibleKey)
  /-- Whether a key may begin here. -/
  keyAllowed : Bool
  /-- The columns of the open block collections, the innermost first. -/
  columns : List Nat

/-- A step of reading tokens. -/
abbrev Lexing := StateT Lexer Option

namespace Lexer

def ofSpots (s : Spots) : Lexer :=
  ⟨s, [], none, [], true, []⟩

/-- Whether the rest stands in a flow collection. -/
def inFlow (l : Lexer) : Bool :=
  !l.outerKeys.isEmpty

/-- The mark of the next character. -/
def mark? (l : Lexer) : Option Mark :=
  (l.rest[0]?).map (·.mark)

/-- The column that the lines of the innermost collection's parts keep right of. -/
def least (l : Lexer) : Nat :=
  (l.columns.head?.map (· + 1)).getD 0

/-! ## Tokens -/

def emit (t : Token) : Lexing Unit :=
  modify fun l => { l with tokens := t :: l.tokens }

/-- Put a token behind the first `position` tokens. -/
def insert (position : Nat) (t : Token) : Lexing Unit :=
  modify fun l =>
    let after := l.tokens.length - position
    { l with tokens := l.tokens.take after ++ t :: l.tokens.drop after }

/-- Pass over `n` characters. -/
def skip (n : Nat) : Lexing Unit :=
  modify fun l => { l with rest := l.rest.drop n }

def allowKey (keyAllowed : Bool) : Lexing Unit :=
  modify fun l => { l with keyAllowed }

/-- Read by a function and keep the rest. -/
def reading {α : Type} (read : Spots → Option (α × Spots)) : Lexing α := do
  let (a, rest) ← liftM (read (← get).rest)
  modify fun l => { l with rest }
  pure a

/-! ## Possible keys -/

/-- Give up the possible key; one that must be a key makes the document unreadable. -/
def dropKey : Lexing Unit := do
  if (← get).key.any (·.isRequired) then failure
  modify fun l => { l with key := none }

/-- Remember that a key may begin here. -/
def rememberKey : Lexing Unit := do
  let l ← get
  match l.keyAllowed, l.mark? with
  | true, some mark =>
    dropKey
    let isRequired := !l.inFlow && l.columns.head? = some mark.column
    modify fun l => { l with key := some ⟨isRequired, l.tokens.length, mark⟩ }
  | _, _ => pure ()

/-- The greatest length of a key. -/
def maxKeyLength : Nat := 1024

/-- Whether a possible key is out of reach at a mark. -/
def isStale (m : Mark) (k : PossibleKey) : Bool :=
  k.mark.line < m.line || k.mark.index + maxKeyLength < m.index

/-- Give up the possible keys that are out of reach. -/
def dropStaleKeys : Lexing Unit := do
  let l ← get
  match l.mark? with
  | none => pure ()
  | some m =>
    let keys := l.key :: l.outerKeys
    if keys.any fun k => k.any fun k => isStale m k && k.isRequired then failure
    modify fun l => { l with
      key := l.key.filter (!isStale m ·)
      outerKeys := l.outerKeys.map (·.filter (!isStale m ·)) }

/-! ## Indentation -/

/-- Open a block collection at a column that lies right of the current one. -/
def openBlock (column : Nat) (position : Nat) (t : Token) : Lexing Unit := do
  let l ← get
  if !l.inFlow && l.least ≤ column then
    modify fun l => { l with columns := column :: l.columns }
    insert position t

/-- Close the block collections right of a column. -/
def closeBlocks (keep : Nat → Bool) : Lexing Unit := do
  let l ← get
  if !l.inFlow then
    let closed := l.columns.takeWhile (!keep ·)
    modify fun l => { l with
      columns := l.columns.dropWhile (!keep ·)
      tokens := closed.map (fun _ => Token.blockEnd) ++ l.tokens }

/-- Close all block collections. -/
def closeAllBlocks : Lexing Unit :=
  closeBlocks fun _ => false

/-! ## Space -/

/-- Pass over blanks, comments and line breaks. Outside of flow collections a key may begin on every
line, and a tab may not stand where a key may begin. -/
def passSpace (inFlow : Bool) : (keyAllowed inComment : Bool) → Spots → Bool × Spots
  | keyAllowed, _, [] => (keyAllowed, [])
  | keyAllowed, inComment, s :: rest =>
    if isBreak s.char then passSpace inFlow (keyAllowed || !inFlow) false rest
    else if inComment || s.char = '#' then passSpace inFlow keyAllowed true rest
    else if s.char = ' ' || (s.char = '\t' && (inFlow || !keyAllowed)) ||
        (s.char = byteOrderMark && s.mark.column = 0) then
      passSpace inFlow keyAllowed false rest
    else (keyAllowed, s :: rest)

def toNextToken : Lexing Unit :=
  modify fun l =>
    let (keyAllowed, rest) := passSpace l.inFlow l.keyAllowed false l.rest
    { l with keyAllowed, rest }

/-! ## Reading tokens -/

/-- End what the line before a document's mark or a directive belongs to. -/
def betweenDocuments : Lexing Unit := do
  closeAllBlocks
  dropKey
  allowKey false

/-- Read a token of `n` characters that stands by itself. -/
def simple (n : Nat) (t : Token) : Lexing Unit := do
  skip n
  emit t

def flowStart (t : Token) : Lexing Unit := do
  rememberKey
  modify fun l => { l with outerKeys := l.key :: l.outerKeys, key := none }
  allowKey true
  simple 1 t

def flowEnd (t : Token) : Lexing Unit := do
  dropKey
  modify fun l => match l.outerKeys with
    | [] => l
    | key :: outerKeys => { l with key, outerKeys }
  allowKey false
  simple 1 t

def flowEntry : Lexing Unit := do
  dropKey
  allowKey true
  simple 1 .flowEntry

/-- Open a block collection for an indicator, which has to stand where a key may begin. -/
def openBlockHere (t : Token) : Lexing Unit := do
  let l ← get
  if !l.inFlow then
    if !l.keyAllowed then failure
    openBlock l.rest.column l.tokens.length t

def blockEntry : Lexing Unit := do
  openBlockHere .blockSequenceStart
  dropKey
  allowKey true
  simple 1 .blockEntry

def keyIndicator : Lexing Unit := do
  openBlockHere .blockMappingStart
  dropKey
  allowKey (!(← get).inFlow)
  simple 1 .key

/-- Read a colon, which follows a key that was remembered or one that was marked. -/
def valueIndicator : Lexing Unit := do
  match (← get).key with
  | some k =>
    insert k.position .key
    openBlock k.mark.column k.position .blockMappingStart
    modify fun l => { l with key := none }
    allowKey false
  | none =>
    openBlockHere .blockMappingStart
    allowKey (!(← get).inFlow)
  simple 1 .value

/-- Read a token that may begin a key and behind which none begins. -/
def property (read : Spots → Option (Token × Spots)) : Lexing Unit := do
  rememberKey
  allowKey false
  emit (← reading read)

def anchor (s : Spots) : Option (Token × Spots) :=
  (anchorName? (s.drop 1)).map fun (name, s) => (.anchor name, s)

def aliasToken (s : Spots) : Option (Token × Spots) :=
  (anchorName? (s.drop 1)).map fun (name, s) => (.aliasOf name, s)

def quoted (q : Quote) (s : Spots) : Option (Token × Spots) :=
  (quotedScalar q (s.drop 1)).map fun (text, s) => (.scalar (String.ofList text) .quoted, s)

def block (isLiteral : Bool) : Lexing Unit := do
  dropKey
  allowKey true
  let l ← get
  let text ← reading fun s => blockScalar isLiteral l.columns.head? (s.drop 1)
  emit (.scalar (String.ofList text) .quoted)

def plain : Lexing Unit := do
  rememberKey
  allowKey false
  let l ← get
  let scalar ← reading (plainScalar l.inFlow l.least)
  if scalar.isBroken then allowKey true
  emit (.scalar (String.ofList scalar.text) .plain)

/-- The characters that a plain scalar does not begin with, but for some of them before others. -/
def indicators : List Char :=
  ['-', '?', ':', ',', '[', ']', '\x7b', '\x7d', '#', '&', '*', '!', '|', '>', '\'', '"', '%', '@',
    '\x60']

/-- Whether a plain scalar begins with the characters. -/
def beginsPlain (inFlow : Bool) (s : Spots) : Bool :=
  s.head?.any fun c =>
    (!isSpace c && !indicators.contains c) ||
      (c = '-' && !s.oneOfAt 1 [' ', '\t']) ||
      (!inFlow && (c = '?' || c = ':') && !s.spaceAt 1)

/-- Read the token that begins with `c`. -/
def token (c : Char) : Lexing Unit := do
  let l ← get
  let s := l.rest
  if s.column = 0 && c = '%' then
    betweenDocuments
    emit (← reading fun s => directive? (s.drop 1))
  else if s.isRule '-' then
    betweenDocuments
    simple 3 .documentStart
  else if s.isRule '.' then
    betweenDocuments
    simple 3 .documentEnd
  else if c = '[' then flowStart .flowSequenceStart
  else if c = '\x7b' then flowStart .flowMappingStart
  else if c = ']' then flowEnd .flowSequenceEnd
  else if c = '\x7d' then flowEnd .flowMappingEnd
  else if c = ',' then flowEntry
  else if c = '-' && s.spaceAt 1 then blockEntry
  else if c = '?' && (l.inFlow || s.spaceAt 1) then keyIndicator
  else if c = ':' && (l.inFlow || s.spaceAt 1) then valueIndicator
  else if c = '*' then property aliasToken
  else if c = '&' then property anchor
  else if c = '!' then property (tag? l.inFlow)
  else if c = '|' && !l.inFlow then block true
  else if c = '>' && !l.inFlow then block false
  else if c = '\'' then property (quoted .single)
  else if c = '"' then property (quoted .double)
  else if beginsPlain l.inFlow s then plain
  else failure

/-- Read tokens up to the end of the document. -/
def all : (fuel : Nat) → Lexing Unit
  | 0 => failure
  | fuel + 1 => do
    toNextToken
    dropStaleKeys
    let l ← get
    match l.rest[0]? with
    | none =>
      closeAllBlocks
      dropKey
    | some s =>
      closeBlocks (· ≤ s.mark.column)
      token s.char
      all fuel

end Lexer

/-- The tokens of a document. -/
def tokens? (cs : List Char) : Option (List Token) := do
  let s ← spots? cs
  let ((), l) ← (Lexer.all (s.length + 1)).run (.ofSpots s)
  pure l.tokens.reverse

end DeviceAdmission.Yaml
