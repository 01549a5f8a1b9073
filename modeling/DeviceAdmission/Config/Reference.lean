import DeviceAdmission.Json.Value

/-!
# References to variables

The texts of a configuration may refer to variables of the environment. A text is made of plain
characters, of references, which stand for the value of a variable, and of escaped references, which
have one more dollar sign in front and stand for the reference itself. The main statement is that
the pieces of a text are that text again.
-/

namespace DeviceAdmission

/-- The variables that are set, with their values. -/
abbrev Environment := List (String × String)

/-- The value of a variable. -/
def Environment.get? (env : Environment) (name : String) : Option String :=
  (env.find? (·.1 = name)).map (·.2)

namespace Reference

/-- The characters of names of variables. -/
def isNameChar (c : Char) : Bool :=
  ('A' ≤ c && c ≤ 'Z') || ('0' ≤ c && c ≤ '9') || c = '_'

/-- A name has at least one character and does not begin with a digit. -/
def isName : List Char → Bool
  | [] => false
  | c :: rest => isNameChar c && !c.isDigit && rest.all isNameChar

/-- A reference to the variable of a name, as it is written. -/
def write (name : List Char) : List Char :=
  '$' :: '\x7b' :: name ++ ['\x7d']

/-- The name in a reference that a text begins with, and what follows the reference. -/
def read? : List Char → Option (List Char × List Char)
  | '$' :: '\x7b' :: rest =>
    let name := rest.takeWhile isNameChar
    match rest.dropWhile isNameChar with
    | '\x7d' :: behind => if isName name then some (name, behind) else none
    | _ => none
  | _ => none

/-- A reference that is read is what was written there. -/
theorem eq_of_read? {cs name behind : List Char} (h : read? cs = some (name, behind)) :
    cs = write name ++ behind := by
  unfold read? at h
  split at h
  · rename_i rest
    dsimp only at h
    split at h
    · rename_i behind' hdrop
      split at h
      · cases h
        have hsplit := List.takeWhile_append_dropWhile (p := isNameChar) (l := rest)
        rw [hdrop] at hsplit
        simp [write, hsplit]
      · cases h
    · cases h
  · cases h

/-- What follows a reference is shorter than the text that begins with it. -/
theorem length_of_read? {cs name behind : List Char} (h : read? cs = some (name, behind)) :
    behind.length < cs.length := by
  rw [eq_of_read? h]
  simp [write]
  omega

/-- A part of a text. -/
inductive Piece where
  | plain (c : Char)
  | reference (name : List Char)
  | escaped (name : List Char)
  deriving DecidableEq, Repr

/-- A piece as it is written. -/
def Piece.write : Piece → List Char
  | plain c => [c]
  | reference name => Reference.write name
  | escaped name => '$' :: Reference.write name

/-- The first piece of a text that begins with `c`, and what follows it. -/
def nextPiece (c : Char) (cs : List Char) : Piece × List Char :=
  match read? (c :: cs) with
  | some (name, behind) => (.reference name, behind)
  | none =>
    if c = '$' then
      match read? cs with
      | some (name, behind) => (.escaped name, behind)
      | none => (.plain c, cs)
    else (.plain c, cs)

/-- The first piece and what follows it are the text. -/
theorem write_nextPiece (c : Char) (cs : List Char) :
    (nextPiece c cs).1.write ++ (nextPiece c cs).2 = c :: cs := by
  unfold nextPiece
  split
  · rename_i h
    exact (eq_of_read? h).symm
  · split
    · rename_i hc
      split
      · rename_i h
        simp [Piece.write, eq_of_read? h, hc]
      · rfl
    · rfl

theorem length_nextPiece_le (c : Char) (cs : List Char) :
    (nextPiece c cs).2.length ≤ cs.length := by
  unfold nextPiece
  split
  · rename_i h
    exact Nat.le_of_lt_succ (length_of_read? h)
  · split
    · split
      · rename_i h
        exact Nat.le_of_lt (length_of_read? h)
      · exact Nat.le_refl _
    · exact Nat.le_refl _

/-- The pieces of a text. -/
def pieces : List Char → List Piece
  | [] => []
  | c :: cs => (nextPiece c cs).1 :: pieces (nextPiece c cs).2
termination_by cs => cs.length
decreasing_by exact Nat.lt_succ_of_le (length_nextPiece_le c cs)

/-- The pieces of a text are the text. -/
theorem write_pieces (cs : List Char) : (pieces cs).flatMap Piece.write = cs := by
  induction cs using pieces.induct with
  | case1 => simp [pieces]
  | case2 c cs ih =>
    rw [pieces, List.flatMap_cons, ih]
    exact write_nextPiece c cs

/-- The name that a piece mentions. -/
def Piece.name? : Piece → Option (List Char)
  | plain _ => none
  | reference name => some name
  | escaped name => some name

/-- The names that a text mentions, in their order. -/
def names (s : String) : List String :=
  (pieces s.toList).filterMap fun p => p.name?.map String.ofList

/-- What a piece stands for, or the name of the variable that is missing for it. A variable without
a value counts as missing. -/
def Piece.expand (env : Environment) : Piece → Except String (List Char)
  | plain c => .ok [c]
  | escaped name => .ok (Reference.write name)
  | reference name =>
    match (env.get? (String.ofList name)).filter (!·.isEmpty) with
    | some value => .ok value.toList
    | none => .error (String.ofList name)

/-- What a text stands for, or the name of the first variable that is missing for it. -/
def expand (env : Environment) (s : String) : Except String String := do
  let expanded ← (pieces s.toList).mapM (Piece.expand env)
  pure (String.ofList expanded.flatten)

end Reference

end DeviceAdmission
