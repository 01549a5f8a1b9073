import DeviceAdmission.Text.Numeral

/-!
# Socket addresses

An address of a host with a port, as `1.2.3.4:80` or `[::1]:80`. An address of eight groups is
written with its longest run of zero groups left out, the first such run if there are several, and
one that stands for an address of four numbers ends with it.
-/

namespace DeviceAdmission

inductive IpAddress where
  | four (bytes : List Nat)
  | six (groups : List Nat)
  deriving DecidableEq, Repr

structure SocketAddress where
  host : IpAddress
  /-- The number of the network that an address of eight groups is local to; zero if there is
  none. -/
  scope : Nat
  port : Nat
  deriving DecidableEq, Repr

namespace SocketAddress

/-! ## Reading -/

/-- The value of a hexadecimal digit. -/
def digitValue? (c : Char) : Option Nat :=
  if '0' ≤ c ∧ c ≤ '9' then some (c.toNat - 48)
  else if 'a' ≤ c ∧ c ≤ 'f' then some (c.toNat - 87)
  else if 'A' ≤ c ∧ c ≤ 'F' then some (c.toNat - 55)
  else none

/-- The value of a digit in the base. -/
def digit? (base : Nat) (c : Char) : Option Nat :=
  (digitValue? c).filter (· < base)

/-- The digits that a text begins with. -/
def leadingDigits (base : Nat) (cs : List Char) : List Nat :=
  (cs.takeWhile fun c => (digit? base c).isSome).filterMap (digit? base)

/-- Read a number of up to `limit` and what follows it. -/
def number? (base limit : Nat) (cs : List Char) : Option (Nat × List Char) :=
  let digits := leadingDigits base cs
  let n := digits.foldl (fun n d => n * base + d) 0
  if digits.isEmpty ∨ limit < n then none else some (n, cs.drop digits.length)

/-- Read one of the four numbers of an address: at most three digits, and no zero in front. -/
def byte? (cs : List Char) : Option (Nat × List Char) :=
  let digits := leadingDigits 10 cs
  if 3 < digits.length ∨ (1 < digits.length ∧ digits.head? = some 0) then none
  else number? 10 255 cs

/-- Read one of the eight groups of an address: at most four digits. -/
def group? (cs : List Char) : Option (Nat × List Char) :=
  if 4 < (leadingDigits 16 cs).length then none else number? 16 65535 cs

/-- Read what `read` reads behind the separator, which the first of several has not. -/
def separated {α : Type} (separator : Char) (first : Bool) (read : List Char → Option α)
    (cs : List Char) : Option α :=
  match first, cs with
  | true, cs => read cs
  | false, c :: cs => if c = separator then read cs else none
  | false, [] => none

/-- Read `count` numbers with points between them. -/
def bytes? : (count : Nat) → (first : Bool) → List Char → Option (List Nat × List Char)
  | 0, _, cs => some ([], cs)
  | count + 1, first, cs => do
    let (b, cs) ← separated '.' first byte? cs
    let (bs, cs) ← bytes? count false cs
    pure (b :: bs, cs)

def four? (cs : List Char) : Option (List Nat × List Char) :=
  bytes? 4 true cs

/-- The two groups that four numbers make. -/
def groupsOfFour (bytes : List Nat) : List Nat :=
  match bytes with
  | [a, b, c, d] => [a * 256 + b, c * 256 + d]
  | _ => []

/-- Read as many groups as there are, up to `limit`. The last two may be given as four numbers; the
result says whether they are. -/
def groups : (limit : Nat) → (first : Bool) → List Char → (List Nat × Bool) × List Char
  | 0, _, cs => (([], false), cs)
  | limit + 1, first, cs =>
    match if limit = 0 then none else separated ':' first four? cs with
    | some (bytes, cs) => ((groupsOfFour bytes, true), cs)
    | none =>
      match separated ':' first group? cs with
      | none => (([], false), cs)
      | some (g, cs) =>
        let rest := groups limit false cs
        ((g :: rest.1.1, rest.1.2), rest.2)

/-- Read an address of eight groups, a run of which may be left out between two colons. -/
def six? (cs : List Char) : Option (List Nat × List Char) :=
  let head := groups 8 true cs
  let front := head.1.1
  if front.length = 8 then some (front, head.2)
  else if head.1.2 then none
  else
    match head.2 with
    | ':' :: ':' :: cs =>
      let tail := groups (7 - front.length) true cs
      let back := tail.1.1
      some (front ++ List.replicate (8 - front.length - back.length) 0 ++ back, tail.2)
    | _ => none

/-- The greatest number of a network. -/
def maxScope : Nat := 4294967295

/-- Read the number of a network behind a percent sign, if there is one. -/
def readScope (cs : List Char) : Nat × List Char :=
  match cs with
  | '%' :: rest => (number? 10 maxScope rest).getD (0, cs)
  | _ => (0, cs)

/-- Read a port, which ends the text. -/
def port? : List Char → Option Nat
  | ':' :: cs => do
    let (port, rest) ← number? 10 65535 cs
    if rest.isEmpty then some port else none
  | _ => none

def readFour? (cs : List Char) : Option SocketAddress := do
  let (bytes, cs) ← four? cs
  pure ⟨.four bytes, 0, ← port? cs⟩

def readSix? : List Char → Option SocketAddress
  | '[' :: cs => do
    let (groups, cs) ← six? cs
    let (scope, cs) := readScope cs
    match cs with
    | ']' :: cs => pure ⟨.six groups, scope, ← port? cs⟩
    | _ => none
  | _ => none

/-- Read a socket address. -/
def read? (s : String) : Option SocketAddress :=
  readFour? s.toList <|> readSix? s.toList

/-! ## Writing -/

/-- Parts with a separator between them. -/
def joined (separator : Char) : List (List Char) → List Char
  | [] => []
  | [part] => part
  | part :: rest => part ++ separator :: joined separator rest

def writeFour (bytes : List Nat) : List Char :=
  joined '.' (bytes.map Numeral.write)

/-- Groups with colons between them. -/
def writeGroups (groups : List Nat) : List Char :=
  joined ':' (groups.map (Nat.toDigits 16))

/-- The number of zero groups in front. -/
def zerosInFront (groups : List Nat) : Nat :=
  (groups.takeWhile (· = 0)).length

/-- Where the longest run of zero groups begins, the first such run, and its length. -/
def longestZeros (groups : List Nat) : Nat × Nat :=
  (List.range groups.length).foldl (fun longest i =>
    let run := zerosInFront (groups.drop i)
    if longest.2 < run then (i, run) else longest) (0, 0)

def writeSix (groups : List Nat) : List Char :=
  match groups with
  | [0, 0, 0, 0, 0, 65535, high, low] =>
    [':', ':', 'f', 'f', 'f', 'f', ':'] ++ writeFour [high / 256, high % 256, low / 256, low % 256]
  | _ =>
    let (start, run) := longestZeros groups
    if 1 < run then
      writeGroups (groups.take start) ++ ':' :: ':' :: writeGroups (groups.drop (start + run))
    else writeGroups groups

def write (a : SocketAddress) : String :=
  match a.host with
  | .four bytes => String.ofList (writeFour bytes ++ ':' :: Numeral.write a.port)
  | .six groups =>
    let scope := if a.scope = 0 then [] else '%' :: Numeral.write a.scope
    String.ofList ('[' :: writeSix groups ++ scope ++ ']' :: ':' :: Numeral.write a.port)

end SocketAddress

end DeviceAdmission
