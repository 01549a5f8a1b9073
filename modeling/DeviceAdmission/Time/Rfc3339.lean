import DeviceAdmission.Text.Numeral
import DeviceAdmission.Time.Instant

/-!
# RFC 3339 timestamps

Instants as text, in UTC, with as many of three, six or nine digits of a fraction as they need.
Years of four digits are written plainly and other years with a sign. The reader takes years of four
digits only, and any zone. Letters may be small, a space may part date and time, and a second 60 is
the first one of the next minute.
-/

namespace DeviceAdmission.Rfc3339

/-- How the zone of a timestamp in UTC is written. -/
inductive Zone where
  | letter
  | offset
  deriving DecidableEq, Repr

def Zone.chars : Zone → List Char
  | .letter => ['Z']
  | .offset => ['+', '0', '0', ':', '0', '0']

def writeYear (year : Int) : List Char :=
  if 0 ≤ year ∧ year ≤ 9999 then Numeral.writePadded 4 year.natAbs
  else (if year < 0 then '-' else '+') :: Numeral.writePadded 4 year.natAbs

/-- The fraction of a second, as short as three, six or nine digits allow. -/
def writeFraction (nanos : Nat) : List Char :=
  if nanos = 0 then []
  else if nanos % 1000000 = 0 then '.' :: Numeral.writePadded 3 (nanos / 1000000)
  else if nanos % 1000 = 0 then '.' :: Numeral.writePadded 6 (nanos / 1000)
  else '.' :: Numeral.writePadded 9 nanos

/-- The characters of a timestamp. -/
def writeChars (zone : Zone) (t : Instant) : List Char :=
  let d := t.date
  let s := t.secondOfDay
  writeYear d.year ++ '-' :: Numeral.writePadded 2 d.month ++ '-' :: Numeral.writePadded 2 d.day ++
    'T' :: Numeral.writePadded 2 (s / 3600) ++ ':' :: Numeral.writePadded 2 (s / 60 % 60) ++
    ':' :: Numeral.writePadded 2 (s % 60) ++ writeFraction t.subsecond ++ zone.chars

/-- The timestamp of an instant. -/
def write (zone : Zone) (t : Instant) : String :=
  String.ofList (writeChars zone t)

/-- Take a numeral of exactly `count` digits off the front. -/
def takeDigits? (count : Nat) (cs : List Char) : Option (Nat × List Char) := do
  let digits := cs.take count
  if digits.length ≠ count then none
  else
    let n ← Numeral.read? digits
    pure (n, cs.drop count)

/-- Take a character off the front. -/
def takeChar? (c : Char) : List Char → Option (List Char)
  | d :: rest => if d = c then some rest else none
  | [] => none

/-- Take a fraction off the front, if there is one: its nanoseconds. -/
def takeFraction? (cs : List Char) : Option (Nat × List Char) :=
  match cs with
  | '.' :: rest =>
    let digits := rest.takeWhile Char.isDigit
    if digits = [] then none
    else
      let kept := digits.take 9
      some (Nat.ofDigitChars 10 (kept ++ List.replicate (9 - kept.length) '0') 0,
        rest.drop digits.length)
  | _ => some (0, cs)

/-- The direction that a sign gives: plus, or the minus of ASCII or of mathematics. -/
def direction? (sign : Char) : Option Int :=
  if sign = '+' then some 1 else if sign = '-' ∨ sign = '\u2212' then some (-1) else none

/-- Read the zone that ends a timestamp: the seconds to the east of UTC. -/
def readZone? (cs : List Char) : Option Int :=
  match cs with
  | ['Z'] | ['z'] => some 0
  | sign :: rest => do
    let factor ← direction? sign
    let (hours, rest) ← takeDigits? 2 rest
    let rest ← takeChar? ':' rest
    let (minutes, rest) ← takeDigits? 2 rest
    if rest = [] ∧ hours < 24 ∧ minutes < 60 then
      some (factor * (hours * 3600 + minutes * 60 : Nat))
    else none
  | [] => none

/-- Take what parts date and time off the front. -/
def takeParting? (cs : List Char) : Option (List Char) :=
  takeChar? 'T' cs <|> takeChar? 't' cs <|> takeChar? ' ' cs

/-- Read the characters of a timestamp. -/
def readChars? (cs : List Char) : Option Instant := do
  let (year, cs) ← takeDigits? 4 cs
  let cs ← takeChar? '-' cs
  let (month, cs) ← takeDigits? 2 cs
  let cs ← takeChar? '-' cs
  let (day, cs) ← takeDigits? 2 cs
  let cs ← takeParting? cs
  let (hour, cs) ← takeDigits? 2 cs
  let cs ← takeChar? ':' cs
  let (minute, cs) ← takeDigits? 2 cs
  let cs ← takeChar? ':' cs
  let (second, cs) ← takeDigits? 2 cs
  let (nanos, cs) ← takeFraction? cs
  let zone ← readZone? cs
  let date : Date := ⟨year, month, day⟩
  if date.isValid && hour < 24 && minute < 60 && second ≤ 60 then
    let seconds : Int := date.toDay * 86400 + (hour * 3600 + minute * 60 + second : Nat) - zone
    some ⟨seconds * nanosPerSecond + nanos⟩
  else none

/-- The instant of a timestamp. -/
def read? (s : String) : Option Instant :=
  readChars? s.toList

end DeviceAdmission.Rfc3339
