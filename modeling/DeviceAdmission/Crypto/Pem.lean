import DeviceAdmission.Text.Base64
import DeviceAdmission.Text.Blank

/-!
# PEM

The first block of a PEM text: what its two marks call it, and the bytes between them. Text around
the block does not matter. Between the marks lines with a colon may come before an empty line; the
rest is padded base64, in which blanks do not matter.
-/

namespace DeviceAdmission.Pem

structure Block where
  tag : String
  contents : Bytes
  deriving DecidableEq, Repr

/-- Look for a mark from the letters `expected` of it on. A letter that does not fit begins the
search anew behind it, and is not tried as the first letter of the mark. -/
def seek (mark : List Char) : (rest expected passed : List Char) →
    Option (List Char × List Char)
  | rest, [], passed => some ((passed.drop mark.length).reverse, rest)
  | [], _ :: _, _ => none
  | c :: rest, e :: expected, passed =>
    if c = e then seek mark rest expected (c :: passed) else seek mark rest mark (c :: passed)

/-- What stands before a mark and what stands behind it. -/
def splitAt? (mark : String) (cs : List Char) : Option (List Char × List Char) :=
  seek mark.toList cs mark.toList []

/-- The blanks that may follow a mark. -/
def isMarkBlank (c : Char) : Bool :=
  c = ' ' || c = '\t' || c = '\r' || c = '\n'

/-- The header lines and the data between the marks. -/
def splitHeaders (body : List Char) : List Char × List Char :=
  match splitAt? "\n\n" body with
  | some r => r
  | none =>
    match splitAt? "\r\n\r\n" body with
    | some r => r
    | none => ([], body)

/-- The lines of a text, without an empty line at its end. -/
def linesOf (cs : List Char) : List (List Char) :=
  let lines := (String.ofList cs).splitOn "\n" |>.map String.toList
  if lines.getLast? = some [] then lines.dropLast else lines

/-- The first block of a text, if its marks agree and its data are base64. -/
def read? (text : String) : Option Block := do
  let (_, rest) ← splitAt? "-----BEGIN " text.toList
  let (tag, rest) ← splitAt? "-----" rest
  let (body, rest) ← splitAt? "-----END " (rest.dropWhile isMarkBlank)
  let (endTag, _) ← splitAt? "-----" rest
  if tag.isEmpty ∨ tag ≠ endTag then none
  else
    let (headers, data) := splitHeaders body
    if (linesOf headers).any fun line => !line.contains ':' then none
    else
      let contents ← Base64.decodeChars? .standard (data.filter fun c => !Text.isBlank c)
      pure ⟨String.ofList tag, contents⟩

end DeviceAdmission.Pem
