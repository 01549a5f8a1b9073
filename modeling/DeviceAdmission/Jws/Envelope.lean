import DeviceAdmission.Jws.Header
import DeviceAdmission.Json.Writer
import DeviceAdmission.Text.Base64

/-!
# Signed tokens

A signed token is a header, a payload and a signature, each in base64 for URLs, with points between
them. The signature is one of everything before the last point.
-/

namespace DeviceAdmission.Jws

/-- The three parts of a token as they are written, and what the signature signs. -/
structure Parts where
  signed : List Char
  header : List Char
  payload : List Char
  signature : List Char
  deriving DecidableEq, Repr

/-- What stands before and behind the last point. -/
def splitLast? (cs : List Char) : Option (List Char × List Char) :=
  let behind := (cs.reverse.takeWhile (· ≠ '.')).reverse
  if behind.length = cs.length then none
  else some (cs.take (cs.length - behind.length - 1), behind)

def Parts.ofChars? (cs : List Char) : Option Parts := do
  let (signed, signature) ← splitLast? cs
  let (header, payload) ← splitLast? signed
  pure ⟨signed, header, payload, signature⟩

/-- The payload of a token whose header names the algorithm and whose signature verifies. -/
def payload? (verifies : (message signature : Bytes) → Bool) (raw : String) : Option Bytes := do
  let parts ← Parts.ofChars? raw.toList
  let header ← Base64.decodeChars? .url parts.header
  let named ← headerAlgorithm? header
  if named ≠ algorithm then none
  else
    let signature ← Base64.decodeChars? .url parts.signature
    if verifies (Utf8.encode (String.ofList parts.signed)) signature then
      Base64.decodeChars? .url parts.payload
    else none

/-- The header of the tokens that this service signs. -/
def ownHeader : Json.Value :=
  .object [("typ", .text "JWT"), ("alg", .text algorithm)]

/-- What is signed of a payload. -/
def signedChars (payload : Bytes) : List Char :=
  Base64.encodeChars .url ownHeader.write ++ '.' :: Base64.encodeChars .url payload

/-- The token of a payload. -/
def sign {ε : Type} (sign : Bytes → Except ε Bytes) (payload : Bytes) : Except ε String := do
  let signed := signedChars payload
  let signature ← sign (Utf8.encode (String.ofList signed))
  pure (String.ofList (signed ++ '.' :: Base64.encodeChars .url signature))

end DeviceAdmission.Jws
