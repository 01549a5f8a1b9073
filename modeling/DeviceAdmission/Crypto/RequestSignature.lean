import DeviceAdmission.Crypto.Outline
import DeviceAdmission.Crypto.Rsa

/-!
# Request signatures

A device signs the exact bytes of its request and sends the signature beside it, as padded base64.
Raw signatures are made and checked as the signatures of signed tokens are, which are base64 for
URLs, so that a signature goes through both alphabets on its way. Whatever cannot be read counts as
no signature. How keys are read and how raw signatures are made and checked is a parameter; the
scheme in use is RSA with keys in PEM files.
-/

namespace DeviceAdmission

/-- How public keys are read, and how raw signatures are checked under them. -/
structure SignatureScheme where
  /-- Whether a text is a public key that signatures can be checked under. -/
  isReadable : (key : String) → Bool
  /-- Whether a raw signature is the one of the message under a readable key. -/
  verifies : (key : String) → (message signature : Bytes) → Bool

namespace SignatureScheme

/-- Whether a text is a signature of the message under a readable key, as signed tokens carry it. -/
def verifiesText (scheme : SignatureScheme) (key : String) (message : Bytes) (text : String) :
    Bool :=
  match Base64.decode? .url text with
  | none => false
  | some raw => scheme.verifies key message raw

/-- Whether `signature` is the text of a signature of exactly `body` under the key. -/
def accepts (scheme : SignatureScheme) (body : Bytes) (key signature : String) : Bool :=
  scheme.isReadable key &&
    match Base64.decode? .standard (Text.trim signature) with
    | none => false
    | some raw => !raw.isEmpty && scheme.verifiesText key body (Base64.encode .url raw)

/-- RSA over SHA-256 with public keys in PEM files. -/
def rsa : SignatureScheme where
  isReadable key := (rsaKeyContents key).toBool
  verifies key message signature :=
    match rsaKeyContents key with
    | .ok bytes => Rsa.verify bytes message signature
    | .error _ => false

end SignatureScheme

/-- Why a request cannot be signed. -/
inductive RequestSigningFault where
  | keyFile (fault : KeyFileFault)
  | signing (fault : SigningFault)
  /-- What the signer gave is no text of a signature. -/
  | malformed
  deriving DecidableEq, Repr

def RequestSigningFault.message : RequestSigningFault → String
  | keyFile fault => "Failed to parse RSA private key: " ++ fault.message
  | signing fault => "Failed to sign request body: " ++ fault.message
  | malformed => "Signer produced a malformed signature"

/-- The causes of the fault, the outermost first. -/
def RequestSigningFault.causes : RequestSigningFault → List String
  | keyFile fault => ["Failed to parse RSA private key", fault.message]
  | signing fault => ["Failed to sign request body", fault.message]
  | malformed => ["Signer produced a malformed signature"]

/-- How private keys are read, and how raw signatures are made with them. -/
abbrev RequestSigner :=
  (key : String) → (message : Bytes) → Except RequestSigningFault Bytes

namespace RequestSigner

/-- RSA over SHA-256 with private keys in PEM files. -/
def rsa : RequestSigner := fun key message => do
  let keyBytes ← (rsaKeyContents key).mapError .keyFile
  (Rsa.sign keyBytes message).mapError .signing

/-- The signature of a message, as signed tokens carry it. -/
def text (signer : RequestSigner) (key : String) (message : Bytes) :
    Except RequestSigningFault String :=
  (signer key message).map (Base64.encode .url)

/-- The signature text of a body. -/
def sign (signer : RequestSigner) (body : Bytes) (key : String) :
    Except RequestSigningFault String := do
  let text ← signer.text key body
  let raw ← (Base64.decode? .url text).elim (.error .malformed) .ok
  pure (Base64.encode .standard raw)

end RequestSigner

/-- The signature text of a body, made with the private key in a PEM file. -/
def signRequest (body : Bytes) (key : String) : Except RequestSigningFault String :=
  RequestSigner.rsa.sign body key

end DeviceAdmission
