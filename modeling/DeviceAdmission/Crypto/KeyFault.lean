/-!
# Faults of keys

Why a key cannot be read, and why a key that was read cannot sign.
-/

namespace DeviceAdmission

/-- Why a key file is not a key. -/
inductive KeyFileFault where
  | format
  | noKeyContent
  deriving DecidableEq, Repr

def KeyFileFault.message : KeyFileFault → String
  | format => "InvalidKeyFormat"
  | noKeyContent => "InvalidEcdsaKey"

/-- What is wrong with the numbers of a private key. -/
inductive KeyRejection where
  | encoding
  | version
  | tooSmall
  | tooLarge
  | component
  | inconsistent
  | unevenLength
  | tooShort
  deriving DecidableEq, Repr

def KeyRejection.name : KeyRejection → String
  | encoding => "InvalidEncoding"
  | version => "VersionNotSupported"
  | tooSmall => "TooSmall"
  | tooLarge => "TooLarge"
  | component => "InvalidComponent"
  | inconsistent => "InconsistentComponents"
  | unevenLength => "PrivateModulusLenNotMultipleOf512Bits"
  | tooShort => "UnexpectedError"

inductive SigningFault where
  | keyRejected (why : KeyRejection)
  /-- The signature that was made does not fit the key. -/
  | signatureWrong
  deriving DecidableEq, Repr

def SigningFault.message : SigningFault → String
  | keyRejected why => "RSA key invalid: " ++ why.name
  | signatureWrong => "RsaFailedSigning"

end DeviceAdmission
