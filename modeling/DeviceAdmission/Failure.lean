import DeviceAdmission.Crypto.KeyFault
import DeviceAdmission.Json.Fault
import DeviceAdmission.Paging
import DeviceAdmission.Store.Fault

/-!
# Failures of the service

Why the service refuses a request, or cannot answer it. Every failure but an internal one is an
expected outcome that the caller is told about; the cause of an internal one stays inside.
-/

namespace DeviceAdmission

/-- Why a request cannot be decoded. -/
inductive MalformedCause where
  | authRequest (fault : Json.Fault)
  | described (text : String)
  deriving DecidableEq, Repr

/-- Which rule a request breaks. -/
inductive InvalidCause where
  | statusUnknown
  | identityMissing
  | keyMissing
  | keyUnreadable
  | page (fault : PageFault)
  | described (text : String)
  deriving DecidableEq, Repr

/-- What went wrong inside the service. -/
inductive InternalCause where
  | storeFailed (call : String) (fault : StoreFault)
  | storeTimedOut (call : String) (millis : Nat)
  | signing (fault : SigningFault)
  | expiryOutOfRange
  | described (text : String)
  deriving DecidableEq, Repr

inductive Failure where
  | malformed (cause : MalformedCause)
  | invalid (cause : InvalidCause)
  | signatureMissing
  | signatureInvalid
  /-- Pending, rejected and unknown devices all end here. -/
  | notEntitled
  | deviceNotFound
  | tokenNotFound
  | tokenExpired
  | tokenInvalid
  | internal (cause : InternalCause)
  deriving DecidableEq, Repr

def MalformedCause.message : MalformedCause → String
  | authRequest fault => "failed to decode auth request: " ++ fault.message
  | described text => text

def InvalidCause.message : InvalidCause → String
  | statusUnknown => "incorrect device status"
  | identityMissing => "invalid auth request: id_data must be provided"
  | keyMissing => "invalid auth request: pubkey must be provided"
  | keyUnreadable => "invalid auth request: cannot decode public key"
  | page fault => fault.message
  | described text => text

def InternalCause.message : InternalCause → String
  | storeFailed call fault => "storage call `" ++ call ++ "` failed: " ++ fault.message
  | storeTimedOut call millis =>
    "storage call `" ++ call ++ "` timed out after " ++ toString millis ++ "ms"
  | signing fault => "Failed to sign device token: " ++ fault.message
  | expiryOutOfRange => "token expiry out of range"
  | described text => text

def Failure.message : Failure → String
  | malformed cause => cause.message
  | invalid cause => cause.message
  | signatureMissing => "missing request signature header"
  | signatureInvalid => "signature verification failed"
  | notEntitled => "unauthorized"
  | deviceNotFound => "device not found"
  | tokenNotFound => "token not found"
  | tokenExpired => "token expired"
  | tokenInvalid => "token invalid"
  | internal cause => cause.message

/-- The kinds of failures that callers tell apart. -/
inductive FailureKind where
  | malformedInput
  | validationFailed
  | signatureInvalid
  | notEntitled
  | notFound
  | tokenExpired
  | tokenInvalid
  | internal
  deriving DecidableEq, Repr

def FailureKind.name : FailureKind → String
  | malformedInput => "malformed-input"
  | validationFailed => "validation-failed"
  | signatureInvalid => "signature-invalid"
  | notEntitled => "not-entitled"
  | notFound => "not-found"
  | tokenExpired => "token-expired"
  | tokenInvalid => "token-invalid"
  | internal => "internal"

def Failure.kind : Failure → FailureKind
  | malformed _ | signatureMissing => .malformedInput
  | invalid _ => .validationFailed
  | signatureInvalid => .signatureInvalid
  | notEntitled => .notEntitled
  | deviceNotFound | tokenNotFound => .notFound
  | tokenExpired => .tokenExpired
  | tokenInvalid => .tokenInvalid
  | internal _ => .internal

def Failure.isInternal : Failure → Bool
  | internal _ => true
  | _ => false

/-- A failure is internal exactly when its kind is. -/
theorem Failure.isInternal_iff {f : Failure} : f.isInternal = true ↔ f.kind = .internal := by
  cases f <;> simp [isInternal, kind]

end DeviceAdmission
