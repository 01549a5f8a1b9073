import DeviceAdmission.Failure
import DeviceAdmission.Http.Message

/-!
# Refusals

How a failure shows to an HTTP caller: a status, a message unless the status says it all, and the
caller's request id with the message. Internal causes are not told.
-/

namespace DeviceAdmission

structure Refusal where
  status : Nat
  message : Option String
  requestId : Option String
  deriving DecidableEq, Repr

namespace Refusal

def saying (status : Nat) (message : String) : Refusal :=
  ⟨status, some message, none⟩

def badRequest (message : String) : Refusal :=
  saying 400 message

/-- A refusal that is told by its status alone. -/
def bare (status : Nat) : Refusal :=
  ⟨status, none, none⟩

def withRequestId (r : Refusal) (id : Option String) : Refusal :=
  { r with requestId := id }

/-- The refusal that tells a failure. -/
def ofFailure (f : Failure) : Refusal :=
  match f with
  | .malformed _ | .invalid _ | .signatureMissing => saying 400 f.message
  | .signatureInvalid | .notEntitled => saying 401 f.message
  | .deviceNotFound | .tokenNotFound => saying 404 f.message
  | .tokenExpired => bare 403
  | .tokenInvalid => bare 401
  | .internal _ => saying 500 "internal error"

/-- The document of a refusal with a message. -/
def document (message : String) (requestId : Option String) : Json.Value :=
  .object <|
    ("error", Json.Value.text message) ::
      (match requestId with
        | some id => [("request_id", Json.Value.text id)]
        | none => [])

def response (r : Refusal) : Http.Response :=
  match r.message with
  | none => .bare r.status
  | some message => .ofJson r.status (document message r.requestId)

/-- Failures that differ in their internal cause only are told alike. -/
theorem ofFailure_internal (a b : InternalCause) :
    ofFailure (.internal a) = ofFailure (.internal b) := rfl

end Refusal

end DeviceAdmission
