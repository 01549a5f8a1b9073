import DeviceAdmission.Failure
import DeviceAdmission.Json.Record
import DeviceAdmission.Json.Writer

/-!
# Authentication requests

What a device sends to ask for a token: who it is, its public key, and the token of its tenant if it
has one. Texts that are not given are read as empty, so that it is the check of the fields that
reports them.
-/

namespace DeviceAdmission

structure AuthRequest where
  identityData : String
  publicKey : String
  tenantToken : Option String
  deriving DecidableEq, Repr

namespace AuthRequest

/-- The fields of a request as far as they were read. -/
structure Draft where
  identityData : Option String
  publicKey : Option String
  tenantToken : Option (Option String)

/-- The notation of a request. -/
def record : Json.Record Draft where
  name := "struct AuthRequest"
  blank := ⟨none, none, none⟩
  fields :=
    [ { key := "id_data"
        isSet := fun p => p.identityData.isSome
        read := fun p => return { p with identityData := some (← Json.Reader.text) }
        required := false
        requiredInList := false },
      { key := "pubkey"
        isSet := fun p => p.publicKey.isSome
        read := fun p => return { p with publicKey := some (← Json.Reader.text) }
        required := false
        requiredInList := false },
      { key := "tenant_token"
        isSet := fun p => p.tenantToken.isSome
        read := fun p => return { p with
          tenantToken := some (← Json.Reader.optional Json.Reader.text) }
        required := false
        requiredInList := false } ]

def ofDraft (p : Draft) : AuthRequest :=
  ⟨p.identityData.getD "", p.publicKey.getD "", p.tenantToken.getD none⟩

/-- Decode a request body. -/
def decode (body : Bytes) : Except Json.Fault AuthRequest :=
  (Json.Reader.run record.read body).map ofDraft

/-- Decode a request body for the service. -/
def parse (body : Bytes) : Except Failure AuthRequest :=
  (decode body).mapError fun fault => .malformed (.authRequest fault)

/-- Check that the request says who asks and with which key, in this order. -/
def validate (r : AuthRequest) : Except Failure Unit :=
  if r.identityData.isEmpty then .error (.invalid .identityMissing)
  else if r.publicKey.isEmpty then .error (.invalid .keyMissing)
  else .ok ()

/-- A request as a document. -/
def json (r : AuthRequest) : Json.Value :=
  .object <|
    [("id_data", .text r.identityData), ("pubkey", .text r.publicKey)] ++
    (match r.tenantToken with
      | none => []
      | some token => [("tenant_token", .text token)])

end AuthRequest

end DeviceAdmission
