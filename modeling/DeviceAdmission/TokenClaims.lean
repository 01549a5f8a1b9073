import DeviceAdmission.Jws.Envelope
import DeviceAdmission.Jws.RegisteredClaims

/-!
# Claims of device tokens

What a device token says: its id, the device and tenant it is for, who issued it, and from when
until when it holds, in whole seconds since 1970. The default tenant is left out.
-/

namespace DeviceAdmission

structure TokenClaims where
  id : String
  subject : String
  issuer : String
  issuedAt : Int
  expiry : Int
  tenant : String
  deriving DecidableEq, Repr

namespace TokenClaims

/-- The claims as a document. -/
def json (c : TokenClaims) : Json.Value :=
  .object <|
    [("jti", .text c.id), ("sub", .text c.subject), ("iss", .text c.issuer),
      ("iat", .number (.integer c.issuedAt)), ("exp", .number (.integer c.expiry))] ++
    (if c.tenant.isEmpty then [] else [("tenant", Json.Value.text c.tenant)])

/-- The claims as far as they were read. -/
structure Draft where
  id : Option String
  subject : Option String
  issuer : Option String
  issuedAt : Option Int
  expiry : Option Int
  tenant : Option String

/-- Read an integer of 64 bits with a sign. -/
def integer : Json.Reader Int := do
  match ← Json.Reader.scalar (← Json.Reader.valueStart) with
  | some (.number (.integer i)) =>
    if i ≤ maxSigned then pure i else Json.Reader.failHere (.wrongValue (.integer i) "i64")
  | _ => Json.Reader.failHere .valueExpected

/-- The notation of the claims. -/
def record : Json.Record Draft where
  name := "struct Claims"
  blank := ⟨none, none, none, none, none, none⟩
  fields :=
    [ { key := "jti"
        isSet := fun p => p.id.isSome
        read := fun p => return { p with id := some (← Json.Reader.text) }
        required := true
        requiredInList := true },
      { key := "sub"
        isSet := fun p => p.subject.isSome
        read := fun p => return { p with subject := some (← Json.Reader.text) }
        required := true
        requiredInList := true },
      { key := "iss"
        isSet := fun p => p.issuer.isSome
        read := fun p => return { p with issuer := some (← Json.Reader.text) }
        required := true
        requiredInList := true },
      { key := "iat"
        isSet := fun p => p.issuedAt.isSome
        read := fun p => return { p with issuedAt := some (← integer) }
        required := true
        requiredInList := true },
      { key := "exp"
        isSet := fun p => p.expiry.isSome
        read := fun p => return { p with expiry := some (← integer) }
        required := true
        requiredInList := true },
      { key := "tenant"
        isSet := fun p => p.tenant.isSome
        read := fun p => return { p with tenant := some (← Json.Reader.text) }
        required := false
        requiredInList := false } ]

def ofDraft? (p : Draft) : Option TokenClaims := do
  pure ⟨← p.id, ← p.subject, ← p.issuer, ← p.issuedAt, ← p.expiry, p.tenant.getD ""⟩

/-- Read the claims of a payload. -/
def read? (payload : Bytes) : Option TokenClaims :=
  match Json.Reader.run record.read payload with
  | .ok p => ofDraft? p
  | .error _ => none

/-- Whether the registered claims are those of a token of this issuer: they name when it expires,
whom it is about and the issuer, and nobody it is meant for. -/
def isOwn (issuer : String) (r : Jws.RegisteredClaims) : Bool :=
  r.expiry.isGiven && r.subject.isGiven && !r.audience.isGiven &&
    match r.issuer with
    | .given (.one name) => name = issuer
    | .given (.many names) => names.contains issuer
    | _ => false

/-- The claims of a raw token of the issuer whose signature verifies. -/
def decode? (verifies : (message signature : Bytes) → Bool) (issuer raw : String) :
    Option TokenClaims := do
  let payload ← Jws.payload? verifies raw
  let claims ← read? payload
  let registered ← Jws.RegisteredClaims.read? payload
  if isOwn issuer registered then some claims else none

/-- The raw token of claims. -/
def encode {ε : Type} (sign : Bytes → Except ε Bytes) (c : TokenClaims) : Except ε String :=
  Jws.sign sign c.json.write

end TokenClaims

end DeviceAdmission
