import DeviceAdmission.Json.Record

/-!
# Registered claims

The claims of a payload that every verifier looks at: when it expires, from when it holds, whom it
is about, who issued it and for whom it is meant. A claim that makes no sense counts as unusable,
which is not the same as absent, and reading goes on where it stopped.
-/

namespace DeviceAdmission.Jws

inductive Claim (α : Type) where
  | absent
  | unusable
  | given (value : α)
  deriving DecidableEq, Repr

/-- Whether a claim is there and usable. -/
def Claim.isGiven {α : Type} : Claim α → Bool
  | given _ => true
  | _ => false

/-- Names, given as one text or as a list. -/
inductive Names where
  | one (name : String)
  | many (names : List String)
  deriving DecidableEq, Repr

structure RegisteredClaims where
  expiry : Claim Nat
  notBefore : Claim Nat
  subject : Claim String
  issuer : Claim Names
  audience : Claim Names
  deriving DecidableEq, Repr

namespace RegisteredClaims

/-- Read a claim, of which nothing may be given. What `r` cannot read is unusable. -/
def claim {α : Type} (r : Json.Reader (Option α)) : Json.Reader (Claim α) := do
  match ← Json.Reader.attempt r with
  | .ok (some value) => pure (.given value)
  | .ok none => pure .absent
  | .error _ => pure .unusable

/-- Read a time in seconds. A fraction is rounded, and a null is no time. -/
def time : Json.Reader Nat := do
  let b ← Json.Reader.valueStart
  match ← Json.Reader.scalar b with
  | some (.number (.integer i)) =>
    if 0 ≤ i then pure i.toNat else Json.Reader.failHere .numberMalformed
  | some (.number (.real x)) =>
    match x.toRoundedNat? with
    | some n => pure n
    | none => Json.Reader.failHere .numberTooLarge
  | some _ => Json.Reader.failHere .valueExpected
  | none =>
    Json.Reader.skip 1
    Json.Reader.enclosed (Json.Reader.failHere .valueExpected)
      (if b = 91 then Json.Reader.listEnd else Json.Reader.objectEnd)

/-- The names that a value gives. -/
def namesOf? : Json.Value → Option Names
  | .text s => some (.one s)
  | .list items => (items.mapM Json.Value.text?).map .many
  | _ => none

/-- Read one name or a list of names. -/
def names : Json.Reader Names := do
  match namesOf? (← Json.Reader.value (Json.nestingLimit - 1)) with
  | some names => pure names
  | none => Json.Reader.failHere .valueExpected

/-- The claims as far as they were read. -/
structure Draft where
  expiry : Option (Claim Nat)
  notBefore : Option (Claim Nat)
  subject : Option (Claim String)
  issuer : Option (Claim Names)
  audience : Option (Claim Names)

/-- The notation of the claims. -/
def record : Json.Record Draft where
  name := "struct ClaimsForValidation"
  blank := ⟨none, none, none, none, none⟩
  fields :=
    [ { key := "exp"
        isSet := fun p => p.expiry.isSome
        read := fun p => return { p with expiry := some (← claim (some <$> time)) }
        required := false
        requiredInList := false },
      { key := "nbf"
        isSet := fun p => p.notBefore.isSome
        read := fun p => return { p with notBefore := some (← claim (some <$> time)) }
        required := false
        requiredInList := false },
      { key := "sub"
        isSet := fun p => p.subject.isSome
        read := fun p =>
          return { p with subject := some (← claim (Json.Reader.optional Json.Reader.text)) }
        required := false
        requiredInList := true },
      { key := "iss"
        isSet := fun p => p.issuer.isSome
        read := fun p => return { p with issuer := some (← claim (Json.Reader.optional names)) }
        required := false
        requiredInList := true },
      { key := "aud"
        isSet := fun p => p.audience.isSome
        read := fun p => return { p with audience := some (← claim (Json.Reader.optional names)) }
        required := false
        requiredInList := true } ]

def ofDraft (p : Draft) : RegisteredClaims where
  expiry := p.expiry.getD .absent
  notBefore := p.notBefore.getD .absent
  subject := p.subject.getD .absent
  issuer := p.issuer.getD .absent
  audience := p.audience.getD .absent

/-- Read the claims of a payload. -/
def read? (payload : Bytes) : Option RegisteredClaims :=
  match Json.Reader.run record.read payload with
  | .ok p => some (ofDraft p)
  | .error _ => none

end RegisteredClaims

end DeviceAdmission.Jws
