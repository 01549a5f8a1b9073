import DeviceAdmission.Json.Record

/-!
# Headers of signed tokens

The header names the algorithm of the signature. Its other fields do not matter, but the ones with a
meaning of their own have to be of their types.
-/

namespace DeviceAdmission.Jws

/-- The algorithms that a header may name. -/
def algorithms : List String :=
  ["HS256", "HS384", "HS512", "ES256", "ES384", "RS256", "RS384", "RS512", "PS256", "PS384",
    "PS512", "EdDSA"]

/-- The algorithm of this service's tokens: RSA over SHA-256. -/
def algorithm : String := "RS256"

/-- Read the name of a variant, alone or as the one key of an object with a null. -/
def variantName : Json.Reader String := do
  let b ← Json.Reader.valueStart
  if b = 34 then Json.Reader.text
  else if b = 123 then
    Json.Reader.skip 1
    let name ← Json.Reader.text
    Json.Reader.colon
    match ← Json.Reader.peekPastSpace with
    | some 110 =>
      Json.Reader.skip 1
      Json.Reader.literal [117, 108, 108]
    | _ => Json.Reader.wrongType "unit"
    match ← Json.Reader.peekPastSpace with
    | some 125 => Json.Reader.skip 1
    | some _ => Json.Reader.failHere .valueExpected
    | none => Json.Reader.failHere .objectEnds
    pure name
  else Json.Reader.failNext .valueExpected

/-- Read the name of a known algorithm. -/
def algorithmName : Json.Reader String := do
  let name ← variantName
  if algorithms.contains name then pure name
  else Json.Reader.failHere (.unknownVariant name algorithms)

/-- Read a list of texts. -/
def texts : Json.Reader (List String) := do
  let b ← Json.Reader.valueStart
  if b = 91 then Json.Reader.listWith Json.Reader.text
  else Json.Reader.wrongType "a sequence"

/-! ## Keys in headers -/

/-- The values that the fields give to a key. -/
def valuesAt (fields : Json.Fields) (key : String) : List Json.Value :=
  (fields.filter (·.1 = key)).map (·.2)

/-- Whether a key has one value, which `ok` allows. -/
def isGiven (fields : Json.Fields) (key : String) (ok : Json.Value → Bool) : Bool :=
  match valuesAt fields key with
  | [v] => ok v
  | _ => false

/-- Whether a key is absent, or has one value that is null or that `ok` allows. -/
def isOptional (fields : Json.Fields) (key : String) (ok : Json.Value → Bool) : Bool :=
  (valuesAt fields key).isEmpty || isGiven fields key fun v => v.isNull || ok v

def isText (v : Json.Value) : Bool := v.text?.isSome

def isTexts : Json.Value → Bool
  | .list items => items.all isText
  | _ => false

/-- Whether a value is one of the names, alone or as the one key of an object with a value that
`unit` allows. -/
def isNamed (unit : Json.Value → Bool) (names : List String) : Json.Value → Bool
  | .text s => names.contains s
  | .object [(name, v)] => names.contains name && unit v
  | _ => false

/-- Whether a value is null or an empty object. -/
def isBlank : Json.Value → Bool
  | .null | .object [] => true
  | _ => false

def curves : List String := ["P-256", "P-384", "P-521", "Ed25519"]

/-- What the fields of a key of any type have to be, where they are given. -/
def keyFields : List (String × (Json.Value → Bool)) :=
  [("use", isText), ("key_ops", isTexts),
    ("alg", isNamed isBlank (algorithms ++ ["RSA1_5", "RSA-OAEP", "RSA-OAEP-256"])),
    ("kid", isText), ("x5u", isText), ("x5c", isTexts), ("x5t", isText), ("x5t#S256", isText)]

/-- The types of keys, each with what it has to give. -/
def keyTypes : List (List (String × (Json.Value → Bool))) :=
  let named (names : List String) := isNamed Json.Value.isNull names
  [[("kty", named ["EC"]), ("crv", named curves), ("x", isText), ("y", isText)],
    [("kty", named ["RSA"]), ("n", isText), ("e", isText)],
    [("kty", named ["oct"]), ("k", isText)],
    [("kty", named ["OKP"]), ("crv", named curves), ("x", isText)]]

/-- Whether a value describes a key of one of the types. -/
def isKey : Json.Value → Bool
  | .object fields =>
    (keyFields.all fun f => isOptional fields f.1 f.2) &&
      keyTypes.any fun type => type.all fun f => isGiven fields f.1 f.2
  | _ => false

/-- Read the description of a key. Its fields are looked at as they are written. -/
def key : Json.Reader Unit := do
  let v ← Json.Reader.value (Json.nestingLimit - 1)
  if isKey v then pure () else Json.Reader.failHere .valueExpected

/-! ## The header -/

/-- The fields of a header as far as they were read. -/
structure HeaderDraft where
  seen : List String
  algorithm : Option String

/-- An optional field that is checked and forgotten. -/
def checkedField {α : Type} (key : String) (reader : Json.Reader α) : Json.Field HeaderDraft where
  key := key
  isSet h := h.seen.contains key
  read h := do
    let _ ← Json.Reader.optional reader
    pure { h with seen := key :: h.seen }
  required := false
  requiredInList := true

def algorithmField : Json.Field HeaderDraft where
  key := "alg"
  isSet h := h.algorithm.isSome
  read h := return { h with algorithm := some (← algorithmName) }
  required := true
  requiredInList := true

/-- The notation of a header. -/
def headerRecord : Json.Record HeaderDraft where
  name := "struct Header"
  blank := ⟨[], none⟩
  fields :=
    [checkedField "typ" Json.Reader.text, algorithmField, checkedField "cty" Json.Reader.text,
      checkedField "jku" Json.Reader.text, checkedField "jwk" key,
      checkedField "kid" Json.Reader.text, checkedField "x5u" Json.Reader.text,
      checkedField "x5c" texts, checkedField "x5t" Json.Reader.text,
      checkedField "x5t#S256" Json.Reader.text]

/-- The algorithm that a header names. -/
def headerAlgorithm? (bytes : Bytes) : Option String :=
  match Json.Reader.run headerRecord.read bytes with
  | .ok h => h.algorithm
  | .error _ => none

end DeviceAdmission.Jws
