import DeviceAdmission.TokenClaims
import DeviceAdmission.Proofs.Json.Objects
import DeviceAdmission.Proofs.Token.Envelope

/-!
# Decoding the claims of a token

The claims that a token says are read back from it, whatever its texts hold. The main statement is
that a token made by the authority decodes to nothing but its own claims, and to these exactly when
its signature verifies and its expiry is not before 1970.
-/

namespace DeviceAdmission

namespace Json.Reader

/-- A text as the value of a field. -/
theorem reads_text_value (s : String) (rest : Bytes) :
    Reads text ((Value.text s).write ++ rest) s rest := by
  rw [Value.write]
  exact reads_text s rest

/-- An integer as the value of a field, from its first byte on. -/
theorem reads_scalar_value {i : Int} {rest : Bytes} (delimited : Delimited rest)
    (fits : fitsWord i = true) :
    ∃ b tail, (Value.number (.integer i)).write ++ rest = b :: tail ∧ isSpace b = false ∧
      Reads (scalar b) (b :: tail) (some (.number (.integer i))) rest := by
  rcases reads_scalar_integer delimited fits with ⟨b, more, written, notSpace, read⟩
  refine ⟨b, more ++ rest, ?_, notSpace, read⟩
  rw [Value.write, written]
  rfl

end Json.Reader

namespace TokenClaims

open Json Json.Reader Json.Record

/-- Whether the times of claims fit in 64 bits with their signs. -/
structure Fits (c : TokenClaims) : Prop where
  least_issuedAt : minSigned ≤ c.issuedAt
  issuedAt_most : c.issuedAt ≤ maxSigned
  least_expiry : minSigned ≤ c.expiry
  expiry_most : c.expiry ≤ maxSigned

theorem fitsWord_of_signed {i : Int} (least : minSigned ≤ i) (most : i ≤ maxSigned) :
    fitsWord i = true := by
  simp only [fitsWord, Bool.and_eq_true, decide_eq_true_eq]
  exact ⟨least, Int.le_trans most (by decide)⟩

theorem reads_integer {i : Int} {rest : Bytes} (delimited : Delimited rest)
    (least : minSigned ≤ i) (most : i ≤ maxSigned) :
    Reads integer ((Value.number (.integer i)).write ++ rest) i rest := by
  obtain ⟨b, tail, written, notSpace, read⟩ :=
    reads_scalar_value delimited (fitsWord_of_signed least most)
  rw [written]
  refine (reads_valueStart tail notSpace).bind (read.bind ?_)
  simp only [most, if_true]
  exact .pure i rest

/-- The fields that claims are written as. -/
def fields (c : TokenClaims) : Fields :=
  [("jti", .text c.id), ("sub", .text c.subject), ("iss", .text c.issuer),
    ("iat", .number (.integer c.issuedAt)), ("exp", .number (.integer c.expiry))] ++
  (if c.tenant.isEmpty then [] else [("tenant", Json.Value.text c.tenant)])

/-- What is read of claims. -/
def draft (c : TokenClaims) : Draft where
  id := some c.id
  subject := some c.subject
  issuer := some c.issuer
  issuedAt := some c.issuedAt
  expiry := some c.expiry
  tenant := if c.tenant.isEmpty then none else some c.tenant

theorem collects_fields {c : TokenClaims} (fits : c.Fits) :
    Collects record record.blank c.fields c.draft := by
  refine .known rfl rfl (fun rest _ => (reads_text_value c.id rest).bind (.pure _ rest)) ?_
  refine .known rfl rfl (fun rest _ => (reads_text_value c.subject rest).bind (.pure _ rest)) ?_
  refine .known rfl rfl (fun rest _ => (reads_text_value c.issuer rest).bind (.pure _ rest)) ?_
  refine .known rfl rfl (fun rest delimited =>
    (reads_integer delimited fits.least_issuedAt fits.issuedAt_most).bind (.pure _ rest)) ?_
  refine .known rfl rfl (fun rest delimited =>
    (reads_integer delimited fits.least_expiry fits.expiry_most).bind (.pure _ rest)) ?_
  unfold draft
  by_cases empty : c.tenant.isEmpty
  · simp only [empty, if_true]
    exact .done _
  · simp only [empty, Bool.false_eq_true, if_false]
    refine .known rfl rfl (fun rest _ => (reads_text_value c.tenant rest).bind (.pure _ rest)) ?_
    exact .done _

/-- Claims are read back from their document. -/
theorem read?_write {c : TokenClaims} (fits : c.Fits) : read? c.json.write = some c := by
  have complete : (record.fields.find? fun f => f.required && !f.isSet c.draft) = none := rfl
  have read : Reader.run record.read c.json.write = .ok c.draft :=
    run_read_object (collects_fields fits) complete
  have whole : ofDraft? c.draft = some c := by
    rcases c with ⟨id, subject, issuer, issuedAt, expiry, tenant⟩
    by_cases empty : tenant.isEmpty
    · have tenantEq : tenant = "" := String.isEmpty_iff.mp empty
      subst tenantEq
      rfl
    · simp [ofDraft?, draft, empty]
  simp only [read?, read, whole]

/-! ## What every verifier looks at -/

/-- What is read of the registered claims. -/
def registeredDraft (c : TokenClaims) : Jws.RegisteredClaims.Draft where
  expiry := some (.given c.expiry.toNat)
  notBefore := none
  subject := some (.given c.subject)
  issuer := some (.given (.one c.issuer))
  audience := none

theorem reads_claim {α : Type} {r : Reader (Option α)} {bytes rest : Bytes} {a : α}
    (h : Reads r bytes (some a) rest) :
    Reads (Jws.RegisteredClaims.claim r) bytes (.given a) rest :=
  h.attempt.bind (.pure _ rest)

/-- A text is not taken for a null. -/
theorem reads_optional_text {α : Type} {r : Reader α} {s : String} {rest : Bytes} {a : α}
    (h : Reads r ((Value.text s).write ++ rest) a rest) :
    Reads (optional r) ((Value.text s).write ++ rest) (some a) rest := by
  have written : ∃ tail, (Value.text s).write ++ rest = 34 :: tail := by
    rw [Value.write, writeText]
    exact ⟨_, rfl⟩
  rcases written with ⟨tail, written⟩
  rw [written] at h ⊢
  exact (reads_peekPastSpace tail (by decide)).bind (h.bind (.pure _ rest))

theorem reads_names (s : String) (rest : Bytes) :
    Reads Jws.RegisteredClaims.names ((Value.text s).write ++ rest) (.one s) rest := by
  have written : (Value.text s).write ++ rest =
      34 :: ((Utf8.encode s).flatMap escapeByte ++ 34 :: rest) := by
    simp [Value.write, writeText]
  have scalarRead : Reads (scalar 34) (34 :: ((Utf8.encode s).flatMap escapeByte ++ 34 :: rest))
      (some (.text s)) rest :=
    (reads_skip 1 _).bind ((reads_textContent s rest).bind (.pure _ rest))
  rw [written]
  refine Reads.bind (a := .text s) ?_ (.pure _ rest)
  exact (reads_valueStart _ (by decide)).bind (scalarRead.bind (.pure _ rest))

theorem reads_time {i : Int} {rest : Bytes} (delimited : Delimited rest) (least : 0 ≤ i)
    (most : i ≤ maxSigned) :
    Reads Jws.RegisteredClaims.time ((Value.number (.integer i)).write ++ rest) i.toNat rest := by
  have fits : fitsWord i = true := fitsWord_of_signed (Int.le_trans (by decide) least) most
  obtain ⟨b, tail, written, notSpace, read⟩ := reads_scalar_value delimited fits
  rw [written]
  refine (reads_valueStart tail notSpace).bind (read.bind ?_)
  simp only [least, if_true]
  exact .pure i.toNat rest

theorem collects_registered {c : TokenClaims} (fits : c.Fits) (least : 0 ≤ c.expiry) :
    Collects Jws.RegisteredClaims.record Jws.RegisteredClaims.record.blank c.fields
      c.registeredDraft := by
  refine .unknown rfl (passes_text c.id) ?_
  refine .known rfl rfl (fun rest _ =>
    (reads_claim (reads_optional_text (reads_text_value c.subject rest))).bind (.pure _ rest)) ?_
  refine .known rfl rfl (fun rest _ =>
    (reads_claim (reads_optional_text (reads_names c.issuer rest))).bind (.pure _ rest)) ?_
  refine .unknown rfl (passes_integer c.issuedAt) ?_
  refine .known rfl rfl (fun rest delimited =>
    (reads_claim ((reads_time delimited least fits.expiry_most).map some)).bind
      (.pure _ rest)) ?_
  by_cases empty : c.tenant.isEmpty
  · simp only [empty, if_true]
    exact .done _
  · simp only [empty, Bool.false_eq_true, if_false]
    exact .unknown rfl (passes_text c.tenant) (.done _)

/-- The registered claims of a token are those of its issuer. -/
theorem read?_registered {c : TokenClaims} (fits : c.Fits) (least : 0 ≤ c.expiry) :
    ∃ registered, Jws.RegisteredClaims.read? c.json.write = some registered ∧
      isOwn c.issuer registered = true := by
  have read : Reader.run Jws.RegisteredClaims.record.read c.json.write =
      .ok c.registeredDraft :=
    run_read_object (collects_registered fits least) rfl
  refine ⟨Jws.RegisteredClaims.ofDraft c.registeredDraft, ?_, ?_⟩
  · simp only [Jws.RegisteredClaims.read?, read]
  · simp [isOwn, Jws.RegisteredClaims.ofDraft, registeredDraft, Jws.Claim.isGiven]

/-! ## Decoding -/

variable {verifies : (message signature : Bytes) → Bool} {issuer : String}

/-- The token of claims under a signature decodes to nothing but these claims. -/
theorem eq_of_decode?_tokenOf {c d : TokenClaims} {signature : Bytes} (fits : c.Fits)
    (decoded : decode? verifies issuer (Jws.tokenOf c.json.write signature) = some d) : d = c := by
  unfold decode? at decoded
  rw [Jws.payload?_tokenOf] at decoded
  split at decoded
  · simp only [Option.bind_eq_bind, Option.bind_some, read?_write fits] at decoded
    rcases Option.bind_eq_some_iff.mp decoded with ⟨registered, -, own⟩
    split at own
    · exact (Option.some.inj own).symm
    · cases own
  · simp at decoded

/-- The token of claims decodes to them where its signature verifies and its expiry is not before
1970. -/
theorem decode?_tokenOf {c : TokenClaims} {signature : Bytes} (fits : c.Fits)
    (least : 0 ≤ c.expiry) (verified : verifies (Jws.message c.json.write) signature = true) :
    decode? verifies c.issuer (Jws.tokenOf c.json.write signature) = some c := by
  rcases read?_registered fits least with ⟨registered, read, own⟩
  unfold decode?
  rw [Jws.payload?_tokenOf, if_pos verified]
  simp only [Option.bind_eq_bind, Option.bind_some, read?_write fits, read, own, if_true]

/-- Claims were encoded exactly when the result is their token under a signature that was made. -/
theorem encode_eq_ok_iff {ε : Type} {makes : Bytes → Except ε Bytes} {c : TokenClaims}
    {raw : String} :
    c.encode makes = .ok raw ↔ ∃ signature, makes (Jws.message c.json.write) = .ok signature ∧
      raw = Jws.tokenOf c.json.write signature :=
  Jws.sign_eq_ok_iff

end TokenClaims

end DeviceAdmission
