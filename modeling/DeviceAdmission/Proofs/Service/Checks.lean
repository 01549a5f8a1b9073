import DeviceAdmission.Proofs.Crypto.RequestSignatures
import DeviceAdmission.Proofs.Service.Cards

/-!
# The checks of a submission

A submission passes seven checks before the store is called. Each of them is stated of the request,
its signature and its tenant token alone, so several may fail at once. The main statement is that
the first that fails decides the outcome and leaves the world as it was, and that the store is
called exactly where none fails.
-/

namespace DeviceAdmission

/-- The checks of a submission. -/
inductive Check where
  | decodes
  | namesIdentity
  | namesKey
  | isSigned
  | keyReadable
  | signatureValid
  | tenantKnown
  deriving DecidableEq, Repr

namespace Check

/-- The checks in their order. -/
def all : List Check :=
  [decodes, namesIdentity, namesKey, isSigned, keyReadable, signatureValid, tenantKnown]

/-- The checks that come before a check. -/
def earlier (c : Check) : List Check :=
  all.takeWhile (· ≠ c)

/-- The kind of the failure that a check reports. -/
def kind : Check → FailureKind
  | decodes | isSigned => .malformedInput
  | namesIdentity | namesKey | keyReadable => .validationFailed
  | signatureValid => .signatureInvalid
  | tenantKnown => .notEntitled

/-- What a check reports of a body where it fails. -/
inductive Reports (body : Bytes) : Check → Failure → Prop where
  | decodes {fault : Json.Fault} (undecoded : AuthRequest.decode body = .error fault) :
      Reports body .decodes (.malformed (.authRequest fault))
  | namesIdentity : Reports body .namesIdentity (.invalid .identityMissing)
  | namesKey : Reports body .namesKey (.invalid .keyMissing)
  | isSigned : Reports body .isSigned .signatureMissing
  | keyReadable : Reports body .keyReadable (.invalid .keyUnreadable)
  | signatureValid : Reports body .signatureValid .signatureInvalid
  | tenantKnown : Reports body .tenantKnown .notEntitled

variable {body : Bytes} {b c : Check} {f : Failure}

theorem mem_all (c : Check) : c ∈ all := by
  cases c <;> decide

theorem Reports.kind_eq (reports : c.Reports body f) : f.kind = c.kind := by
  cases reports <;> rfl

/-- No two checks report the same. -/
theorem Reports.unique (first : b.Reports body f) (second : c.Reports body f) : b = c := by
  cases first <;> cases second <;> rfl

end Check

/-! ## What the checks rest on -/

/-- An accepted signature is of a readable key, and the text of bytes that verify under it. -/
theorem SignatureScheme.accepts_trim_iff {scheme : SignatureScheme} {body : Bytes}
    {key signature : String} :
    scheme.accepts body key (Text.trim signature) = true ↔
      scheme.isReadable key = true ∧
        ∃ raw, Base64.decode? .standard (Text.trim signature) = some raw ∧ raw ≠ [] ∧
          scheme.verifies key body raw = true := by
  simp only [accepts_iff, Text.trim_trim, Base64.decode?_eq_some_iff]

/-- A tenant token that names no tenant is one of a request that is not entitled. -/
theorem TenantResolver.eq_notEntitled_of_resolve {r : TenantResolver} {wall : Int}
    {token : Option String} {e : Failure} (unresolved : r.resolve wall token = .error e) :
    e = .notEntitled := by
  cases r with
  | single => cases unresolved
  | passthrough => cases unresolved
  | signed verifies =>
      simp only [resolve] at unresolved
      split at unresolved
      · cases unresolved
        rfl
      split at unresolved
      · split at unresolved
        · cases unresolved
          rfl
        · cases unresolved
      · cases unresolved
        rfl

/-- What an action calls comes after the calls that were made before. -/
theorem Action.Makes.exists_calls {α : Type} {P : ⦃γ : Type⦄ → StoreCall γ → Prop}
    {x : Action α} {w : World} (makes : x.Makes P w.now w.wallSeconds) :
    ∃ made, (x.run w).2.calls = made ++ w.calls := by
  have kept : ((x.run w).2.now = w.now ∧ (x.run w).2.wallSeconds = w.wallSeconds) ∧
      ∃ made, (x.run w).2.calls = made ++ w.calls := by
    refine makes.invariant (I := fun w' => (w'.now = w.now ∧ w'.wallSeconds = w.wallSeconds) ∧
      ∃ made, w'.calls = made ++ w.calls) (fun _ holds => holds.1) ?_ ⟨⟨rfl, rfl⟩, [], rfl⟩
    rintro limit γ c - w' ⟨clocks, made, before⟩
    exact ⟨clocks, c.site :: made, congrArg (c.site :: ·) before⟩
  exact kept.2

/-! ## The first check that fails -/

namespace Admission

variable {s : Admission} {wall : Int} {body : Bytes} {signature : Option String}
variable {request : AuthRequest} {c : Check} {e : Failure}

/-- Whether a submission passes a check, at a time of the clock that tenant tokens are judged by. -/
def Passes (s : Admission) (wall : Int) (body : Bytes) (signature : Option String) : Check → Prop
  | .decodes => ∃ request, AuthRequest.decode body = .ok request
  | .namesIdentity => ∃ request, AuthRequest.decode body = .ok request ∧ request.identityData ≠ ""
  | .namesKey => ∃ request, AuthRequest.decode body = .ok request ∧ request.publicKey ≠ ""
  | .isSigned => Text.trim (signature.getD "") ≠ ""
  | .keyReadable => ∃ request, AuthRequest.decode body = .ok request ∧
      s.signatures.isReadable request.publicKey = true
  | .signatureValid => ∃ request raw, AuthRequest.decode body = .ok request ∧
      Base64.decode? .standard (Text.trim (signature.getD "")) = some raw ∧ raw ≠ [] ∧
      s.signatures.verifies request.publicKey body raw = true
  | .tenantKnown => ∃ request tenant, AuthRequest.decode body = .ok request ∧
      s.tenants.resolve wall request.tenantToken = .ok tenant

/-- Whether a check is the first that a submission fails. -/
structure FirstFailing (s : Admission) (wall : Int) (body : Bytes) (signature : Option String)
    (c : Check) : Prop where
  fails : ¬s.Passes wall body signature c
  earlier : ∀ b ∈ c.earlier, s.Passes wall body signature b

/-- A submission that does not pass all checks fails one of them first. -/
theorem exists_firstFailing (failing : ¬∀ c, s.Passes wall body signature c) :
    ∃ c, s.FirstFailing wall body signature c := by
  classical
  cases found : Check.all.find? fun c => ¬s.Passes wall body signature c with
  | none =>
      exfalso
      apply failing
      intro c
      have passes := List.find?_eq_none.mp found c c.mem_all
      simpa using passes
  | some c =>
      rcases List.find?_eq_some_iff_append.mp found with ⟨fails, before, after, split, others⟩
      have fails : ¬s.Passes wall body signature c := of_decide_eq_true fails
      have passes : ∀ b ∈ before, s.Passes wall body signature b := by
        intro b member
        simpa using others b member
      have earlierEq : c.earlier = before := by
        rw [Check.earlier, split, List.takeWhile_append_of_pos, List.takeWhile_cons_of_neg,
          List.append_nil]
        · simp
        · intro b member
          apply decide_eq_true
          rintro rfl
          exact fails (passes b member)
      refine ⟨c, fails, ?_⟩
      rw [earlierEq]
      exact passes

/-! ## The outcome of the checks -/

/-- The checks of a request that decodes, one after another. -/
theorem check_of_decode (decoded : AuthRequest.decode body = .ok request) :
    s.check wall body signature =
      if request.identityData = "" then .error (.invalid .identityMissing)
      else if request.publicKey = "" then .error (.invalid .keyMissing)
      else if Text.trim (signature.getD "") = "" then .error .signatureMissing
      else if s.signatures.isReadable request.publicKey = false then
        .error (.invalid .keyUnreadable)
      else if s.signatures.accepts body request.publicKey (Text.trim (signature.getD "")) = false
        then .error .signatureInvalid
      else (s.tenants.resolve wall request.tenantToken).map fun tenant => (request, tenant) := by
  simp only [check, AuthRequest.parse, AuthRequest.validate, decoded, Except.mapError, Bind.bind,
    Except.bind, String.isEmpty_iff, Bool.not_eq_true']
  by_cases nameless : request.identityData = ""
  · simp only [nameless, if_true]
  by_cases keyless : request.publicKey = ""
  · simp only [nameless, keyless, if_true, if_false]
  simp only [nameless, keyless, if_false]
  cases s.tenants.resolve wall request.tenantToken <;> rfl

variable {w : World} {ids : FreshIds} {tenant : Tenant}

/-- What the checks mean for a request that decodes. -/
theorem passes_iff (s : Admission) (wall : Int) (signature : Option String)
    (decoded : AuthRequest.decode body = .ok request) :
    (s.Passes wall body signature .namesIdentity ↔ request.identityData ≠ "") ∧
      (s.Passes wall body signature .namesKey ↔ request.publicKey ≠ "") ∧
      (s.Passes wall body signature .keyReadable ↔
        s.signatures.isReadable request.publicKey = true) ∧
      (s.Passes wall body signature .signatureValid ↔
        ∃ raw, Base64.decode? .standard (Text.trim (signature.getD "")) = some raw ∧ raw ≠ [] ∧
          s.signatures.verifies request.publicKey body raw = true) ∧
      (s.Passes wall body signature .tenantKnown ↔
        ∃ tenant, s.tenants.resolve wall request.tenantToken = .ok tenant) := by
  simp [Passes, decoded]

/-- The first check that fails decides what the checks of a request that decodes end with. -/
theorem FirstFailing.reports_of_decode (first : s.FirstFailing wall body signature c)
    (decoded : AuthRequest.decode body = .ok request) :
    ∃ f, c.Reports body f ∧ s.check wall body signature = .error f := by
  obtain ⟨named, keyed, readable, valid, known⟩ := s.passes_iff wall signature decoded
  rw [check_of_decode decoded]
  have fails := first.fails
  have passes := first.earlier
  cases c with
  | decodes => exact absurd ⟨request, decoded⟩ fails
  | namesIdentity =>
      rw [named, Ne, Decidable.not_not] at fails
      exact ⟨_, .namesIdentity, if_pos fails⟩
  | namesKey =>
      rw [keyed, Ne, Decidable.not_not] at fails
      rw [if_neg (named.mp (passes _ (by decide)))]
      exact ⟨_, .namesKey, if_pos fails⟩
  | isSigned =>
      rw [if_neg (named.mp (passes _ (by decide))), if_neg (keyed.mp (passes _ (by decide)))]
      exact ⟨_, .isSigned, if_pos (Decidable.not_not.mp fails)⟩
  | keyReadable =>
      rw [readable, Bool.not_eq_true] at fails
      rw [if_neg (named.mp (passes _ (by decide))), if_neg (keyed.mp (passes _ (by decide))),
        if_neg (passes .isSigned (by decide))]
      exact ⟨_, .keyReadable, if_pos fails⟩
  | signatureValid =>
      have isReadable := readable.mp (passes _ (by decide))
      have refused : s.signatures.accepts body request.publicKey
          (Text.trim (signature.getD "")) = false := by
        rw [← Bool.not_eq_true, SignatureScheme.accepts_trim_iff]
        rintro ⟨-, accepted⟩
        exact fails (valid.mpr accepted)
      rw [if_neg (named.mp (passes _ (by decide))), if_neg (keyed.mp (passes _ (by decide))),
        if_neg (passes .isSigned (by decide)), if_neg (by rw [isReadable]; decide)]
      exact ⟨_, .signatureValid, if_pos refused⟩
  | tenantKnown =>
      have isReadable := readable.mp (passes _ (by decide))
      have accepted := SignatureScheme.accepts_trim_iff.mpr
        ⟨isReadable, valid.mp (passes _ (by decide))⟩
      rw [if_neg (named.mp (passes _ (by decide))), if_neg (keyed.mp (passes _ (by decide))),
        if_neg (passes .isSigned (by decide)), if_neg (by rw [isReadable]; decide),
        if_neg (by rw [accepted]; decide)]
      cases resolved : s.tenants.resolve wall request.tenantToken with
      | error e =>
          cases TenantResolver.eq_notEntitled_of_resolve resolved
          exact ⟨_, .tenantKnown, rfl⟩
      | ok tenant => exact absurd (known.mpr ⟨tenant, resolved⟩) fails

/-- The first check that fails decides what the checks end with. -/
theorem FirstFailing.reports (first : s.FirstFailing wall body signature c) :
    ∃ f, c.Reports body f ∧ s.check wall body signature = .error f := by
  cases decoded : AuthRequest.decode body with
  | ok request => exact first.reports_of_decode decoded
  | error fault =>
      have undecoded : ¬s.Passes wall body signature .decodes := by
        simp [Passes, decoded]
      cases c with
      | decodes =>
          refine ⟨_, .decodes decoded, ?_⟩
          simp only [check, AuthRequest.parse, decoded, Except.mapError, Bind.bind, Except.bind]
      | _ => exact absurd (first.earlier .decodes (by decide)) undecoded

/-- A submission that passes all checks gets its request and its tenant from them. -/
theorem exists_checked (passes : ∀ c, s.Passes wall body signature c) :
    ∃ request tenant, s.check wall body signature = .ok (request, tenant) := by
  obtain ⟨request, decoded⟩ := passes .decodes
  obtain ⟨named, keyed, readable, valid, known⟩ := s.passes_iff wall signature decoded
  obtain ⟨tenant, resolved⟩ := known.mp (passes _)
  have isReadable := readable.mp (passes _)
  have accepted := SignatureScheme.accepts_trim_iff.mpr ⟨isReadable, valid.mp (passes _)⟩
  refine ⟨request, tenant, ?_⟩
  rw [check_of_decode decoded, if_neg (named.mp (passes _)), if_neg (keyed.mp (passes _)),
    if_neg (passes .isSigned), if_neg (by rw [isReadable]; decide),
    if_neg (by rw [accepted]; decide), resolved]
  rfl

/-- A submission that the checks refuse has not failed in the store. -/
theorem call?_of_check_error (failed : s.check wall body signature = .error e) :
    e.call? = none := by
  have failing : ¬∀ c, s.Passes wall body signature c := by
    intro passes
    obtain ⟨request, tenant, checked⟩ := exists_checked passes
    rw [failed] at checked
    cases checked
  obtain ⟨c, first⟩ := exists_firstFailing failing
  obtain ⟨f, reports, reported⟩ := first.reports
  rw [failed] at reported
  cases reported
  cases reports <;> rfl

/-! ## The submission -/

theorem run_submit_of_check_error {e : Failure}
    (failed : s.check w.wallSeconds body signature = .error e) :
    (s.submit ids body signature).run w = (.error e, w) := by
  apply Action.run_bind_error
  rw [grant, Action.run_bind_ok (Action.run_wallSeconds w)]
  apply Action.run_bind_error
  rw [Action.run_ofExcept, failed]

/-- The look-up of a device calls the store. -/
theorem exists_calls_lookUpDevice (s : Admission) (newId : String) (tenant : Tenant)
    (request : AuthRequest) (w : World) :
    ∃ made, ((s.lookUpDevice newId tenant request).run w).2.calls =
      made ++ ⟨.getOrCreate, tenant, some newId⟩ :: w.calls := by
  rw [lookUpDevice, Action.run_bind_ok (Action.run_now w), Action.run_bind]
  split
  · rename_i found w₁ called
    have calls : w₁.calls = ⟨.getOrCreate, tenant, some newId⟩ :: w.calls := by
      rw [← (Prod.mk.inj called).2]
      rfl
    rw [← calls]
    refine Action.Makes.exists_calls (P := fun _ _ => True) ?_
    dsimp only
    split
    · exact .pure _
    split
    · exact .fail _
    refine .bind (.call _ trivial) fun rotated _ => ?_
    cases rotated with
    | false => exact .fail _
    | true => exact .pure _
  · rename_i e w₁ called
    refine ⟨[], ?_⟩
    rw [← (Prod.mk.inj called).2]
    rfl

/-- A submission that passes the checks calls the store. -/
theorem exists_calls_submit
    (checked : s.check w.wallSeconds body signature = .ok (request, tenant)) :
    ∃ made, ((s.submit ids body signature).run w).2.calls =
      made ++ ⟨.getOrCreate, tenant, some ids.device⟩ :: w.calls := by
  have goes : (Action.ofExcept (s.check w.wallSeconds body signature)).run w =
      (.ok (request, tenant), w) := by
    rw [Action.run_ofExcept, checked]
  rw [submit, Action.run_map_snd, grant, Action.run_bind_ok (Action.run_wallSeconds w),
    Action.run_bind_ok goes, Action.run_bind]
  obtain ⟨made, calls⟩ := s.exists_calls_lookUpDevice ids.device tenant request w
  split
  · rename_i device w₁ lookedUp
    rw [lookedUp] at calls
    let scope : Scope := ⟨tenant, none, some ids.token, none⟩
    have makes : (s.authority.issue ids.token tenant device.id).Makes
        (scope.Covers s.authority w₁.now) w₁.now w₁.wallSeconds := Authority.makes_issue rfl rfl
    obtain ⟨later, after⟩ := makes.exists_calls
    refine ⟨later ++ made, ?_⟩
    rw [after, calls, List.append_assoc]
  · rename_i e w₁ lookedUp
    rw [lookedUp] at calls
    exact ⟨made, calls⟩

/-- The first check that a submission fails decides its outcome, which leaves the world as it was;
and it is where no check fails that the store is called, first for the device. -/
theorem submit_decided_by_checks (s : Admission) (ids : FreshIds) (body : Bytes)
    (signature : Option String) (w : World) :
    (∀ c, s.FirstFailing w.wallSeconds body signature c ↔
      ∃ f, c.Reports body f ∧ f.kind = c.kind ∧
        (s.submit ids body signature).run w = (.error f, w)) ∧
      ((∀ c, s.Passes w.wallSeconds body signature c) ↔
        ∃ tenant made, ((s.submit ids body signature).run w).2.calls =
          made ++ ⟨.getOrCreate, tenant, some ids.device⟩ :: w.calls) := by
  have decided : ∀ c, s.FirstFailing w.wallSeconds body signature c →
      ∃ f, c.Reports body f ∧ f.kind = c.kind ∧
        (s.submit ids body signature).run w = (.error f, w) := by
    intro c first
    obtain ⟨f, reports, failed⟩ := first.reports
    exact ⟨f, reports, reports.kind_eq, run_submit_of_check_error failed⟩
  have called : (∀ c, s.Passes w.wallSeconds body signature c) →
      ∃ tenant made, ((s.submit ids body signature).run w).2.calls =
        made ++ ⟨.getOrCreate, tenant, some ids.device⟩ :: w.calls := by
    intro passes
    obtain ⟨request, tenant, checked⟩ := exists_checked passes
    exact ⟨tenant, exists_calls_submit checked⟩
  -- A submission that leaves the calls as they were has not called the store.
  have still : ∀ f, (s.submit ids body signature).run w = (.error f, w) →
      ¬∃ tenant made, ((s.submit ids body signature).run w).2.calls =
        made ++ ⟨.getOrCreate, tenant, some ids.device⟩ :: w.calls := by
    rintro f ran ⟨tenant, made, calls⟩
    rw [ran] at calls
    have lengths := congrArg List.length calls
    simp only [List.length_append, List.length_cons] at lengths
    omega
  constructor
  · intro c
    constructor
    · exact decided c
    · rintro ⟨f, reports, -, ran⟩
      have failing : ¬∀ c, s.Passes w.wallSeconds body signature c :=
        fun passes => still f ran (called passes)
      obtain ⟨b, first⟩ := exists_firstFailing failing
      obtain ⟨g, reported, -, ran'⟩ := decided b first
      rw [ran'] at ran
      cases ran
      rw [reports.unique reported]
      exact first
  · constructor
    · exact called
    · intro calls
      by_contra failing
      obtain ⟨b, first⟩ := exists_firstFailing failing
      obtain ⟨f, -, -, ran⟩ := decided b first
      exact still f ran calls

end Admission

end DeviceAdmission
