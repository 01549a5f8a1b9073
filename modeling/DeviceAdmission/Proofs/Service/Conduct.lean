import DeviceAdmission.Proofs.Service.Effects
import DeviceAdmission.Proofs.Store.Statuses

/-!
# The calls that an operation makes

An operation is put together from calls of the store and from steps that leave it alone. What every
call that it makes preserves, it preserves itself, in one run or in two side by side. So it is
enough to know of each operation which calls it makes: all are about one tenant, and they register a
device, put a token and set a status only as the operation says.
-/

namespace DeviceAdmission

namespace Action

variable {α β : Type} {now : Instant} {wall : Int}

/-- Whether an action can give a value at a time. -/
def Gives (x : Action α) (now : Instant) (wall : Int) (a : α) : Prop :=
  ∃ w w', w.now = now ∧ w.wallSeconds = wall ∧ x.run w = (.ok a, w')

/-- Whether all the calls that an action makes at a time are among the given ones. -/
inductive Makes (P : ⦃γ : Type⦄ → StoreCall γ → Prop) (now : Instant) (wall : Int) :
    {α : Type} → Action α → Prop where
  | pure {α : Type} (a : α) : Makes P now wall (pure a : Action α)
  | fail {α : Type} (e : Failure) : Makes P now wall (fail e : Action α)
  | ofExcept {α : Type} (r : Except Failure α) : Makes P now wall (ofExcept r)
  | now : Makes P now wall Action.now
  | wallSeconds : Makes P now wall Action.wallSeconds
  | call {α : Type} (limit : Nat) {c : StoreCall α} (allowed : P c) :
      Makes P now wall (call limit c)
  | attempt {α : Type} {x : Action α} (inner : Makes P now wall x) : Makes P now wall (attempt x)
  | bind {α β : Type} {x : Action α} {f : α → Action β} (first : Makes P now wall x)
      (second : ∀ a, x.Gives now wall a → Makes P now wall (f a)) : Makes P now wall (x >>= f)

variable {P Q : ⦃γ : Type⦄ → StoreCall γ → Prop}

theorem Gives.eq_of_now {time : Instant} (h : Action.now.Gives now wall time) : time = now := by
  rcases h with ⟨w, w', rfl, -, ran⟩
  cases ran
  rfl

theorem Gives.eq_of_wallSeconds {seconds : Int} (h : Action.wallSeconds.Gives now wall seconds) :
    seconds = wall := by
  rcases h with ⟨w, w', -, rfl, ran⟩
  cases ran
  rfl

theorem Gives.of_ofExcept {r : Except Failure α} {a : α} (h : (ofExcept r).Gives now wall a) :
    r = .ok a := by
  obtain ⟨w, w', -, -, ran⟩ := h
  exact (Prod.mk.inj ran).1

theorem Makes.mono {x : Action α} (makes : x.Makes P now wall)
    (included : ∀ ⦃γ : Type⦄ (c : StoreCall γ), P c → Q c) : x.Makes Q now wall := by
  induction makes with
  | pure a => exact .pure a
  | fail e => exact .fail e
  | ofExcept r => exact .ofExcept r
  | now => exact .now
  | wallSeconds => exact .wallSeconds
  | call limit allowed => exact .call limit (included _ allowed)
  | attempt inner ih => exact .attempt ih
  | bind first second firstIh secondIh => exact .bind firstIh secondIh

/-- Two worlds that are related stay so and give the same answers, if it is so for every call. -/
theorem Makes.related {R : World → World → Prop} {x : Action α} (makes : x.Makes P now wall)
    (clocks : ∀ w w', R w w' →
      (w.now = now ∧ w.wallSeconds = wall) ∧ w'.now = now ∧ w'.wallSeconds = wall)
    (calls : ∀ (limit : Nat) ⦃γ : Type⦄ (c : StoreCall γ), P c → ∀ w w', R w w' →
      ((Action.call limit c).run w).1 = ((Action.call limit c).run w').1 ∧
        R ((Action.call limit c).run w).2 ((Action.call limit c).run w').2) :
    ∀ w w', R w w' → (x.run w).1 = (x.run w').1 ∧ R (x.run w).2 (x.run w').2 := by
  induction makes with
  | pure a => exact fun w w' related => ⟨rfl, related⟩
  | fail e => exact fun w w' related => ⟨rfl, related⟩
  | ofExcept r => exact fun w w' related => ⟨rfl, related⟩
  | now =>
      intro w w' related
      rcases clocks w w' related with ⟨⟨nowEq, -⟩, nowEq', -⟩
      exact ⟨congrArg Except.ok (nowEq.trans nowEq'.symm), related⟩
  | wallSeconds =>
      intro w w' related
      rcases clocks w w' related with ⟨⟨-, wallEq⟩, -, wallEq'⟩
      exact ⟨congrArg Except.ok (wallEq.trans wallEq'.symm), related⟩
  | call limit allowed => exact calls limit _ allowed
  | attempt inner ih =>
      intro w w' related
      rcases ih w w' related with ⟨same, after⟩
      exact ⟨congrArg Except.ok same, after⟩
  | @bind _ _ x f first second firstIh secondIh =>
      intro w w' related
      rcases firstIh w w' related with ⟨same, middle⟩
      rw [run_bind, run_bind]
      cases ran : x.run w with
      | mk result w₁ =>
          cases ran' : x.run w' with
          | mk result' w₁' =>
              rw [ran, ran'] at same middle
              have same : result = result' := same
              subst same
              cases result with
              | error e => exact ⟨rfl, middle⟩
              | ok a =>
                  rcases clocks w w' related with ⟨⟨nowEq, wallEq⟩, -⟩
                  exact secondIh a ⟨w, w₁, nowEq, wallEq, ran⟩ w₁ w₁' middle

/-- What every call preserves holds after an action if it held before. -/
theorem Makes.invariant {I : World → Prop} {x : Action α} {w : World} (makes : x.Makes P now wall)
    (clocks : ∀ w, I w → w.now = now ∧ w.wallSeconds = wall)
    (calls : ∀ (limit : Nat) ⦃γ : Type⦄ (c : StoreCall γ), P c → ∀ w, I w →
      I ((Action.call limit c).run w).2) (holds : I w) : I (x.run w).2 := by
  have both : ∀ w w', w = w' ∧ I w → (x.run w).1 = (x.run w').1 ∧ (x.run w).2 = (x.run w').2 ∧
      I (x.run w).2 := by
    apply makes.related
    · rintro w _ ⟨rfl, holds⟩
      exact ⟨clocks w holds, clocks w holds⟩
    · rintro limit γ c allowed w _ ⟨rfl, holds⟩
      exact ⟨rfl, rfl, calls limit c allowed w holds⟩
  exact (both w w ⟨rfl, holds⟩).2.2

/-- What an action that makes such calls does to the tokens. -/
theorem Makes.evolves {new : StoreKind → TokenEntry → Prop} {x : Action α} {w : World}
    (makes : x.Makes P now wall) (nowEq : w.now = now) (wallEq : w.wallSeconds = wall)
    (allowed : ∀ ⦃γ : Type⦄ (c : StoreCall γ), P c → ∀ t, c.candidate? = some t →
      ∀ kind : StoreKind, new kind (kind.tokenEntry t)) : w.Evolves new (x.run w).2 := by
  have both : w.Evolves new (x.run w).2 ∧ (x.run w).2.wallSeconds = wall := by
    refine makes.invariant (I := fun w' => w.Evolves new w' ∧ w'.wallSeconds = wall) ?_ ?_
      ⟨.refl w, wallEq⟩
    · rintro w' ⟨evolved, same⟩
      exact ⟨evolved.now.trans nowEq, same⟩
    · rintro limit γ c made w' ⟨evolved, same⟩
      have moved : w'.Evolves new ((Action.call limit c).run w').2 :=
        evolves_call limit fun t candidate => allowed c made t candidate _
      exact ⟨evolved.trans moved, same⟩
  exact both.1

end Action

/-! ## What a call creates and sets -/

/-- What an operation is about: a tenant, the ids for a device and a token that it may create, and
the status that it sets. -/
structure Scope where
  tenant : Tenant
  newDevice? : Option String
  newToken? : Option String
  status? : Option (String × DeviceStatus)
  deriving DecidableEq

/-- What an operation is about that creates and sets nothing. -/
def Scope.reading (tenant : Tenant) : Scope :=
  ⟨tenant, none, none, none⟩

/-- Whether a call of an operation keeps to what the operation is about. -/
structure Scope.Covers (scope : Scope) (a : Authority) (now : Instant) ⦃α : Type⦄
    (c : StoreCall α) : Prop where
  tenant : c.tenant = scope.tenant
  device : ∀ d, c.newDevice? = some d → scope.newDevice? = some d.id ∧ d.status = .pending
  token : ∀ t, c.candidate? = some t →
    ∃ id deviceId, scope.newToken? = some id ∧ a.mint id scope.tenant deviceId now = .ok t
  status : ∀ e, c.newStatus? = some e → scope.status? = some e

theorem Scope.Covers.of_tenant {scope : Scope} {a : Authority} {now : Instant} {α : Type}
    {c : StoreCall α} (device : c.newDevice? = none) (token : c.candidate? = none)
    (status : c.newStatus? = none) (tenant : c.tenant = scope.tenant) :
    scope.Covers a now c := by
  constructor
  · exact tenant
  · rw [device]
    rintro d ⟨⟩
  · rw [token]
    rintro t ⟨⟩
  · rw [status]
    rintro e ⟨⟩

/-! ## The authority -/

namespace Authority

variable {a : Authority} {scope : Scope} {now : Instant} {wall : Int}
variable {tenant : Tenant} {deviceId tokenId raw : String}

theorem makes_ensureAccepted (tenantEq : tenant = scope.tenant) :
    (a.ensureAccepted tenant deviceId).Makes (scope.Covers a now) now wall := by
  refine .bind (.call _ (.of_tenant rfl rfl rfl tenantEq)) fun found _ => ?_
  cases found with
  | none => exact .fail .notEntitled
  | some device =>
      dsimp only
      split
      · exact .pure ()
      · exact .fail .notEntitled

theorem makes_issue (tenantEq : tenant = scope.tenant) (tokenEq : scope.newToken? = some tokenId) :
    (a.issue tokenId tenant deviceId).Makes (scope.Covers a now) now wall := by
  refine .bind (makes_ensureAccepted tenantEq) fun _ _ => .bind .now fun time given => ?_
  rw [given.eq_of_now]
  refine .bind (.ofExcept _) fun candidate made => ?_
  have minted : a.mint tokenId scope.tenant deviceId now = .ok candidate := by
    rw [← tenantEq]
    exact made.of_ofExcept
  have covered : scope.Covers a now (.insertOrGetLive candidate now) := by
    constructor
    · exact (minting minted).tenantEq
    · rintro d ⟨⟩
    · rintro t ⟨⟩
      exact ⟨tokenId, deviceId, tokenEq, minted⟩
    · rintro e ⟨⟩
  refine .bind (.call _ covered) fun t _ => ?_
  refine .bind (.attempt (makes_ensureAccepted tenantEq)) fun again _ => ?_
  cases again with
  | ok _ => exact .pure t
  | error e =>
      exact .bind (.call _ (.of_tenant rfl rfl rfl tenantEq)) fun _ _ => .fail e

/-- What the verification of a raw token is about: the tenant in its claims, if it has any. -/
def scope? (a : Authority) (raw : String) : Option Scope :=
  (TokenClaims.decode? a.keys.verifies a.policy.issuer raw).map fun claims =>
    .reading ⟨claims.tenant⟩

/-- A verification creates nothing and sets nothing. -/
theorem exists_reading_of_scope? (known : a.scope? raw = some scope) :
    ∃ tenant, scope = .reading tenant := by
  rcases Option.map_eq_some_iff.mp known with ⟨claims, -, rfl⟩
  exact ⟨_, rfl⟩

theorem makes_verify (a : Authority) (raw : String) (now : Instant) (wall : Int) :
    (a.verify raw).Makes (fun _ c => ∃ scope, a.scope? raw = some scope ∧ scope.Covers a now c)
      now wall := by
  unfold verify scope?
  cases decoded : TokenClaims.decode? a.keys.verifies a.policy.issuer raw with
  | none => exact .fail .tokenInvalid
  | some claims =>
      refine .bind .now fun time _ => ?_
      dsimp only
      split
      · exact .fail .tokenExpired
      · refine .bind (.call _ ⟨_, rfl, .of_tenant rfl rfl rfl rfl⟩) fun found _ => ?_
        cases found with
        | none => exact .fail .tokenInvalid
        | some token =>
            dsimp only
            split
            · exact .fail .tokenInvalid
            · refine .bind (.call _ ⟨_, rfl, .of_tenant rfl rfl rfl rfl⟩) fun device? _ => ?_
              cases device? with
              | none => exact .fail .tokenInvalid
              | some device =>
                  dsimp only
                  split
                  · exact .pure _
                  · exact .fail .tokenInvalid

theorem makes_revoke (tenantEq : tenant = scope.tenant) :
    (a.revoke tenant tokenId).Makes (scope.Covers a now) now wall := by
  refine .bind (.call _ (.of_tenant rfl rfl rfl tenantEq)) fun found _ => ?_
  cases found with
  | false => exact .fail .tokenNotFound
  | true => exact .pure ()

theorem makes_onStatusChanged {status : DeviceStatus} (tenantEq : tenant = scope.tenant) :
    (a.onStatusChanged tenant deviceId status).Makes (scope.Covers a now) now wall := by
  unfold onStatusChanged
  split
  · exact .call _ (.of_tenant rfl rfl rfl tenantEq)
  · exact .pure 0

end Authority

/-! ## The admission -/

namespace Admission

variable {s : Admission} {scope : Scope} {now : Instant} {wall : Int}
variable {tenant : Tenant} {deviceId newId : String}

theorem makes_lookUpDevice (request : AuthRequest) (tenantEq : tenant = scope.tenant)
    (deviceEq : scope.newDevice? = some newId) :
    (s.lookUpDevice newId tenant request).Makes (scope.Covers s.authority now) now wall := by
  refine .bind .now fun time _ => ?_
  have covered : scope.Covers s.authority now (.getOrCreate (.firstSeen newId tenant
      request.identityData request.publicKey time)) := by
    constructor
    · exact tenantEq
    · rintro d ⟨⟩
      exact ⟨deviceEq, rfl⟩
    · rintro t ⟨⟩
    · rintro e ⟨⟩
  refine .bind (.call _ covered) fun found _ => ?_
  rcases found with ⟨device, created⟩
  dsimp only
  split
  · exact .pure device
  · split
    · exact .fail .notEntitled
    · refine .bind (.call _ (.of_tenant rfl rfl rfl tenantEq)) fun rotated _ => ?_
      cases rotated with
      | false => exact .fail .notEntitled
      | true => exact .pure device

/-- What a signed request is about: the tenant that its checks give, if it passes them. -/
def scope? (s : Admission) (wall : Int) (ids : FreshIds) (body : Bytes)
    (signature : Option String) : Option Scope :=
  (s.check wall body signature).toOption.map fun checked =>
    ⟨checked.2, some ids.device, some ids.token, none⟩

theorem makes_grant (s : Admission) (ids : FreshIds) (body : Bytes) (signature : Option String)
    (now : Instant) (wall : Int) :
    (s.grant ids body signature).Makes (fun _ c => ∃ scope,
      s.scope? wall ids body signature = some scope ∧ scope.Covers s.authority now c) now
      wall := by
  refine .bind .wallSeconds fun seconds given => ?_
  rw [given.eq_of_wallSeconds]
  refine .bind (.ofExcept _) fun checked made => ?_
  rcases checked with ⟨request, tenant⟩
  let scope : Scope := ⟨tenant, some ids.device, some ids.token, none⟩
  have both : (s.lookUpDevice ids.device tenant request >>= fun device =>
      s.authority.issue ids.token tenant device.id).Makes (scope.Covers s.authority now) now wall :=
    .bind (makes_lookUpDevice request rfl rfl) fun device _ => Authority.makes_issue rfl rfl
  apply both.mono
  intro γ c covered
  refine ⟨scope, ?_, covered⟩
  rw [scope?, made.of_ofExcept]
  rfl

theorem makes_setStatus {status : DeviceStatus} (tenantEq : tenant = scope.tenant)
    (statusEq : scope.status? = some (deviceId, status)) :
    (s.setStatus tenant deviceId status).Makes (scope.Covers s.authority now) now wall := by
  refine .bind .now fun time _ => ?_
  have covered : scope.Covers s.authority now (.updateStatus tenant deviceId status time) := by
    constructor
    · exact tenantEq
    · rintro d ⟨⟩
    · rintro t ⟨⟩
    · rintro e ⟨⟩
      exact statusEq
  refine .bind (.call _ covered) fun known _ => ?_
  cases known with
  | false => exact .fail .deviceNotFound
  | true => exact .bind (Authority.makes_onStatusChanged tenantEq) fun _ _ => .pure ()

theorem makes_getDevice (tenantEq : tenant = scope.tenant) :
    (s.getDevice tenant deviceId).Makes (scope.Covers s.authority now) now wall := by
  refine .bind (.call _ (.of_tenant rfl rfl rfl tenantEq)) fun found _ => ?_
  cases found with
  | none => exact .fail .deviceNotFound
  | some device => exact .pure device

theorem makes_listDevices {request : PageRequest} (tenantEq : tenant = scope.tenant) :
    (s.listDevices tenant request).Makes (scope.Covers s.authority now) now wall :=
  .bind (.call _ (.of_tenant rfl rfl rfl tenantEq)) fun _ _ => .pure _

end Admission

/-! ## Operations -/

/-- What may be asked of the service, with the ids for what it creates. -/
inductive Operation where
  | submit (ids : FreshIds) (body : Bytes) (signature : Option String)
  | issue (tokenId : String) (tenant : Tenant) (deviceId : String)
  | setStatus (tenant : Tenant) (deviceId : String) (status : DeviceStatus)
  | revokeToken (tenant : Tenant) (tokenId : String)
  | verify (raw : String)
  | getDevice (tenant : Tenant) (deviceId : String)
  | listDevices (tenant : Tenant) (request : PageRequest)
  deriving DecidableEq

/-- What the service answers. A token stands for its raw text. -/
inductive Reply where
  | token (t : Token)
  | done
  | verified (v : VerifiedToken)
  | device (d : Device)
  | devices (page : Page Device)
  deriving DecidableEq

namespace Operation

/-- The id that a token gets if the operation makes one. -/
def tokenId? : Operation → Option String
  | submit ids _ _ => some ids.token
  | issue tokenId _ _ => some tokenId
  | _ => none

/-- The id that a device gets if the operation registers one. -/
def deviceId? : Operation → Option String
  | submit ids _ _ => some ids.device
  | _ => none

end Operation

/-- Perform an operation. -/
def Admission.perform (s : Admission) : Operation → Action Reply
  | .submit ids body signature => do
    let token ← s.grant ids body signature
    pure (.token token)
  | .issue tokenId tenant deviceId => do
    let token ← s.authority.issue tokenId tenant deviceId
    pure (.token token)
  | .setStatus tenant deviceId status => do
    s.setStatus tenant deviceId status
    pure .done
  | .revokeToken tenant tokenId => do
    s.revokeToken tenant tokenId
    pure .done
  | .verify raw => do
    let verified ← s.verify raw
    pure (.verified verified)
  | .getDevice tenant deviceId => do
    let device ← s.getDevice tenant deviceId
    pure (.device device)
  | .listDevices tenant request => do
    let page ← s.listDevices tenant request
    pure (.devices page)

/-- What an operation is about at a time, unless it ends before it calls the store. -/
def Operation.scope? (s : Admission) (wall : Int) : Operation → Option Scope
  | submit ids body signature => s.scope? wall ids body signature
  | issue tokenId tenant _ => some ⟨tenant, none, some tokenId, none⟩
  | setStatus tenant deviceId status => some ⟨tenant, none, none, some (deviceId, status)⟩
  | revokeToken tenant _ => some (.reading tenant)
  | verify raw => s.authority.scope? (Text.trim raw)
  | getDevice tenant _ => some (.reading tenant)
  | listDevices tenant _ => some (.reading tenant)

/-- The ids in the scope of an operation are those that it was given. -/
theorem Operation.given_of_scope {s : Admission} {wall : Int} {o : Operation} {scope : Scope}
    (known : o.scope? s wall = some scope) :
    (∀ id, scope.newDevice? = some id → o.deviceId? = some id) ∧
      ∀ id, scope.newToken? = some id → o.tokenId? = some id := by
  cases o with
  | submit ids body signature =>
      rcases Option.map_eq_some_iff.mp known with ⟨checked, -, rfl⟩
      exact ⟨fun _ given => given, fun _ given => given⟩
  | issue tokenId tenant deviceId =>
      rw [← Option.some.inj known]
      exact ⟨nofun, fun _ given => given⟩
  | setStatus tenant deviceId status =>
      rw [← Option.some.inj known]
      exact ⟨nofun, nofun⟩
  | revokeToken tenant tokenId =>
      rw [← Option.some.inj known]
      exact ⟨nofun, nofun⟩
  | verify raw =>
      have known : s.authority.scope? (Text.trim raw) = some scope := known
      rcases Authority.exists_reading_of_scope? known with ⟨tenant, rfl⟩
      exact ⟨nofun, nofun⟩
  | getDevice tenant deviceId =>
      rw [← Option.some.inj known]
      exact ⟨nofun, nofun⟩
  | listDevices tenant request =>
      rw [← Option.some.inj known]
      exact ⟨nofun, nofun⟩

/-- Every call of an operation keeps to what the operation is about. -/
theorem Admission.makes_perform (s : Admission) (operation : Operation) (now : Instant)
    (wall : Int) :
    (s.perform operation).Makes (fun _ c => ∃ scope, operation.scope? s wall = some scope ∧
      scope.Covers s.authority now c) now wall := by
  have covers : ∀ {scope : Scope}, operation.scope? s wall = some scope →
      ∀ ⦃γ : Type⦄ (c : StoreCall γ), scope.Covers s.authority now c →
        ∃ scope, operation.scope? s wall = some scope ∧ scope.Covers s.authority now c :=
    fun known _ _ covered => ⟨_, known, covered⟩
  cases operation with
  | submit ids body signature =>
      exact .bind (makes_grant s ids body signature now wall) fun _ _ => .pure _
  | issue tokenId tenant deviceId =>
      exact .bind ((Authority.makes_issue rfl rfl).mono (covers rfl)) fun _ _ => .pure _
  | setStatus tenant deviceId status =>
      exact .bind ((makes_setStatus rfl rfl).mono (covers rfl)) fun _ _ => .pure _
  | revokeToken tenant tokenId =>
      exact .bind ((Authority.makes_revoke rfl).mono (covers rfl)) fun _ _ => .pure _
  | verify raw =>
      exact .bind (s.authority.makes_verify (Text.trim raw) now wall) fun _ _ => .pure _
  | getDevice tenant deviceId =>
      exact .bind ((makes_getDevice rfl).mono (covers rfl)) fun _ _ => .pure _
  | listDevices tenant request =>
      exact .bind ((makes_listDevices rfl).mono (covers rfl)) fun _ _ => .pure _

end DeviceAdmission
