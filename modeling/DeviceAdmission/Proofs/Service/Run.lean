import DeviceAdmission.Proofs.Service.Success
import DeviceAdmission.Proofs.Token.Claims

/-!
# Runs of the service

A run performs one operation after another, each at a time of its own and with its own share of
interference: others set statuses between its calls, and calls fail or never end. The past of a run
says what was asked and what was answered. The main statement is what holds after every run whose
token ids are fresh: every token that was handed out is recorded under its id, and every record is
of a token that the authority minted.
-/

namespace DeviceAdmission

open TokenEntry Relation

/-- An operation at a time, with what happens around its calls. Clocks show only times of their
range. -/
structure Step where
  operation : Operation
  now : Instant
  inRange : now.isInRange = true
  wallSeconds : Int
  interference : (earlier : List CallSite) → CallSite → Interference

/-- The world that a step runs in. -/
def Step.world (st : Step) (store : Store) : World :=
  { store, now := st.now, wallSeconds := st.wallSeconds, interference := st.interference,
    calls := [] }

/-- A step with its outcome. -/
structure Event where
  step : Step
  reply : Except Failure Reply

/-- Whether an event gives a token to its caller. -/
def Event.HandsOut (e : Event) (t : Token) : Prop :=
  e.reply = .ok (.token t)

instance (e : Event) (t : Token) : Decidable (e.HandsOut t) :=
  inferInstanceAs (Decidable (e.reply = .ok (.token t)))

/-- The store after some events, the latest first. -/
structure Run where
  store : Store
  past : List Event

/-- The ids for tokens that events were given. -/
def tokenIds (events : List Event) : List String :=
  events.filterMap fun e => e.step.operation.tokenId?

/-- The ids for devices that events were given. -/
def deviceIds (events : List Event) : List String :=
  events.filterMap fun e => e.step.operation.deviceId?

namespace Run

/-- Perform a step. -/
def next (r : Run) (s : Admission) (st : Step) : Run :=
  let result := (s.perform st.operation).run (st.world r.store)
  ⟨result.2.store, ⟨st, result.1⟩ :: r.past⟩

/-- The runs of a service over a store that was empty first. -/
inductive Reached (s : Admission) (kind : StoreKind) : Run → Prop where
  | start : Reached s kind ⟨.empty kind, []⟩
  | step {r : Run} (before : Reached s kind r) (st : Step) : Reached s kind (r.next s st)
  | rearranged {r : Run} {store : Store} (before : Reached s kind r)
      (order : r.store.Rearranged store) : Reached s kind ⟨store, r.past⟩

end Run

/-! ## Minted tokens -/

namespace Authority

variable {a : Authority} {t : Token} {tenant : Tenant} {deviceId tokenId : String} {now : Instant}

/-- Whether a token is one that the authority minted, at a time of the range. -/
def Minted (a : Authority) (t : Token) : Prop :=
  ∃ now : Instant, now.isInRange = true ∧ a.mint t.id t.tenant t.deviceId now = .ok t

theorem minted_of_mints (inRange : now.isInRange = true) (mints : a.Mints tokenId now t) :
    t.id = tokenId ∧ a.Minted t := by
  rcases mints with ⟨tenant, deviceId, minted⟩
  have made := minting minted
  refine ⟨made.idEq, now, inRange, ?_⟩
  rw [made.idEq, made.tenantEq, made.deviceEq]
  exact minted

/-- The seconds of the range fit in 64 bits with their sign. -/
theorem seconds_of_isInRange (inRange : now.isInRange = true) :
    minSigned ≤ now.seconds ∧ now.seconds ≤ maxSigned := by
  have first : Instant.firstSecond = -8334601228800 := by decide
  have last : Instant.lastSecond = 8210266876799 := by decide
  simp only [Instant.isInRange, first, last, Bool.and_eq_true, decide_eq_true_eq] at inRange
  simp only [minSigned, maxSigned]
  omega

/-- The raw text of a minted token is made of its own claims, under a signature that was made. -/
theorem Minted.claims (minted : a.Minted t) :
    ∃ now signature, now.isInRange = true ∧
      (a.newClaims t.id t.tenant t.deviceId now).Fits ∧
      a.keys.sign (Jws.message (a.newClaims t.id t.tenant t.deviceId now).json.write) =
        .ok signature ∧
      t.raw = Jws.tokenOf (a.newClaims t.id t.tenant t.deviceId now).json.write signature ∧
      t.issuedAt = now ∧
      t.expiresAt = .ofSeconds (a.newClaims t.id t.tenant t.deviceId now).expiry := by
  rcases minted with ⟨now, inRange, minted⟩
  have made := minting minted
  rcases TokenClaims.encode_eq_ok_iff.mp made.encoded with ⟨signature, signed, rawEq⟩
  rcases seconds_of_isInRange inRange with ⟨least_issuedAt, issuedAt_most⟩
  rcases seconds_of_isInRange made.inRange with ⟨least_expiry, expiry_most⟩
  exact ⟨now, signature, inRange, ⟨least_issuedAt, issuedAt_most, least_expiry, expiry_most⟩,
    signed, rawEq, made.issuedAt, made.expiresAt⟩

/-- A minted token decodes to nothing but what it is. -/
theorem Minted.eq_of_decode? (minted : a.Minted t) {claims : TokenClaims}
    (decoded : TokenClaims.decode? a.keys.verifies a.policy.issuer t.raw = some claims) :
    claims.id = t.id ∧ claims.subject = t.deviceId ∧ (⟨claims.tenant⟩ : Tenant) = t.tenant ∧
      Instant.ofSeconds claims.expiry = t.expiresAt := by
  rcases minted.claims with ⟨now, signature, -, fits, -, rawEq, -, expiryEq⟩
  rw [rawEq] at decoded
  have own := TokenClaims.eq_of_decode?_tokenOf fits decoded
  subst own
  exact ⟨rfl, rfl, rfl, expiryEq.symm⟩

end Authority

/-! ## What every run keeps -/

/-- The entries that a step may put. -/
def Step.NewEntry (st : Step) (s : Admission) (kind : StoreKind) (e : TokenEntry) : Prop :=
  ∃ id, st.operation.tokenId? = some id ∧ s.authority.NewEntry id st.now kind e

theorem Step.evolves (st : Step) (s : Admission) (store : Store) :
    (st.world store).Evolves (st.NewEntry s)
      ((s.perform st.operation).run (st.world store)).2 := by
  apply (s.makes_perform st.operation st.now st.wallSeconds).evolves rfl rfl
  rintro γ c ⟨scope, known, covered⟩ t candidate kind
  rcases covered.token t candidate with ⟨id, deviceId, given, minted⟩
  exact ⟨id, (Operation.given_of_scope known).2 id given, t, ⟨scope.tenant, deviceId, minted⟩, rfl⟩

/-- The token of a step that hands one out is recorded in the store that is left. -/
theorem Step.recorded {st : Step} {s : Admission} {store : Store} {t : Token}
    (sound : store.Sound)
    (handed : ((s.perform st.operation).run (st.world store)).1 = .ok (.token t)) :
    t.revoked = false ∧ st.operation.tokenId?.isSome = true ∧
      ∃ e ∈ ((s.perform st.operation).run (st.world store)).2.store.tokens, e.Records t := by
  have ran := Action.run_eq_of_fst handed
  generalize ((s.perform st.operation).run (st.world store)).2 = w' at ran ⊢
  cases operation : st.operation with
  | submit ids body signature =>
      simp only [operation, Admission.perform] at ran
      rcases Action.run_map_eq_ok ran with ⟨token, granted, replied⟩
      cases replied
      rcases Admission.recorded_of_grant sound granted with ⟨unrevoked, recorded⟩
      exact ⟨unrevoked, rfl, recorded⟩
  | issue tokenId tenant deviceId =>
      simp only [operation, Admission.perform] at ran
      rcases Action.run_map_eq_ok ran with ⟨token, issued, replied⟩
      cases replied
      rcases Authority.recorded_of_issue sound issued with ⟨-, -, unrevoked, recorded⟩
      exact ⟨unrevoked, rfl, recorded⟩
  | setStatus tenant deviceId status =>
      simp only [operation, Admission.perform] at ran
      rcases Action.run_map_eq_ok ran with ⟨_, _, replied⟩
      cases replied
  | revokeToken tenant tokenId =>
      simp only [operation, Admission.perform] at ran
      rcases Action.run_map_eq_ok ran with ⟨_, _, replied⟩
      cases replied
  | verify raw =>
      simp only [operation, Admission.perform] at ran
      rcases Action.run_map_eq_ok ran with ⟨_, _, replied⟩
      cases replied
  | getDevice tenant deviceId =>
      simp only [operation, Admission.perform] at ran
      rcases Action.run_map_eq_ok ran with ⟨_, _, replied⟩
      cases replied
  | listDevices tenant request =>
      simp only [operation, Admission.perform] at ran
      rcases Action.run_map_eq_ok ran with ⟨_, _, replied⟩
      cases replied

namespace Run

/-- What holds after every run with fresh token ids. -/
structure Kept (s : Admission) (r : Run) : Prop where
  sound : r.store.Sound
  keyed : Keyed r.store.tokens
  minted : ∀ e ∈ r.store.tokens,
    ∃ t, s.authority.Minted t ∧ t.id ∈ tokenIds r.past ∧ e.Records t
  recorded : ∀ e ∈ r.past, ∀ t, e.HandsOut t → ∃ f ∈ r.store.tokens, f.Records t

variable {s : Admission} {kind : StoreKind} {r : Run}

theorem kept_start (s : Admission) (kind : StoreKind) : Kept s ⟨.empty kind, []⟩ := by
  constructor
  · exact Store.sound_empty kind
  · rw [Store.tokens_empty]
    exact List.nodup_nil
  · intro e member
    rw [Store.tokens_empty] at member
    cases member
  · intro e member
    cases member

/-- The ids of a step are put before those of the past. -/
theorem tokenIds_next (r : Run) (s : Admission) (st : Step) :
    tokenIds (r.next s st).past = st.operation.tokenId?.toList ++ tokenIds r.past := by
  simp only [next, tokenIds, List.filterMap_cons]
  cases st.operation.tokenId? with
  | none => rfl
  | some id => rfl

theorem mem_past {later earlier : List Event} {e : Event} (past : r.past = later ++ e :: earlier) :
    e ∈ r.past := by
  rw [past]
  exact List.mem_append_right _ List.mem_cons_self

/-- An id that was not given yet is the one of no record. -/
theorem Kept.id_ne {id : String} (kept : r.Kept s) (unused : id ∉ tokenIds r.past) :
    ∀ f ∈ r.store.tokens, f.id ≠ id := by
  rintro f member rfl
  rcases kept.minted f member with ⟨u, -, used, records⟩
  apply unused
  rw [records.id]
  exact used

/-- What a step puts has an id that no record has. -/
theorem Kept.key_ne {st : Step} (kept : r.Kept s) (fresh : (tokenIds (r.next s st).past).Nodup)
    {e f : TokenEntry} (new : st.NewEntry s r.store.kind f) (member : e ∈ r.store.tokens) :
    f.key ≠ e.key := by
  rcases new with ⟨id, given, t, mints, rfl⟩
  rw [tokenIds_next, given, Option.toList_some, List.singleton_append, List.nodup_cons] at fresh
  intro keyEq
  apply kept.id_ne fresh.1 e member
  have idEq : (r.store.kind.tokenEntry t).id = e.id := congrArg Prod.snd keyEq
  rw [← idEq, StoreKind.id_tokenEntry]
  exact (Authority.minted_of_mints st.inRange mints).1

theorem Kept.step (kept : r.Kept s) (st : Step) (fresh : (tokenIds (r.next s st).past).Nodup) :
    (r.next s st).Kept s := by
  have moves := (st.evolves s r.store).moves kept.sound
  constructor
  · exact kept.sound.moves moves
  · exact Store.keyed_of_moves moves kept.keyed
  · intro f member
    rw [tokenIds_next]
    rcases Store.exists_origin_of_moves moves member with ⟨e, new, becomes⟩ | ⟨e, old, becomes⟩
    · rcases new with ⟨id, given, t, mints, rfl⟩
      obtain ⟨idEq, minted⟩ := Authority.minted_of_mints st.inRange mints
      refine ⟨t, minted, ?_, becomes.records (records_tokenEntry _ t)⟩
      rw [given, idEq]
      exact List.mem_cons_self
    · rcases kept.minted e old with ⟨t, minted, used, records⟩
      exact ⟨t, minted, List.mem_append_right _ used, becomes.records records⟩
  · intro e member t handed
    rcases List.mem_cons.mp member with rfl | earlier
    · exact (Step.recorded kept.sound handed).2.2
    · rcases kept.recorded e earlier t handed with ⟨f, fMem, records⟩
      obtain ⟨g, gMem, becomes⟩ := Store.exists_mem_of_moves moves fMem fun _ new =>
        kept.key_ne fresh new fMem
      exact ⟨g, gMem, becomes.records records⟩

theorem Kept.rearranged {store : Store} (kept : r.Kept s) (order : r.store.Rearranged store) :
    Kept s ⟨store, r.past⟩ := by
  have perm := order.perm
  constructor
  · exact kept.sound.rearranged order
  · exact kept.keyed.perm perm
  · intro e member
    exact kept.minted e (perm.mem_iff.mpr member)
  · intro e member t handed
    obtain ⟨f, fMem, records⟩ := kept.recorded e member t handed
    exact ⟨f, perm.mem_iff.mp fMem, records⟩

/-- Every run whose token ids are fresh keeps its tokens. -/
theorem Reached.kept (reached : r.Reached s kind) (fresh : (tokenIds r.past).Nodup) :
    r.Kept s := by
  induction reached with
  | start => exact kept_start s kind
  | @step r before st ih =>
      have earlier : (tokenIds r.past).Nodup := by
        rw [tokenIds_next] at fresh
        exact fresh.of_append_right
      exact (ih earlier).step st fresh
  | rearranged before order ih => exact (ih fresh).rearranged order

end Run

/-! ## A small service -/

namespace Sample

/-- Keys whose signature of a message is its length. -/
def keys : TokenKeys where
  sign message := .ok [UInt8.ofNat message.length]
  verifies message signature := signature = [UInt8.ofNat message.length]

/-- A service with tokens that hold for a minute. -/
def admission : Admission where
  authority := ⟨keys, ⟨"admission", .ofSeconds 60, .ofSeconds 0, defaultStorageTimeout⟩⟩
  signatures := ⟨fun _ => true, fun _ message signature => signature = [UInt8.ofNat message.length]⟩
  tenants := .single
  storageTimeout := defaultStorageTimeout
  allowKeyRotation := false

/-- A step that nobody interferes with. -/
def step (operation : Operation) (second : Int)
    (inRange : (Instant.ofSeconds second).isInRange = true) : Step where
  operation
  now := .ofSeconds second
  inRange
  wallSeconds := second
  interference := fun _ _ => .none

def body : Bytes :=
  Utf8.encode "\x7b\"id_data\":\"mac\",\"pubkey\":\"key\"\x7d"

/-- A device is registered and then accepted. -/
def registered (kind : StoreKind) : Run :=
  let first : Run := ⟨.empty kind, []⟩
  let second := first.next admission
    (step (.submit ⟨"d", "t0"⟩ body (some "IA==")) 100 (by decide))
  second.next admission (step (.setStatus .default "d" .accepted) 101 (by decide))

/-- The device gets a token, and then the same one again. -/
def issued (kind : StoreKind) : Run :=
  let first := (registered kind).next admission (step (.issue "t1" .default "d") 102 (by decide))
  first.next admission (step (.issue "t2" .default "d") 103 (by decide))

/-- The device is rejected. -/
def rejected (kind : StoreKind) : Run :=
  (issued kind).next admission (step (.setStatus .default "d" .rejected) 104 (by decide))

/-- The token that the device gets. -/
def token : Token where
  id := "t1"
  deviceId := "d"
  tenant := .default
  raw :=
    "eyJ0eXAiOiJKV1QiLCJhbGciOiJSUzI1NiJ9." ++
      "eyJqdGkiOiJ0MSIsInN1YiI6ImQiLCJpc3MiOiJhZG1pc3Npb24iLCJpYXQiOjEwMiwiZXhwIjoxNjJ9.dQ"
  issuedAt := .ofSeconds 102
  expiresAt := .ofSeconds 162
  revoked := false

/-- What the token says once it is verified. -/
def verified : VerifiedToken :=
  ⟨"t1", "d", .default, .ofSeconds 162⟩

theorem reached_issued (kind : StoreKind) : (issued kind).Reached admission kind :=
  (((Run.Reached.start.step _).step _).step _).step _

theorem reached (kind : StoreKind) : (rejected kind).Reached admission kind :=
  (reached_issued kind).step _

theorem nodup_tokenIds (kind : StoreKind) : (tokenIds (rejected kind).past).Nodup := by
  cases kind with
  | memory => decide +kernel
  | tables => decide +kernel

theorem nodup_deviceIds (kind : StoreKind) : (deviceIds (rejected kind).past).Nodup := by
  cases kind with
  | memory => decide +kernel
  | tables => decide +kernel

theorem replies (kind : StoreKind) : (rejected kind).past.map Event.reply =
    [.ok .done, .ok (.token token), .ok (.token token), .ok .done, .error .notEntitled] := by
  cases kind with
  | memory => decide +kernel
  | tables => decide +kernel

end Sample

end DeviceAdmission
