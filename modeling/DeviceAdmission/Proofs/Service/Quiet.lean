import DeviceAdmission.Proofs.Service.Effects
import DeviceAdmission.Proofs.Store.Insertions

/-!
# Operations that nobody interferes with

Where no call fails and nobody else sets a status, the outcome of an operation is determined by the
store and the clocks. This file gives the outcome of each operation on an orderly store, in which
everything can be read and only accepted devices have tokens with force.
-/

namespace DeviceAdmission

open TokenEntry

namespace Action

variable {α β : Type} {now : Instant} {wall : Int} {s s' s'' : Store}

/-- A world at a time in which nobody interferes, after some calls. -/
def quietWorld (now : Instant) (wall : Int) (s : Store) (calls : List CallSite) : World :=
  { World.quiet s now wall with calls }

/-- Where nobody interferes, the action ends with `r` and leaves the store `s'`. -/
def Ends (x : Action α) (now : Instant) (wall : Int) (s : Store) (r : Except Failure α)
    (s' : Store) : Prop :=
  ∀ calls, ∃ calls', x.run (quietWorld now wall s calls) = (r, quietWorld now wall s' calls')

theorem Ends.run_quiet {x : Action α} {r : Except Failure α} (h : x.Ends now wall s r s') :
    (x.run (World.quiet s now wall)).1 = r ∧ (x.run (World.quiet s now wall)).2.store = s' := by
  rcases h [] with ⟨calls, equation⟩
  change x.run (World.quiet s now wall) = _ at equation
  rw [equation]
  exact ⟨rfl, rfl⟩

theorem ends_pure (a : α) (s : Store) : (pure a : Action α).Ends now wall s (.ok a) s :=
  fun calls => ⟨calls, rfl⟩

theorem ends_fail (e : Failure) (s : Store) : (fail e : Action α).Ends now wall s (.error e) s :=
  fun calls => ⟨calls, rfl⟩

theorem ends_ofExcept (r : Except Failure α) (s : Store) : (ofExcept r).Ends now wall s r s :=
  fun calls => ⟨calls, rfl⟩

theorem ends_now (s : Store) : Action.now.Ends now wall s (.ok now) s :=
  fun calls => ⟨calls, rfl⟩

theorem ends_wallSeconds (s : Store) : Action.wallSeconds.Ends now wall s (.ok wall) s :=
  fun calls => ⟨calls, rfl⟩

theorem Ends.attempt {x : Action α} {r : Except Failure α} (h : x.Ends now wall s r s') :
    (attempt x).Ends now wall s (.ok r) s' := by
  intro calls
  rcases h calls with ⟨calls', equation⟩
  refine ⟨calls', ?_⟩
  rw [run_attempt, equation]

theorem Ends.bind {x : Action α} {f : α → Action β} {a : α} {r : Except Failure β}
    (first : x.Ends now wall s (.ok a) s') (second : (f a).Ends now wall s' r s'') :
    (x >>= f).Ends now wall s r s'' := by
  intro calls
  rcases first calls with ⟨calls', firstEq⟩
  obtain ⟨calls'', secondEq⟩ := second calls'
  exact ⟨calls'', (run_bind_ok firstEq).trans secondEq⟩

theorem Ends.bind_error {x : Action α} {f : α → Action β} {e : Failure}
    (first : x.Ends now wall s (.error e) s') : (x >>= f).Ends now wall s (.error e) s' := by
  intro calls
  rcases first calls with ⟨calls', firstEq⟩
  exact ⟨calls', run_bind_error firstEq⟩

theorem Ends.map {x : Action α} {r : Except Failure α} (h : x.Ends now wall s r s') (f : α → β) :
    (x >>= fun a => pure (f a)).Ends now wall s (r.map f) s' := by
  cases r with
  | error e => exact h.bind_error
  | ok a => exact h.bind (ends_pure (f a) s')

/-- A call ends as the store answers it. -/
theorem ends_call {limit : Nat} {c : StoreCall α} {a : α} (answer : s.run c = (.ok a, s')) :
    (call limit c).Ends now wall s (.ok a) s' := by
  intro calls
  refine ⟨c.site :: calls, ?_⟩
  simp only [run, call, quietWorld, World.quiet, Interference.none, List.foldl_nil, outcome,
    answer]
  rfl

/-- A call that the store refuses ends with its fault. -/
theorem ends_call_error {limit : Nat} {c : StoreCall α} {fault : StoreFault}
    (answer : s.run c = (.error fault, s')) :
    (call limit c : Action α).Ends now wall s
      (.error (.internal (.storeFailed c.method.name fault))) s' := by
  intro calls
  refine ⟨c.site :: calls, ?_⟩
  simp only [run, call, quietWorld, World.quiet, Interference.none, List.foldl_nil, outcome,
    answer]
  rfl

/-! ## Actions that only read -/

/-- Where nobody interferes, the action leaves the store. -/
def Idle (x : Action α) (now : Instant) (wall : Int) (s : Store) : Prop :=
  ∃ r, x.Ends now wall s r s

theorem Idle.bind {x : Action α} {f : α → Action β} (first : x.Idle now wall s)
    (second : ∀ a, (f a).Idle now wall s) : (x >>= f).Idle now wall s := by
  rcases first with ⟨result, ends⟩
  cases result with
  | error e => exact ⟨.error e, ends.bind_error⟩
  | ok a =>
      rcases second a with ⟨r, later⟩
      exact ⟨r, ends.bind later⟩

theorem idle_call (limit : Nat) {c : StoreCall α} (left : (s.run c).2 = s) :
    (call limit c).Idle now wall s := by
  cases answer : s.run c with
  | mk result after =>
      rw [answer] at left
      subst left
      cases result with
      | ok a => exact ⟨.ok a, ends_call answer⟩
      | error fault => exact ⟨_, ends_call_error answer⟩

end Action

/-! ## Orderly stores -/

namespace Store

variable {s s' : Store} {ids : List String}

/-- Whether a store has the accepted device with the tenant and id. -/
def HasAccepted (s : Store) (tenant : Tenant) (id : String) : Prop :=
  ∃ d : Device, d.entry ∈ s.devices ∧ d.tenant = tenant ∧ d.id = id ∧ d.status = .accepted

/-- What holds of a store that nobody interfered with: everything in it can be read, and a token
with force is one of an accepted device. -/
structure Orderly (s : Store) (ids : List String) : Prop where
  sound : s.Sound
  keyed : Keyed s.tokens
  registered : s.Registered ids
  readable : ∀ e ∈ s.tokens, ∃ t : Token, e = t.entry
  entitled : ∀ t : Token, t.entry ∈ s.tokens → t.revoked = false →
    s.HasAccepted t.tenant t.deviceId

theorem orderly_empty (kind : StoreKind) : (Store.empty kind).Orderly [] := by
  constructor
  · exact sound_empty kind
  · rw [tokens_empty]
    exact List.nodup_nil
  · exact registered_empty kind
  · rw [tokens_empty]
    rintro e ⟨⟩
  · rw [tokens_empty]
    rintro t ⟨⟩

theorem Orderly.mono {more : List String} (orderly : s.Orderly ids)
    (included : ∀ id ∈ ids, id ∈ more) : s.Orderly more :=
  { orderly with registered := orderly.registered.mono included }

theorem Orderly.rearranged (orderly : s.Orderly ids) (order : s.Rearranged s') :
    s'.Orderly ids := by
  have perm := order.perm
  constructor
  · exact orderly.sound.rearranged order
  · exact orderly.keyed.perm perm
  · exact orderly.registered.of_sameDevices order.sameDevices
  · intro e member
    exact orderly.readable e (perm.mem_iff.mpr member)
  · intro t member unrevoked
    obtain ⟨d, dMem, rest⟩ := orderly.entitled t (perm.mem_iff.mpr member) unrevoked
    exact ⟨d, order.sameDevices.devices ▸ dMem, rest⟩

/-- A store stays orderly if the devices of tokens with force stay accepted. -/
theorem Orderly.change {ids' : List String} {p : TokenEntry → Bool} (orderly : s.Orderly ids)
    (registered : s'.Registered ids') (kindEq : s'.kind = s.kind)
    (tokens : s'.tokens = revokeWhere p s.tokens)
    (stay : ∀ t : Token, t.entry ∈ s'.tokens → t.revoked = false →
      s.HasAccepted t.tenant t.deviceId → s'.HasAccepted t.tenant t.deviceId) :
    s'.Orderly ids' := by
  have step : Move (fun _ => False) s s' := .revoked p kindEq tokens
  refine ⟨orderly.sound.move step, step.keyed orderly.keyed, registered, ?_, ?_⟩
  · intro e member
    rw [tokens] at member
    rcases exists_becomes_of_mem_revokeWhere member with ⟨f, old, becomes⟩
    rcases orderly.readable f old with ⟨t, rfl⟩
    rcases becomes with rfl | rfl
    · exact ⟨t, rfl⟩
    · exact ⟨t.revoke, rfl⟩
  · intro t member unrevoked
    apply stay t member unrevoked
    rw [tokens] at member
    rcases exists_becomes_of_mem_revokeWhere member with ⟨f, old, becomes⟩
    rcases becomes with rfl | revoked
    · exact orderly.entitled t old unrevoked
    · have revoked : t.revoked = true := congrArg TokenEntry.revoked revoked
      rw [unrevoked] at revoked
      cases revoked

/-- A change of devices keeps a store orderly if accepted devices stay accepted. -/
theorem Orderly.of_devices {ids' : List String} (orderly : s.Orderly ids)
    (same : s.SameTokens s') (registered : s'.Registered ids')
    (stay : ∀ tenant id, s.HasAccepted tenant id → s'.HasAccepted tenant id) :
    s'.Orderly ids' := by
  have tokens : s'.tokens = revokeWhere (fun _ => false) s.tokens := by
    rw [same.tokens, revokeWhere_eq_self fun _ _ => rfl]
  exact orderly.change registered same.kind tokens fun t _ _ => stay t.tenant t.deviceId

theorem HasAccepted.of_sameDevices (same : s.SameDevices s') {tenant : Tenant} {id : String}
    (accepted : s.HasAccepted tenant id) : s'.HasAccepted tenant id := by
  obtain ⟨d, member, rest⟩ := accepted
  exact ⟨d, same.devices ▸ member, rest⟩

/-- Revoking tokens keeps a store orderly. -/
theorem Orderly.of_revoked (orderly : s.Orderly ids) (devices : s.SameDevices s')
    {p : TokenEntry → Bool} (tokens : s'.tokens = revokeWhere p s.tokens) : s'.Orderly ids :=
  orderly.change (orderly.registered.of_sameDevices devices) devices.kind tokens
    fun _ _ _ accepted => accepted.of_sameDevices devices

/-- A token of an accepted device may be added to an orderly store. -/
theorem Orderly.of_added {t : Token} (orderly : s.Orderly ids) (devices : s.SameDevices s')
    (fresh : ∀ e ∈ s.tokens, e.id ≠ t.id) (accepted : s.HasAccepted t.tenant t.deviceId)
    (tokens : s'.tokens =
      put t.entry (revokeWhere (isOutstanding t.tenant t.deviceId) s.tokens)) :
    s'.Orderly ids := by
  have none : ∀ f ∈ revokeWhere (isOutstanding t.tenant t.deviceId) s.tokens,
      f.isOutstanding t.entry.tenant t.entry.deviceId = false := fun f member =>
    notOutstanding_of_mem_revokeWhere (fun _ _ outstanding => outstanding) member
  have step : Move (· = t.entry) s s' :=
    .added _ rfl none (fun _ => fresh) devices.kind tokens
  have cleared : ∀ e ∈ revokeWhere (isOutstanding t.tenant t.deviceId) s.tokens,
      ∃ u : Token, e = u.entry ∧ (u.revoked = false → u.entry ∈ s.tokens) := by
    intro e member
    rcases exists_becomes_of_mem_revokeWhere member with ⟨f, old, becomes⟩
    rcases orderly.readable f old with ⟨u, rfl⟩
    rcases becomes with rfl | rfl
    · exact ⟨u, rfl, fun _ => old⟩
    · exact ⟨u.revoke, rfl, fun unrevoked => by cases unrevoked⟩
  refine ⟨orderly.sound.move step, step.keyed orderly.keyed,
    orderly.registered.of_sameDevices devices, ?_, ?_⟩
  · intro e member
    rw [tokens] at member
    rcases mem_of_mem_put member with rfl | old
    · exact ⟨t, rfl⟩
    · rcases cleared e old with ⟨u, equation, -⟩
      exact ⟨u, equation⟩
  · intro u member unrevoked
    rw [tokens] at member
    rcases mem_of_mem_put member with same | old
    · rw [entry_injective same]
      exact accepted.of_sameDevices devices
    · obtain ⟨v, equation, before⟩ := cleared _ old
      have same := entry_injective equation
      rw [← same] at before
      exact (orderly.entitled u (before unrevoked) unrevoked).of_sameDevices devices

end Store

/-! ## The authority -/

namespace Authority

variable {a : Authority} {now : Instant} {wall : Int} {s s' : Store} {ids : List String}
variable {tenant : Tenant} {deviceId tokenId raw : String}

theorem ends_ensureAccepted (registered : s.Registered ids)
    (accepted : s.HasAccepted tenant deviceId) :
    (a.ensureAccepted tenant deviceId).Ends now wall s (.ok ()) s := by
  rcases accepted with ⟨d, member, rfl, rfl, status⟩
  apply (Action.ends_call (registered.run_getDevice member)).bind
  simp only [status, if_true]
  exact Action.ends_pure () s

theorem ends_ensureAccepted_error (registered : s.Registered ids)
    (unfit : ¬s.HasAccepted tenant deviceId) :
    (a.ensureAccepted tenant deviceId).Ends now wall s (.error .notEntitled) s := by
  by_cases known : ∃ e ∈ s.devices, e.isDevice tenant deviceId = true
  · rcases known with ⟨e, member, isIt⟩
    rcases registered.readable e member with ⟨d, rfl⟩
    obtain ⟨rfl, rfl⟩ := DeviceEntry.isDevice_iff.mp isIt
    have status : d.status ≠ .accepted := fun accepted => unfit ⟨d, member, rfl, rfl, accepted⟩
    have answer : s.run (.getDevice d.entry.tenant d.entry.id) = (.ok (some d), s) :=
      registered.run_getDevice member
    apply (Action.ends_call answer).bind
    simp only [status, if_false]
    exact Action.ends_fail .notEntitled s
  · have absent : ∀ e ∈ s.devices, e.isDevice tenant deviceId = false := by
      intro e member
      cases isIt : e.isDevice tenant deviceId with
      | false => rfl
      | true => exact absurd ⟨e, member, isIt⟩ known
    exact (Action.ends_call (Store.run_getDevice_none absent)).bind
      (Action.ends_fail .notEntitled s)

/-- The ways that an issuance ends on an orderly store. -/
inductive Issuance (a : Authority) (s : Store) (tokenId : String) (tenant : Tenant)
    (deviceId : String) (now : Instant) : Except Failure Token → Store → Prop where
  | notEntitled (unfit : ¬s.HasAccepted tenant deviceId) :
      Issuance a s tokenId tenant deviceId now (.error .notEntitled) s
  | notMinted {e : Failure} (accepted : s.HasAccepted tenant deviceId)
      (failed : a.mint tokenId tenant deviceId now = .error e) :
      Issuance a s tokenId tenant deviceId now (.error e) s
  | reused {t : Token} (accepted : s.HasAccepted tenant deviceId) (member : t.entry ∈ s.tokens)
      (outstanding : t.isOutstanding tenant deviceId = true)
      (live : t.isExpiredAt now = false) : Issuance a s tokenId tenant deviceId now (.ok t) s
  | added {t : Token} {s' : Store} (accepted : s.HasAccepted tenant deviceId)
      (minted : a.mint tokenId tenant deviceId now = .ok t)
      (expired : ∀ u : Token, u.entry ∈ s.tokens → u.isOutstanding tenant deviceId = true →
        u.isExpiredAt now = true)
      (devices : s.SameDevices s')
      (tokens : s'.tokens = put (s.kind.tokenEntry t)
        (revokeWhere (isOutstanding tenant deviceId) s.tokens)) :
      Issuance a s tokenId tenant deviceId now (.ok t) s'

/-- A token that was minted in those years is stored as it is. -/
theorem tokenEntry_of_mint (kind : StoreKind) {t : Token} (timely : now.isTimely = true)
    (minted : a.mint tokenId tenant deviceId now = .ok t)
    (expires : t.expiresAt.isTimely = true) : kind.tokenEntry t = t.entry := by
  have made := minting minted
  apply kind.tokenEntry_eq made.unrevoked ?_ (Instant.isLegible_of_isTimely expires)
  rw [made.issuedAt]
  exact Instant.isLegible_of_isTimely timely

/-- An issuance leaves an orderly store, where the token that it gives expires in time. -/
theorem Issuance.orderly {r : Except Failure Token}
    (h : a.Issuance s tokenId tenant deviceId now r s') (orderly : s.Orderly ids)
    (fresh : ∀ e ∈ s.tokens, e.id ≠ tokenId) (timely : now.isTimely = true)
    (expires : ∀ t, r = .ok t → t.expiresAt.isTimely = true) : s'.Orderly ids := by
  cases h with
  | notEntitled unfit => exact orderly
  | notMinted accepted failed => exact orderly
  | reused accepted member outstanding live => exact orderly
  | @added t s' accepted minted expired devices tokens =>
      have made := minting minted
      rw [tokenEntry_of_mint s.kind timely minted (expires t rfl)] at tokens
      rw [← made.idEq] at fresh
      rw [← made.tenantEq, ← made.deviceEq] at accepted tokens
      exact orderly.of_added devices fresh accepted tokens

theorem ends_issue_notEntitled (registered : s.Registered ids)
    (unfit : ¬s.HasAccepted tenant deviceId) :
    (a.issue tokenId tenant deviceId).Ends now wall s (.error .notEntitled) s :=
  (ends_ensureAccepted_error registered unfit).bind_error

/-- An issuance ends in one of these ways, where the id of the token is fresh. -/
theorem exists_issuance (orderly : s.Orderly ids) (fresh : ∀ e ∈ s.tokens, e.id ≠ tokenId) :
    ∃ r s', a.Issuance s tokenId tenant deviceId now r s' ∧
      (a.issue tokenId tenant deviceId).Ends now wall s r s' := by
  by_cases accepted : s.HasAccepted tenant deviceId
  · have first : (a.ensureAccepted tenant deviceId).Ends now wall s (.ok ()) s :=
      ends_ensureAccepted orderly.registered accepted
    cases minted : a.mint tokenId tenant deviceId now with
    | error e =>
        have stops : (Action.ofExcept (a.mint tokenId tenant deviceId now)).Ends now wall s
            (.error e) s := minted ▸ Action.ends_ofExcept _ s
        exact ⟨.error e, s, .notMinted accepted minted,
          first.bind ((Action.ends_now s).bind stops.bind_error)⟩
    | ok candidate =>
        have goes : (Action.ofExcept (a.mint tokenId tenant deviceId now)).Ends now wall s
            (.ok candidate) s := minted ▸ Action.ends_ofExcept _ s
        have made := minting minted
        obtain ⟨t, s', answer⟩ := Store.exists_run_insertOrGetLive orderly.sound now
          (fun e member _ => orderly.readable e member) (made.idEq ▸ fresh)
        have inserted := Store.insertion orderly.sound candidate now
        have devices := Store.sameDevices_run s (c := .insertOrGetLive candidate now) rfl
        rw [answer] at inserted devices
        have again : (a.ensureAccepted tenant deviceId).Ends now wall s' (.ok ()) s' :=
          ends_ensureAccepted (orderly.registered.of_sameDevices devices)
            (accepted.of_sameDevices devices)
        have ends : (a.issue tokenId tenant deviceId).Ends now wall s (.ok t) s' :=
          first.bind ((Action.ends_now s).bind (goes.bind ((Action.ends_call answer).bind
            (again.attempt.bind (Action.ends_pure t s')))))
        refine ⟨.ok t, s', ?_, ends⟩
        cases inserted with
        | reused member outstanding live =>
            rw [made.tenantEq, made.deviceEq] at outstanding
            exact .reused accepted member outstanding live
        | added expired freshRow devices tokens =>
            rw [made.tenantEq, made.deviceEq] at expired tokens
            refine .added accepted minted ?_ devices tokens
            intro u member outstanding
            rcases expired _ member outstanding with ⟨v, equation, vExpired⟩
            rw [entry_injective equation]
            exact vExpired
  · exact ⟨_, s, .notEntitled accepted, ends_issue_notEntitled orderly.registered accepted⟩

theorem idle_verify (a : Authority) (raw : String) (now : Instant) (wall : Int) (s : Store) :
    (a.verify raw).Idle now wall s := by
  unfold verify
  cases TokenClaims.decode? a.keys.verifies a.policy.issuer raw with
  | none => exact ⟨_, Action.ends_fail .tokenInvalid s⟩
  | some claims =>
      apply Action.Idle.bind ⟨_, Action.ends_now s⟩
      intro time
      by_cases expired : a.hasExpired claims time = true
      · simp only [expired, if_true]
        exact ⟨_, Action.ends_fail .tokenExpired s⟩
      · simp only [expired, if_false, Bool.false_eq_true]
        apply Action.Idle.bind (Action.idle_call _ (by rw [Store.run_getToken]))
        intro found
        cases found with
        | none => exact ⟨_, Action.ends_fail .tokenInvalid s⟩
        | some token =>
            by_cases unfit : token.revoked ∨ token.deviceId ≠ claims.subject
            · simp only [unfit, if_true]
              exact ⟨_, Action.ends_fail .tokenInvalid s⟩
            · simp only [unfit, if_false]
              apply Action.Idle.bind (Action.idle_call _ (by rw [Store.run_getDevice]))
              intro device?
              cases device? with
              | none => exact ⟨_, Action.ends_fail .tokenInvalid s⟩
              | some device =>
                  by_cases accepted : device.status = .accepted
                  · simp only [accepted, if_true]
                    exact ⟨_, Action.ends_pure _ s⟩
                  · simp only [accepted, if_false]
                    exact ⟨_, Action.ends_fail .tokenInvalid s⟩

/-- A revocation that finds its token revokes it, and another one changes no token. -/
theorem exists_ends_revoke (a : Authority) (wall : Int) (orderly : s.Orderly ids)
    (tenant : Tenant) (tokenId : String) (now : Instant) :
    ∃ r s', (a.revoke tenant tokenId).Ends now wall s r s' ∧ s'.Orderly ids ∧
      ((r = .ok () ∧ s'.tokens = revokeWhere (isToken tenant tokenId) s.tokens) ∨
        (r = .error .tokenNotFound ∧ s'.tokens = s.tokens)) := by
  have answer : s.run (.revokeToken tenant tokenId) =
      (.ok (s.tokens.any (isToken tenant tokenId)),
        (s.run (.revokeToken tenant tokenId)).2) :=
    Prod.ext (Store.run_revokeToken s tenant tokenId) rfl
  have tokens := Store.tokens_revokeToken s tenant tokenId
  have devices := Store.sameDevices_run s (c := .revokeToken tenant tokenId) rfl
  have orderly' := orderly.of_revoked devices tokens
  cases found : s.tokens.any (isToken tenant tokenId) with
  | true =>
      rw [found] at answer
      exact ⟨_, _, (Action.ends_call answer).bind (Action.ends_pure () _), orderly',
        .inl ⟨rfl, tokens⟩⟩
  | false =>
      rw [found] at answer
      refine ⟨_, _, (Action.ends_call answer).bind (Action.ends_fail .tokenNotFound _), orderly',
        .inr ⟨rfl, ?_⟩⟩
      rw [tokens, revokeWhere_eq_self]
      intro e member
      exact Bool.not_eq_true _ ▸ List.any_eq_false.mp found e member

end Authority

/-! ## The admission -/

namespace Admission

variable {a : Admission} {now : Instant} {wall : Int} {s s' : Store} {ids : List String}
variable {tenant : Tenant} {deviceId newId : String}

theorem idle_getDevice (a : Admission) (tenant : Tenant) (deviceId : String) (now : Instant)
    (wall : Int) (s : Store) : (a.getDevice tenant deviceId).Idle now wall s := by
  apply Action.Idle.bind (Action.idle_call _ (by rw [Store.run_getDevice]))
  intro found
  cases found with
  | none => exact ⟨_, Action.ends_fail .deviceNotFound s⟩
  | some device => exact ⟨_, Action.ends_pure device s⟩

theorem idle_listDevices (a : Admission) (tenant : Tenant) (request : PageRequest)
    (now : Instant) (wall : Int) (s : Store) :
    (a.listDevices tenant request).Idle now wall s := by
  refine Action.Idle.bind (Action.idle_call _ ?_) fun found => ⟨_, Action.ends_pure _ s⟩
  cases s <;> rfl

/-- Where the status of a device is set, the devices but this one stay accepted. -/
theorem hasAccepted_updateStatus {status : DeviceStatus} {id : String} {other : Tenant}
    (now : Instant) (accepted : s.HasAccepted other id)
    (stays : status = .accepted ∨ ¬(other = tenant ∧ id = deviceId)) :
    ∃ d : Device, d.entry ∈ DeviceEntry.changeWhere (DeviceEntry.isDevice tenant deviceId)
        (DeviceEntry.withStatus status (.ok now)) s.devices ∧
      d.tenant = other ∧ d.id = id ∧ d.status = .accepted := by
  rcases accepted with ⟨d, member, rfl, rfl, isAccepted⟩
  by_cases isIt : d.entry.isDevice tenant deviceId = true
  · rcases stays with rfl | isOther
    · refine ⟨{ d with status := .accepted, updatedAt := now }, ?_, rfl, rfl, rfl⟩
      exact List.mem_map.mpr ⟨d.entry, member, if_pos isIt⟩
    · exact absurd (DeviceEntry.isDevice_iff.mp isIt) isOther
  · exact ⟨d, List.mem_map.mpr ⟨d.entry, member, if_neg isIt⟩, rfl, rfl, isAccepted⟩

/-- What setting a status leaves of an orderly store. -/
theorem exists_run_updateStatus (orderly : s.Orderly ids) (timely : now.isTimely = true)
    (tenant : Tenant) (deviceId : String) (status : DeviceStatus) :
    ∃ s₁, s.run (.updateStatus tenant deviceId status now) =
        (.ok (s.devices.any (DeviceEntry.isDevice tenant deviceId)), s₁) ∧
      s₁.Registered ids ∧ s.SameTokens s₁ ∧ s₁.identities = s.identities ∧
      s₁.devices = DeviceEntry.changeWhere (DeviceEntry.isDevice tenant deviceId)
        (DeviceEntry.withStatus status (.ok now)) s.devices := by
  have devices := Store.devices_updateStatus s tenant deviceId status now
  have identities := Store.identities_updateStatus s tenant deviceId status now
  have tokens := Store.sameTokens_run s (c := .updateStatus tenant deviceId status now) rfl
  have namesEq : ∀ e, (DeviceEntry.withStatus status (.ok now) e).names = e.names :=
    fun _ => rfl
  rw [StoreKind.kept_eq_ok _ _ (Instant.isLegible_of_isTimely timely)] at devices
  refine ⟨_, Prod.ext (Store.run_updateStatus s tenant deviceId status now) rfl, ?_, tokens,
    identities, devices⟩
  apply orderly.registered.change namesEq ?_ tokens.kind identities devices
  intro d
  exact ⟨{ d with status, updatedAt := now }, rfl⟩

/-- The tokens of a device that was set to another status than accepted lose their force, and the
store is orderly again. -/
theorem exists_ends_onStatusChanged {s₁ : Store} {status : DeviceStatus} (a : Authority)
    (wall : Int) (orderly : s.Orderly ids) (loses : status.revokesTokens = true)
    (registered : s₁.Registered ids) (tokens : s.SameTokens s₁)
    (devices : s₁.devices = DeviceEntry.changeWhere (DeviceEntry.isDevice tenant deviceId)
      (DeviceEntry.withStatus status (.ok now)) s.devices) :
    ∃ count s₂, (a.onStatusChanged tenant deviceId status).Ends now wall s₁ (.ok count) s₂ ∧
      s₂.Orderly ids ∧ s₂.tokens = revokeWhere (isOutstanding tenant deviceId) s.tokens := by
  have counted := Store.run_revokeDeviceTokens s₁ tenant deviceId
  have tokens₂ := Store.tokens_revokeDeviceTokens s₁ tenant deviceId
  have devices₂ := Store.sameDevices_run s₁ (c := .revokeDeviceTokens tenant deviceId) rfl
  rw [tokens.tokens] at tokens₂
  refine ⟨s₁.tokens.countP (isOutstanding tenant deviceId), _, ?_, ?_, tokens₂⟩
  · simp only [Authority.onStatusChanged, loses, if_true]
    exact Action.ends_call (Prod.ext counted rfl)
  · apply orderly.change (registered.of_sameDevices devices₂)
      (devices₂.kind.trans tokens.kind) tokens₂
    intro t member unrevoked accepted
    rw [tokens₂] at member
    have isOther : ¬(t.tenant = tenant ∧ t.deviceId = deviceId) := by
      rintro ⟨rfl, rfl⟩
      have none := notOutstanding_of_mem_revokeWhere (fun _ _ outstanding => outstanding) member
      have own : t.entry.isOutstanding t.tenant t.deviceId = true :=
        isOutstanding_iff.mpr ⟨unrevoked, rfl, rfl⟩
      rw [own] at none
      cases none
    rcases hasAccepted_updateStatus now accepted (.inr isOther : status = .accepted ∨ _) with
      ⟨d, rest⟩
    have accepted₁ : s₁.HasAccepted t.tenant t.deviceId := ⟨d, devices ▸ rest⟩
    exact accepted₁.of_sameDevices devices₂

/-- A change of status that finds its device revokes the tokens of the device unless the status is
accepted, and another one changes no token. -/
theorem exists_ends_setStatus (a : Admission) (wall : Int) (orderly : s.Orderly ids)
    (timely : now.isTimely = true) (tenant : Tenant) (deviceId : String)
    (status : DeviceStatus) :
    ∃ r s', (a.setStatus tenant deviceId status).Ends now wall s r s' ∧ s'.Orderly ids ∧
      ((r = .ok () ∧ s'.tokens = revokeWhere
          (fun e => status.revokesTokens && e.isOutstanding tenant deviceId) s.tokens) ∨
        (r = .error .deviceNotFound ∧ s'.tokens = s.tokens)) := by
  rcases exists_run_updateStatus orderly timely tenant deviceId status with
    ⟨s₁, answer, registered, tokens, identities, devices⟩
  cases known : s.devices.any (DeviceEntry.isDevice tenant deviceId) with
  | false =>
      rw [known] at answer
      have sameDevices : s₁.devices = s.devices := by
        rw [devices, DeviceEntry.changeWhere_eq_self]
        intro e member
        exact Bool.not_eq_true _ ▸ List.any_eq_false.mp known e member
      refine ⟨_, s₁, (Action.ends_now s).bind ((Action.ends_call answer).bind
        (Action.ends_fail .deviceNotFound s₁)), ?_, .inr ⟨rfl, tokens.tokens⟩⟩
      exact orderly.of_devices tokens registered fun other id accepted =>
        accepted.of_sameDevices ⟨tokens.kind, sameDevices, identities⟩
  | true =>
      rw [known] at answer
      cases loses : status.revokesTokens with
      | true =>
          rcases exists_ends_onStatusChanged a.authority wall orderly loses registered tokens
            devices with ⟨count, s₂, ends, orderly₂, tokens₂⟩
          exact ⟨_, s₂, (Action.ends_now s).bind ((Action.ends_call answer).bind
            (ends.bind (Action.ends_pure () s₂))), orderly₂, .inl ⟨rfl, tokens₂⟩⟩
      | false =>
          have isAccepted : status = .accepted := by
            simpa [DeviceStatus.revokesTokens] using loses
          refine ⟨_, s₁, (Action.ends_now s).bind ((Action.ends_call answer).bind
            (Action.Ends.bind (a := 0) ?_ (Action.ends_pure () s₁))), ?_, .inl ⟨rfl, ?_⟩⟩
          · simp only [Authority.onStatusChanged, loses, Bool.false_eq_true, if_false]
            exact Action.ends_pure 0 s₁
          · apply orderly.of_devices tokens registered
            intro other id accepted
            rcases hasAccepted_updateStatus now accepted (.inl isAccepted) with ⟨d, rest⟩
            exact ⟨d, devices ▸ rest⟩
          · rw [tokens.tokens]
            exact (revokeWhere_eq_self fun _ _ => rfl).symm

end Admission

end DeviceAdmission
