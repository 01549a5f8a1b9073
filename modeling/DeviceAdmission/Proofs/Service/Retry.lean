import DeviceAdmission.Proofs.Service.Interruption
import DeviceAdmission.Proofs.Service.Keys
import DeviceAdmission.Proofs.Service.Leftovers
import DeviceAdmission.Proofs.Store.Repeats

/-!
# Operations that are repeated

Where the calls of an attempt may fail and nobody else interferes, the same operation at the same
time ends as if there had been no attempt. Whatever a submission has left is what its repetition
would do first: the device is found with its key, and the token that was inserted is the live one,
or it was revoked and another one is inserted. A change of status that is repeated writes the same
status and revokes the same tokens.
-/

namespace DeviceAdmission

open TokenEntry

/-- Whether the record of the token is the only outstanding one of its device. -/
def Store.HoldsOnly (s : Store) (t : Token) : Prop :=
  ∃ e ∈ s.tokens, e.Records t ∧ e.isOutstanding t.tenant t.deviceId = true ∧
    ∀ f ∈ s.tokens, f.isOutstanding t.tenant t.deviceId = true → f = e

/-! ## Issuances -/

namespace Authority

variable {a : Authority} {s s' s₂ : Store} {tokenId newId deviceId : String} {tenant : Tenant}
variable {now : Instant} {r : Except Failure Token}

theorem Leftover.sameDevices (leftover : a.Leftover s tokenId tenant deviceId now s') :
    s.SameDevices s' := by
  have inserted : ∀ candidate t s₁, s.run (.insertOrGetLive candidate now) = (.ok t, s₁) →
      s.SameDevices s₁ := by
    intro candidate t s₁ answer
    have same := Store.sameDevices_run s (c := .insertOrGetLive candidate now) rfl
    rw [answer] at same
    exact same
  cases leftover with
  | untouched => exact .refl s
  | inserted minted answer => exact inserted _ _ _ answer
  | @withdrawn candidate t s₁ minted answer =>
      have revoked := Store.sameDevices_run s₁ (c := .revokeToken tenant t.id) rfl
      have before := inserted _ _ _ answer
      exact ⟨revoked.kind.trans before.kind, revoked.devices.trans before.devices,
        revoked.identities.trans before.identities⟩

/-- Where an attempt inserted a token, the outstanding token of the device can be read, in the store
that it met and in the one that it left. -/
theorem Leftover.readsLive (leftover : a.Leftover s tokenId tenant deviceId now s')
    (sound : s.Sound)
    (kept : ∀ t, a.mint tokenId tenant deviceId now = .ok t → s.kind.tokenEntry t = t.entry) :
    s' = s ∨ s.ReadsLive tenant deviceId ∧ s'.ReadsLive tenant deviceId := by
  have inserted : ∀ candidate t s₁, a.mint tokenId tenant deviceId now = .ok candidate →
      s.run (.insertOrGetLive candidate now) = (.ok t, s₁) →
        s.ReadsLive tenant deviceId ∧ s₁.ReadsLive tenant deviceId := by
    intro candidate t s₁ minted answer
    have made := minting minted
    have insertion := Store.insertion sound candidate now
    rw [answer] at insertion
    rw [← made.tenantEq, ← made.deviceEq]
    exact ⟨insertion.readsLive sound.single,
      insertion.readsLive_after sound.single (kept candidate minted)⟩
  cases leftover with
  | untouched => exact .inl rfl
  | inserted minted answer => exact .inr (inserted _ _ _ minted answer)
  | withdrawn minted answer =>
      obtain ⟨before, after⟩ := inserted _ _ _ minted answer
      exact .inr ⟨before, after.of_revoked (Store.tokens_revokeToken _ _ _)⟩

/-- Whether an issuance succeeds, and how it fails. -/
def dispatched (a : Authority) (s : Store) (tokenId : String) (tenant : Tenant)
    (deviceId : String) (now : Instant) : Except Failure Unit := do
  s.look tenant deviceId
  let candidate ← a.mint tokenId tenant deviceId now
  match (s.run (.insertOrGetLive candidate now)).1 with
  | .ok _ => pure ()
  | .error fault => throw (.internal (.storeFailed StoreMethod.insertOrGetLive.name fault))

theorem Dispatch.outcome (dispatch : a.Dispatch s tokenId tenant deviceId now r s') :
    (r.map fun _ => ()) = a.dispatched s tokenId tenant deviceId now := by
  unfold dispatched
  cases dispatch with
  | refused looked =>
      rw [looked]
      rfl
  | notMinted looked failed =>
      rw [looked, failed]
      rfl
  | stopped looked minted answer =>
      rw [looked, minted]
      simp only [Bind.bind, Except.bind, answer]
      rfl
  | issued looked minted answer =>
      rw [looked, minted]
      simp only [Bind.bind, Except.bind, answer]
      rfl

/-- After an attempt an issuance succeeds, or fails, as it would have before. -/
theorem Leftover.dispatched_eq (leftover : a.Leftover s tokenId tenant deviceId now s')
    (sound : s.Sound) (sound' : s'.Sound)
    (kept : ∀ t, a.mint tokenId tenant deviceId now = .ok t → s.kind.tokenEntry t = t.entry)
    (fresh : ∀ e ∈ s.tokens, e.id ≠ newId) (fresh' : ∀ e ∈ s'.tokens, e.id ≠ newId) :
    a.dispatched s' newId tenant deviceId now = a.dispatched s newId tenant deviceId now := by
  rcases leftover.readsLive sound kept with rfl | ⟨before, after⟩
  · rfl
  · unfold dispatched
    rw [Store.look_of_sameDevices leftover.sameDevices]
    cases minted : a.mint newId tenant deviceId now with
    | error e => rfl
    | ok candidate =>
        have made := minting minted
        rw [← made.tenantEq, ← made.deviceEq] at before after
        rw [← made.idEq] at fresh fresh'
        obtain ⟨_, _, single⟩ := Store.exists_run_insertOrGetLive sound now before fresh
        obtain ⟨_, _, retried⟩ := Store.exists_run_insertOrGetLive sound' now after fresh'
        simp only [Bind.bind, Except.bind, single, retried]

/-- A token that is issued is the only outstanding one of its device. -/
theorem Dispatch.holdsOnly {t : Token}
    (dispatch : a.Dispatch s tokenId tenant deviceId now (.ok t) s') (sound : s.Sound) :
    s'.HoldsOnly t := by
  cases dispatch with
  | @issued candidate _ _ looked minted answer =>
      have made := minting minted
      have inserted := Store.insertion sound candidate now
      have sound' := sound.run (.insertOrGetLive candidate now)
      rw [answer] at inserted sound'
      rcases inserted.outstanding made.unrevoked with ⟨e, member, records, outstanding⟩
      obtain ⟨-, tenantEq, deviceEq⟩ := isOutstanding_iff.mp outstanding
      rw [← tenantEq, ← deviceEq, records.tenant, records.deviceId] at outstanding
      exact ⟨e, member, records, outstanding, fun f fMem fOut =>
        sound'.single.eq_of_outstanding fMem member fOut outstanding⟩

end Authority

/-! ## Submissions -/

/-- An entry with the second id in place of the first one. -/
def DeviceEntry.renamed (id newId : String) (e : DeviceEntry) : DeviceEntry :=
  if e.id = id then { e with id := newId } else e

theorem DeviceEntry.renamed_firstSeen (id newId : String) (tenant : Tenant)
    (identityData publicKey : String) (now : Instant) :
    (Device.firstSeen id tenant identityData publicKey now).entry.renamed id newId =
      (Device.firstSeen newId tenant identityData publicKey now).entry :=
  if_pos rfl

theorem DeviceEntry.map_renamed {id newId : String} {entries : List DeviceEntry}
    (fresh : ∀ e ∈ entries, e.id ≠ id) : entries.map (DeviceEntry.renamed id newId) = entries := by
  have same : ∀ e ∈ entries, e.renamed id newId = e := fun e member => if_neg (fresh e member)
  rw [List.map_congr_left same, List.map_id']

/-- How a repeated request compares with a single one, given the ids that the attempt and the
repetition chose for a new device: both succeed, or both fail in the same way; the devices that are
left are the same, but for the id of a new one; and a token that the repetition gives is the only
one of its device with force. -/
structure Absorbed (firstId secondId : String) (single : Except Failure Token) (s : Store)
    (repeated : Except Failure Token) (s' : Store) : Prop where
  outcome : (repeated.map fun _ => ()) = single.map fun _ => ()
  devices : s'.devices = s.devices ∨
    s'.devices.Perm (s.devices.map (DeviceEntry.renamed secondId firstId))
  token : ∀ t, repeated = .ok t → s'.HoldsOnly t

/-- An issuance after another attempt compares with a single one. -/
theorem Authority.Leftover.absorbed {a : Authority} {s s' : Store}
    {tokenId newId deviceId : String} {tenant : Tenant} {now : Instant}
    (leftover : a.Leftover s tokenId tenant deviceId now s') (sound : s.Sound) (sound' : s'.Sound)
    (kept : ∀ t, a.mint tokenId tenant deviceId now = .ok t → s.kind.tokenEntry t = t.entry)
    (unused : ∀ e ∈ s.tokens, e.id ≠ newId) (unused' : ∀ e ∈ s'.tokens, e.id ≠ newId)
    (wall : Int) (firstId secondId : String) :
    ∃ r₁ s₁ r₂ s₂, (a.issue newId tenant deviceId).Ends now wall s r₁ s₁ ∧
      (a.issue newId tenant deviceId).Ends now wall s' r₂ s₂ ∧
        Absorbed firstId secondId r₁ s₁ r₂ s₂ := by
  obtain ⟨r₁, s₁, single⟩ := exists_dispatch sound a newId tenant deviceId now
  obtain ⟨r₂, s₂, repeated⟩ := exists_dispatch sound' a newId tenant deviceId now
  refine ⟨r₁, s₁, r₂, s₂, single.ends wall, repeated.ends wall, ?_, ?_, ?_⟩
  · rw [repeated.outcome, single.outcome, leftover.dispatched_eq sound sound' kept unused unused']
  · left
    rw [repeated.sameDevices.devices, leftover.sameDevices.devices, single.sameDevices.devices]
  · rintro t rfl
    exact repeated.holdsOnly sound'

namespace Admission

variable {s : Admission} {store left : Store} {given : List String} {first second : FreshIds}
variable {tenant : Tenant} {request : AuthRequest} {now : Instant} {wall : Int} {body : Bytes}
variable {signature : Option String}

/-- A request over a sound store ends, and a token that it gives is the only one with force. -/
theorem exists_ends_grant_holdsOnly (sound : store.Sound) (distinct : store.Distinct given)
    (fresh : second.device ∉ given) (legible : store.kind = .tables → now.isLegible = true)
    (wall : Int) (body : Bytes) (signature : Option String) :
    ∃ r s', (s.grant second body signature).Ends now wall store r s' ∧
      ∀ t, r = .ok t → s'.HoldsOnly t := by
  cases checked : s.check wall body signature with
  | error e => exact ⟨_, _, ends_grant_of_unchecked checked, nofun⟩
  | ok result =>
      obtain ⟨request, tenant⟩ := result
      obtain ⟨r, s₁, encounter⟩ := exists_encounter s store second.device tenant request now
      have lookedUp := encounter.ends distinct fresh legible wall
      cases r with
      | error e => exact ⟨_, _, ends_grant_of_refused checked lookedUp, nofun⟩
      | ok d =>
          have sound₁ := encounter.sameTokens.sound sound
          obtain ⟨r, s', dispatch⟩ := Authority.exists_dispatch sound₁ s.authority second.token
            tenant d.id now
          refine ⟨r, s', ends_grant_of_found checked lookedUp (dispatch.ends wall), ?_⟩
          rintro t rfl
          exact dispatch.holdsOnly sound₁

/-- What is assumed of an attempt and of the ids of its repetition. -/
structure Repeatable (s : Admission) (store left : Store) (given : List String)
    (first second : FreshIds) (now : Instant) : Prop where
  sound : store.Sound
  soundLeft : left.Sound
  distinct : store.Distinct given
  fresh : first.device ∉ given
  freshAgain : second.device ∉ first.device :: given
  unused : ∀ e ∈ store.tokens, e.id ≠ second.token
  unusedLeft : ∀ e ∈ left.tokens, e.id ≠ second.token
  legible : store.kind = .tables → now.isLegible = true
  kept : ∀ tenant deviceId t, s.authority.mint first.token tenant deviceId now = .ok t →
    store.kind.tokenEntry t = t.entry

/-- A device that is registered under one id is the one that is registered under another id, but for
the id. -/
theorem renamed_of_registered {id newId : String} (distinct : store.Distinct given)
    (fresh : newId ∉ given) (freshId : id ∉ given)
    (legible : store.kind = .tables → now.isLegible = true)
    (unknown : ∀ e ∈ store.devices, e.hasIdentity tenant request.identityData = false) :
    (store.run (.getOrCreate
      (.firstSeen newId tenant request.identityData request.publicKey now))).2.devices.Perm
        ((store.run (.getOrCreate
          (.firstSeen id tenant request.identityData request.publicKey now))).2.devices.map
            (DeviceEntry.renamed id newId)) := by
  have renamed := DeviceEntry.renamed_firstSeen id newId tenant request.identityData
    request.publicKey now
  obtain ⟨one, seen⟩ : ∃ one : Device,
    one = .firstSeen newId tenant request.identityData request.publicKey now := ⟨_, rfl⟩
  obtain ⟨other, seenOther⟩ : ∃ other : Device,
    other = .firstSeen id tenant request.identityData request.publicKey now := ⟨_, rfl⟩
  obtain ⟨-, devices⟩ := run_getOrCreate_firstSeen distinct fresh legible unknown seen
  obtain ⟨-, others⟩ := run_getOrCreate_firstSeen distinct freshId legible unknown seenOther
  rw [← seen, ← seenOther] at renamed ⊢
  have mapped := others.map (DeviceEntry.renamed id newId)
  rw [List.map_cons, renamed, DeviceEntry.map_renamed (distinct.id_ne freshId)] at mapped
  exact devices.trans mapped.symm

/-- A request compares with itself. -/
theorem Repeatable.absorbed_self (h : s.Repeatable store left given first second now) (wall : Int)
    (body : Bytes) (signature : Option String) :
    ∃ r₁ s₁ r₂ s₂, (s.grant second body signature).Ends now wall store r₁ s₁ ∧
      (s.grant second body signature).Ends now wall store r₂ s₂ ∧
        Absorbed first.device second.device r₁ s₁ r₂ s₂ := by
  have fresh : second.device ∉ given := fun used =>
    h.freshAgain (List.mem_cons_of_mem _ used)
  obtain ⟨r, s', ends, token⟩ := exists_ends_grant_holdsOnly h.sound h.distinct fresh h.legible
    wall body signature
  exact ⟨r, s', r, s', ends, ends, rfl, .inl rfl, token⟩

/-- A request after another attempt compares with a single one. -/
theorem Leftover.absorbed (leftover : s.Leftover store first tenant request now left)
    (h : s.Repeatable store left given first second now)
    (checked : s.check wall body signature = .ok (request, tenant)) :
    ∃ r₁ s₁ r₂ s₂, (s.grant second body signature).Ends now wall store r₁ s₁ ∧
      (s.grant second body signature).Ends now wall left r₂ s₂ ∧
        Absorbed first.device second.device r₁ s₁ r₂ s₂ := by
  have freshSecond : second.device ∉ given := fun used =>
    h.freshAgain (List.mem_cons_of_mem _ used)
  cases leftover with
  | untouched => exact h.absorbed_self wall body signature
  | @lookedUp d s₁ _ encounter issuance =>
      have same := issuance.sameDevices
      have tokens := encounter.sameTokens
      obtain ⟨d', member, identity, idEq, statusEq, keyEq⟩ :=
        encounter.exists_device h.distinct h.fresh h.legible
      have found : s.Encounter left second.device tenant request now (.ok d') left :=
        .known (same.devices ▸ member) identity keyEq
      have distinctLeft : left.Distinct (first.device :: given) :=
        (encounter.distinct h.distinct h.fresh).of_sameCards same.sameCards
      have legibleLeft : left.kind = .tables → now.isLegible = true := by
        rw [same.kind, tokens.kind]
        exact h.legible
      have lookedUp := found.ends distinctLeft h.freshAgain legibleLeft wall
      -- Where the single request finds the same device as the attempt, its issuance decides.
      have issued : s.Encounter store second.device tenant request now (.ok d) s₁ →
          ∃ r₁ s₁ r₂ s₂, (s.grant second body signature).Ends now wall store r₁ s₁ ∧
            (s.grant second body signature).Ends now wall left r₂ s₂ ∧
              Absorbed first.device second.device r₁ s₁ r₂ s₂ := by
        intro single
        obtain ⟨r₁, s₁', r₂, s₂, ends₁, ends₂, absorbed⟩ := issuance.absorbed
          (tokens.sound h.sound) h.soundLeft
          (fun t minted => tokens.kind ▸ h.kept tenant d.id t minted) (tokens.tokens ▸ h.unused)
          h.unusedLeft wall first.device second.device
        rw [← idEq] at ends₂
        exact ⟨r₁, s₁', r₂, s₂, ends_grant_of_found checked
          (single.ends h.distinct freshSecond h.legible wall) ends₁,
          ends_grant_of_found checked lookedUp ends₂, absorbed⟩
      cases encounter with
      | registered unknown =>
          have single : s.Encounter store second.device tenant request now _ _ :=
            .registered unknown
          have refused := single.ends_issue_of_unaccepted h.distinct freshSecond h.legible nofun
            second.token wall
          have refusedAgain := found.ends_issue_of_unaccepted distinctLeft h.freshAgain
            legibleLeft (by rw [statusEq]; nofun) second.token wall
          refine ⟨_, _, _, _, ends_grant_of_found checked
            (single.ends h.distinct freshSecond h.legible wall) refused,
            ends_grant_of_found checked lookedUp refusedAgain, rfl, .inr ?_, nofun⟩
          rw [same.devices]
          exact renamed_of_registered h.distinct h.fresh freshSecond h.legible unknown
      | known old identity keyEq => exact issued (.known old identity keyEq)
      | rotated old identity keyNe allowed => exact issued (.rotated old identity keyNe allowed)

end Admission

/-! ## Changes of status -/

namespace Store

variable (s : Store) (tenant : Tenant) (id : String) (status : DeviceStatus) (now : Instant)

/-- What is left of a store where a status was set. -/
def showing : Store :=
  let set := (s.run (.updateStatus tenant id status now)).2
  if s.devices.any (DeviceEntry.isDevice tenant id) && status.revokesTokens then
    (set.run (.revokeDeviceTokens tenant id)).2
  else set

theorem any_isDevice_updateStatus :
    (s.run (.updateStatus tenant id status now)).2.devices.any
        (DeviceEntry.isDevice tenant id) =
      s.devices.any (DeviceEntry.isDevice tenant id) := by
  rw [updateStatus_eq, any_isDevice_withDeviceStatus]

/-- A status that is set again changes nothing more. -/
theorem showing_updateStatus :
    (s.run (.updateStatus tenant id status now)).2.showing tenant id status now =
      s.showing tenant id status now := by
  rw [showing, showing, any_isDevice_updateStatus, updateStatus_twice]

theorem any_isDevice_showing :
    (s.showing tenant id status now).devices.any (DeviceEntry.isDevice tenant id) =
      s.devices.any (DeviceEntry.isDevice tenant id) := by
  have set := any_isDevice_updateStatus s tenant id status now
  unfold showing
  dsimp only
  split
  · rw [(sameDevices_run _ (c := .revokeDeviceTokens tenant id) rfl).devices]
    exact set
  · exact set

/-- A status that is set again, after the tokens were revoked, changes nothing more. -/
theorem showing_showing :
    (s.showing tenant id status now).showing tenant id status now =
      s.showing tenant id status now := by
  have again : (s.showing tenant id status now).showing tenant id status now =
      let set := ((s.showing tenant id status now).run (.updateStatus tenant id status now)).2
      if s.devices.any (DeviceEntry.isDevice tenant id) && status.revokesTokens then
        (set.run (.revokeDeviceTokens tenant id)).2
      else set := by
    rw [showing, any_isDevice_showing]
  rw [again]
  unfold showing
  dsimp only
  split
  · rw [updateStatus_revokeDeviceTokens, updateStatus_twice, revokeDeviceTokens_twice]
  · rw [updateStatus_twice]

end Store

namespace Admission

variable {s : Admission} {store : Store} {w w' : World} {tenant : Tenant} {id : String}
variable {status : DeviceStatus}

/-- What a change of status may leave of a store. -/
inductive StatusLeftover (store : Store) (tenant : Tenant) (id : String) (status : DeviceStatus)
    (now : Instant) : Store → Prop where
  | untouched : StatusLeftover store tenant id status now store
  | halfway : StatusLeftover store tenant id status now
      (store.run (.updateStatus tenant id status now)).2
  | finished : StatusLeftover store tenant id status now (store.showing tenant id status now)

/-- What a change of status leaves where nobody interferes and calls may fail. -/
theorem statusLeftover {r : Except Failure Unit} (alone : w.IsAlone)
    (ran : (s.setStatus tenant id status).run w = (r, w')) :
    StatusLeftover w.store tenant id status w.now w'.store := by
  unfold setStatus at ran
  rw [Action.run_bind_ok (Action.run_now w)] at ran
  have answers := Store.run_updateStatus w.store tenant id status w.now
  cases called : (s.call (.updateStatus tenant id status w.now)).run w with
  | mk result w₁ =>
      cases result with
      | error e =>
          rw [Action.run_bind_error called] at ran
          cases ran
          rw [alone.left answers called]
          exact .untouched
      | ok known =>
          rw [Action.run_bind_ok called] at ran
          obtain ⟨alone₁, answer⟩ := alone.called called
          have written : StatusLeftover w.store tenant id status w.now
              (w.store.run (.updateStatus tenant id status w.now)).2 := .halfway
          have ended : StatusLeftover w.store tenant id status w.now
              (w.store.showing tenant id status w.now) := .finished
          rw [answer] at answers written
          rw [Store.showing, ← Except.ok.inj answers, answer] at ended
          cases known with
          | false =>
              cases ran
              exact written
          | true =>
              simp only [if_true, Authority.onStatusChanged] at ran
              cases loses : status.revokesTokens with
              | false =>
                  rw [loses] at ran
                  cases ran
                  exact written
              | true =>
                  rw [loses] at ran ended
                  cases revoked : (s.authority.call (.revokeDeviceTokens tenant id)).run w₁ with
                  | mk result w₂ =>
                      cases result with
                      | error e =>
                          simp only [if_true, Action.run_bind_error revoked] at ran
                          cases ran
                          rw [alone₁.left (Store.run_revokeDeviceTokens _ tenant id) revoked]
                          exact written
                      | ok count =>
                          simp only [if_true, Action.run_bind_ok revoked] at ran
                          cases ran
                          obtain ⟨-, revoked⟩ := alone₁.called revoked
                          simp only [Bool.true_and, if_true, revoked] at ended
                          exact ended

/-- A change of status that nobody interferes with. -/
theorem ends_setStatus (s : Admission) (store : Store) (tenant : Tenant) (id : String)
    (status : DeviceStatus) (now : Instant) (wall : Int) :
    (s.setStatus tenant id status).Ends now wall store
      (if store.devices.any (DeviceEntry.isDevice tenant id) then .ok ()
        else .error .deviceNotFound) (store.showing tenant id status now) := by
  have answer : store.run (.updateStatus tenant id status now) = (_, _) :=
    Prod.ext (Store.run_updateStatus store tenant id status now) rfl
  unfold Store.showing
  cases known : store.devices.any (DeviceEntry.isDevice tenant id) with
  | false =>
      rw [known] at answer
      exact (Action.ends_now store).bind ((Action.ends_call answer).bind
        (Action.ends_fail .deviceNotFound _))
  | true =>
      rw [known] at answer
      refine (Action.ends_now store).bind ((Action.ends_call answer).bind ?_)
      simp only [if_true, Bool.true_and, Authority.onStatusChanged]
      cases loses : status.revokesTokens with
      | false => exact (Action.ends_pure 0 _).bind (Action.ends_pure () _)
      | true =>
          exact (Action.ends_call (Prod.ext (Store.run_revokeDeviceTokens _ tenant id) rfl)).bind
            (Action.ends_pure () _)

/-- After an attempt a change of status ends as it would have before. -/
theorem StatusLeftover.ends {left : Store} {now : Instant}
    (leftover : StatusLeftover store tenant id status now left) (s : Admission) (wall : Int) :
    (s.setStatus tenant id status).Ends now wall left
      (if store.devices.any (DeviceEntry.isDevice tenant id) then .ok ()
        else .error .deviceNotFound) (store.showing tenant id status now) := by
  have ends := ends_setStatus s left tenant id status now wall
  cases leftover with
  | untouched => exact ends
  | halfway =>
      rw [Store.any_isDevice_updateStatus, Store.showing_updateStatus] at ends
      exact ends
  | finished =>
      rw [Store.any_isDevice_showing, Store.showing_showing] at ends
      exact ends

end Admission

/-! ## Main statement -/

/-- What an operation ends with and leaves where nobody interferes. -/
def Admission.undisturbed (s : Admission) (operation : Operation) (store : Store) (now : Instant)
    (wall : Int) : Except Failure Reply × Store :=
  let result := (s.perform operation).run (World.quiet store now wall)
  (result.1, result.2.store)

theorem Admission.undisturbed_eq {s : Admission} {operation : Operation} {store store' : Store}
    {now : Instant} {wall : Int} {r : Except Failure Reply}
    (ends : (s.perform operation).Ends now wall store r store') :
    s.undisturbed operation store now wall = (r, store') :=
  Prod.ext ends.run_quiet.1 ends.run_quiet.2

/-- A token that is minted in years that can be read back is kept as it is. -/
theorem Authority.tokenEntry_of_legible {a : Authority} {kind : StoreKind} {tokenId : String}
    {tenant : Tenant} {deviceId : String} {now : Instant} {t : Token}
    (legible : kind = .tables →
      now.isLegible = true ∧ (now.add a.policy.expiration).isLegible = true)
    (minted : a.mint tokenId tenant deviceId now = .ok t) : kind.tokenEntry t = t.entry := by
  have made := minting minted
  cases kind with
  | memory => rfl
  | tables =>
      obtain ⟨issued, expires⟩ := legible rfl
      apply StoreKind.tables.tokenEntry_eq made.unrevoked
      · rw [made.issuedAt]
        exact issued
      · rw [made.expiresAt, Instant.isLegible, Instant.date, Instant.seconds_ofSeconds]
        exact expires

namespace Run

variable {s : Admission} {kind : StoreKind} {r : Run} {st : Step}

theorem world_isAlone (alone : st.IsAlone) (store : Store) : (st.world store).IsAlone :=
  alone

/-- What is assumed of an attempt and of the ids of its repetition holds in runs with fresh ids. -/
theorem Reached.repeatable {first second : FreshIds} {body : Bytes} {signature : Option String}
    (reached : r.Reached s kind) (operation : st.operation = .submit first body signature)
    (tokens : (second.token :: tokenIds (r.next s st).past).Nodup)
    (devices : (second.device :: deviceIds (r.next s st).past).Nodup)
    (legible : kind = .tables → st.now.isLegible = true ∧
      (st.now.add s.authority.policy.expiration).isLegible = true) :
    s.Repeatable r.store (r.next s st).store (deviceIds r.past) first second st.now := by
  obtain ⟨unusedAgain, tokensNext⟩ := List.nodup_cons.mp tokens
  obtain ⟨freshAgain, devicesNext⟩ := List.nodup_cons.mp devices
  have given : st.operation.deviceId? = some first.device := by
    rw [operation]
    rfl
  have keptNext := (reached.step st).kept tokensNext
  have kindEq := reached.kind_eq
  rw [tokenIds_next] at unusedAgain tokensNext
  rw [next, deviceIds_cons, given] at freshAgain
  obtain ⟨unused, earlier⟩ := fresh_of_nodup devicesNext
  have kept := reached.kept tokensNext.of_append_right
  exact {
    sound := kept.sound
    soundLeft := keptNext.sound
    distinct := reached.distinct earlier
    fresh := unused _ given
    freshAgain
    unused := kept.id_ne fun used => unusedAgain (List.mem_append_right _ used)
    unusedLeft := keptNext.id_ne (List.nodup_cons.mp tokens).1
    legible := fun isTables => (legible (kindEq ▸ isTables)).1
    kept := fun tenant deviceId t minted =>
      Authority.tokenEntry_of_legible (fun isTables => legible (kindEq ▸ isTables)) minted }

/-- What an attempt to submit has left compares with what was there before it. -/
theorem repeated_of_submit {given : List String} {first second : FreshIds} {body : Bytes}
    {signature : Option String} {wall : Int} (alone : st.IsAlone)
    (operation : st.operation = .submit first body signature)
    (h : s.Repeatable r.store (r.next s st).store given first second st.now)
    (sameTenant : ∀ result, s.check st.wallSeconds body signature = .ok result →
      s.check wall body signature = .ok result) :
    ∃ r₁ s₁ r₂ s₂, (s.grant second body signature).Ends st.now wall r.store r₁ s₁ ∧
      (s.grant second body signature).Ends st.now wall (r.next s st).store r₂ s₂ ∧
        Absorbed first.device second.device r₁ s₁ r₂ s₂ := by
  have storeEq : (r.next s st).store =
      ((s.grant first body signature).run (st.world r.store)).2.store := by
    rw [next, operation, Admission.perform, Action.run_map_snd]
  cases granted : (s.grant first body signature).run (st.world r.store) with
  | mk result w' =>
      rw [granted] at storeEq
      have path := Admission.grantPath granted
      cases checked : s.check st.wallSeconds body signature with
      | error e =>
          have left : (r.next s st).store = r.store := by
            cases path with
            | unchecked failed => exact storeEq
            | refused passed lookedUp => cases checked.symm.trans passed
            | issued passed lookedUp issued => cases checked.symm.trans passed
          rw [left]
          exact h.absorbed_self wall body signature
      | ok result =>
          obtain ⟨request, tenant⟩ := result
          have leftover := path.leftover h.sound alone h.distinct h.fresh h.legible checked
          rw [storeEq] at h ⊢
          exact leftover.absorbed h (sameTenant _ checked)

/-- A change of status after another attempt ends as a single one. -/
theorem undisturbed_next_setStatus {tenant : Tenant} {deviceId : String} {status : DeviceStatus}
    (alone : st.IsAlone) (operation : st.operation = .setStatus tenant deviceId status)
    (wall : Int) :
    s.undisturbed st.operation (r.next s st).store st.now wall =
      s.undisturbed st.operation r.store st.now wall := by
  have storeEq : (r.next s st).store =
      ((s.setStatus tenant deviceId status).run (st.world r.store)).2.store := by
    rw [next, operation, Admission.perform, Action.run_map_snd]
  cases ran : (s.setStatus tenant deviceId status).run (st.world r.store) with
  | mk result w' =>
      rw [ran] at storeEq
      have leftover := Admission.statusLeftover (world_isAlone alone r.store) ran
      have single : (s.perform (.setStatus tenant deviceId status)).Ends st.now wall r.store _ _ :=
        (Admission.ends_setStatus s r.store tenant deviceId status st.now wall).map
          fun _ => Reply.done
      have repeated : (s.perform (.setStatus tenant deviceId status)).Ends st.now wall w'.store
          _ _ := (leftover.ends s wall).map fun _ => Reply.done
      rw [storeEq, operation, Admission.undisturbed_eq repeated, Admission.undisturbed_eq single]
      rfl

/-- Operations that were interrupted can be repeated: whichever calls of an attempt failed, the
same operation at the same time ends as if there had been no attempt. A submission that is repeated
compares with a single one, where the times are kept as they are; a change of status ends and leaves
the store as a single one does. -/
theorem Reached.repeated (reached : r.Reached s kind) (alone : st.IsAlone) :
    (∀ first second body signature wall, st.operation = .submit first body signature →
      (second.token :: tokenIds (r.next s st).past).Nodup →
        (second.device :: deviceIds (r.next s st).past).Nodup →
          (∀ result, s.check st.wallSeconds body signature = .ok result →
            s.check wall body signature = .ok result) →
            (kind = .tables → st.now.isLegible = true ∧
              (st.now.add s.authority.policy.expiration).isLegible = true) →
              ∃ single left repeated left',
                s.undisturbed (.submit second body signature) r.store st.now wall =
                    (single.map Reply.token, left) ∧
                  s.undisturbed (.submit second body signature) (r.next s st).store st.now wall =
                    (repeated.map Reply.token, left') ∧
                  Absorbed first.device second.device single left repeated left') ∧
      ∀ tenant deviceId status wall, st.operation = .setStatus tenant deviceId status →
        s.undisturbed st.operation (r.next s st).store st.now wall =
          s.undisturbed st.operation r.store st.now wall := by
  constructor
  · intro first second body signature wall operation tokens devices sameTenant legible
    have h := reached.repeatable operation tokens devices legible
    obtain ⟨r₁, s₁, r₂, s₂, single, repeated, absorbed⟩ :=
      repeated_of_submit alone operation h sameTenant
    exact ⟨r₁, s₁, r₂, s₂, Admission.undisturbed_eq (single.map Reply.token),
      Admission.undisturbed_eq (repeated.map Reply.token), absorbed⟩
  · intro tenant deviceId status wall operation
    exact undisturbed_next_setStatus alone operation wall

end Run

namespace Sample

/-- The device of the sample submits its request, and the calls fail that look at the device once
more and that take the token back. -/
def interruptedSubmission : Step :=
  { step (.submit ⟨"e", "t1"⟩ body (some "IA==")) 120 (by decide) with
    interference := fun earlier site =>
      ⟨[], if site.method = .revokeToken ∨
          site.method = .getDevice ∧ ∃ c ∈ earlier, c.method = .insertOrGetLive then
            .fails (.medium "database is locked") else .proceeds⟩ }

/-- The submission of the sample's device can be repeated, and so can its rejection. -/
theorem repeated_interrupted :
    (∃ t left, admission.undisturbed (.submit ⟨"f", "t2"⟩ body (some "IA=="))
        ((registered .tables).next admission interruptedSubmission).store (.ofSeconds 120) 121 =
          (.ok (.token t), left) ∧ left.HoldsOnly t) ∧
      admission.undisturbed (.setStatus .default "d" .rejected)
          ((issued .memory).next admission failingRejection).store (.ofSeconds 105) 105 =
        admission.undisturbed (.setStatus .default "d" .rejected) (issued .memory).store
          (.ofSeconds 105) 105 := by
  have reached : (registered .tables).Reached admission .tables := (Run.Reached.start.step _).step _
  constructor
  · have alone : interruptedSubmission.IsAlone := fun _ _ => rfl
    obtain ⟨submissions, -⟩ := reached.repeated alone
    obtain ⟨single, left, repeated, left', singleEq, repeatedEq, absorbed⟩ :=
      submissions ⟨"e", "t1"⟩ ⟨"f", "t2"⟩ body (some "IA==") 121 rfl (by decide +kernel)
        (by decide +kernel) (fun _ checked => checked) (fun _ => by decide)
    have succeeds : ((admission.undisturbed (.submit ⟨"f", "t2"⟩ body (some "IA=="))
        ((registered .tables).next admission interruptedSubmission).store
          interruptedSubmission.now 121).1.map fun _ => ()) = .ok () := by decide +kernel
    rw [repeatedEq] at succeeds
    cases repeated with
    | error e => cases succeeds
    | ok t => exact ⟨t, left', repeatedEq, absorbed.token t rfl⟩
  · have alone : failingRejection.IsAlone := fun _ _ => rfl
    obtain ⟨-, statuses⟩ := (reached_issued .memory).repeated alone
    exact statuses .default "d" .rejected 105 rfl

/-- The service of the sample, with tokens that expire in the year 10000. -/
def lasting : Admission :=
  { admission with
    authority := ⟨keys, ⟨"admission", .ofSeconds 253402300680, .ofSeconds 0,
      defaultStorageTimeout⟩⟩ }

/-- A device is registered with this service and then accepted. -/
def lastingRegistered : Run :=
  let first : Run := ⟨.empty .tables, []⟩
  let second := first.next lasting
    (step (.submit ⟨"d", "t0"⟩ body (some "IA==")) 118 (by decide))
  second.next lasting (step (.setStatus .default "d" .accepted) 119 (by decide))

/-- An interrupted submission may bar every later one: its token cannot be read again, so the
repetition fails where a single submission succeeds. -/
theorem not_repeated : ¬∀ (s : Admission) (kind : StoreKind) (r : Run) (st : Step)
    (first second : FreshIds) (body : Bytes) (signature : Option String) (wall : Int),
    r.Reached s kind → st.IsAlone → st.operation = .submit first body signature →
      (second.token :: tokenIds (r.next s st).past).Nodup →
        (second.device :: deviceIds (r.next s st).past).Nodup →
          (∀ result, s.check st.wallSeconds body signature = .ok result →
            s.check wall body signature = .ok result) →
            ∃ single left repeated left',
              s.undisturbed (.submit second body signature) r.store st.now wall =
                  (single.map Reply.token, left) ∧
                s.undisturbed (.submit second body signature) (r.next s st).store st.now wall =
                  (repeated.map Reply.token, left') ∧
                Absorbed first.device second.device single left repeated left' := by
  intro claim
  have reached : lastingRegistered.Reached lasting .tables := (Run.Reached.start.step _).step _
  obtain ⟨single, left, repeated, left', singleEq, repeatedEq, absorbed⟩ :=
    claim lasting .tables lastingRegistered interruptedSubmission ⟨"e", "t1"⟩ ⟨"f", "t2"⟩ body
      (some "IA==") 120 reached (fun _ _ => rfl) rfl (by decide +kernel) (by decide +kernel)
      fun _ checked => checked
  have succeeds : ((lasting.undisturbed (.submit ⟨"f", "t2"⟩ body (some "IA=="))
      lastingRegistered.store interruptedSubmission.now 120).1.map fun _ => ()) = .ok () := by
    decide +kernel
  have fails : ((lasting.undisturbed (.submit ⟨"f", "t2"⟩ body (some "IA=="))
      (lastingRegistered.next lasting interruptedSubmission).store interruptedSubmission.now
        120).1.map fun _ => ()) ≠ .ok () := by
    decide +kernel
  have outcome := absorbed.outcome
  rw [singleEq] at succeeds
  rw [repeatedEq] at fails
  cases single with
  | error e => cases succeeds
  | ok t =>
      cases repeated with
      | error e => cases outcome
      | ok t' => exact fails rfl

end Sample

end DeviceAdmission
