import DeviceAdmission.Proofs.Service.Checks
import DeviceAdmission.Proofs.Service.Interruption
import DeviceAdmission.Proofs.Service.Keys
import DeviceAdmission.Proofs.Service.Paths
import DeviceAdmission.Proofs.Store.Sight

/-!
# Tokens that are taken back

An issuance obtains the live token of its device or a new one, looks at the status of the device
once more, and takes the token back where this look does not pass. It does not pass where the device
is not accepted any more, and neither where the call fails. So whichever calls of an issuance or a
submission fail, a token of a device that stays accepted keeps its force, but for one case: the
second look fails, and the call that takes the token back does not.
-/

namespace DeviceAdmission

open TokenEntry

/-- Whether an entry is outstanding and, as far as its times can be read, not expired. -/
structure TokenEntry.Stands (e : TokenEntry) (tenant : Tenant) (deviceId : String)
    (now : Instant) : Prop where
  outstanding : e.isOutstanding tenant deviceId = true
  unexpired : ∀ t : Token, e = t.entry → t.isExpiredAt now = false

/-- Whether others only ever set the device with the tenant and id to accepted. -/
def Upheld (tenant : Tenant) (deviceId : String)
    (interference : (earlier : List CallSite) → CallSite → Interference) : Prop :=
  ∀ earlier site, ∀ v ∈ (interference earlier site).writes,
    v.tenant = tenant → v.deviceId = deviceId → v.status = .accepted

/-! ## Stores -/

namespace Store

variable {s s' : Store} {ids : List String} {tenant : Tenant} {id : String} {e : TokenEntry}

/-- Whether a store has the device with the tenant and id, and has it as accepted. -/
structure Upholds (s : Store) (tenant : Tenant) (id : String) : Prop where
  known : ∃ g ∈ s.devices, g.isDevice tenant id = true
  accepted : ∀ g ∈ s.devices, g.isDevice tenant id = true → g.status = .ok .accepted

/-- A device that is accepted is the only one with its id. -/
theorem Distinct.upholds {d : Device} (distinct : s.Distinct ids) (member : d.entry ∈ s.devices)
    (accepted : d.status = .accepted) : s.Upholds d.tenant d.id := by
  constructor
  · exact ⟨d.entry, member, DeviceEntry.isDevice_iff.mpr ⟨rfl, rfl⟩⟩
  · intro g gMem isIt
    rw [distinct.eq_of_id gMem member (DeviceEntry.isDevice_iff.mp isIt).2]
    exact congrArg Except.ok accepted

/-- A device stays accepted under a call that leaves the cards, unless the call sets it to another
status. -/
theorem Upholds.run {α : Type} {c : StoreCall α} (upholds : s.Upholds tenant id)
    (spares : c.sparesCards = true)
    (status : ∀ status, c.tenant = tenant → c.newStatus? = some (id, status) →
      status = .accepted) : (s.run c).2.Upholds tenant id := by
  constructor
  · rcases upholds.known with ⟨g, member, isIt⟩
    rcases (sameCards_run s spares).exists_card_eq member with ⟨f, fMem, cardEq⟩
    exact ⟨f, fMem, (DeviceEntry.isDevice_of_card cardEq _ _).trans isIt⟩
  · intro f member isIt
    obtain ⟨tenantEq, idEq⟩ := DeviceEntry.isDevice_iff.mp isIt
    cases statusOrigin member with
    | @kept g old same =>
        rw [same.status]
        apply upholds.accepted g old
        exact DeviceEntry.isDevice_iff.mpr
          ⟨same.tenant.symm.trans tenantEq, same.id.symm.trans idEq⟩
    | registered candidate same =>
        cases c with
        | getOrCreate registered => cases spares
        | _ => cases candidate
    | set old tenantEq' idEq' named about statusEq =>
        rw [idEq] at named
        rw [statusEq, status _ (about.symm.trans tenantEq) named]

/-- A device stays accepted when a key is set. -/
theorem Upholds.rotateKey (upholds : s.Upholds tenant id) (distinct : s.Distinct ids)
    (other : Tenant) (otherId key : String) (now : Instant) :
    (s.run (.rotateKey other otherId key now)).2.Upholds tenant id := by
  obtain ⟨-, devices, -⟩ := distinct.run_rotateKey other otherId key now
  constructor
  · rcases upholds.known with ⟨g, member, isIt⟩
    rw [devices]
    refine ⟨_, List.mem_map_of_mem member, ?_⟩
    split
    · exact isIt
    · exact isIt
  · rw [devices]
    intro f member isIt
    rcases List.mem_map.mp member with ⟨g, old, rfl⟩
    split at isIt
    · rename_i isAccepted
      rw [if_pos isAccepted]
      exact upholds.accepted g old isIt
    · rename_i notAccepted
      rw [if_neg notAccepted]
      exact upholds.accepted g old isIt

theorem Upholds.writes {writes : List StatusWrite} (upholds : s.Upholds tenant id)
    (accept : ∀ v ∈ writes, v.tenant = tenant → v.deviceId = id → v.status = .accepted) :
    (writes.foldl StatusWrite.apply s).Upholds tenant id := by
  induction writes generalizing s with
  | nil => exact upholds
  | cons v rest ih =>
      apply ih _ fun u member => accept u (List.mem_cons_of_mem v member)
      apply upholds.run rfl
      intro status tenantEq named
      obtain ⟨deviceEq, rfl⟩ := Prod.mk.inj (Option.some.inj named)
      exact accept v List.mem_cons_self tenantEq deviceEq

/-- A look at a device that is accepted passes unless the call fails. -/
theorem Upholds.look (upholds : s.Upholds tenant id) :
    s.look tenant id = .ok () ∨
      ∃ f, s.look tenant id = .error f ∧ f.call? = some StoreMethod.getDevice.name := by
  rcases upholds.known with ⟨g, member, isIt⟩
  unfold Store.look
  rw [run_getDevice]
  cases found : s.devices.find? (DeviceEntry.isDevice tenant id) with
  | none => exact absurd isIt (List.find?_eq_none.mp found g member)
  | some f =>
      have accepted := upholds.accepted f (List.mem_of_find?_eq_some found)
        (List.find?_some found)
      cases read : f.read with
      | error fault =>
          right
          exact ⟨_, by rw [TableStore.readFound, read]; rfl, rfl⟩
      | ok d =>
          left
          rw [DeviceEntry.entry_of_read read] at accepted
          rw [TableStore.readFound, read]
          exact if_pos (Except.ok.inj accepted)

/-- A call that the store refuses leaves the tokens. -/
theorem sameTokens_of_error {α : Type} {c : StoreCall α} {fault : StoreFault} (sound : s.Sound)
    (answer : s.run c = (.error fault, s')) : s.SameTokens s' := by
  have aboutDevices : c.method.table = .devices → s.SameTokens s' := by
    intro about
    have same := sameTokens_run s about
    rw [answer] at same
    exact same
  cases c with
  | insertOrGetLive candidate now =>
      have inserted := insertion sound candidate now
      rw [answer] at inserted
      cases inserted
      exact .refl s
  | getToken tenant id =>
      rw [run_getToken] at answer
      rw [← (Prod.mk.inj answer).2]
      exact .refl s
  | revokeToken tenant id =>
      have answered := run_revokeToken s tenant id
      rw [answer] at answered
      cases answered
  | revokeDeviceTokens tenant deviceId =>
      have answered := run_revokeDeviceTokens s tenant deviceId
      rw [answer] at answered
      cases answered
  | _ => exact aboutDevices rfl

/-- Where a token of the device stands, it is the one that an insertion ends with. -/
theorem Insertion.of_stands {candidate t : Token} {now : Instant}
    (inserted : Insertion s candidate now (.ok t, s')) (single : SingleLive s.tokens)
    (member : e ∈ s.tokens) (stands : e.Stands candidate.tenant candidate.deviceId now) :
    t.entry = e ∧ s' = s := by
  cases inserted with
  | reused old outstanding live =>
      exact ⟨single.eq_of_outstanding old member outstanding stands.outstanding, rfl⟩
  | added expired fresh devices tokens =>
      rcases expired e member stands.outstanding with ⟨u, equation, isExpired⟩
      rw [stands.unexpired u equation] at isExpired
      cases isExpired

end Store

namespace World

variable {w w' : World} {tenant : Tenant} {id : String}

/-- Whether the device with the tenant and id is accepted, and others leave it so. -/
structure Upholds (w : World) (tenant : Tenant) (id : String) : Prop where
  store : w.store.Upholds tenant id
  upheld : Upheld tenant id w.interference

theorem Upholds.met {α : Type} (upholds : w.Upholds tenant id) (c : StoreCall α) :
    (w.met c).Upholds tenant id :=
  upholds.store.writes (upholds.upheld w.calls c.site)

theorem sameTokens_met {α : Type} (w : World) (c : StoreCall α) :
    w.store.SameTokens (w.met c) :=
  Store.sameTokens_writes _ w.store

theorem Upholds.of_store (upholds : w.Upholds tenant id) (same : w.SameSetting w')
    (store : w'.store.Upholds tenant id) : w'.Upholds tenant id := by
  refine ⟨store, ?_⟩
  rw [same.interference]
  exact upholds.upheld

/-- A device stays accepted under a call that leaves the cards, unless the call sets it to another
status. -/
theorem Upholds.of_call {α : Type} {limit : Nat} {c : StoreCall α} {r : Except Failure α}
    (upholds : w.Upholds tenant id) (called : (Action.call limit c).run w = (r, w'))
    (spares : c.sparesCards = true)
    (status : ∀ status, c.tenant = tenant → c.newStatus? = some (id, status) →
      status = .accepted) : w'.Upholds tenant id := by
  apply upholds.of_store (Action.sameSetting_of_call called)
  have left := Action.store_call limit c w
  rw [called] at left
  rcases left with left | left
  · rw [left]
    exact upholds.met c
  · rw [left]
    exact (upholds.met c).run spares status

/-- Whether the last four calls of a world are those of an issuance that takes its token back. -/
def TookBack (w : World) (tenant : Tenant) (deviceId : String) : Prop :=
  ∃ earlier, w.calls = [⟨.revokeToken, tenant, none⟩, ⟨.getDevice, tenant, some deviceId⟩,
    ⟨.insertOrGetLive, tenant, some deviceId⟩, ⟨.getDevice, tenant, some deviceId⟩] ++ earlier

end World

/-- A call that fails leaves the tokens. -/
theorem Action.sameTokens_of_failed {α : Type} {limit : Nat} {c : StoreCall α} {f : Failure}
    {w w' : World} (sound : w.store.Sound) (called : (call limit c).run w = (.error f, w')) :
    w.store.SameTokens w'.store := by
  have met := w.sameTokens_met c
  cases called_of_run called with
  | failed answer => exact met.trans (Store.sameTokens_of_error (met.sound sound) answer)
  | stopped left =>
      rw [left]
      exact met

/-- Where a token that is outstanding was revoked, no token of its device is outstanding. -/
theorem Action.bare_of_revoked {limit : Nat} {tenant : Tenant} {deviceId : String} {t : Token}
    {found : Bool} {w w' : World} (sound : w.store.Sound) (member : t.entry ∈ w.store.tokens)
    (outstanding : t.entry.isOutstanding tenant deviceId = true)
    (called : (call limit (.revokeToken tenant t.id)).run w = (.ok found, w')) :
    t.entry.revoke ∈ w'.store.tokens ∧
      ∀ f ∈ w'.store.tokens, f.isOutstanding tenant deviceId = false := by
  have met := w.sameTokens_met (.revokeToken tenant t.id)
  have stillMember : t.entry ∈ (w.met (.revokeToken tenant t.id)).tokens := met.tokens ▸ member
  have left : ((w.met (.revokeToken tenant t.id)).run (.revokeToken tenant t.id)).2 = w'.store := by
    cases called_of_run called with
    | answered answer => rw [answer]
  have isIt : t.entry.isToken tenant t.id = true :=
    isToken_iff.mpr ⟨(isOutstanding_iff.mp outstanding).2.1, rfl⟩
  constructor
  · rw [← left, Store.tokens_revokeToken]
    exact mem_revokeWhere_iff.mpr ⟨t.entry, stillMember, (if_pos isIt).symm⟩
  · rw [← left]
    exact Store.none_outstanding_revokeToken (met.sound sound).single stillMember outstanding

/-- A call of another method does not fail as a look at a device does. -/
theorem Action.call?_ne_of_call {α : Type} {limit : Nat} {c : StoreCall α} {f : Failure}
    {w w' : World} (called : (call limit c).run w = (.error f, w'))
    (other : c.method ≠ .getDevice) : f.call? ≠ some StoreMethod.getDevice.name := by
  rw [call?_of_call (congrArg Prod.fst called)]
  revert other
  cases c.method <;> decide

theorem Action.run_map {α β : Type} {x : Action α} {w w' : World} {r : Except Failure α}
    (ran : x.run w = (r, w')) (f : α → β) :
    (x >>= fun a => pure (f a)).run w = (r.map f, w') := by
  cases r with
  | error e => exact run_bind_error ran
  | ok a => exact run_bind_ok ran

/-! ## Issuances -/

namespace Authority

variable {a : Authority} {w w' : World} {tenant : Tenant} {deviceId tokenId : String}
variable {e : TokenEntry}

theorem Looked.sameTokens {r : Except Failure Unit}
    (looked : Looked w tenant deviceId r w') : w.store.SameTokens w'.store := by
  rw [looked.store]
  exact w.sameTokens_met _

theorem Looked.upholds {r : Except Failure Unit} (looked : Looked w tenant deviceId r w')
    (upholds : w.Upholds tenant deviceId) : w'.Upholds tenant deviceId := by
  apply upholds.of_store looked.setting
  rw [looked.store]
  exact upholds.met _

/-- A look at a device that stays accepted passes unless the call fails. -/
theorem Looked.call?_of_upholds {f : Failure} (looked : Looked w tenant deviceId (.error f) w')
    (upholds : w.Upholds tenant deviceId) : f.call? = some StoreMethod.getDevice.name := by
  rcases looked.ends with ends | ⟨g, failed, named⟩
  · rcases (upholds.met (.getDevice tenant deviceId)).look with passes | ⟨g, fails, named⟩
    · rw [passes] at ends
      cases ends
    · rw [fails] at ends
      cases ends
      exact named
  · cases failed
    exact named

/-- Whether an issuance took a token back because the second look at the device failed. -/
structure Withdrawal {α : Type} (tenant : Tenant) (deviceId : String) (r : Except Failure α)
    (w' : World) : Prop where
  failed : ∃ f, r = .error f ∧ f.call? = some StoreMethod.getDevice.name
  tookBack : w'.TookBack tenant deviceId

/-- What becomes of a token that stands. -/
inductive Remains {α : Type} (tenant : Tenant) (deviceId : String) (e : TokenEntry)
    (r : Except Failure α) (w' : World) : Prop where
  | kept (member : e ∈ w'.store.tokens) (none : ¬Withdrawal tenant deviceId r w')
  | lost (withdrawal : Withdrawal tenant deviceId r w') (revoked : e.revoke ∈ w'.store.tokens)
      (bare : ∀ f ∈ w'.store.tokens, f.isOutstanding tenant deviceId = false)

theorem withdrawal_map_iff {α β : Type} {r : Except Failure α} {f : α → β} :
    Withdrawal tenant deviceId (r.map f) w' ↔ Withdrawal tenant deviceId r w' := by
  have failed : ∀ e, r.map f = .error e ↔ r = .error e := by
    intro e
    cases r with
    | error e' => exact ⟨fun equal => congrArg _ (Except.error.inj equal),
        fun equal => congrArg _ (Except.error.inj equal)⟩
    | ok a => exact ⟨nofun, nofun⟩
  constructor
  · rintro ⟨⟨e, isError, named⟩, tookBack⟩
    exact ⟨⟨e, (failed e).mp isError, named⟩, tookBack⟩
  · rintro ⟨⟨e, isError, named⟩, tookBack⟩
    exact ⟨⟨e, (failed e).mpr isError, named⟩, tookBack⟩

theorem Remains.map {α β : Type} {r : Except Failure α}
    (remains : Remains tenant deviceId e r w') (f : α → β) :
    Remains tenant deviceId e (r.map f) w' := by
  cases remains with
  | kept member none => exact .kept member fun lost => none (withdrawal_map_iff.mp lost)
  | lost withdrawal revoked bare => exact .lost (withdrawal_map_iff.mpr withdrawal) revoked bare

/-- The token that an issuance obtains is the one that stands. -/
theorem obtained {candidate t : Token} {r : Except Failure Unit} {w₁ w₂ : World}
    (first : Looked w tenant deviceId r w₁)
    (minted : a.mint tokenId tenant deviceId w.now = .ok candidate)
    (called : (a.call (.insertOrGetLive candidate w.now)).run w₁ = (.ok t, w₂))
    (sound : w.store.Sound) (member : e ∈ w.store.tokens)
    (stands : e.Stands tenant deviceId w.now) :
    t.entry = e ∧ w.store.SameTokens w₂.store := by
  have made := minting minted
  have same : w.store.SameTokens (w₁.met (.insertOrGetLive candidate w.now)) :=
    first.sameTokens.trans (w₁.sameTokens_met _)
  cases Action.called_of_run called with
  | answered answer =>
      have inserted := Store.insertion (same.sound sound) candidate w.now
      rw [answer] at inserted
      rw [← made.tenantEq, ← made.deviceEq] at stands
      obtain ⟨entryEq, left⟩ := inserted.of_stands (same.sound sound).single
        (same.tokens ▸ member) stands
      rw [left]
      exact ⟨entryEq, same⟩

/-- An issuance for a device that stays accepted leaves its token, unless the second look at the
device fails and then the token is revoked. -/
theorem IssuePath.remains {r : Except Failure Token}
    (path : a.IssuePath tokenId tenant deviceId w r w') (sound : w.store.Sound)
    (upholds : w.Upholds tenant deviceId) (member : e ∈ w.store.tokens)
    (stands : e.Stands tenant deviceId w.now) : Remains tenant deviceId e r w' := by
  cases path with
  | refused first =>
      refine .kept (first.sameTokens.tokens ▸ member) ?_
      rintro ⟨-, earlier, calls⟩
      rw [first.calls] at calls
      cases calls
  | notMinted first failed =>
      refine .kept (first.sameTokens.tokens ▸ member) ?_
      rintro ⟨-, earlier, calls⟩
      rw [first.calls] at calls
      cases calls
  | stopped first minted called =>
      have same := first.sameTokens.trans
        (Action.sameTokens_of_failed (first.sameTokens.sound sound) called)
      refine .kept (same.tokens ▸ member) ?_
      rintro ⟨-, earlier, calls⟩
      rw [Action.calls_of_call called] at calls
      cases calls
  | issued first minted called second =>
      obtain ⟨-, same⟩ := obtained first minted called sound member stands
      refine .kept ?_ ?_
      · rw [(same.trans second.sameTokens).tokens]
        exact member
      · rintro ⟨⟨f, ⟨⟩, -⟩, -⟩
  | left first minted called second revoked =>
      obtain ⟨-, same⟩ := obtained first minted called sound member stands
      have looked := same.trans second.sameTokens
      refine .kept ?_ ?_
      · rw [(looked.trans (Action.sameTokens_of_failed (looked.sound sound) revoked)).tokens]
        exact member
      · rintro ⟨⟨h, ⟨⟩, isLook⟩, -⟩
        exact Action.call?_ne_of_call revoked nofun isLook
  | @withdrawn candidate t f found _ _ _ _ first minted called second revoked =>
      obtain ⟨rfl, same⟩ := obtained first minted called sound member stands
      have upholds₂ := (first.upholds upholds).of_call called rfl nofun
      have looked := same.trans second.sameTokens
      have made := minting minted
      obtain ⟨lost, bare⟩ := Action.bare_of_revoked (looked.sound sound) (looked.tokens ▸ member)
        stands.outstanding revoked
      refine .lost ⟨⟨f, rfl, second.call?_of_upholds upholds₂⟩, w.calls, ?_⟩ lost bare
      rw [Action.calls_of_call revoked, second.calls, Action.calls_of_call called, first.calls]
      simp only [StoreCall.site, StoreCall.method, StoreCall.tenant, StoreCall.deviceId?,
        made.tenantEq, made.deviceEq]
      rfl

end Authority

/-! ## Submissions -/

namespace Admission

open Authority

variable {s : Admission} {ids : List String} {given : FreshIds} {newId : String} {w w' : World}
variable {tenant : Tenant} {deviceId : String} {request : AuthRequest} {g : DeviceEntry}
variable {e : TokenEntry}

/-- Where a device has the identity of a candidate, no other one is answered and the store is left
as it was met. -/
theorem answered_of_known {candidate : Device} {limit : Nat} {r : Except Failure (Device × Bool)}
    (distinct : w.store.Distinct ids) (member : g ∈ w.store.devices)
    (identity : g.hasIdentity candidate.tenant candidate.identityData = true)
    (called : (Action.call limit (.getOrCreate candidate)).run w = (r, w')) :
    w'.store = w.met (.getOrCreate candidate) ∧
      ∀ d created, r = .ok (d, created) → d.id = g.id := by
  have same := w.sameCards_met (.getOrCreate candidate)
  rcases same.exists_card_eq member with ⟨f, fMem, cardEq⟩
  have known : f.hasIdentity candidate.tenant candidate.identityData = true :=
    (DeviceEntry.hasIdentity_of_card cardEq _ _).trans identity
  have answered := (distinct.of_sameCards same).getOrCreate_known fMem known
  cases Action.called_of_run called with
  | answered answer =>
      rw [answered] at answer
      obtain ⟨sighted, left⟩ := Prod.mk.inj answer
      refine ⟨left.symm, ?_⟩
      rintro d created ⟨⟩
      obtain ⟨rfl, -⟩ := DeviceEntry.sighted_eq_ok sighted
      exact congrArg DeviceCard.id cardEq
  | failed answer =>
      rw [answered] at answer
      refine ⟨(Prod.mk.inj answer).2.symm, ?_⟩
      rintro d created ⟨⟩
  | stopped left =>
      refine ⟨left, ?_⟩
      rintro d created ⟨⟩

/-- What is left of a world where the call for a known device was made, or the one that sets a key
after it. -/
structure Finding (tenant : Tenant) (deviceId : String) (ids : List String) (w w' : World) :
    Prop where
  upholds : w'.Upholds tenant deviceId
  tokens : w.store.SameTokens w'.store
  distinct : w'.store.Distinct ids

theorem finding_of_called {candidate : Device} {limit : Nat}
    {r : Except Failure (Device × Bool)} (distinct : w.store.Distinct ids)
    (member : g ∈ w.store.devices)
    (identity : g.hasIdentity candidate.tenant candidate.identityData = true)
    (upholds : w.Upholds tenant g.id)
    (called : (Action.call limit (.getOrCreate candidate)).run w = (r, w')) :
    Finding tenant g.id ids w w' := by
  obtain ⟨left, -⟩ := answered_of_known distinct member identity called
  constructor
  · apply upholds.of_store (Action.sameSetting_of_call called)
    rw [left]
    exact upholds.met _
  · rw [left]
    exact w.sameTokens_met _
  · rw [left]
    exact distinct.of_sameCards (w.sameCards_met _)

theorem Finding.rotateKey {id key : String} {other : Tenant} {now : Instant} {limit : Nat}
    {w₁ : World} {r : Except Failure Bool} (finding : Finding tenant deviceId ids w w₁)
    (set : (Action.call limit (.rotateKey other id key now)).run w₁ = (r, w')) :
    w'.Upholds tenant deviceId ∧ w.store.SameTokens w'.store := by
  have met := finding.upholds.met (.rotateKey other id key now)
  have distinct := finding.distinct.of_sameCards
    (w₁.sameCards_met (.rotateKey other id key now))
  have tokens : w₁.store.SameTokens
      ((Action.call limit (.rotateKey other id key now)).run w₁).2.store :=
    Action.sameTokens_call rfl
  have left := Action.store_call limit (.rotateKey other id key now) w₁
  rw [set] at left tokens
  refine ⟨finding.upholds.of_store (Action.sameSetting_of_call set) ?_,
    finding.tokens.trans tokens⟩
  rcases left with left | left
  · rw [left]
    exact met
  · rw [left]
    exact met.rotateKey distinct other id key now

/-- The look-up of a device that stays accepted leaves it accepted and all tokens as they were, and
ends with no other device. -/
structure Finds (tenant : Tenant) (deviceId : String) (w : World) (r : Except Failure Device)
    (w' : World) : Prop where
  upholds : w'.Upholds tenant deviceId
  tokens : w.store.SameTokens w'.store
  idEq : ∀ d, r = .ok d → d.id = deviceId
  notLook : ∀ f, r = .error f → f.call? ≠ some StoreMethod.getDevice.name

theorem LookUpPath.finds {r : Except Failure Device}
    (path : s.LookUpPath newId tenant request w r w') (distinct : w.store.Distinct ids)
    (member : g ∈ w.store.devices) (identity : g.hasIdentity tenant request.identityData = true)
    (upholds : w.Upholds tenant g.id) : Finds tenant g.id w r w' := by
  cases path with
  | stopped called =>
      have finding := finding_of_called distinct member identity upholds called
      refine ⟨finding.upholds, finding.tokens, by rintro d ⟨⟩, ?_⟩
      rintro f ⟨⟩
      exact Action.call?_ne_of_call called nofun
  | found called same =>
      have finding := finding_of_called distinct member identity upholds called
      obtain ⟨-, idEq⟩ := answered_of_known distinct member identity called
      refine ⟨finding.upholds, finding.tokens, ?_, by rintro f ⟨⟩⟩
      rintro d ⟨⟩
      exact idEq _ _ rfl
  | refused called keyNe fixed =>
      have finding := finding_of_called distinct member identity upholds called
      refine ⟨finding.upholds, finding.tokens, by rintro d ⟨⟩, ?_⟩
      rintro f ⟨⟩ ⟨⟩
  | unrotated called keyNe accepted set ends =>
      have finding := finding_of_called distinct member identity upholds called
      obtain ⟨left, tokens⟩ := finding.rotateKey set
      refine ⟨left, tokens, by rintro d ⟨⟩, ?_⟩
      rintro f ⟨⟩ isLook
      rcases ends with rfl | ⟨-, rfl⟩
      · exact Action.call?_ne_of_call set nofun isLook
      · cases isLook
  | rotated called keyNe allowed accepted set =>
      have finding := finding_of_called distinct member identity upholds called
      obtain ⟨left, tokens⟩ := finding.rotateKey set
      obtain ⟨-, idEq⟩ := answered_of_known distinct member identity called
      refine ⟨left, tokens, ?_, by rintro f ⟨⟩⟩
      rintro d ⟨⟩
      exact idEq _ _ rfl

/-- A request of a device that stays accepted leaves its token as an issuance does. -/
theorem GrantPath.remains {body : Bytes} {signature : Option String} {r : Except Failure Token}
    (path : s.GrantPath given body signature w r w') (sound : w.store.Sound)
    (distinct : w.store.Distinct ids) (upholds : w.Upholds tenant deviceId)
    (seeks : ∀ request other, s.check w.wallSeconds body signature = .ok (request, other) →
      other = tenant ∧ ∃ g ∈ w.store.devices, g.id = deviceId ∧
        g.hasIdentity tenant request.identityData = true)
    (member : e ∈ w.store.tokens) (stands : e.Stands tenant deviceId w.now) :
    Remains tenant deviceId e r w' := by
  cases path with
  | unchecked failed =>
      refine .kept member ?_
      rintro ⟨⟨f, ⟨⟩, named⟩, -⟩
      rw [call?_of_check_error failed] at named
      cases named
  | refused checked lookedUp =>
      obtain ⟨rfl, g, gMem, rfl, identity⟩ := seeks _ _ checked
      have finds := lookedUp.finds distinct gMem identity upholds
      refine .kept (finds.tokens.tokens ▸ member) ?_
      rintro ⟨⟨f, ⟨⟩, named⟩, -⟩
      exact finds.notLook _ rfl named
  | issued checked lookedUp issued =>
      obtain ⟨rfl, g, gMem, rfl, identity⟩ := seeks _ _ checked
      have finds := lookedUp.finds distinct gMem identity upholds
      rw [finds.idEq _ rfl] at issued
      apply issued.remains (finds.tokens.sound sound) finds.upholds (finds.tokens.tokens ▸ member)
      rw [lookedUp.sameSetting.now]
      exact stands

end Admission

/-! ## Main statement -/

/-- Whether an operation asks for a token of the device with the tenant and id: it is an issuance
for the device, or a submission whose request is of the device if it passes the checks. -/
def Operation.Seeks (s : Admission) (w : World) (tenant : Tenant) (deviceId : String) :
    Operation → Prop
  | issue _ other otherId => other = tenant ∧ otherId = deviceId
  | submit _ body signature => ∀ request other,
      s.check w.wallSeconds body signature = .ok (request, other) →
        other = tenant ∧ ∃ g ∈ w.store.devices, g.id = deviceId ∧
          g.hasIdentity tenant request.identityData = true
  | _ => False

namespace Admission

variable {s : Admission} {ids : List String} {w w' : World} {tenant : Tenant}
variable {deviceId : String} {e : TokenEntry} {operation : Operation} {r : Except Failure Reply}

theorem remains_of_seeks (sound : w.store.Sound) (distinct : w.store.Distinct ids)
    (upholds : w.Upholds tenant deviceId) (seeks : operation.Seeks s w tenant deviceId)
    (member : e ∈ w.store.tokens) (stands : e.Stands tenant deviceId w.now)
    (ran : (s.perform operation).run w = (r, w')) :
    Authority.Remains tenant deviceId e r w' := by
  cases operation with
  | issue tokenId other id =>
      obtain ⟨rfl, rfl⟩ := seeks
      cases issued : (s.authority.issue tokenId other id).run w with
      | mk result w₁ =>
          obtain ⟨rfl, rfl⟩ := Prod.mk.inj ((Action.run_map issued Reply.token).symm.trans ran)
          exact ((Authority.issuePath issued).remains sound upholds member stands).map Reply.token
  | submit given body signature =>
      cases granted : (s.grant given body signature).run w with
      | mk result w₁ =>
          obtain ⟨rfl, rfl⟩ := Prod.mk.inj ((Action.run_map granted Reply.token).symm.trans ran)
          exact ((grantPath granted).remains sound distinct upholds seeks member stands).map
            Reply.token
  | _ => exact seeks.elim

/-- Whichever calls of an issuance or of a submission fail, and whatever others do meanwhile: a token
that is neither revoked nor expired keeps its force while its device stays accepted, exactly if the
operation does not end with the failure of its second look at the device and the token revoked. -/
theorem token_kept_iff (sound : w.store.Sound) (distinct : w.store.Distinct ids)
    (upholds : w.Upholds tenant deviceId) (seeks : operation.Seeks s w tenant deviceId)
    (member : e ∈ w.store.tokens) (stands : e.Stands tenant deviceId w.now)
    (ran : (s.perform operation).run w = (r, w')) :
    (e ∈ w'.store.tokens ↔ ¬Authority.Withdrawal tenant deviceId r w') ∧
      (Authority.Withdrawal tenant deviceId r w' → e.revoke ∈ w'.store.tokens) := by
  cases remains_of_seeks sound distinct upholds seeks member stands ran with
  | kept kept none => exact ⟨⟨fun _ => none, fun _ => kept⟩, fun withdrawal => absurd withdrawal none⟩
  | lost withdrawal revoked bare =>
      refine ⟨⟨fun kept => ?_, fun none => absurd withdrawal none⟩, fun _ => revoked⟩
      have notOut := bare e kept
      rw [stands.outstanding] at notOut
      cases notOut

end Admission

namespace Sample

/-- The sample with its token, where the calls that `broken` picks fail, given the calls before. -/
def unsteady (broken : List CallSite → CallSite → Bool) : World :=
  { World.quiet (issued .memory).store (.ofSeconds 104) 104 with
    interference := fun earlier site =>
      ⟨[], if broken earlier site then .fails (.medium "database is locked") else .proceeds⟩ }

/-- The failure of a call that finds the store locked. -/
def unreached (method : StoreMethod) : Failure :=
  .internal (.storeFailed method.name (.medium "database is locked"))

/-- Whether a call is a look at a device after a token was obtained. -/
def isSecondLook (earlier : List CallSite) (site : CallSite) : Bool :=
  site.method = .getDevice && earlier.any fun c => c.method = .insertOrGetLive

def isInsertion (_ : List CallSite) (site : CallSite) : Bool :=
  site.method = .insertOrGetLive

/-- The device of the sample. -/
def device : Device :=
  ⟨"d", "mac", "key", .accepted, .default, .ofSeconds 100, .ofSeconds 101⟩

theorem device_mem : device.entry ∈ (issued .memory).store.devices := by
  have found : ∃ g ∈ (issued .memory).store.devices, g.read = .ok device := by decide +kernel
  obtain ⟨g, member, read⟩ := found
  rw [← DeviceEntry.entry_of_read read]
  exact member

theorem token_mem : token.entry ∈ (issued .memory).store.tokens := by
  have found : ∃ f ∈ (issued .memory).store.tokens, f.read = .ok token := by decide +kernel
  obtain ⟨f, member, read⟩ := found
  rw [← TokenEntry.entry_of_read read]
  exact member

section Unsteady

variable (broken : List CallSite → CallSite → Bool)

theorem sound_unsteady : (unsteady broken).store.Sound :=
  ((reached_issued .memory).kept (by decide +kernel)).sound

theorem distinct_unsteady :
    (unsteady broken).store.Distinct (deviceIds (issued .memory).past) :=
  (reached_issued .memory).distinct (by decide +kernel)

theorem upholds_unsteady : (unsteady broken).Upholds .default "d" := by
  refine ⟨(distinct_unsteady broken).upholds device_mem rfl, ?_⟩
  rintro earlier site v ⟨⟩

end Unsteady

theorem stands_token : token.entry.Stands .default "d" (.ofSeconds 104) := by
  refine ⟨by decide, fun t equation => ?_⟩
  rw [← TokenEntry.entry_injective equation]
  decide

/-- The token of the sample is revoked where the second look of an issuance fails. It keeps its
force where the insertion of a submission fails. -/
theorem token_kept_unsteady :
    token.entry.revoke ∈ ((admission.perform (.issue "t3" .default "d")).run
        (unsteady isSecondLook)).2.store.tokens ∧
      token.entry ∈ ((admission.perform (.submit ⟨"e", "t3"⟩ body (some "IA=="))).run
        (unsteady isInsertion)).2.store.tokens := by
  constructor
  · have seeks : (Operation.issue "t3" .default "d").Seeks admission (unsteady isSecondLook)
        .default "d" := ⟨rfl, rfl⟩
    obtain ⟨-, revoked⟩ := Admission.token_kept_iff (sound_unsteady _) (distinct_unsteady _)
      (upholds_unsteady _) seeks token_mem stands_token rfl
    exact revoked ⟨⟨unreached .getDevice, by decide +kernel, rfl⟩, [], by decide +kernel⟩
  · have seeks : (Operation.submit ⟨"e", "t3"⟩ body (some "IA==")).Seeks admission
        (unsteady isInsertion) .default "d" := by
      intro request other checked
      have decoded : admission.check (unsteady isInsertion).wallSeconds body (some "IA==") =
          .ok (⟨"mac", "key", none⟩, .default) := by decide +kernel
      obtain ⟨rfl, rfl⟩ := Prod.mk.inj (Except.ok.inj (checked.symm.trans decoded))
      exact ⟨rfl, device.entry, device_mem, rfl, by decide⟩
    obtain ⟨kept, -⟩ := Admission.token_kept_iff (sound_unsteady _) (distinct_unsteady _)
      (upholds_unsteady _) seeks token_mem stands_token rfl
    apply kept.mpr
    rintro ⟨⟨f, failed, named⟩, -⟩
    have ended : ((admission.perform (.submit ⟨"e", "t3"⟩ body (some "IA=="))).run
        (unsteady isInsertion)).1 =
          .error (unreached .insertOrGetLive) := by decide +kernel
    rw [Except.error.inj (failed.symm.trans ended)] at named
    exact absurd named (by decide)

/-- A failing call may cost a device its token: the device stays accepted, its token is neither
revoked nor expired, and an issuance that only fails to look at the device revokes the token. -/
theorem withdrawn_while_accepted : ¬∀ (s : Admission) (kind : StoreKind) (r : Run) (w : World)
    (operation : Operation) (tenant : Tenant) (deviceId : String) (e : TokenEntry),
    r.Reached s kind → (tokenIds r.past).Nodup → (deviceIds r.past).Nodup → w.store = r.store →
      w.Upholds tenant deviceId → operation.Seeks s w tenant deviceId → e ∈ w.store.tokens →
        e.Stands tenant deviceId w.now →
          e ∈ ((s.perform operation).run w).2.store.tokens := by
  intro claim
  have kept := claim admission .memory (issued .memory) (unsteady isSecondLook)
    (.issue "t3" .default "d") .default "d" token.entry (reached_issued .memory)
    (by decide +kernel) (by decide +kernel) rfl (upholds_unsteady _) ⟨rfl, rfl⟩ token_mem
    stands_token
  have revoked : ∀ f ∈ ((admission.perform (.issue "t3" .default "d")).run
      (unsteady isSecondLook)).2.store.tokens, f.revoked = true := by decide +kernel
  exact absurd (revoked _ kept) (by decide)

end Sample

end DeviceAdmission
