import DeviceAdmission.Proofs.Store.Insertions
import DeviceAdmission.Proofs.Store.Order
import DeviceAdmission.Proofs.Store.Reached
import DeviceAdmission.Proofs.Store.Statuses

/-!
# Both kinds of stores answer alike

A store in memory and one in tables that are called alike from the start hold the same records, in
an order of their own. What a call answers and what it leaves depends on these records alone, as
long as what it brings fits both kinds: ids that no record has, tokens that are not revoked, and
times whose timestamps are read back. So each call gets the same answer from both, and no call
fails.
-/

namespace DeviceAdmission

open TokenEntry

/-- The time that a call writes into a device that it changes. -/
def StoreCall.stamp? {α : Type} : StoreCall α → Option Instant
  | updateStatus _ _ _ now => some now
  | rotateKey _ _ _ now => some now
  | _ => none

/-- Whether what a call brings fits a store of either kind. -/
structure StoreCall.Fits {α : Type} (c : StoreCall α) (s : Store) : Prop where
  device : ∀ d, c.newDevice? = some d → (∀ e ∈ s.devices, e.id ≠ d.id) ∧
    d.createdAt.isLegible = true ∧ d.updatedAt.isLegible = true
  token : ∀ t, c.candidate? = some t → (∀ e ∈ s.tokens, e.id ≠ t.id) ∧ t.revoked = false ∧
    t.issuedAt.isLegible = true ∧ t.expiresAt.isLegible = true
  stamp : ∀ now, c.stamp? = some now → now.isLegible = true

namespace Store

variable {s s' : Store} {ids : List String} {tenant : Tenant} {id : String} {α : Type}

/-- Whether two stores hold the same records, in an order of their own. -/
structure Alike (s s' : Store) : Prop where
  devices : s.devices.Perm s'.devices
  tokens : s.tokens.Perm s'.tokens

theorem Alike.refl (s : Store) : s.Alike s :=
  ⟨.refl _, .refl _⟩

theorem Alike.symm (alike : s.Alike s') : s'.Alike s :=
  ⟨alike.devices.symm, alike.tokens.symm⟩

theorem Alike.trans {s'' : Store} (first : s.Alike s') (second : s'.Alike s'') : s.Alike s'' :=
  ⟨first.devices.trans second.devices, first.tokens.trans second.tokens⟩

theorem Rearranged.alike (h : s.Rearranged s') : s.Alike s' := by
  refine ⟨?_, h.perm⟩
  rw [h.sameDevices.devices]

/-- What fits a store fits one with the same records. -/
theorem Alike.fits {c : StoreCall α} (alike : s.Alike s') (fits : c.Fits s) : c.Fits s' := by
  constructor
  · intro d candidate
    rcases fits.device d candidate with ⟨fresh, legible⟩
    exact ⟨fun e member => fresh e (alike.devices.mem_iff.mpr member), legible⟩
  · intro t candidate
    rcases fits.token t candidate with ⟨fresh, rest⟩
    exact ⟨fun e member => fresh e (alike.tokens.mem_iff.mpr member), rest⟩
  · exact fits.stamp

/-! ## Stores whose records can be read -/

/-- What holds of a store that is only called with what fits it. -/
structure Legible (s : Store) : Prop where
  registered : s.Registered (s.names.map Prod.snd)
  ordered : s.Ordered
  sound : s.Sound
  keyed : Keyed s.tokens
  readable : ∀ e ∈ s.tokens, ∃ t : Token, e = t.entry

/-- A store needs no other ids than those of its devices. -/
theorem Registered.own (registered : s.Registered ids) :
    s.Registered (s.names.map Prod.snd) :=
  { registered with used := fun _ member => List.mem_map_of_mem member }

theorem legible_empty (kind : StoreKind) : (Store.empty kind).Legible := by
  constructor
  · exact (registered_empty kind).own
  · exact ordered_empty kind
  · exact sound_empty kind
  · rw [tokens_empty]
    exact List.nodup_nil
  · rw [tokens_empty]
    rintro e ⟨⟩

theorem Legible.rearranged (legible : s.Legible) (order : s.Rearranged s') : s'.Legible := by
  constructor
  · exact (legible.registered.of_sameDevices order.sameDevices).own
  · cases order with
    | memory perm => exact legible.ordered
  · exact legible.sound.rearranged order
  · exact legible.keyed.perm order.perm
  · intro e member
    exact legible.readable e (order.perm.mem_iff.mpr member)

/-- The id of a device that may be registered is the one of no device. -/
theorem notMem_ids_of_fits {c : StoreCall α} (fits : c.Fits s) {d : Device}
    (candidate : c.newDevice? = some d) : d.id ∉ s.names.map Prod.snd := by
  intro member
  rcases List.mem_map.mp member with ⟨n, nMem, idEq⟩
  rcases List.mem_map.mp nMem with ⟨e, eMem, rfl⟩
  exact (fits.device d candidate).1 e eMem idEq

/-- A device is found or registered. -/
theorem Legible.registration (legible : s.Legible) {candidate : Device}
    (fits : (StoreCall.getOrCreate candidate).Fits s) :
    Registration s candidate (s.run (.getOrCreate candidate)) := by
  rcases fits.device candidate rfl with ⟨-, created, updated⟩
  exact Store.registration legible.registered (notMem_ids_of_fits fits rfl) created updated

/-- A token is inserted, and the insertion does not fail. -/
theorem Legible.inserts (legible : s.Legible) {candidate : Token} {now : Instant}
    (fits : (StoreCall.insertOrGetLive candidate now).Fits s) :
    ∃ t s', s.run (.insertOrGetLive candidate now) = (.ok t, s') ∧
      Insertion s candidate now (.ok t, s') ∧ s.kind.tokenEntry candidate = candidate.entry := by
  rcases fits.token candidate rfl with ⟨fresh, unrevoked, issued, expires⟩
  rcases exists_run_insertOrGetLive legible.sound now
    (fun e member _ => legible.readable e member) fresh with ⟨t, s', answer⟩
  have inserted := insertion legible.sound candidate now
  rw [answer] at inserted
  exact ⟨t, s', answer, inserted, s.kind.tokenEntry_eq unrevoked issued expires⟩

/-- Where the status of a device is set to what fits, its entry can be read. -/
theorem Legible.devices_updateStatus {status : DeviceStatus} {now : Instant}
    (fits : (StoreCall.updateStatus tenant id status now).Fits s) :
    (s.run (.updateStatus tenant id status now)).2.devices =
      DeviceEntry.changeWhere (DeviceEntry.isDevice tenant id)
        (DeviceEntry.withStatus status (.ok now)) s.devices := by
  rw [Store.devices_updateStatus, StoreKind.kept_eq_ok _ _ (fits.stamp now rfl)]

theorem Legible.run_rotateKey (legible : s.Legible) {key : String} {now : Instant}
    (fits : (StoreCall.rotateKey tenant id key now).Fits s) :
    (s.run (.rotateKey tenant id key now)).1 =
        .ok (s.devices.any (DeviceEntry.isAccepted tenant id)) ∧
      (s.run (.rotateKey tenant id key now)).2.devices =
        DeviceEntry.changeWhere (DeviceEntry.isAccepted tenant id)
          (DeviceEntry.withKey key (.ok now)) s.devices ∧
      (s.run (.rotateKey tenant id key now)).2.identities = s.identities := by
  have ran := Store.run_rotateKey legible.registered tenant id key now
  rw [StoreKind.kept_eq_ok _ _ (fits.stamp now rfl)] at ran
  exact ran

/-- The devices of a store stay told apart and can be read. -/
theorem Legible.exists_registered (legible : s.Legible) {c : StoreCall α} (fits : c.Fits s) :
    ∃ ids, (s.run c).2.Registered ids := by
  have same : c.method.table = .tokens → ∃ ids, (s.run c).2.Registered ids := fun aboutTokens =>
    ⟨_, legible.registered.of_sameDevices (sameDevices_run s aboutTokens)⟩
  cases c with
  | getOrCreate candidate =>
      have registration := legible.registration fits
      generalize s.run (.getOrCreate candidate) = r at registration ⊢
      cases registration with
      | found member tenantEq identityEq => exact ⟨_, legible.registered⟩
      | created unknown tokens devices identities =>
          exact ⟨_, legible.registered.created (notMem_ids_of_fits fits rfl) unknown tokens.kind
            devices identities⟩
  | getDevice tenant id =>
      rw [run_getDevice]
      exact ⟨_, legible.registered⟩
  | listDevices tenant skip limit =>
      cases s with
      | memory m => exact ⟨_, legible.registered⟩
      | tables t => exact ⟨_, legible.registered⟩
  | updateStatus tenant id status now =>
      refine ⟨_, legible.registered.change ?_ ?_ (kind_run s _)
        (identities_updateStatus s tenant id status now) (Legible.devices_updateStatus fits)⟩
      · exact fun _ => rfl
      · exact fun d => ⟨{ d with status, updatedAt := now }, rfl⟩
  | rotateKey tenant id key now =>
      rcases legible.run_rotateKey fits with ⟨-, devices, identities⟩
      refine ⟨_, legible.registered.change ?_ ?_ (kind_run s _) identities devices⟩
      · exact fun _ => rfl
      · exact fun d => ⟨{ d with publicKey := key, updatedAt := now }, rfl⟩
  | insertOrGetLive candidate now => exact same rfl
  | getToken tenant id => exact same rfl
  | revokeToken tenant id => exact same rfl
  | revokeDeviceTokens tenant deviceId => exact same rfl

/-- A call that fits leaves a store whose records can be read. -/
theorem Legible.run (legible : s.Legible) {c : StoreCall α} (fits : c.Fits s) :
    (s.run c).2.Legible := by
  have moved := move_run legible.sound c
  constructor
  · rcases legible.exists_registered fits with ⟨ids, registered⟩
    exact registered.own
  · exact legible.ordered.run c
  · exact legible.sound.run c
  · exact moved.keyed legible.keyed
  · intro f member
    have readable : ∃ e : TokenEntry, e.Becomes f ∧ ∃ t : Token, e = t.entry := by
      rcases moved.exists_origin member with ⟨e, ⟨t, candidate, rfl⟩, becomes⟩ | ⟨e, old, becomes⟩
      · rcases fits.token t candidate with ⟨-, unrevoked, issued, expires⟩
        exact ⟨_, becomes, t, s.kind.tokenEntry_eq unrevoked issued expires⟩
      · exact ⟨e, becomes, legible.readable e old⟩
    rcases readable with ⟨_, becomes, t, rfl⟩
    rcases becomes with rfl | rfl
    · exact ⟨t, rfl⟩
    · exact ⟨t.revoke, rfl⟩

/-- A call adds at most one device. -/
theorem Legible.length_devices_run (legible : s.Legible) {c : StoreCall α} (fits : c.Fits s) :
    (s.run c).2.devices.length ≤ s.devices.length + 1 := by
  have same : c.method.table = .tokens → (s.run c).2.devices.length ≤ s.devices.length + 1 := by
    intro aboutTokens
    rw [(sameDevices_run s aboutTokens).devices]
    exact Nat.le_succ _
  cases c with
  | getOrCreate candidate =>
      have registration := legible.registration fits
      generalize s.run (.getOrCreate candidate) = r at registration ⊢
      cases registration with
      | found member tenantEq identityEq => exact Nat.le_succ _
      | created unknown tokens devices identities => exact Nat.le_of_eq devices.length_eq
  | getDevice tenant id =>
      rw [run_getDevice]
      exact Nat.le_succ _
  | listDevices tenant skip limit =>
      cases s with
      | memory m => exact Nat.le_succ _
      | tables t => exact Nat.le_succ _
  | updateStatus tenant id status now =>
      rw [Legible.devices_updateStatus fits, DeviceEntry.changeWhere, List.length_map]
      exact Nat.le_succ _
  | rotateKey tenant id key now =>
      rw [(legible.run_rotateKey fits).2.1, DeviceEntry.changeWhere, List.length_map]
      exact Nat.le_succ _
  | insertOrGetLive candidate now => exact same rfl
  | getToken tenant id => exact same rfl
  | revokeToken tenant id => exact same rfl
  | revokeDeviceTokens tenant deviceId => exact same rfl

/-! ## What calls answer -/

/-- Whether a call is answered alike by two stores and leaves them alike. -/
structure AnswerAlike (s s' : Store) (c : StoreCall α) : Prop where
  answer : ∃ a, (s.run c).1 = .ok a ∧ (s'.run c).1 = .ok a
  alike : (s.run c).2.Alike (s'.run c).2

/-- A call about devices that leaves the same ones in both stores leaves them alike. -/
theorem Alike.of_devices {c : StoreCall α} (alike : s.Alike s')
    (aboutDevices : c.method.table = .devices)
    (devices : (s.run c).2.devices.Perm (s'.run c).2.devices) : (s.run c).2.Alike (s'.run c).2 := by
  refine ⟨devices, ?_⟩
  rw [(sameTokens_run s aboutDevices).tokens, (sameTokens_run s' aboutDevices).tokens]
  exact alike.tokens

/-- A call about tokens that leaves the same ones in both stores leaves them alike. -/
theorem Alike.of_tokens {c : StoreCall α} (alike : s.Alike s')
    (aboutTokens : c.method.table = .tokens)
    (tokens : (s.run c).2.tokens.Perm (s'.run c).2.tokens) : (s.run c).2.Alike (s'.run c).2 := by
  refine ⟨?_, tokens⟩
  rw [(sameDevices_run s aboutTokens).devices, (sameDevices_run s' aboutTokens).devices]
  exact alike.devices

theorem Legible.find?_devices (legible : s.Legible) (alike : s.Alike s') (tenant : Tenant)
    (id : String) : s.devices.find? (DeviceEntry.isDevice tenant id) =
      s'.devices.find? (DeviceEntry.isDevice tenant id) := by
  apply find?_eq_of_perm alike.devices
  intro e eMem f fMem eIs fIs
  exact legible.registered.eq_of_id eMem fMem
    ((DeviceEntry.isDevice_iff.mp eIs).2.trans (DeviceEntry.isDevice_iff.mp fIs).2.symm)

theorem Legible.find?_tokens (legible : s.Legible) (alike : s.Alike s') (tenant : Tenant)
    (id : String) :
    s.tokens.find? (isToken tenant id) = s'.tokens.find? (isToken tenant id) := by
  apply find?_eq_of_perm alike.tokens
  intro e eMem f fMem eIs fIs
  rcases isToken_iff.mp eIs with ⟨rfl, rfl⟩
  exact legible.keyed.eq_of_key eMem fMem (isToken_iff_key.mp fIs).symm

/-- What is looked up and read in a store is found. -/
theorem exists_readFound {ρ β : Type} {read : ρ → Except StoreFault β} {entries : List ρ}
    {p : ρ → Bool} (readable : ∀ e ∈ entries, ∃ b, read e = .ok b) :
    ∃ b?, TableStore.readFound read (entries.find? p) = .ok b? := by
  cases found : entries.find? p with
  | none => exact ⟨none, rfl⟩
  | some e =>
      rcases readable e (List.mem_of_find?_eq_some found) with ⟨b, read⟩
      exact ⟨some b, by rw [TableStore.readFound, read]; rfl⟩

theorem answerAlike_getOrCreate {candidate : Device} (legible : s.Legible) (legible' : s'.Legible)
    (alike : s.Alike s') (fits : (StoreCall.getOrCreate candidate).Fits s) :
    AnswerAlike s s' (.getOrCreate candidate) := by
  have registration := legible.registration fits
  have registration' := legible'.registration (alike.fits fits)
  have known : ∀ {d : Device}, d.tenant = candidate.tenant →
      d.identityData = candidate.identityData →
        d.entry.hasIdentity candidate.tenant candidate.identityData = true :=
    fun tenantEq dataEq => DeviceEntry.hasIdentity_iff.mpr ⟨tenantEq, dataEq⟩
  suffices h : (∃ a, (s.run (.getOrCreate candidate)).1 = .ok a ∧
      (s'.run (.getOrCreate candidate)).1 = .ok a) ∧
      (s.run (.getOrCreate candidate)).2.devices.Perm
        (s'.run (.getOrCreate candidate)).2.devices from
    ⟨h.1, alike.of_devices rfl h.2⟩
  generalize s.run (.getOrCreate candidate) = r at registration ⊢
  generalize s'.run (.getOrCreate candidate) = r' at registration' ⊢
  cases registration with
  | found member tenantEq dataEq =>
      cases registration' with
      | found member' tenantEq' dataEq' =>
          have same := legible.registered.eq_of_identity member
            (alike.devices.mem_iff.mpr member') (tenantEq.trans tenantEq'.symm)
            (dataEq.trans dataEq'.symm)
          rw [DeviceEntry.entry_injective same]
          exact ⟨⟨_, rfl, rfl⟩, alike.devices⟩
      | created unknown' tokens' devices' identities' =>
          have absent := unknown' _ (alike.devices.mem_iff.mp member)
          rw [known tenantEq dataEq] at absent
          cases absent
  | created unknown tokens devices identities =>
      cases registration' with
      | found member' tenantEq' dataEq' =>
          have absent := unknown _ (alike.devices.mem_iff.mpr member')
          rw [known tenantEq' dataEq'] at absent
          cases absent
      | created unknown' tokens' devices' identities' =>
          exact ⟨⟨_, rfl, rfl⟩, devices.trans ((alike.devices.cons _).trans devices'.symm)⟩

theorem answerAlike_insertOrGetLive {candidate : Token} {now : Instant} (legible : s.Legible)
    (legible' : s'.Legible) (alike : s.Alike s')
    (fits : (StoreCall.insertOrGetLive candidate now).Fits s) :
    AnswerAlike s s' (.insertOrGetLive candidate now) := by
  rcases legible.inserts fits with ⟨t, s₁, answer, inserted, entryEq⟩
  rcases legible'.inserts (alike.fits fits) with ⟨t', s₁', answer', inserted', entryEq'⟩
  suffices h : t = t' ∧ s₁.tokens.Perm s₁'.tokens by
    constructor
    · exact ⟨t, by rw [answer], by rw [answer', h.1]⟩
    · apply alike.of_tokens rfl
      rw [answer, answer']
      exact h.2
  cases inserted with
  | reused member outstanding live =>
      cases inserted' with
      | reused member' outstanding' live' =>
          have same := legible.sound.single.eq_of_outstanding member
            (alike.tokens.mem_iff.mpr member') outstanding outstanding'
          exact ⟨entry_injective same, alike.tokens⟩
      | added expired' fresh' devices' tokens' =>
          -- What is live in one store cannot have expired in the other.
          rcases expired' _ (alike.tokens.mem_iff.mp member) outstanding with ⟨u, same, late⟩
          rw [← entry_injective same, live] at late
          cases late
  | added expired fresh devices tokens =>
      cases inserted' with
      | reused member' outstanding' live' =>
          rcases expired _ (alike.tokens.mem_iff.mpr member') outstanding' with ⟨u, same, late⟩
          rw [← entry_injective same, live'] at late
          cases late
      | added expired' fresh' devices' tokens' =>
          refine ⟨rfl, ?_⟩
          rw [tokens, tokens', entryEq, entryEq']
          exact legible.keyed.revokeWhere.put_perm_put (alike.tokens.map _) _

/-- A call that fits is answered alike by stores that hold the same records. -/
theorem answerAlike (legible : s.Legible) (legible' : s'.Legible) (alike : s.Alike s')
    (few : s.devices.length ≤ maxOffset) {c : StoreCall α} (fits : c.Fits s) :
    AnswerAlike s s' c := by
  cases c with
  | getOrCreate candidate => exact answerAlike_getOrCreate legible legible' alike fits
  | getDevice tenant id =>
      rcases exists_readFound (p := DeviceEntry.isDevice tenant id) (fun e member => by
        rcases legible.registered.readable e member with ⟨d, rfl⟩
        exact ⟨d, DeviceEntry.read_entry d⟩) with ⟨d?, read⟩
      constructor
      · refine ⟨d?, ?_, ?_⟩
        · rw [run_getDevice]
          exact read
        · rw [run_getDevice, ← legible.find?_devices alike]
          exact read
      · rw [run_getDevice, run_getDevice]
        exact alike
  | listDevices tenant skip limit =>
      rcases run_listDevices legible.registered few tenant skip limit with ⟨found, ran, cut⟩
      rcases run_listDevices legible'.registered (alike.devices.length_eq ▸ few) tenant skip limit
        with ⟨found', ran', cut'⟩
      rw [← listing_eq legible.registered legible.ordered legible'.ordered alike.devices, cut]
        at cut'
      have same : found = found' :=
        List.map_injective_iff.mpr (fun _ _ => DeviceEntry.entry_injective) cut'
      constructor
      · exact ⟨found, by rw [ran], by rw [ran', same]⟩
      · rw [ran, ran']
        exact alike
  | updateStatus tenant id status now =>
      constructor
      · refine ⟨_, run_updateStatus s tenant id status now, ?_⟩
        rw [run_updateStatus, alike.devices.any_eq]
      · apply alike.of_devices rfl
        rw [Legible.devices_updateStatus fits, Legible.devices_updateStatus (alike.fits fits)]
        exact alike.devices.map _
  | rotateKey tenant id key now =>
      rcases legible.run_rotateKey fits with ⟨answer, devices, -⟩
      rcases legible'.run_rotateKey (alike.fits fits) with ⟨answer', devices', -⟩
      constructor
      · refine ⟨_, answer, ?_⟩
        rw [answer', alike.devices.any_eq]
      · apply alike.of_devices rfl
        rw [devices, devices']
        exact alike.devices.map _
  | insertOrGetLive candidate now => exact answerAlike_insertOrGetLive legible legible' alike fits
  | getToken tenant id =>
      rcases exists_readFound (p := isToken tenant id) (fun e member => by
        rcases legible.readable e member with ⟨t, rfl⟩
        exact ⟨t, read_entry t⟩) with ⟨t?, read⟩
      constructor
      · refine ⟨t?, ?_, ?_⟩
        · rw [run_getToken]
          exact read
        · rw [run_getToken, ← legible.find?_tokens alike]
          exact read
      · rw [run_getToken, run_getToken]
        exact alike
  | revokeToken tenant id =>
      constructor
      · refine ⟨_, run_revokeToken s tenant id, ?_⟩
        rw [run_revokeToken, alike.tokens.any_eq]
      · apply alike.of_tokens rfl
        rw [tokens_revokeToken, tokens_revokeToken]
        exact alike.tokens.map _
  | revokeDeviceTokens tenant deviceId =>
      constructor
      · refine ⟨_, run_revokeDeviceTokens s tenant deviceId, ?_⟩
        rw [run_revokeDeviceTokens, alike.tokens.countP_eq]
      · apply alike.of_tokens rfl
        rw [tokens_revokeDeviceTokens, tokens_revokeDeviceTokens]
        exact alike.tokens.map _

/-! ## Sequences of calls -/

/-- The stores that some calls lead to, made of both kinds of stores from the start, each of which
brings what fits. -/
inductive SideBySide : (calls : Nat) → (inMemory inTables : Store) → Prop where
  | start : SideBySide 0 (.empty .memory) (.empty .tables)
  | call {n : Nat} {m t : Store} {α : Type} (before : SideBySide n m t) (c : StoreCall α)
      (fits : c.Fits m) : SideBySide (n + 1) (m.run c).2 (t.run c).2
  | rearranged {n : Nat} {m m' t : Store} (before : SideBySide n m t) (order : m.Rearranged m') :
      SideBySide n m' t

/-- What holds of two stores that are called alike. -/
structure Together (calls : Nat) (m t : Store) : Prop where
  inMemory : m.Legible
  inTables : t.Legible
  alike : m.Alike t
  few : m.devices.length ≤ calls

/-- Both stores hold the same records after fewer calls than an offset can count. -/
theorem SideBySide.together {n : Nat} {m t : Store} (h : SideBySide n m t) (few : n ≤ maxOffset) :
    Together n m t := by
  induction h with
  | start =>
      refine ⟨legible_empty .memory, legible_empty .tables, ⟨?_, ?_⟩, Nat.le_refl 0⟩
      · rw [devices_empty, devices_empty]
      · rw [tokens_empty, tokens_empty]
  | @call n m t α before c fits ih =>
      have together := ih (Nat.le_of_succ_le few)
      have fewDevices := Nat.le_trans together.few (Nat.le_of_succ_le few)
      constructor
      · exact together.inMemory.run fits
      · exact together.inTables.run (together.alike.fits fits)
      · exact (answerAlike together.inMemory together.inTables together.alike fewDevices fits).alike
      · exact Nat.le_trans (together.inMemory.length_devices_run fits)
          (Nat.succ_le_succ together.few)
  | rearranged before order ih =>
      have together := ih few
      constructor
      · exact together.inMemory.rearranged order
      · exact together.inTables
      · exact order.alike.symm.trans together.alike
      · rw [order.sameDevices.devices]
        exact together.few

/-- Both kinds of stores answer alike. Whatever calls were made of a store in memory and of one in
tables since both were empty, fewer than 2^63 of them and each bringing what fits, the next such
call gets the same answer from both, and it is not a fault. -/
theorem SideBySide.answers_eq {n : Nat} {m t : Store} (h : SideBySide n m t)
    (few : n < 9223372036854775808) (c : StoreCall α) (fits : c.Fits m) :
    ∃ a, (m.run c).1 = .ok a ∧ (t.run c).1 = .ok a := by
  have most : n ≤ maxOffset := Nat.le_of_lt_succ few
  have together := h.together most
  exact (answerAlike together.inMemory together.inTables together.alike
    (Nat.le_trans together.few most) fits).answer

end Store

namespace Sample

def firstDevice : Device :=
  .firstSeen "d" .default "mac" "key" (.ofSeconds 100)

def firstToken : Token where
  id := "t"
  deviceId := "d"
  tenant := .default
  raw := "raw"
  issuedAt := .ofSeconds 100
  expiresAt := .ofSeconds 160
  revoked := false

/-- A store with a device and its token. -/
def furnished (kind : StoreKind) : Store :=
  (((Store.empty kind).run (.getOrCreate firstDevice)).2.run
    (.insertOrGetLive firstToken (.ofSeconds 100))).2

theorem sideBySide_furnished : Store.SideBySide 2 (furnished .memory) (furnished .tables) := by
  apply Store.SideBySide.call
  · apply Store.SideBySide.call .start
    constructor
    · rintro d ⟨⟩
      refine ⟨?_, by decide +kernel, by decide +kernel⟩
      rintro e ⟨⟩
    · rintro t ⟨⟩
    · rintro now ⟨⟩
  · constructor
    · rintro d ⟨⟩
    · rintro t ⟨⟩
      refine ⟨?_, rfl, by decide +kernel, by decide +kernel⟩
      rintro e ⟨⟩
    · rintro now ⟨⟩

/-- Both stores revoke the one token of the sample. -/
theorem answers_eq_furnished : ∃ count,
    ((furnished .memory).run (.revokeDeviceTokens .default "d")).1 = .ok count ∧
      ((furnished .tables).run (.revokeDeviceTokens .default "d")).1 = .ok count := by
  apply sideBySide_furnished.answers_eq (by decide)
  constructor
  · rintro d ⟨⟩
  · rintro t ⟨⟩
  · rintro now ⟨⟩

end Sample

end DeviceAdmission
