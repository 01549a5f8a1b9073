import DeviceAdmission.Proofs.Store.Rows
import DeviceAdmission.Proofs.Store.Statuses

/-!
# The keys of devices

The card of a device is what a store has of it whatever its status is: its names, its key and when
it was seen first. All calls but two leave the cards of a store: `getOrCreate` adds one where the
identity of the candidate is unknown, and `rotateKey` changes the key on the one of an accepted
device. None of this needs the times of a store to be legible.
-/

namespace DeviceAdmission

/-- What a store has of a device that no change of its status touches. -/
structure DeviceCard where
  id : String
  tenant : Tenant
  identityData : String
  publicKey : String
  createdAt : Except StoreFault Instant

def DeviceCard.names (c : DeviceCard) : (Tenant × String) × String :=
  ((c.tenant, c.identityData), c.id)

def DeviceEntry.card (e : DeviceEntry) : DeviceCard where
  id := e.id
  tenant := e.tenant
  identityData := e.identityData
  publicKey := e.publicKey
  createdAt := e.createdAt

theorem DeviceEntry.isDevice_of_card {e f : DeviceEntry} (same : f.card = e.card)
    (tenant : Tenant) (id : String) : f.isDevice tenant id = e.isDevice tenant id := by
  have tenantEq : f.tenant = e.tenant := congrArg DeviceCard.tenant same
  have idEq : f.id = e.id := congrArg DeviceCard.id same
  rw [isDevice, isDevice, tenantEq, idEq]

theorem DeviceEntry.hasIdentity_of_card {e f : DeviceEntry} (same : f.card = e.card)
    (tenant : Tenant) (identityData : String) :
    f.hasIdentity tenant identityData = e.hasIdentity tenant identityData := by
  have tenantEq : f.tenant = e.tenant := congrArg DeviceCard.tenant same
  have dataEq : f.identityData = e.identityData := congrArg DeviceCard.identityData same
  rw [hasIdentity, hasIdentity, tenantEq, dataEq]

/-- The card of a device that is new in a store of the kind. -/
def StoreKind.card (kind : StoreKind) (d : Device) : DeviceCard where
  id := d.id
  tenant := d.tenant
  identityData := d.identityData
  publicKey := d.publicKey
  createdAt := kind.kept 5 d.createdAt

theorem DeviceRow.card_ofDevice (d : Device) :
    (DeviceRow.ofDevice d).entry.card = StoreKind.tables.card d := by
  simp only [DeviceRow.entry, DeviceRow.ofDevice, DeviceEntry.card, StoreKind.card,
    StoreKind.kept]

/-- Whether a call leaves the cards of every store. -/
def StoreCall.sparesCards {α : Type} (c : StoreCall α) : Bool :=
  c.method ≠ .getOrCreate && c.method ≠ .rotateKey

namespace Store

open DeviceEntry

variable {s s' s'' : Store} {ids : List String} {tenant : Tenant} {id : String}

def cards (s : Store) : List DeviceCard :=
  s.devices.map card

/-- Two stores with the same cards. -/
structure SameCards (s s' : Store) : Prop where
  kind : s'.kind = s.kind
  cards : s'.cards = s.cards
  identities : s'.identities = s.identities

theorem SameCards.refl (s : Store) : s.SameCards s :=
  ⟨rfl, rfl, rfl⟩

theorem SameCards.trans (first : s.SameCards s') (second : s'.SameCards s'') :
    s.SameCards s'' := by
  constructor
  · exact second.kind.trans first.kind
  · exact second.cards.trans first.cards
  · exact second.identities.trans first.identities

theorem SameDevices.sameCards (same : s.SameDevices s') : s.SameCards s' := by
  refine ⟨same.kind, ?_, same.identities⟩
  rw [cards, cards, same.devices]

theorem names_eq_map_cards (s : Store) : s.names = s.cards.map DeviceCard.names := by
  rw [names, cards, List.map_map]
  rfl

/-- A device of a store is one of another with the same cards. -/
theorem SameCards.exists_card_eq (same : s.SameCards s') {e : DeviceEntry}
    (member : e ∈ s.devices) : ∃ f ∈ s'.devices, f.card = e.card := by
  have inCards : e.card ∈ s'.cards := by
    rw [same.cards]
    exact List.mem_map_of_mem member
  exact List.mem_map.mp inCards

/-! ## Calls that leave the cards -/

theorem map_card_changeWhere {p : DeviceEntry → Bool} {f : DeviceEntry → DeviceEntry}
    {entries : List DeviceEntry} (card_eq : ∀ e, (f e).card = e.card) :
    (changeWhere p f entries).map card = entries.map card := by
  rw [changeWhere, List.map_map]
  apply List.map_congr_left
  intro e _
  simp only [Function.comp]
  split
  · exact card_eq e
  · rfl

/-- All calls but two leave the cards. -/
theorem sameCards_run {α : Type} (s : Store) {c : StoreCall α} (spares : c.sparesCards = true) :
    s.SameCards (s.run c).2 := by
  cases c with
  | getOrCreate candidate => cases spares
  | getDevice tenant id =>
      rw [run_getDevice]
      exact .refl s
  | listDevices tenant skip limit =>
      cases s with
      | memory m => exact .refl _
      | tables t => exact .refl _
  | updateStatus tenant id status now =>
      have cardEq : ∀ e, (withStatus status (s.kind.kept 6 now) e).card = e.card := fun _ => rfl
      refine ⟨kind_run s _, ?_, identities_updateStatus s tenant id status now⟩
      rw [cards, devices_updateStatus, map_card_changeWhere cardEq]
      rfl
  | rotateKey tenant id key now => cases spares
  | insertOrGetLive candidate now => exact (sameDevices_run s rfl).sameCards
  | getToken tenant id => exact (sameDevices_run s rfl).sameCards
  | revokeToken tenant id => exact (sameDevices_run s rfl).sameCards
  | revokeDeviceTokens tenant deviceId => exact (sameDevices_run s rfl).sameCards

/-! ## Devices that are told apart -/

/-- A store whose devices can be told apart, with ids that are among those given. -/
structure Distinct (s : Store) (ids : List String) : Prop where
  uniqueId : (s.names.map Prod.snd).Nodup
  uniqueIdentity : (s.names.map Prod.fst).Nodup
  used : ∀ n ∈ s.names, n.2 ∈ ids
  indexed : s.kind = .memory → s.identities.Perm s.names

/-- The devices of a store in memory can always be read. -/
theorem Distinct.registered {m : MemoryStore} (distinct : (memory m).Distinct ids) :
    (memory m).Registered ids := by
  refine ⟨?_, distinct.uniqueId, distinct.uniqueIdentity, distinct.used, distinct.indexed⟩
  intro e member
  rcases List.mem_map.mp member with ⟨d, -, rfl⟩
  exact ⟨d, rfl⟩

theorem distinct_empty (kind : StoreKind) : (Store.empty kind).Distinct [] := by
  have registered := registered_empty kind
  exact ⟨registered.uniqueId, registered.uniqueIdentity, registered.used, registered.indexed⟩

theorem Distinct.mono {more : List String} (distinct : s.Distinct ids)
    (included : ∀ id ∈ ids, id ∈ more) : s.Distinct more :=
  { distinct with used := fun n member => included _ (distinct.used n member) }

theorem Distinct.of_names (distinct : s.Distinct ids) (kindEq : s'.kind = s.kind)
    (namesEq : s'.names = s.names) (identitiesEq : s'.identities = s.identities) :
    s'.Distinct ids := by
  constructor
  · rw [namesEq]
    exact distinct.uniqueId
  · rw [namesEq]
    exact distinct.uniqueIdentity
  · rw [namesEq]
    exact distinct.used
  · rw [kindEq, identitiesEq, namesEq]
    exact distinct.indexed

theorem Distinct.of_sameCards (distinct : s.Distinct ids) (same : s.SameCards s') :
    s'.Distinct ids := by
  apply distinct.of_names same.kind ?_ same.identities
  rw [names_eq_map_cards, names_eq_map_cards, same.cards]

/-- Two devices with the same id are one. -/
theorem Distinct.eq_of_id (distinct : s.Distinct ids) {e f : DeviceEntry}
    (eMem : e ∈ s.devices) (fMem : f ∈ s.devices) (idEq : e.id = f.id) : e = f :=
  eq_of_uniqueId distinct.uniqueId eMem fMem idEq

/-- An id that was not given yet is the one of no device. -/
theorem Distinct.id_ne (distinct : s.Distinct ids) (fresh : id ∉ ids) :
    ∀ e ∈ s.devices, e.id ≠ id := by
  rintro e member rfl
  exact fresh (distinct.used e.names (List.mem_map_of_mem member))

/-! ## Rotation -/

theorem Distinct.run_rotateKey (distinct : s.Distinct ids) (tenant : Tenant) (id key : String)
    (now : Instant) : (s.run (.rotateKey tenant id key now)).1 =
        .ok (s.devices.any (isAccepted tenant id)) ∧
      (s.run (.rotateKey tenant id key now)).2.devices =
        changeWhere (isAccepted tenant id) (withKey key (s.kind.kept 6 now)) s.devices ∧
      (s.run (.rotateKey tenant id key now)).2.identities = s.identities := by
  cases s with
  | memory m => exact run_rotateKey_memory distinct.registered tenant id key now
  | tables t =>
      obtain ⟨answer, devices⟩ := run_rotateKey_tables t tenant id key now
      exact ⟨answer, devices, rfl⟩

/-- A write of a key to the device of an entry, and of the time to its time of change. Nothing else
is written. -/
structure Rekeys (s : Store) (e : DeviceEntry) (key : String) (now : Instant) (s' : Store) :
    Prop where
  member : e ∈ s.devices
  only : ∀ f ∈ s.devices, f.isDevice e.tenant e.id = true → f = e
  devices : s'.devices =
    changeWhere (isDevice e.tenant e.id) (withKey key (s.kind.kept 6 now)) s.devices
  tokens : s.SameTokens s'
  identities : s'.identities = s.identities

theorem Rekeys.names_eq {e : DeviceEntry} {key : String} {now : Instant}
    (rekeys : s.Rekeys e key now s') : s'.names = s.names := by
  have sameNames : ∀ e, (withKey key (s.kind.kept 6 now) e).names = e.names := fun _ => rfl
  rw [names, rekeys.devices, map_names_changeWhere sameNames]
  rfl

theorem Distinct.of_rekeys {e : DeviceEntry} {key : String} {now : Instant}
    (distinct : s.Distinct ids) (rekeys : s.Rekeys e key now s') : s'.Distinct ids :=
  distinct.of_names rekeys.tokens.kind rekeys.names_eq rekeys.identities

/-- Where no key was set, the devices are the same. -/
theorem Distinct.sameDevices_of_rotateKey {key : String} {now : Instant}
    (distinct : s.Distinct ids)
    (answer : s.run (.rotateKey tenant id key now) = (.ok false, s')) : s.SameDevices s' := by
  obtain ⟨answered, devices, identities⟩ := distinct.run_rotateKey tenant id key now
  have kindEq := kind_run s (.rotateKey tenant id key now)
  rw [answer] at answered devices identities kindEq
  have noneAccepted := List.any_eq_false.mp (Except.ok.inj answered).symm
  refine ⟨kindEq, devices.trans (changeWhere_eq_self ?_), identities⟩
  exact fun e member => Bool.not_eq_true _ ▸ noneAccepted e member

/-- Where a key was set, it is that of the device, which was accepted. -/
theorem Distinct.rekeys_of_rotateKey {key : String} {now : Instant} (distinct : s.Distinct ids)
    (answer : s.run (.rotateKey tenant id key now) = (.ok true, s')) :
    ∃ e, e.tenant = tenant ∧ e.id = id ∧ e.status = .ok .accepted ∧ s.Rekeys e key now s' := by
  obtain ⟨answered, devices, identities⟩ := distinct.run_rotateKey tenant id key now
  have tokens := sameTokens_run s (c := .rotateKey tenant id key now) rfl
  rw [answer] at answered devices identities tokens
  rcases List.any_eq_true.mp (Except.ok.inj answered).symm with ⟨e, member, isIt⟩
  obtain ⟨⟨rfl, rfl⟩, accepted⟩ := isAccepted_iff.mp isIt
  have only : ∀ f ∈ s.devices, f.isDevice e.tenant e.id = true → f = e :=
    fun f fMem isDevice => distinct.eq_of_id fMem member (isDevice_iff.mp isDevice).2
  refine ⟨e, rfl, rfl, accepted, member, only, ?_, tokens, identities⟩
  rw [devices]
  apply List.map_congr_left
  intro f fMem
  cases isDevice : f.isDevice e.tenant e.id with
  | false => rw [isAccepted_of_not_isDevice isDevice]
  | true => rw [only f fMem isDevice, isIt]

/-! ## First sight -/

/-- The ways that `getOrCreate` ends in a store whose devices can be told apart. -/
inductive Sighting (s : Store) (candidate : Device) :
    Except StoreFault (Device × Bool) × Store → Prop where
  | known {e : DeviceEntry} {r : Except StoreFault (Device × Bool)} (member : e ∈ s.devices)
      (identity : e.hasIdentity candidate.tenant candidate.identityData = true)
      (answer : ∀ a, r = .ok a → a.1.entry = e ∧ a.2 = false) : Sighting s candidate (r, s)
  | added {r : Except StoreFault (Device × Bool)} {s' : Store}
      (unknown : ∀ e ∈ s.devices,
        e.hasIdentity candidate.tenant candidate.identityData = false)
      (tokens : s.SameTokens s') (cards : s'.cards.Perm (s.kind.card candidate :: s.cards))
      (identities : s.kind = .memory →
        s'.identities.Perm (candidate.entry.names :: s.identities))
      (answer : ∀ a, r = .ok a → a.2 = true) : Sighting s candidate (r, s')

/-- A device that was added is told apart from the others. -/
theorem Distinct.added {candidate : Device} (distinct : s.Distinct ids)
    (fresh : candidate.id ∉ ids)
    (unknown : ∀ e ∈ s.devices, e.hasIdentity candidate.tenant candidate.identityData = false)
    (kindEq : s'.kind = s.kind) (cards : s'.cards.Perm (s.kind.card candidate :: s.cards))
    (identities : s.kind = .memory →
      s'.identities.Perm (candidate.entry.names :: s.identities)) :
    s'.Distinct (candidate.id :: ids) := by
  have names : s'.names.Perm (candidate.entry.names :: s.names) := by
    rw [names_eq_map_cards, names_eq_map_cards]
    exact cards.map DeviceCard.names
  constructor
  · refine (names.map Prod.snd).nodup_iff.mpr (List.nodup_cons.mpr ⟨?_, distinct.uniqueId⟩)
    intro member
    rcases List.mem_map.mp member with ⟨n, nMem, idEq⟩
    have used := distinct.used n nMem
    rw [idEq] at used
    exact fresh used
  · refine (names.map Prod.fst).nodup_iff.mpr
      (List.nodup_cons.mpr ⟨?_, distinct.uniqueIdentity⟩)
    intro member
    rcases List.mem_map.mp member with ⟨n, nMem, identityEq⟩
    obtain ⟨e, eMem, rfl⟩ := List.mem_map.mp nMem
    have known : e.hasIdentity candidate.tenant candidate.identityData = true :=
      hasIdentity_iff.mpr ⟨congrArg Prod.fst identityEq, congrArg Prod.snd identityEq⟩
    rw [unknown e eMem] at known
    cases known
  · intro n member
    rcases List.mem_cons.mp (names.mem_iff.mp member) with rfl | old
    · exact List.mem_cons_self
    · exact List.mem_cons_of_mem _ (distinct.used n old)
  · intro isMemory
    have isMemory : s.kind = .memory := kindEq ▸ isMemory
    exact (identities isMemory).trans
      (((distinct.indexed isMemory).cons candidate.entry.names).trans names.symm)

theorem Registration.sighting {m : MemoryStore} {candidate : Device}
    {r : Except StoreFault (Device × Bool) × Store}
    (registration : Registration (memory m) candidate r) : Sighting (memory m) candidate r := by
  cases registration with
  | found member tenant identityData =>
      refine .known member (hasIdentity_iff.mpr ⟨tenant, identityData⟩) ?_
      rintro a ⟨⟩
      exact ⟨rfl, rfl⟩
  | created unknown tokens devices identities =>
      refine .added unknown tokens (devices.map card) identities ?_
      rintro a ⟨⟩
      rfl

theorem Distinct.sighting_tables {t : TableStore} {candidate : Device}
    (distinct : (tables t).Distinct ids) (fresh : candidate.id ∉ ids) :
    Sighting (tables t) candidate ((tables t).run (.getOrCreate candidate)) := by
  cases found : t.devices.find?
      (DeviceRow.hasIdentity candidate.tenant candidate.identityData) with
  | some row =>
      have identity : row.entry.hasIdentity candidate.tenant candidate.identityData = true := by
        rw [DeviceRow.hasIdentity_entry]
        exact List.find?_some found
      simp only [run, TableStore.run, TableStore.getOrCreate_of_found found]
      refine .known (List.mem_map_of_mem (List.mem_of_find?_eq_some found)) identity ?_
      intro a answer
      obtain ⟨read, isOld⟩ := TableStore.answerRow_eq_ok answer
      exact ⟨(entry_of_read (DeviceRow.read_entry row ▸ read)).symm, isOld⟩
  | none =>
      have freshRow : ∀ r ∈ t.devices, r.id ≠ candidate.id := fun r member =>
        distinct.id_ne fresh r.entry (List.mem_map_of_mem member)
      simp only [run, TableStore.run, TableStore.getOrCreate_of_none freshRow found]
      refine .added ?_ ⟨rfl, rfl⟩ ?_ (fun isMemory => by cases isMemory) ?_
      · intro e member
        rcases List.mem_map.mp member with ⟨r, rMem, rfl⟩
        exact Bool.not_eq_true _ ▸ List.find?_eq_none.mp found r rMem
      · simp only [cards, devices, List.map_append, List.map_singleton, DeviceRow.card_ofDevice]
        exact List.perm_append_singleton _ _
      · exact fun a answer => (TableStore.answerRow_eq_ok answer).2

/-- A device is known or added where its id is fresh, whether or not it can be read then. -/
theorem Distinct.sighting {candidate : Device} (distinct : s.Distinct ids)
    (fresh : candidate.id ∉ ids) :
    Sighting s candidate (s.run (.getOrCreate candidate)) := by
  cases s with
  | memory m => exact (registration_memory distinct.registered fresh).sighting
  | tables t => exact distinct.sighting_tables fresh

/-- A call with a fresh id leaves a store whose devices can be told apart. -/
theorem Distinct.run {α : Type} {c : StoreCall α} (distinct : s.Distinct ids)
    (fresh : ∀ d, c.newDevice? = some d → d.id ∉ ids) :
    (s.run c).2.Distinct ((c.newDevice?.map Device.id).toList ++ ids) := by
  have more : ∀ id ∈ ids, id ∈ (c.newDevice?.map Device.id).toList ++ ids :=
    fun id member => List.mem_append_right _ member
  by_cases spares : c.sparesCards = true
  · exact (distinct.of_sameCards (sameCards_run s spares)).mono more
  cases c with
  | getOrCreate candidate =>
      have unused := fresh candidate rfl
      have sighting := distinct.sighting unused
      generalize s.run (.getOrCreate candidate) = r at sighting ⊢
      cases sighting with
      | known member identity answer => exact distinct.mono more
      | added unknown tokens cards identities answer =>
          exact distinct.added unused unknown tokens.kind cards identities
  | rotateKey tenant id key now =>
      obtain ⟨answered, -, -⟩ := distinct.run_rotateKey tenant id key now
      cases answer : s.run (.rotateKey tenant id key now) with
      | mk result s' =>
          rw [answer] at answered
          cases answered
          cases accepted : s.devices.any (isAccepted tenant id) with
          | false =>
              rw [accepted] at answer
              have same := (distinct.sameDevices_of_rotateKey answer).sameCards
              exact (distinct.of_sameCards same).mono more
          | true =>
              rw [accepted] at answer
              obtain ⟨e, -, -, -, rekeys⟩ := distinct.rekeys_of_rotateKey answer
              exact (distinct.of_rekeys rekeys).mono more
  | _ => exact absurd rfl spares

end Store

end DeviceAdmission
