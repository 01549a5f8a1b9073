import DeviceAdmission.Proofs.Store.Calls
import DeviceAdmission.Proofs.Time.Rfc3339

/-!
# Calls that concern devices

What the calls about devices answer and leave in a store whose entries can be read. No two devices
of such a store have the same id, no two devices of a tenant have the same identity data, and in
memory the index leads from an identity to the device that has it. Times of the years 0 to 9999 are
kept exactly, whatever the kind of the store.
-/

namespace DeviceAdmission

/-- Whether an instant lies in the years 1970 to 9999. -/
def Instant.isTimely (t : Instant) : Bool :=
  1970 ≤ t.date.year && t.date.year ≤ 9999

/-- Whether an instant lies in the years 0 to 9999, whose timestamps are read back. -/
def Instant.isLegible (t : Instant) : Bool :=
  0 ≤ t.date.year && t.date.year ≤ 9999

theorem Instant.year_of_isTimely {t : Instant} (timely : t.isTimely = true) :
    1970 ≤ t.date.year ∧ t.date.year ≤ 9999 := by
  simpa [isTimely] using timely

theorem Instant.isLegible_of_isTimely {t : Instant} (timely : t.isTimely = true) :
    t.isLegible = true := by
  rcases year_of_isTimely timely with ⟨least, most⟩
  rw [isLegible, Bool.and_eq_true, decide_eq_true_eq, decide_eq_true_eq]
  exact ⟨Int.le_trans (by decide) least, most⟩

theorem Instant.year_ge_iff {t : Instant} : 1970 ≤ t.date.year ↔ 0 ≤ t.seconds := by
  have day : 1970 ≤ t.date.year ↔ 0 ≤ t.seconds / 86400 := Date.le_year_iff
  rw [day]
  omega

theorem Instant.year_le_iff {t : Instant} :
    t.date.year ≤ 9999 ↔ t.seconds ≤ 253402300799 := by
  have next : 10000 ≤ t.date.year ↔ 2932897 ≤ t.seconds / 86400 := Date.le_year_iff
  constructor
  · intro year_le
    have notNext : ¬2932897 ≤ t.seconds / 86400 := fun day_le => by
      have year_ge := next.mpr day_le
      omega
    omega
  · intro seconds_le
    have notNext : ¬10000 ≤ t.date.year := fun year_ge => by
      have day_le := next.mp year_ge
      omega
    omega

/-- The instants of those years are those from the first second of 1970 to the last of 9999. -/
theorem Instant.isTimely_iff {t : Instant} :
    t.isTimely = true ↔ 0 ≤ t.seconds ∧ t.seconds ≤ 253402300799 := by
  rw [isTimely, Bool.and_eq_true, decide_eq_true_eq, decide_eq_true_eq, year_ge_iff, year_le_iff]

/-- The times of those years are in the range that instants are kept to. -/
theorem Instant.isInRange_of_isTimely {t : Instant} (timely : t.isTimely = true) :
    t.isInRange = true := by
  rcases isTimely_iff.mp timely with ⟨least, most⟩
  have first : firstSecond = -8334601228800 := by decide
  have last : lastSecond = 8210266876799 := by decide
  simp only [isInRange, first, last, Bool.and_eq_true, decide_eq_true_eq]
  omega

theorem Instant.seconds_le {t u : Instant} (h : t ≤ u) : t.seconds ≤ u.seconds := by
  rw [Instant.le_iff] at h
  simp only [seconds, nanosPerSecond]
  omega

theorem readTimestamp_timestamp {t : Instant} (column : Nat) (legible : t.isLegible = true) :
    readTimestamp column (timestamp t) = .ok t := by
  rw [Instant.isLegible, Bool.and_eq_true, decide_eq_true_eq, decide_eq_true_eq] at legible
  have read := Rfc3339.read?_write .offset legible.1 legible.2
  rw [readTimestamp, timestamp, read]
  rfl

namespace StoreKind

/-- A time of those years is read back as it was. -/
theorem kept_eq_ok (kind : StoreKind) (column : Nat) {t : Instant}
    (legible : t.isLegible = true) : kind.kept column t = .ok t := by
  cases kind with
  | memory => rfl
  | tables => exact readTimestamp_timestamp column legible

theorem tokenEntry_eq (kind : StoreKind) {t : Token} (unrevoked : t.revoked = false)
    (issued : t.issuedAt.isLegible = true) (expires : t.expiresAt.isLegible = true) :
    kind.tokenEntry t = t.entry := by
  cases kind with
  | memory => rfl
  | tables =>
      simp only [tokenEntry, TokenRow.entry, TokenRow.ofToken, Token.entry,
        readTimestamp_timestamp _ issued, readTimestamp_timestamp _ expires, unrevoked]

end StoreKind

namespace DeviceEntry

/-- What devices are told apart by: tenant and identity data, and the id. -/
def names (e : DeviceEntry) : (Tenant × String) × String :=
  ((e.tenant, e.identityData), e.id)

/-- Whether an entry is the accepted device with the tenant and id. -/
def isAccepted (tenant : Tenant) (id : String) (e : DeviceEntry) : Bool :=
  e.isDevice tenant id &&
    match e.status with
    | .ok status => status = .accepted
    | .error _ => false

def withStatus (status : DeviceStatus) (now : Except StoreFault Instant) (e : DeviceEntry) :
    DeviceEntry :=
  { e with status := .ok status, updatedAt := now }

def withKey (key : String) (now : Except StoreFault Instant) (e : DeviceEntry) : DeviceEntry :=
  { e with publicKey := key, updatedAt := now }

/-- Change the entries that `p` picks. -/
def changeWhere (p : DeviceEntry → Bool) (f : DeviceEntry → DeviceEntry)
    (entries : List DeviceEntry) : List DeviceEntry :=
  entries.map fun e => if p e then f e else e

variable {p : DeviceEntry → Bool} {f : DeviceEntry → DeviceEntry} {entries : List DeviceEntry}

theorem changeWhere_eq_self (none : ∀ e ∈ entries, p e = false) :
    changeWhere p f entries = entries := by
  have same : ∀ e ∈ entries, (if p e then f e else e) = e := by
    intro e member
    rw [none e member]
    rfl
  rw [changeWhere, List.map_congr_left same]
  exact List.map_id' entries

theorem map_names_changeWhere (names_eq : ∀ e, (f e).names = e.names) :
    (changeWhere p f entries).map names = entries.map names := by
  rw [changeWhere, List.map_map]
  apply List.map_congr_left
  intro e _
  simp only [Function.comp]
  split
  · exact names_eq e
  · rfl

end DeviceEntry

theorem Device.isDevice_entry (d : Device) (tenant : Tenant) (id : String) :
    d.entry.isDevice tenant id = MemoryStore.isDevice tenant id d :=
  rfl

theorem Device.isAccepted_entry {d : Device} {tenant : Tenant} (tenantEq : d.tenant = tenant)
    (accepted : d.status = .accepted) : d.entry.isAccepted tenant d.id = true := by
  have isDevice : d.entry.isDevice tenant d.id = true := by
    simp [DeviceEntry.isDevice, Device.entry, tenantEq]
  rw [DeviceEntry.isAccepted, isDevice, Bool.true_and]
  exact decide_eq_true accepted

theorem DeviceRow.isDevice_entry (r : DeviceRow) (tenant : Tenant) (id : String) :
    r.entry.isDevice tenant id = r.isDevice tenant id :=
  rfl

theorem DeviceRow.hasIdentity_entry (r : DeviceRow) (tenant : Tenant) (identityData : String) :
    r.entry.hasIdentity tenant identityData = r.hasIdentity tenant identityData :=
  rfl

theorem DeviceRow.read_entry (r : DeviceRow) : r.entry.read = r.read :=
  rfl

namespace Store

open DeviceEntry

variable {s s' : Store} {ids : List String} {tenant : Tenant} {id : String}

/-- What the devices of a store are told apart by. -/
def names (s : Store) : List ((Tenant × String) × String) :=
  s.devices.map DeviceEntry.names

/-- A store whose devices can be read and told apart, with ids that are among those given. -/
structure Registered (s : Store) (ids : List String) : Prop where
  readable : ∀ e ∈ s.devices, ∃ d : Device, e = d.entry
  uniqueId : (s.names.map Prod.snd).Nodup
  uniqueIdentity : (s.names.map Prod.fst).Nodup
  used : ∀ n ∈ s.names, n.2 ∈ ids
  indexed : s.kind = .memory → s.identities.Perm s.names

theorem registered_empty (kind : StoreKind) : (Store.empty kind).Registered [] := by
  have noNames : (Store.empty kind).names = [] := by
    rw [names, devices_empty]
    rfl
  constructor
  · rw [devices_empty]
    rintro e ⟨⟩
  · rw [noNames]
    exact List.nodup_nil
  · rw [noNames]
    exact List.nodup_nil
  · rw [noNames]
    rintro n ⟨⟩
  · intro isMemory
    cases kind with
    | memory => exact .refl _
    | tables => cases isMemory

theorem Registered.mono {more : List String} (registered : s.Registered ids)
    (included : ∀ id ∈ ids, id ∈ more) : s.Registered more :=
  { registered with used := fun n member => included _ (registered.used n member) }

theorem Registered.of_sameDevices (registered : s.Registered ids) (same : s.SameDevices s') :
    s'.Registered ids := by
  have namesEq : s'.names = s.names := by rw [names, names, same.devices]
  constructor
  · rw [same.devices]
    exact registered.readable
  · rw [namesEq]
    exact registered.uniqueId
  · rw [namesEq]
    exact registered.uniqueIdentity
  · rw [namesEq]
    exact registered.used
  · rw [same.kind, same.identities, namesEq]
    exact registered.indexed

/-- A change that leaves what devices are told apart by keeps them registered. -/
theorem Registered.change (registered : s.Registered ids) {p : DeviceEntry → Bool}
    {f : DeviceEntry → DeviceEntry} (names_eq : ∀ e, (f e).names = e.names)
    (readable : ∀ d : Device, ∃ d' : Device, f d.entry = d'.entry) (kindEq : s'.kind = s.kind)
    (identitiesEq : s'.identities = s.identities)
    (devicesEq : s'.devices = changeWhere p f s.devices) : s'.Registered ids := by
  have namesEq : s'.names = s.names := by
    rw [names, devicesEq, map_names_changeWhere names_eq]
    rfl
  constructor
  · intro e member
    rw [devicesEq] at member
    rcases List.mem_map.mp member with ⟨e, old, rfl⟩
    obtain ⟨d, rfl⟩ := registered.readable e old
    split
    · exact readable d
    · exact ⟨d, rfl⟩
  · rw [namesEq]
    exact registered.uniqueId
  · rw [namesEq]
    exact registered.uniqueIdentity
  · rw [namesEq]
    exact registered.used
  · rw [kindEq, identitiesEq, namesEq]
    exact registered.indexed

/-- Two devices with one id are one, where no two devices have the same id. -/
theorem eq_of_uniqueId (unique : (s.names.map Prod.snd).Nodup) {e f : DeviceEntry}
    (eMem : e ∈ s.devices) (fMem : f ∈ s.devices) (idEq : e.id = f.id) : e = f := by
  rw [names, List.map_map] at unique
  exact List.inj_on_of_nodup_map unique eMem fMem idEq

/-- Two devices of a tenant with the same identity data are one, where these tell devices apart. -/
theorem eq_of_uniqueIdentity (unique : (s.names.map Prod.fst).Nodup) {e f : DeviceEntry}
    (eMem : e ∈ s.devices) (fMem : f ∈ s.devices) (tenantEq : e.tenant = f.tenant)
    (identityEq : e.identityData = f.identityData) : e = f := by
  rw [names, List.map_map] at unique
  exact List.inj_on_of_nodup_map unique eMem fMem (Prod.ext tenantEq identityEq)

/-- A device that can be read is found under its tenant and id. -/
theorem run_getDevice_of_uniqueId (unique : (s.names.map Prod.snd).Nodup) {d : Device}
    (member : d.entry ∈ s.devices) : s.run (.getDevice d.tenant d.id) = (.ok (some d), s) := by
  have found : s.devices.find? (isDevice d.tenant d.id) = some d.entry := by
    cases found : s.devices.find? (isDevice d.tenant d.id) with
    | none =>
        have none := List.find?_eq_none.mp found _ member
        exact absurd (isDevice_iff.mpr ⟨rfl, rfl⟩) none
    | some e =>
        have same := isDevice_iff.mp (List.find?_some found)
        rw [eq_of_uniqueId unique (List.mem_of_find?_eq_some found) member same.2]
  rw [Store.run_getDevice, found]
  rfl

theorem Registered.eq_of_id (registered : s.Registered ids) {e f : DeviceEntry}
    (eMem : e ∈ s.devices) (fMem : f ∈ s.devices) (idEq : e.id = f.id) : e = f :=
  eq_of_uniqueId registered.uniqueId eMem fMem idEq

theorem Registered.eq_of_identity (registered : s.Registered ids) {e f : DeviceEntry}
    (eMem : e ∈ s.devices) (fMem : f ∈ s.devices) (tenantEq : e.tenant = f.tenant)
    (identityEq : e.identityData = f.identityData) : e = f :=
  eq_of_uniqueIdentity registered.uniqueIdentity eMem fMem tenantEq identityEq

theorem Registered.run_getDevice (registered : s.Registered ids) {d : Device}
    (member : d.entry ∈ s.devices) : s.run (.getDevice d.tenant d.id) = (.ok (some d), s) :=
  run_getDevice_of_uniqueId registered.uniqueId member

/-- Nothing is found where no device has the tenant and id. -/
theorem run_getDevice_none (absent : ∀ e ∈ s.devices, e.isDevice tenant id = false) :
    s.run (.getDevice tenant id) = (.ok none, s) := by
  have absent : s.devices.find? (isDevice tenant id) = none := by
    rw [List.find?_eq_none]
    intro e member
    rw [absent e member]
    exact Bool.false_ne_true
  rw [Store.run_getDevice, absent]
  rfl

/-! ## Changes -/

theorem map_entry_changeDevice {m : MemoryStore} {f : Device → Device}
    {g : DeviceEntry → DeviceEntry} (same : ∀ d, (f d).entry = g d.entry) :
    (memory (m.changeDevice tenant id f)).devices =
      changeWhere (isDevice tenant id) g (memory m).devices := by
  rw [changeWhere, devices, devices, MemoryStore.changeDevice, List.map_map, List.map_map]
  apply List.map_congr_left
  intro d _
  have entryIs := Device.isDevice_entry d tenant id
  simp only [Function.comp]
  by_cases isIt : MemoryStore.isDevice tenant id d = true
  · rw [if_pos isIt, if_pos (entryIs.trans isIt)]
    exact same d
  · rw [if_neg isIt, if_neg (entryIs ▸ isIt)]

theorem none_of_device? {m : MemoryStore} (absent : m.device? tenant id = none) :
    ∀ e ∈ (memory m).devices, e.isDevice tenant id = false := by
  intro e member
  rcases List.mem_map.mp member with ⟨d, dMem, rfl⟩
  exact Bool.not_eq_true _ ▸ List.find?_eq_none.mp absent d dMem

theorem any_isDevice_memory (m : MemoryStore) (tenant : Tenant) (id : String) :
    (memory m).devices.any (isDevice tenant id) = (m.device? tenant id).isSome := by
  rw [devices, List.any_map, MemoryStore.device?, List.isSome_find?]
  rfl

/-- Whether a status was set is whether there is the device. -/
theorem run_updateStatus (s : Store) (tenant : Tenant) (id : String) (status : DeviceStatus)
    (now : Instant) : (s.run (.updateStatus tenant id status now)).1 =
      .ok (s.devices.any (isDevice tenant id)) := by
  cases s with
  | memory m =>
      rw [any_isDevice_memory]
      simp only [run, MemoryStore.run, MemoryStore.updateStatus]
      cases m.device? tenant id <;> rfl
  | tables t =>
      rw [devices, List.any_map]
      rfl

theorem devices_updateStatus (s : Store) (tenant : Tenant) (id : String) (status : DeviceStatus)
    (now : Instant) : (s.run (.updateStatus tenant id status now)).2.devices =
      changeWhere (isDevice tenant id) (withStatus status (s.kind.kept 6 now)) s.devices := by
  cases s with
  | memory m =>
      simp only [run, MemoryStore.run, MemoryStore.updateStatus]
      cases found : m.device? tenant id with
      | none => exact (changeWhere_eq_self (none_of_device? found)).symm
      | some d => exact map_entry_changeDevice fun _ => rfl
  | tables t =>
      simp only [run, TableStore.run, TableStore.sure, TableStore.updateStatus, devices,
        changeWhere, List.map_map]
      apply List.map_congr_left
      intro r _
      have entryIs := DeviceRow.isDevice_entry r tenant id
      simp only [Function.comp]
      by_cases isIt : r.isDevice tenant id = true
      · rw [if_pos isIt, if_pos (entryIs.trans isIt)]
        simp only [DeviceRow.entry, withStatus, DeviceRow.readStatus, DeviceStatus.ofName?_name]
        rfl
      · rw [if_neg isIt, if_neg (entryIs ▸ isIt)]

theorem identities_updateStatus (s : Store) (tenant : Tenant) (id : String)
    (status : DeviceStatus) (now : Instant) :
    (s.run (.updateStatus tenant id status now)).2.identities = s.identities := by
  cases s with
  | memory m =>
      simp only [run, MemoryStore.run, MemoryStore.updateStatus]
      split <;> rfl
  | tables t => rfl

theorem isAccepted_rowEntry (r : DeviceRow) :
    r.entry.isAccepted tenant id = TableStore.isAcceptedDevice tenant id r := by
  rw [isAccepted, TableStore.isAcceptedDevice, DeviceRow.isDevice_entry]
  congr 1
  simp only [DeviceRow.entry, DeviceRow.readStatus]
  cases read : DeviceStatus.ofName? r.status with
  | none =>
      have other : r.status ≠ DeviceStatus.accepted.name := by
        intro equal
        rw [equal, DeviceStatus.ofName?_name] at read
        cases read
      simp [other]
  | some status =>
      have nameEq := DeviceStatus.ofName?_eq_some_iff.mp read
      simp only [Option.elim_some]
      rw [decide_eq_decide]
      constructor
      · rintro rfl
        exact nameEq
      · intro equal
        rw [equal, DeviceStatus.ofName?_name] at read
        exact (Option.some.inj read).symm

theorem isAccepted_of_not_isDevice {e : DeviceEntry} (other : e.isDevice tenant id = false) :
    e.isAccepted tenant id = false := by
  rw [isAccepted, other, Bool.false_and]

/-- Of the devices of a store only the one with the id may be accepted under it. -/
theorem Registered.isAccepted_eq (registered : s.Registered ids) {d : Device}
    (member : d.entry ∈ s.devices) {e : DeviceEntry} (eMem : e ∈ s.devices) :
    e.isAccepted d.tenant d.id =
      (e.isDevice d.tenant d.id && decide (d.status = .accepted)) := by
  cases isIt : e.isDevice d.tenant d.id with
  | false =>
      rw [isAccepted_of_not_isDevice isIt]
      rfl
  | true =>
      have same : e = d.entry := registered.eq_of_id eMem member (isDevice_iff.mp isIt).2
      rw [isAccepted, isIt, same]
      rfl

theorem run_rotateKey_memory {m : MemoryStore} (registered : (memory m).Registered ids)
    (tenant : Tenant) (id key : String) (now : Instant) :
    ((memory m).run (.rotateKey tenant id key now)).1 =
        .ok ((memory m).devices.any (isAccepted tenant id)) ∧
      ((memory m).run (.rotateKey tenant id key now)).2.devices =
        changeWhere (isAccepted tenant id) (withKey key (.ok now)) (memory m).devices ∧
      ((memory m).run (.rotateKey tenant id key now)).2.identities = (memory m).identities := by
  simp only [run, MemoryStore.run, MemoryStore.rotateKey]
  cases found : m.device? tenant id with
  | none =>
      have absent : ∀ e ∈ (memory m).devices, e.isAccepted tenant id = false :=
        fun e member => isAccepted_of_not_isDevice (none_of_device? found e member)
      refine ⟨?_, (changeWhere_eq_self absent).symm, rfl⟩
      rw [List.any_eq_false.mpr fun e member => by simp [absent e member]]
  | some d =>
      have member : d.entry ∈ (memory m).devices :=
        List.mem_map_of_mem (List.mem_of_find?_eq_some found)
      have isIt : d.entry.isDevice tenant id = true := by
        rw [Device.isDevice_entry]
        exact List.find?_some found
      obtain ⟨rfl, rfl⟩ : d.tenant = tenant ∧ d.id = id := isDevice_iff.mp isIt
      by_cases accepted : d.status = .accepted
      · have same : ∀ e ∈ (memory m).devices,
            e.isAccepted d.tenant d.id = e.isDevice d.tenant d.id := by
          intro e eMem
          rw [registered.isAccepted_eq member eMem, decide_eq_true accepted, Bool.and_true]
        have changed : changeWhere (isAccepted d.tenant d.id) (withKey key (.ok now))
            (memory m).devices =
              changeWhere (isDevice d.tenant d.id) (withKey key (.ok now)) (memory m).devices := by
          apply List.map_congr_left
          intro e eMem
          rw [same e eMem]
        simp only [accepted, if_true]
        refine ⟨?_, ?_, rfl⟩
        · rw [List.any_eq_true.mpr ⟨_, member, (same _ member).trans isIt⟩]
        · rw [changed]
          exact map_entry_changeDevice fun _ => rfl
      · have absent : ∀ e ∈ (memory m).devices, e.isAccepted d.tenant d.id = false := by
          intro e eMem
          rw [registered.isAccepted_eq member eMem, decide_eq_false accepted, Bool.and_false]
        simp only [accepted, if_false]
        refine ⟨?_, (changeWhere_eq_self absent).symm, trivial⟩
        rw [List.any_eq_false.mpr fun e eMem => by simp [absent e eMem]]

theorem run_rotateKey_tables (t : TableStore) (tenant : Tenant) (id key : String)
    (now : Instant) : ((tables t).run (.rotateKey tenant id key now)).1 =
        .ok ((tables t).devices.any (isAccepted tenant id)) ∧
      ((tables t).run (.rotateKey tenant id key now)).2.devices =
        changeWhere (isAccepted tenant id) (withKey key (StoreKind.tables.kept 6 now))
          (tables t).devices := by
  constructor
  · have same : isAccepted tenant id ∘ DeviceRow.entry =
        TableStore.isAcceptedDevice tenant id := funext isAccepted_rowEntry
    rw [devices, List.any_map, same]
    rfl
  · simp only [run, TableStore.run, TableStore.sure, TableStore.rotateKey, devices,
      changeWhere, List.map_map]
    apply List.map_congr_left
    intro r _
    simp only [Function.comp, isAccepted_rowEntry]
    split
    · rfl
    · rfl

/-- Whether a key was set is whether there is the device and it is accepted. -/
theorem run_rotateKey (registered : s.Registered ids) (tenant : Tenant) (id key : String)
    (now : Instant) : (s.run (.rotateKey tenant id key now)).1 =
        .ok (s.devices.any (isAccepted tenant id)) ∧
      (s.run (.rotateKey tenant id key now)).2.devices =
        changeWhere (isAccepted tenant id) (withKey key (s.kind.kept 6 now)) s.devices ∧
      (s.run (.rotateKey tenant id key now)).2.identities = s.identities := by
  cases s with
  | memory m => exact run_rotateKey_memory registered tenant id key now
  | tables t =>
      obtain ⟨answer, devices⟩ := run_rotateKey_tables t tenant id key now
      exact ⟨answer, devices, rfl⟩

/-! ## Registration -/

/-- The ways that `getOrCreate` ends where nothing stands in its way. -/
inductive Registration (s : Store) (candidate : Device) :
    Except StoreFault (Device × Bool) × Store → Prop where
  | found {d : Device} (member : d.entry ∈ s.devices) (tenant : d.tenant = candidate.tenant)
      (identityData : d.identityData = candidate.identityData) :
      Registration s candidate (.ok (d, false), s)
  | created {s' : Store}
      (unknown : ∀ e ∈ s.devices,
        e.hasIdentity candidate.tenant candidate.identityData = false)
      (tokens : s.SameTokens s') (devices : s'.devices.Perm (candidate.entry :: s.devices))
      (identities : s.kind = .memory →
        s'.identities.Perm (candidate.entry.names :: s.identities)) :
      Registration s candidate (.ok (candidate, true), s')

/-- What is put where nothing has its tenant and id joins the others. -/
theorem perm_putDevice {d : Device} {devices : List Device}
    (absent : ∀ e ∈ devices, MemoryStore.isDevice d.tenant d.id e = false) :
    (MemoryStore.putDevice d devices).Perm (d :: devices) := by
  induction devices with
  | nil => exact .refl _
  | cons e rest ih =>
      have restAbsent := ih fun f member => absent f (List.mem_cons_of_mem e member)
      rw [MemoryStore.putDevice]
      split
      · exact .refl _
      · rw [absent e List.mem_cons_self]
        exact (restAbsent.cons e).trans (.swap d e rest)

theorem mem_of_mem_putDevice {d e : Device} {devices : List Device}
    (member : e ∈ MemoryStore.putDevice d devices) : e = d ∨ e ∈ devices := by
  induction devices with
  | nil => exact .inl (List.mem_singleton.mp member)
  | cons first rest ih =>
      rw [MemoryStore.putDevice] at member
      split at member
      · exact List.mem_cons.mp member
      · split at member
        · rcases List.mem_cons.mp member with new | old
          · exact .inl new
          · exact .inr (List.mem_cons_of_mem first old)
        · rcases List.mem_cons.mp member with same | later
          · exact .inr (same ▸ List.mem_cons_self)
          · rcases ih later with new | old
            · exact .inl new
            · exact .inr (List.mem_cons_of_mem first old)

theorem perm_putIdentity {identity : Tenant × String} {id : String}
    {index : List ((Tenant × String) × String)} (absent : ∀ n ∈ index, n.1 ≠ identity) :
    (MemoryStore.putIdentity identity id index).Perm ((identity, id) :: index) := by
  induction index with
  | nil => exact .refl _
  | cons n rest ih =>
      have restAbsent := ih fun k member => absent k (List.mem_cons_of_mem n member)
      rw [MemoryStore.putIdentity, if_neg (absent n List.mem_cons_self)]
      exact (restAbsent.cons n).trans (.swap (identity, id) n rest)

/-- A device that was created is registered with the others. -/
theorem Registered.created {candidate : Device} (registered : s.Registered ids)
    (fresh : candidate.id ∉ ids)
    (unknown : ∀ e ∈ s.devices, e.hasIdentity candidate.tenant candidate.identityData = false)
    (kindEq : s'.kind = s.kind) (devices : s'.devices.Perm (candidate.entry :: s.devices))
    (identities : s.kind = .memory →
      s'.identities.Perm (candidate.entry.names :: s.identities)) :
    s'.Registered (candidate.id :: ids) := by
  have names : s'.names.Perm (candidate.entry.names :: s.names) := devices.map DeviceEntry.names
  constructor
  · intro e member
    rcases List.mem_cons.mp (devices.mem_iff.mp member) with rfl | old
    · exact ⟨candidate, rfl⟩
    · exact registered.readable e old
  · refine (names.map Prod.snd).nodup_iff.mpr (List.nodup_cons.mpr ⟨?_, registered.uniqueId⟩)
    intro member
    rcases List.mem_map.mp member with ⟨n, nMem, idEq⟩
    have used := registered.used n nMem
    rw [idEq] at used
    exact fresh used
  · refine (names.map Prod.fst).nodup_iff.mpr
      (List.nodup_cons.mpr ⟨?_, registered.uniqueIdentity⟩)
    intro member
    rcases List.mem_map.mp member with ⟨n, nMem, identityEq⟩
    obtain ⟨e, eMem, rfl⟩ := List.mem_map.mp nMem
    have known : e.hasIdentity candidate.tenant candidate.identityData = true :=
      hasIdentity_iff.mpr ⟨congrArg Prod.fst identityEq, congrArg Prod.snd identityEq⟩
    rw [unknown e eMem] at known
    cases known
  · intro n member
    rcases List.mem_cons.mp (names.mem_iff.mp member) with rfl | old
    · exact List.mem_cons_self
    · exact List.mem_cons_of_mem _ (registered.used n old)
  · intro isMemory
    have isMemory : s.kind = .memory := kindEq ▸ isMemory
    exact (identities isMemory).trans
      (((registered.indexed isMemory).cons candidate.entry.names).trans names.symm)

theorem registration_memory {m : MemoryStore} {candidate : Device}
    (registered : (memory m).Registered ids) (fresh : candidate.id ∉ ids) :
    Registration (memory m) candidate ((memory m).run (.getOrCreate candidate)) := by
  have indexed : m.identities.Perm (memory m).names := registered.indexed rfl
  simp only [run, MemoryStore.run, MemoryStore.getOrCreate]
  cases found : m.identity? (candidate.tenant, candidate.identityData) with
  | some id =>
      rcases Option.map_eq_some_iff.mp found with ⟨n, nFound, rfl⟩
      have identityEq : n.1 = (candidate.tenant, candidate.identityData) := by
        simpa using List.find?_some nFound
      have inNames := indexed.mem_iff.mp (List.mem_of_find?_eq_some nFound)
      rcases List.mem_map.mp inNames with ⟨e, eMem, rfl⟩
      rcases List.mem_map.mp eMem with ⟨d, dMem, rfl⟩
      have tenantEq : d.tenant = candidate.tenant := congrArg Prod.fst identityEq
      have dataEq : d.identityData = candidate.identityData := congrArg Prod.snd identityEq
      have answer := registered.run_getDevice eMem
      simp only [run, MemoryStore.run, Prod.mk.injEq, and_true, Except.ok.injEq] at answer
      rw [tenantEq] at answer
      have lookedUp : m.device? candidate.tenant d.entry.names.2 = some d := answer
      simp only [Option.bind_some, lookedUp]
      exact .found eMem tenantEq dataEq
  | none =>
      have noIdentity := Option.map_eq_none_iff.mp found
      have absentIdentity : ∀ n ∈ m.identities,
          n.1 ≠ (candidate.tenant, candidate.identityData) := by
        intro n member
        simpa using List.find?_eq_none.mp noIdentity n member
      have absent : ∀ d ∈ m.devices,
          MemoryStore.isDevice candidate.tenant candidate.id d = false := by
        intro d member
        cases isIt : MemoryStore.isDevice candidate.tenant candidate.id d with
        | false => rfl
        | true =>
            rw [← Device.isDevice_entry] at isIt
            have idEq : d.entry.id = candidate.id := (isDevice_iff.mp isIt).2
            have used := registered.used d.entry.names
              (List.mem_map_of_mem (List.mem_map_of_mem member))
            exact absurd (idEq ▸ used) fresh
      simp only [Option.bind_none]
      refine .created ?_ ⟨rfl, rfl⟩ ((perm_putDevice absent).map Device.entry)
        (fun _ => perm_putIdentity absentIdentity)
      intro e member
      cases known : e.hasIdentity candidate.tenant candidate.identityData with
      | false => rfl
      | true =>
          obtain ⟨tenantEq, dataEq⟩ := hasIdentity_iff.mp known
          have inIndex := indexed.mem_iff.mpr (List.mem_map_of_mem member)
          exact absurd (Prod.ext tenantEq dataEq) (absentIdentity _ inIndex)

theorem registration_tables {t : TableStore} {candidate : Device}
    (registered : (tables t).Registered ids) (fresh : candidate.id ∉ ids)
    (created : candidate.createdAt.isLegible = true)
    (updated : candidate.updatedAt.isLegible = true) :
    Registration (tables t) candidate ((tables t).run (.getOrCreate candidate)) := by
  have entryEq : (DeviceRow.ofDevice candidate).entry = candidate.entry := by
    simp only [DeviceRow.entry, DeviceRow.ofDevice, Device.entry, readTimestamp_timestamp _ created,
      readTimestamp_timestamp _ updated, DeviceRow.readStatus, DeviceStatus.ofName?_name]
    rfl
  have hasIt : (DeviceRow.ofDevice candidate).hasIdentity candidate.tenant candidate.identityData =
      true := by
    simp [DeviceRow.hasIdentity, DeviceRow.ofDevice]
  simp only [run, TableStore.run, TableStore.getOrCreate, TableStore.addDevice]
  cases found : t.devices.find?
      (DeviceRow.hasIdentity candidate.tenant candidate.identityData) with
  | some row =>
      have rowMem := List.mem_of_find?_eq_some found
      have known : t.devices.any (DeviceRow.hasIdentity candidate.tenant candidate.identityData) =
          true := List.any_eq_true.mpr ⟨row, rowMem, List.find?_some found⟩
      have member : row.entry ∈ (tables t).devices := List.mem_map_of_mem rowMem
      rcases registered.readable _ member with ⟨d, rowEq⟩
      have read : row.read = .ok d := by
        rw [← DeviceRow.read_entry, rowEq, read_entry]
      have identity : row.entry.hasIdentity candidate.tenant candidate.identityData = true := by
        rw [DeviceRow.hasIdentity_entry]
        exact List.find?_some found
      rw [rowEq] at identity member
      rcases hasIdentity_iff.mp identity with ⟨tenantEq, dataEq⟩
      simp only [known, if_true, found, read]
      exact .found member tenantEq dataEq
  | none =>
      have absent : ∀ r ∈ t.devices,
          r.hasIdentity candidate.tenant candidate.identityData = false := by
        intro r member
        exact Bool.not_eq_true _ ▸ List.find?_eq_none.mp found r member
      have unknown : t.devices.any
          (DeviceRow.hasIdentity candidate.tenant candidate.identityData) = false :=
        List.any_eq_false.mpr fun r member => by simp [absent r member]
      have freshRow : t.devices.any (fun r => r.id = candidate.id) = false := by
        rw [List.any_eq_false]
        intro r member sameId
        have used := registered.used r.entry.names
          (List.mem_map_of_mem (List.mem_map_of_mem member))
        exact fresh (of_decide_eq_true sameId ▸ used)
      have last : (t.devices ++ [DeviceRow.ofDevice candidate]).find?
          (DeviceRow.hasIdentity candidate.tenant candidate.identityData) =
            some (DeviceRow.ofDevice candidate) := by
        rw [List.find?_append, found, List.find?_cons, hasIt]
        rfl
      have read : (DeviceRow.ofDevice candidate).read = .ok candidate := by
        rw [← DeviceRow.read_entry, entryEq, read_entry]
      simp only [unknown, freshRow, Bool.false_eq_true, if_false, last, read]
      refine .created ?_ ⟨rfl, rfl⟩ ?_ (fun isMemory => by cases isMemory)
      · intro e member
        rcases List.mem_map.mp member with ⟨r, rMem, rfl⟩
        exact absent r rMem
      · simp only [devices, List.map_append, List.map_singleton, entryEq]
        exact List.perm_append_singleton _ _

/-- A device is found or registered, where its id is fresh and its times can be kept. -/
theorem registration {candidate : Device} (registered : s.Registered ids)
    (fresh : candidate.id ∉ ids) (created : candidate.createdAt.isLegible = true)
    (updated : candidate.updatedAt.isLegible = true) :
    Registration s candidate (s.run (.getOrCreate candidate)) := by
  cases s with
  | memory m => exact registration_memory registered fresh
  | tables t => exact registration_tables registered fresh created updated

end Store

end DeviceAdmission
