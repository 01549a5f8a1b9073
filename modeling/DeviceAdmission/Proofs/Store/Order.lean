import DeviceAdmission.Proofs.Store.Devices

/-!
# Listings in the order of ids

A store in memory keeps its devices sorted by tenant and id, and one in tables sorts the rows of a
tenant when it is asked for them. Either way a tenant's devices are listed in the order of their
ids, and the offset and the length of a page cut the same part out of the listing, as long as the
store has no more devices than an offset can count.
-/

namespace DeviceAdmission

namespace MemoryStore

variable {d e f : Device} {devices : List Device}

theorem precedes_iff : precedes d e = true ↔
    d.tenant.name < e.tenant.name ∨ d.tenant.name = e.tenant.name ∧ d.id < e.id := by
  simp [precedes]

theorem precedes_trans (first : precedes d e = true) (second : precedes e f = true) :
    precedes d f = true := by
  rw [precedes_iff] at first second ⊢
  rcases first with first | ⟨first, firstId⟩
  · rcases second with second | ⟨second, -⟩
    · exact .inl (String.lt_trans first second)
    · exact .inl (second ▸ first)
  · rcases second with second | ⟨second, secondId⟩
    · exact .inl (first ▸ second)
    · exact .inr ⟨first.trans second, String.lt_trans firstId secondId⟩

/-- Of two devices that differ in tenant or id, one precedes the other. -/
theorem precedes_of_not (notBefore : ¬precedes d e = true)
    (other : ¬isDevice d.tenant d.id e = true) : precedes e d = true := by
  rw [precedes_iff, not_or, not_and, String.not_lt, String.not_lt] at notBefore
  rw [precedes_iff]
  by_cases tenantEq : d.tenant.name = e.tenant.name
  · right
    refine ⟨tenantEq.symm, String.not_le.mp fun id_le => other ?_⟩
    have idEq : d.id = e.id := String.le_antisymm id_le (notBefore.2 tenantEq)
    have sameTenant : d.tenant = e.tenant := congrArg Tenant.mk tenantEq
    rw [isDevice, sameTenant, idEq, decide_eq_true rfl, decide_eq_true rfl]
    rfl
  · left
    exact String.not_le.mp fun name_le => tenantEq (String.le_antisymm name_le notBefore.1)

theorem precedes_congr {d' e' : Device} (dTenant : d'.tenant = d.tenant) (dId : d'.id = d.id)
    (eTenant : e'.tenant = e.tenant) (eId : e'.id = e.id) : precedes d' e' = precedes d e := by
  rw [precedes, precedes, dTenant, dId, eTenant, eId]

/-- Whether devices are in the order of tenants and ids. -/
def Ordered (devices : List Device) : Prop :=
  devices.Pairwise fun d e => precedes d e = true

/-- A device is put where it belongs. -/
theorem Ordered.putDevice (ordered : Ordered devices) (d : Device) :
    Ordered (putDevice d devices) := by
  induction devices with
  | nil => exact List.pairwise_singleton _ d
  | cons e rest ih =>
      rcases List.pairwise_cons.mp ordered with ⟨before, restOrdered⟩
      rw [MemoryStore.putDevice]
      split
      · rename_i first
        refine List.pairwise_cons.mpr ⟨?_, ordered⟩
        intro f member
        rcases List.mem_cons.mp member with rfl | later
        · exact first
        · exact precedes_trans first (before f later)
      · rename_i notFirst
        split
        · rename_i same
          rw [isDevice, Bool.and_eq_true, decide_eq_true_eq, decide_eq_true_eq] at same
          refine List.pairwise_cons.mpr ⟨?_, restOrdered⟩
          intro f member
          rw [← precedes_congr same.1 same.2 rfl rfl]
          exact before f member
        · rename_i other
          refine List.pairwise_cons.mpr ⟨?_, ih restOrdered⟩
          intro f member
          rcases Store.mem_of_mem_putDevice member with rfl | old
          · exact precedes_of_not notFirst other
          · exact before f old

/-- A change that leaves tenants and ids keeps the order. -/
theorem Ordered.changeDevice {s : MemoryStore} (ordered : Ordered s.devices) (tenant : Tenant)
    (id : String) {change : Device → Device}
    (same : ∀ d, (change d).tenant = d.tenant ∧ (change d).id = d.id) :
    Ordered (s.changeDevice tenant id change).devices := by
  have kept : ∀ d : Device, (if isDevice tenant id d then change d else d).tenant = d.tenant ∧
      (if isDevice tenant id d then change d else d).id = d.id := by
    intro d
    split
    · exact same d
    · exact ⟨rfl, rfl⟩
  rw [Ordered, MemoryStore.changeDevice, List.pairwise_map]
  apply ordered.imp
  intro d e first
  rw [precedes_congr (kept d).1 (kept d).2 (kept e).1 (kept e).2]
  exact first

end MemoryStore

namespace Store

open MemoryStore DeviceEntry

variable {s s' : Store} {ids : List String} {tenant : Tenant}

/-- Whether the devices of a store in memory are in the order of tenants and ids. -/
def Ordered : Store → Prop
  | memory m => MemoryStore.Ordered m.devices
  | tables _ => True

theorem ordered_empty (kind : StoreKind) : (Store.empty kind).Ordered := by
  cases kind with
  | memory => exact List.Pairwise.nil
  | tables => trivial

/-- Every call keeps the order of devices. -/
theorem Ordered.run {α : Type} (ordered : s.Ordered) (c : StoreCall α) : (s.run c).2.Ordered := by
  cases s with
  | tables t => trivial
  | memory m =>
      change MemoryStore.Ordered (m.run c).2.devices
      have kept : MemoryStore.Ordered m.devices := ordered
      cases c with
      | getOrCreate candidate =>
          simp only [MemoryStore.run, MemoryStore.getOrCreate]
          split
          · exact kept
          · exact kept.putDevice candidate
      | getDevice tenant id => exact kept
      | listDevices tenant skip limit => exact kept
      | updateStatus tenant id status now =>
          simp only [MemoryStore.run, MemoryStore.updateStatus]
          split
          · exact kept
          · exact kept.changeDevice tenant id fun _ => ⟨rfl, rfl⟩
      | rotateKey tenant id key now =>
          simp only [MemoryStore.run, MemoryStore.rotateKey]
          split
          · exact kept
          · split
            · exact kept.changeDevice tenant id fun _ => ⟨rfl, rfl⟩
            · exact kept
      | insertOrGetLive candidate now =>
          simp only [MemoryStore.run, MemoryStore.insertOrGetLive]
          split <;> exact kept
      | getToken tenant id => exact kept
      | revokeToken tenant id =>
          simp only [MemoryStore.run, MemoryStore.revokeToken]
          split <;> exact kept
      | revokeDeviceTokens tenant deviceId => exact kept

/-! ## Listings -/

/-- The devices of a tenant in the order of their ids. -/
def listing (s : Store) (tenant : Tenant) : List DeviceEntry :=
  match s with
  | memory m => (m.devices.filter (·.tenant = tenant)).map Device.entry
  | tables t => (t.tenantRows tenant).map DeviceRow.entry

/-- A listing has the devices of the tenant. -/
theorem perm_listing (s : Store) (tenant : Tenant) :
    (s.listing tenant).Perm (s.devices.filter (·.tenant = tenant)) := by
  cases s with
  | memory m =>
      rw [devices, List.filter_map]
      exact .refl _
  | tables t =>
      rw [devices, List.filter_map]
      exact (List.mergeSort_perm _ _).map DeviceRow.entry

/-- A listing is in the order of ids. -/
theorem Ordered.listing (ordered : s.Ordered) (tenant : Tenant) :
    (s.listing tenant).Pairwise fun e f => e.id ≤ f.id := by
  cases s with
  | memory m =>
      rw [Store.listing, List.pairwise_map]
      have sorted : MemoryStore.Ordered (m.devices.filter (·.tenant = tenant)) := ordered.filter _
      apply sorted.imp_of_mem
      intro d e dMem eMem first
      have sameTenant : d.tenant = e.tenant := by
        rw [of_decide_eq_true (List.mem_filter.mp dMem).2,
          of_decide_eq_true (List.mem_filter.mp eMem).2]
      rcases precedes_iff.mp first with other | ⟨-, less⟩
      · rw [sameTenant] at other
        exact absurd other (String.lt_irrefl _)
      · exact Std.le_of_lt less
  | tables t =>
      rw [Store.listing, List.pairwise_map]
      have sorted : (t.tenantRows tenant).Pairwise fun a b => decide (a.id ≤ b.id) = true := by
        apply List.pairwise_mergeSort
        · intro a b c first second
          rw [decide_eq_true_eq] at first second ⊢
          exact String.le_trans first second
        · intro a b
          rw [Bool.or_eq_true, decide_eq_true_eq, decide_eq_true_eq]
          exact String.le_total a.id b.id
      exact sorted.imp of_decide_eq_true

/-- Stores with the same devices list them alike. -/
theorem listing_eq (registered : s.Registered ids) (ordered : s.Ordered) (ordered' : s'.Ordered)
    (same : s.devices.Perm s'.devices) (tenant : Tenant) :
    s.listing tenant = s'.listing tenant := by
  have perm : (s.listing tenant).Perm (s'.listing tenant) :=
    (perm_listing s tenant).trans ((same.filter _).trans (perm_listing s' tenant).symm)
  refine List.Perm.eq_of_pairwise ?_ (ordered.listing tenant) (ordered'.listing tenant) perm
  intro e f eMem fMem first second
  have eOld := (perm_listing s tenant).mem_iff.mp eMem
  have fOld := (perm_listing s tenant).mem_iff.mp (perm.mem_iff.mpr fMem)
  exact registered.eq_of_id (List.mem_filter.mp eOld).1 (List.mem_filter.mp fOld).1
    (String.le_antisymm first second)

theorem mapM_read_eq_ok {rows : List DeviceRow} {found : List Device}
    (same : rows.map DeviceRow.entry = found.map Device.entry) :
    rows.mapM DeviceRow.read = .ok found := by
  induction rows generalizing found with
  | nil =>
      cases found with
      | nil => rfl
      | cons d rest => cases same
  | cons r rows ih =>
      cases found with
      | nil => cases same
      | cons d rest =>
          rcases List.cons.inj same with ⟨entryEq, restEq⟩
          have read : r.read = .ok d := by
            rw [← DeviceRow.read_entry, entryEq, read_entry]
          rw [List.mapM_cons, read, ih restEq]
          rfl

theorem exists_map_entry {entries : List DeviceEntry}
    (readable : ∀ e ∈ entries, ∃ d : Device, e = d.entry) :
    ∃ found : List Device, entries = found.map Device.entry := by
  induction entries with
  | nil => exact ⟨[], rfl⟩
  | cons e rest ih =>
      rcases readable e List.mem_cons_self with ⟨d, rfl⟩
      rcases ih fun f member => readable f (List.mem_cons_of_mem _ member) with ⟨found, rfl⟩
      exact ⟨d :: found, rfl⟩

/-- A listing is cut at the offset and the length that are asked for. -/
theorem run_listDevices (registered : s.Registered ids) (few : s.devices.length ≤ maxOffset)
    (tenant : Tenant) (skip limit : Nat) :
    ∃ found : List Device, s.run (.listDevices tenant skip limit) = (.ok found, s) ∧
      ((s.listing tenant).drop skip).take limit = found.map Device.entry := by
  have short : (s.listing tenant).length ≤ maxOffset := by
    rw [(perm_listing s tenant).length_eq]
    exact Nat.le_trans (List.length_filter_le _ _) few
  have readable : ∀ e ∈ ((s.listing tenant).drop skip).take limit, ∃ d : Device, e = d.entry := by
    intro e member
    have listed := (perm_listing s tenant).mem_iff.mp
      (List.mem_of_mem_drop (List.mem_of_mem_take member))
    exact registered.readable e (List.mem_filter.mp listed).1
  cases s with
  | memory m =>
      refine ⟨m.listDevices tenant skip limit, rfl, ?_⟩
      rw [MemoryStore.listDevices, listing, List.map_take, List.map_drop]
  | tables t =>
      rcases exists_map_entry readable with ⟨found, foundEq⟩
      refine ⟨found, ?_, foundEq⟩
      simp only [run, TableStore.run, TableStore.listDevices]
      by_cases far : maxOffset < skip
      · rw [if_pos far]
        have none : (listing (tables t) tenant).drop skip = [] :=
          List.drop_eq_nil_of_le (Nat.le_trans short (Nat.le_of_lt far))
        rw [none, List.take_nil, eq_comm, List.map_eq_nil_iff] at foundEq
        rw [foundEq]
      · rw [if_neg far]
        have cut : ((t.tenantRows tenant).drop skip).take (min limit maxOffset) =
            ((t.tenantRows tenant).drop skip).take limit := by
          have rest : ((t.tenantRows tenant).drop skip).length ≤ maxOffset := by
            rw [listing, List.length_map] at short
            exact Nat.le_trans (by rw [List.length_drop]; exact Nat.sub_le _ _) short
          rw [← List.take_take, List.take_of_length_le rest]
        rw [cut, mapM_read_eq_ok]
        rw [List.map_take, List.map_drop]
        exact foundEq

end Store

end DeviceAdmission
