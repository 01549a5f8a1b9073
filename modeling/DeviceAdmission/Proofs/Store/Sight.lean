import DeviceAdmission.Proofs.Store.Keys

/-!
# The first sight of a device

What `getOrCreate` answers and leaves, in a store whose devices can be told apart. Where a device
has the identity of the candidate, the answer is that device and nothing changes. Where none has it,
the candidate joins the others and is the answer. Either way the answer fails where the entry cannot
be read.
-/

namespace DeviceAdmission

/-- The entry that a new device becomes. -/
def StoreKind.deviceEntry : StoreKind → Device → DeviceEntry
  | memory, d => d.entry
  | tables, d => (DeviceRow.ofDevice d).entry

/-- What is answered for the entry that stands for a candidate. -/
def DeviceEntry.sighted (e : DeviceEntry) (created : Bool) : Except StoreFault (Device × Bool) :=
  match e.read with
  | .ok device => .ok (device, created)
  | .error fault => .error (.deviceUnreadable fault)

namespace DeviceEntry

variable {e : DeviceEntry} {created : Bool}

theorem sighted_entry (d : Device) (created : Bool) : d.entry.sighted created = .ok (d, created) :=
  rfl

theorem sighted_eq_ok {a : Device × Bool} (answer : e.sighted created = .ok a) :
    e = a.1.entry ∧ a.2 = created := by
  unfold sighted at answer
  cases read : e.read with
  | ok d =>
      rw [read] at answer
      cases answer
      exact ⟨entry_of_read read, rfl⟩
  | error fault =>
      rw [read] at answer
      cases answer

theorem answerRow_eq (row : DeviceRow) (created : Bool) :
    TableStore.answerRow row created = row.entry.sighted created :=
  rfl

end DeviceEntry

namespace StoreKind

variable {kind : StoreKind} {d : Device}

theorem names_deviceEntry (kind : StoreKind) (d : Device) :
    (kind.deviceEntry d).names = d.entry.names := by
  cases kind <;> rfl

theorem status_deviceEntry (kind : StoreKind) (d : Device) :
    (kind.deviceEntry d).status = .ok d.status := by
  cases kind with
  | memory => rfl
  | tables =>
      simp only [deviceEntry, DeviceRow.entry, DeviceRow.ofDevice, DeviceRow.readStatus,
        DeviceStatus.ofName?_name]
      rfl

/-- A device whose times can be kept is stored as it is. -/
theorem deviceEntry_eq (legible : kind = .tables →
    d.createdAt.isLegible = true ∧ d.updatedAt.isLegible = true) : kind.deviceEntry d = d.entry := by
  cases kind with
  | memory => rfl
  | tables =>
      obtain ⟨created, updated⟩ := legible rfl
      simp only [deviceEntry, DeviceRow.entry, DeviceRow.ofDevice, Device.entry,
        readTimestamp_timestamp _ created, readTimestamp_timestamp _ updated,
        DeviceRow.readStatus, DeviceStatus.ofName?_name]
      rfl

end StoreKind

namespace Store

open DeviceEntry

variable {s : Store} {ids : List String} {candidate : Device} {e f : DeviceEntry}

/-- Two devices of a tenant with the same identity data are one. -/
theorem Distinct.eq_of_identity (distinct : s.Distinct ids) (eMem : e ∈ s.devices)
    (fMem : f ∈ s.devices) (tenantEq : e.tenant = f.tenant)
    (identityEq : e.identityData = f.identityData) : e = f :=
  eq_of_uniqueIdentity distinct.uniqueIdentity eMem fMem tenantEq identityEq

theorem getOrCreate_known_memory {m : MemoryStore} (distinct : (memory m).Distinct ids)
    (member : e ∈ (memory m).devices)
    (identity : e.hasIdentity candidate.tenant candidate.identityData = true) :
    (memory m).run (.getOrCreate candidate) = (e.sighted false, memory m) := by
  have indexed : m.identities.Perm (memory m).names := distinct.indexed rfl
  obtain ⟨tenantEq, identityEq⟩ := hasIdentity_iff.mp identity
  obtain ⟨d, -, rfl⟩ := List.mem_map.mp member
  have inIndex : d.entry.names ∈ m.identities :=
    indexed.mem_iff.mpr (List.mem_map_of_mem member)
  have found : m.identity? (candidate.tenant, candidate.identityData) = some d.id := by
    cases found : m.identities.find? (·.1 = (candidate.tenant, candidate.identityData)) with
    | none =>
        have other := List.find?_eq_none.mp found _ inIndex
        exact absurd (decide_eq_true (Prod.ext tenantEq identityEq)) other
    | some n =>
        have named : n.1 = (candidate.tenant, candidate.identityData) := by
          simpa using List.find?_some found
        have inNames := indexed.mem_iff.mp (List.mem_of_find?_eq_some found)
        rcases List.mem_map.mp inNames with ⟨f, fMem, rfl⟩
        have same : f = d.entry := distinct.eq_of_identity fMem member
          ((congrArg Prod.fst named).trans tenantEq.symm)
          ((congrArg Prod.snd named).trans identityEq.symm)
        rw [MemoryStore.identity?, found, same]
        rfl
  have answer := distinct.registered.run_getDevice member
  simp only [run, MemoryStore.run, Prod.mk.injEq, and_true, Except.ok.injEq] at answer
  have tenantEq : d.tenant = candidate.tenant := tenantEq
  rw [tenantEq] at answer
  simp only [run, MemoryStore.run, MemoryStore.getOrCreate, found, Option.bind_some, answer]
  rfl

/-- Where a device has the identity of the candidate, it is the answer and nothing changes. -/
theorem Distinct.getOrCreate_known (distinct : s.Distinct ids) (member : e ∈ s.devices)
    (identity : e.hasIdentity candidate.tenant candidate.identityData = true) :
    s.run (.getOrCreate candidate) = (e.sighted false, s) := by
  cases s with
  | memory m => exact getOrCreate_known_memory distinct member identity
  | tables t =>
      cases found : t.devices.find?
          (DeviceRow.hasIdentity candidate.tenant candidate.identityData) with
      | none =>
          rcases List.mem_map.mp member with ⟨row, rowMem, rfl⟩
          exact absurd identity (List.find?_eq_none.mp found row rowMem)
      | some row =>
          have rowMem : row.entry ∈ (tables t).devices :=
            List.mem_map_of_mem (List.mem_of_find?_eq_some found)
          have rowIdentity : row.entry.hasIdentity candidate.tenant candidate.identityData = true := by
            rw [DeviceRow.hasIdentity_entry]
            exact List.find?_some found
          obtain ⟨tenantEq, identityEq⟩ := hasIdentity_iff.mp identity
          obtain ⟨rowTenant, rowIdentity⟩ := hasIdentity_iff.mp rowIdentity
          rw [distinct.eq_of_identity member rowMem (tenantEq.trans rowTenant.symm)
            (identityEq.trans rowIdentity.symm)]
          change ((t.getOrCreate candidate).1, tables (t.getOrCreate candidate).2) = _
          rw [TableStore.getOrCreate_of_found found, answerRow_eq]

/-- Where no device has the identity of the candidate, the candidate joins the others. -/
theorem Distinct.getOrCreate_unknown (distinct : s.Distinct ids) (fresh : candidate.id ∉ ids)
    (unknown : ∀ e ∈ s.devices,
      e.hasIdentity candidate.tenant candidate.identityData = false) :
    (s.run (.getOrCreate candidate)).1 = (s.kind.deviceEntry candidate).sighted true ∧
      (s.run (.getOrCreate candidate)).2.devices.Perm
        (s.kind.deviceEntry candidate :: s.devices) := by
  cases s with
  | memory m =>
      have registration := registration_memory distinct.registered fresh
      generalize (memory m).run (.getOrCreate candidate) = r at registration ⊢
      cases registration with
      | created unknown tokens devices identities => exact ⟨rfl, devices⟩
      | @found d member tenantEq identityEq =>
          have known : d.entry.hasIdentity candidate.tenant candidate.identityData = true :=
            hasIdentity_iff.mpr ⟨tenantEq, identityEq⟩
          rw [unknown _ member] at known
          cases known
  | tables t =>
      have freshRow : ∀ r ∈ t.devices, r.id ≠ candidate.id := fun r member =>
        distinct.id_ne fresh r.entry (List.mem_map_of_mem member)
      have none : t.devices.find? (DeviceRow.hasIdentity candidate.tenant candidate.identityData) =
          none := by
        rw [List.find?_eq_none]
        intro r member known
        rw [← DeviceRow.hasIdentity_entry, unknown _ (List.mem_map_of_mem member)] at known
        cases known
      change (t.getOrCreate candidate).1 = _ ∧ (tables (t.getOrCreate candidate).2).devices.Perm _
      rw [TableStore.getOrCreate_of_none freshRow none]
      refine ⟨answerRow_eq _ true, ?_⟩
      rw [devices, List.map_append, List.map_singleton]
      exact List.perm_append_singleton _ _

/-- What the device is that `getOrCreate` answers: one that was there, or the candidate as it is
read back. -/
inductive Seen (s : Store) (candidate : Device) : Device → Bool → Store → Prop where
  | known {d : Device} (member : d.entry ∈ s.devices)
      (identity : d.entry.hasIdentity candidate.tenant candidate.identityData = true) :
      Seen s candidate d false s
  | new {d : Device} {s' : Store}
      (unknown : ∀ e ∈ s.devices,
        e.hasIdentity candidate.tenant candidate.identityData = false)
      (entryEq : s.kind.deviceEntry candidate = d.entry)
      (devices : s'.devices.Perm (d.entry :: s.devices)) : Seen s candidate d true s'

theorem Distinct.seen {d : Device} {created : Bool} {s' : Store} (distinct : s.Distinct ids)
    (fresh : candidate.id ∉ ids)
    (answer : s.run (.getOrCreate candidate) = (.ok (d, created), s')) :
    s.Seen candidate d created s' := by
  by_cases unknown : ∀ e ∈ s.devices,
      e.hasIdentity candidate.tenant candidate.identityData = false
  · obtain ⟨answered, devices⟩ := distinct.getOrCreate_unknown fresh unknown
    rw [answer] at answered devices
    obtain ⟨entryEq, isNew⟩ := sighted_eq_ok answered.symm
    cases isNew
    rw [entryEq] at devices
    exact .new unknown entryEq devices
  · obtain ⟨e, member, identity⟩ : ∃ e ∈ s.devices,
        e.hasIdentity candidate.tenant candidate.identityData = true := by
      simpa using unknown
    rw [distinct.getOrCreate_known member identity] at answer
    obtain ⟨answered, rfl⟩ := Prod.mk.inj answer
    obtain ⟨rfl, isOld⟩ := sighted_eq_ok answered
    cases isOld
    exact .known member identity

end Store

end DeviceAdmission
