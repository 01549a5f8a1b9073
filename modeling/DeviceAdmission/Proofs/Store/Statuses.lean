import DeviceAdmission.Proofs.Store.Devices

/-!
# Where the status of a device comes from

A call leaves the status of a device as it was, registers the device with the status of a candidate,
or sets the status that it names. So a device that is not accepted stays so until a call registers
it as accepted or sets it to accepted.
-/

namespace DeviceAdmission

namespace StoreCall

variable {α : Type}

/-- The device that a call may register. -/
def newDevice? : StoreCall α → Option Device
  | getOrCreate candidate => some candidate
  | _ => none

/-- A device that a call may register is one of the tenant that the call is about. -/
theorem tenant_of_newDevice? {c : StoreCall α} {d : Device} (candidate : c.newDevice? = some d) :
    d.tenant = c.tenant := by
  cases c with
  | getOrCreate registered =>
      cases candidate
      rfl
  | _ => cases candidate

/-- The device that a call sets to a status. -/
def newStatus? : StoreCall α → Option (String × DeviceStatus)
  | updateStatus _ id status _ => some (id, status)
  | _ => none

end StoreCall

open DeviceEntry

/-- Whether two entries are of one device with one status. -/
structure DeviceEntry.SameStatus (e f : DeviceEntry) : Prop where
  tenant : f.tenant = e.tenant
  id : f.id = e.id
  status : f.status = e.status

theorem DeviceEntry.SameStatus.isAccepted_eq {e f : DeviceEntry} (same : e.SameStatus f)
    (tenant : Tenant) (id : String) : f.isAccepted tenant id = e.isAccepted tenant id := by
  simp only [isAccepted, isDevice, same.tenant, same.id, same.status]

namespace Store

variable {s s' : Store} {tenant : Tenant} {id : String} {f : DeviceEntry}

/-- Where an entry of a device comes from that a call leaves. -/
inductive StatusOrigin {α : Type} (s : Store) (c : StoreCall α) (f : DeviceEntry) : Prop where
  | kept {e : DeviceEntry} (member : e ∈ s.devices) (same : e.SameStatus f)
  | registered {d : Device} (candidate : c.newDevice? = some d) (same : d.entry.SameStatus f)
  | set {e : DeviceEntry} {status : DeviceStatus} (member : e ∈ s.devices)
      (tenantEq : f.tenant = e.tenant) (idEq : f.id = e.id)
      (named : c.newStatus? = some (f.id, status)) (about : f.tenant = c.tenant)
      (statusEq : f.status = .ok status)

/-- A device that is changed in memory keeps its status if the change does. -/
theorem kept_of_changeDevice {α : Type} {c : StoreCall α} {m : MemoryStore}
    {change : Device → Device} (same : ∀ d : Device, d.entry.SameStatus (change d).entry)
    (member : f ∈ (memory (m.changeDevice tenant id change)).devices) :
    StatusOrigin (memory m) c f := by
  rcases List.mem_map.mp member with ⟨d, changed, rfl⟩
  rcases List.mem_map.mp changed with ⟨e, eMem, rfl⟩
  refine .kept (List.mem_map_of_mem eMem) ?_
  split
  · exact same e
  · exact ⟨rfl, rfl, rfl⟩

theorem statusOrigin_updateStatus {status : DeviceStatus} {now : Instant}
    (member : f ∈ (s.run (.updateStatus tenant id status now)).2.devices) :
    StatusOrigin s (.updateStatus tenant id status now) f := by
  rw [devices_updateStatus] at member
  rcases List.mem_map.mp member with ⟨e, old, rfl⟩
  by_cases isIt : e.isDevice tenant id = true
  · rw [if_pos isIt]
    rcases isDevice_iff.mp isIt with ⟨rfl, rfl⟩
    exact .set old rfl rfl rfl rfl rfl
  · rw [if_neg isIt]
    exact .kept old ⟨rfl, rfl, rfl⟩

theorem statusOrigin_rotateKey {key : String} {now : Instant}
    (member : f ∈ (s.run (.rotateKey tenant id key now)).2.devices) :
    StatusOrigin s (.rotateKey tenant id key now) f := by
  cases s with
  | memory m =>
      simp only [run, MemoryStore.run, MemoryStore.rotateKey] at member
      split at member
      · exact .kept member ⟨rfl, rfl, rfl⟩
      · split at member
        · refine kept_of_changeDevice ?_ member
          exact fun _ => ⟨rfl, rfl, rfl⟩
        · exact .kept member ⟨rfl, rfl, rfl⟩
  | tables t =>
      rcases List.mem_map.mp member with ⟨r, changed, rfl⟩
      rcases List.mem_map.mp changed with ⟨old, oldMem, rfl⟩
      refine .kept (List.mem_map_of_mem oldMem) ?_
      split
      · exact ⟨rfl, rfl, rfl⟩
      · exact ⟨rfl, rfl, rfl⟩

theorem statusOrigin_getOrCreate {candidate : Device}
    (member : f ∈ (s.run (.getOrCreate candidate)).2.devices) :
    StatusOrigin s (.getOrCreate candidate) f := by
  cases s with
  | memory m =>
      simp only [run, MemoryStore.run, MemoryStore.getOrCreate] at member
      split at member
      · exact .kept member ⟨rfl, rfl, rfl⟩
      · rcases List.mem_map.mp member with ⟨d, put, rfl⟩
        rcases mem_of_mem_putDevice put with rfl | old
        · exact .registered rfl ⟨rfl, rfl, rfl⟩
        · exact .kept (List.mem_map_of_mem old) ⟨rfl, rfl, rfl⟩
  | tables t =>
      have added : ∀ {t' : TableStore} {created : Bool},
          t.addDevice candidate = .ok (t', created) → f ∈ (tables t').devices →
            StatusOrigin (tables t) (.getOrCreate candidate) f := by
        intro t' created made member
        unfold TableStore.addDevice at made
        split at made
        · cases made
          exact .kept member ⟨rfl, rfl, rfl⟩
        · split at made
          · cases made
          · cases made
            rcases List.mem_map.mp member with ⟨r, rMem, rfl⟩
            rcases List.mem_append.mp rMem with old | new
            · exact .kept (List.mem_map_of_mem old) ⟨rfl, rfl, rfl⟩
            · rw [List.mem_singleton.mp new]
              refine .registered rfl ⟨rfl, rfl, ?_⟩
              simp only [DeviceRow.entry, DeviceRow.ofDevice, DeviceRow.readStatus,
                DeviceStatus.ofName?_name]
              rfl
      simp only [run, TableStore.run, TableStore.getOrCreate] at member
      split at member
      · exact .kept member ⟨rfl, rfl, rfl⟩
      · rename_i made
        split at member
        · exact added made member
        · split at member
          · exact added made member
          · exact added made member

/-- The devices that a call leaves have their statuses from one of these. -/
theorem statusOrigin {α : Type} {c : StoreCall α} (member : f ∈ (s.run c).2.devices) :
    StatusOrigin s c f := by
  have same : c.method.table = .tokens → StatusOrigin s c f := by
    intro aboutTokens
    rw [(sameDevices_run s aboutTokens).devices] at member
    exact .kept member ⟨rfl, rfl, rfl⟩
  cases c with
  | getOrCreate candidate => exact statusOrigin_getOrCreate member
  | getDevice tenant id =>
      rw [Store.run_getDevice] at member
      exact .kept member ⟨rfl, rfl, rfl⟩
  | listDevices tenant skip limit =>
      cases s with
      | memory m => exact .kept member ⟨rfl, rfl, rfl⟩
      | tables t => exact .kept member ⟨rfl, rfl, rfl⟩
  | updateStatus tenant id status now => exact statusOrigin_updateStatus member
  | rotateKey tenant id key now => exact statusOrigin_rotateKey member
  | insertOrGetLive candidate now => exact same rfl
  | getToken tenant id => exact same rfl
  | revokeToken tenant id => exact same rfl
  | revokeDeviceTokens tenant deviceId => exact same rfl

/-- A device that a call leaves was there before, or it is the one that the call registers. -/
theorem exists_device_origin {α : Type} {c : StoreCall α} (member : f ∈ (s.run c).2.devices) :
    (∃ e ∈ s.devices, f.tenant = e.tenant ∧ f.id = e.id) ∨
      ∃ d, c.newDevice? = some d ∧ f.tenant = d.tenant ∧ f.id = d.id := by
  cases statusOrigin member with
  | kept old same => exact .inl ⟨_, old, same.tenant, same.id⟩
  | registered candidate same => exact .inr ⟨_, candidate, same.tenant, same.id⟩
  | set old tenantEq idEq => exact .inl ⟨_, old, tenantEq, idEq⟩

/-! ## Devices that are not accepted -/

/-- Whether a store has no accepted device with the tenant and id. -/
def Barred (s : Store) (tenant : Tenant) (id : String) : Prop :=
  ∀ e ∈ s.devices, e.isAccepted tenant id = false

theorem isAccepted_iff {e : DeviceEntry} : e.isAccepted tenant id = true ↔
    (e.tenant = tenant ∧ e.id = id) ∧ e.status = .ok .accepted := by
  rw [isAccepted, Bool.and_eq_true, isDevice_iff]
  cases e.status with
  | error fault => simp
  | ok status => simp

/-- A device stays unaccepted until a call registers it as accepted or sets it to accepted. -/
theorem Barred.run {α : Type} {c : StoreCall α} (barred : s.Barred tenant id)
    (device : ∀ d, c.newDevice? = some d → d.status ≠ .accepted)
    (status : c.tenant = tenant → c.newStatus? ≠ some (id, .accepted)) :
    (s.run c).2.Barred tenant id := by
  intro f member
  cases accepted : f.isAccepted tenant id with
  | false => rfl
  | true =>
      cases statusOrigin member with
      | kept old same =>
          rw [same.isAccepted_eq, barred _ old] at accepted
          cases accepted
      | @registered d candidate same =>
          rw [same.isAccepted_eq] at accepted
          exact absurd (Except.ok.inj (isAccepted_iff.mp accepted).2) (device d candidate)
      | set old tenantEq idEq named about statusEq =>
          rcases isAccepted_iff.mp accepted with ⟨⟨rfl, rfl⟩, isAccepted⟩
          rw [statusEq] at isAccepted
          rw [Except.ok.inj isAccepted] at named
          exact absurd named (status about.symm)

/-- A device that was set to another status is not accepted. -/
theorem barred_updateStatus {status : DeviceStatus} (s : Store) (tenant : Tenant) (id : String)
    (now : Instant) (loses : status ≠ .accepted) :
    (s.run (.updateStatus tenant id status now)).2.Barred tenant id := by
  intro f member
  rw [devices_updateStatus] at member
  rcases List.mem_map.mp member with ⟨e, -, rfl⟩
  by_cases isIt : e.isDevice tenant id = true
  · rw [if_pos isIt]
    cases accepted : (e.withStatus status (s.kind.kept 6 now)).isAccepted tenant id with
    | false => rfl
    | true => exact absurd (Except.ok.inj (isAccepted_iff.mp accepted).2) loses
  · rw [if_neg isIt]
    exact isAccepted_of_not_isDevice (Bool.not_eq_true _ ▸ isIt)

end Store

end DeviceAdmission
