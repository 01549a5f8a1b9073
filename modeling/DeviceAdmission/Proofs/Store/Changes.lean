import DeviceAdmission.Proofs.Store.Devices

/-!
# What calls write

The writing calls, said for every record of a store of either kind: a device gets another status,
the tokens of a device are revoked, a token is added. Each record that is not named stays as it is
and where it is. A status that is set last is the one that counts, what is revoked stays so, and the
two do not meet.
-/

namespace DeviceAdmission

open TokenEntry

/-- The later of two changes of the same elements is the one that counts, if it covers the earlier
one. -/
theorem map_ite_map_ite {α : Type} {f g : α → α} {p : α → Prop} [DecidablePred p]
    (kept : ∀ a, p a → p (f a)) (covered : ∀ a, g (f a) = g a) (l : List α) :
    (l.map fun a => if p a then f a else a).map (fun a => if p a then g a else a) =
      l.map fun a => if p a then g a else a := by
  rw [List.map_map]
  apply List.map_congr_left
  intro a _
  simp only [Function.comp]
  by_cases picked : p a
  · rw [if_pos picked, if_pos (kept a picked), if_pos picked, covered]
  · rw [if_neg picked, if_neg picked]

/-- A change of elements that are not there changes nothing. -/
theorem map_ite_of_not {α : Type} {f : α → α} {p : α → Prop} [DecidablePred p] {l : List α}
    (none : ∀ a ∈ l, ¬p a) : (l.map fun a => if p a then f a else a) = l := by
  have same : ∀ a ∈ l, (if p a then f a else a) = a := fun a member => if_neg (none a member)
  rw [List.map_congr_left same, List.map_id']

namespace Store

/-- The store in which the device with the tenant and id has the status since the given time. -/
def withDeviceStatus (s : Store) (tenant : Tenant) (id : String) (status : DeviceStatus)
    (now : Instant) : Store :=
  match s with
  | memory m =>
    memory
      { m with devices := m.devices.map fun d =>
          if d.tenant = tenant ∧ d.id = id then { d with status, updatedAt := now } else d }
  | tables t =>
    tables
      { t with devices := t.devices.map fun r =>
          if r.tenant = tenant ∧ r.id = id then
            { r with status := status.name, updatedAt := timestamp now }
          else r }

/-- The store in which all tokens of the device are revoked. -/
def withTokensRevoked (s : Store) (tenant : Tenant) (deviceId : String) : Store :=
  match s with
  | memory m =>
    memory
      { m with tokens := m.tokens.map fun t =>
          if t.tenant = tenant ∧ t.deviceId = deviceId then { t with revoked := true } else t }
  | tables t =>
    tables
      { t with tokens := t.tokens.map fun r =>
          if r.tenant = tenant ∧ r.deviceId = deviceId then { r with revoked := true } else r }

/-- The store with one token more. -/
def withToken (s : Store) (candidate : Token) : Store :=
  match s with
  | memory m => memory { m with tokens := m.tokens ++ [candidate] }
  | tables t => tables { t with tokens := t.tokens ++ [.ofToken candidate] }

variable (s : Store) (tenant : Tenant) (id : String) (status status' : DeviceStatus)
variable (now now' : Instant)

/-! ## Statuses -/

theorem withDeviceStatus_of_absent {s : Store} {tenant : Tenant} {id : String}
    (absent : s.devices.any (DeviceEntry.isDevice tenant id) = false) :
    s.withDeviceStatus tenant id status now = s := by
  have other := List.any_eq_false.mp absent
  cases s with
  | memory m =>
      have none : ∀ d ∈ m.devices, ¬(d.tenant = tenant ∧ d.id = id) := fun d member isIt =>
        other d.entry (List.mem_map_of_mem member) (DeviceEntry.isDevice_iff.mpr isIt)
      rw [withDeviceStatus, map_ite_of_not none]
  | tables t =>
      have none : ∀ r ∈ t.devices, ¬(r.tenant = tenant ∧ r.id = id) := fun r member isIt =>
        other r.entry (List.mem_map_of_mem member) (DeviceEntry.isDevice_iff.mpr isIt)
      rw [withDeviceStatus, map_ite_of_not none]

/-- Setting a status writes it to the record of the device and to nothing else. -/
theorem updateStatus_eq :
    (s.run (.updateStatus tenant id status now)).2 = s.withDeviceStatus tenant id status now := by
  cases s with
  | memory m =>
      have isIt : ∀ d : Device, MemoryStore.isDevice tenant id d = true ↔
          d.tenant = tenant ∧ d.id = id := fun d => by simp [MemoryStore.isDevice]
      cases found : m.device? tenant id with
      | none =>
          have absent := any_isDevice_memory m tenant id
          rw [found] at absent
          rw [withDeviceStatus_of_absent status now absent]
          simp only [run, MemoryStore.run, MemoryStore.updateStatus, found]
      | some d =>
          simp only [run, MemoryStore.run, MemoryStore.updateStatus, found,
            MemoryStore.changeDevice, withDeviceStatus, isIt]
  | tables t =>
      have isIt : ∀ r : DeviceRow, r.isDevice tenant id = true ↔
          r.tenant = tenant ∧ r.id = id := fun r => by simp [DeviceRow.isDevice]
      simp only [run, TableStore.run, TableStore.sure, TableStore.updateStatus, withDeviceStatus,
        isIt]

/-- Of two statuses that are set the later one counts. -/
theorem withDeviceStatus_withDeviceStatus :
    (s.withDeviceStatus tenant id status now).withDeviceStatus tenant id status' now' =
      s.withDeviceStatus tenant id status' now' := by
  cases s with
  | memory m =>
      have last := map_ite_map_ite (p := fun d : Device => d.tenant = tenant ∧ d.id = id)
        (f := fun d => { d with status, updatedAt := now })
        (g := fun d => { d with status := status', updatedAt := now'})
        (fun _ isIt => isIt) (fun _ => rfl) m.devices
      simp only [withDeviceStatus, last]
  | tables t =>
      have last := map_ite_map_ite (p := fun r : DeviceRow => r.tenant = tenant ∧ r.id = id)
        (f := fun r => { r with status := status.name, updatedAt := timestamp now })
        (g := fun r => { r with status := status'.name, updatedAt := timestamp now' })
        (fun _ isIt => isIt) (fun _ => rfl) t.devices
      simp only [withDeviceStatus, last]

/-- No device comes or goes. -/
theorem any_isDevice_withDeviceStatus :
    (s.withDeviceStatus tenant id status now).devices.any (DeviceEntry.isDevice tenant id) =
      s.devices.any (DeviceEntry.isDevice tenant id) := by
  rw [← updateStatus_eq, devices_updateStatus, DeviceEntry.changeWhere, List.any_map]
  congr 1
  funext e
  simp only [Function.comp]
  split
  · rfl
  · rfl

/-! ## Revocations -/

/-- Where a revoked token stays as it is, it does not matter whether it is among those revoked. -/
theorem revokeDeviceTokens_eq :
    (s.run (.revokeDeviceTokens tenant id)).2 = s.withTokensRevoked tenant id := by
  cases s with
  | memory m =>
      have each : ∀ t : Token, (if t.isOutstanding tenant id then t.revoke else t) =
          if t.tenant = tenant ∧ t.deviceId = id then { t with revoked := true } else t := by
        rintro ⟨id', deviceId, owner, raw, issuedAt, expiresAt, revoked⟩
        cases revoked <;> simp [Token.isOutstanding, Token.revoke]
      simp only [run, MemoryStore.run, MemoryStore.revokeDeviceTokens, withTokensRevoked, each]
  | tables t =>
      have each : ∀ r : TokenRow, (if r.isOutstanding tenant id then r.revoke else r) =
          if r.tenant = tenant ∧ r.deviceId = id then { r with revoked := true } else r := by
        rintro ⟨id', owner, deviceId, raw, issuedAt, expiresAt, revoked⟩
        cases revoked <;> simp [TokenRow.isOutstanding, TokenRow.revoke]
      simp only [run, TableStore.run, TableStore.sure, TableStore.revokeDeviceTokens,
        withTokensRevoked, each]

/-- Nothing is revoked of a device that has no outstanding token. -/
theorem withTokensRevoked_of_none {s : Store} {tenant : Tenant} {id : String}
    (none : s.tokens.find? (isOutstanding tenant id) = none) :
    s.withTokensRevoked tenant id = s := by
  rw [← revokeDeviceTokens_eq]
  cases s with
  | memory m =>
      have none : ∀ t ∈ m.tokens, ¬t.isOutstanding tenant id = true := fun t member =>
        List.find?_eq_none.mp none t.entry (List.mem_map_of_mem member)
      simp only [run, MemoryStore.run, MemoryStore.revokeDeviceTokens, map_ite_of_not none]
  | tables t =>
      have none : ∀ r ∈ t.tokens, ¬r.isOutstanding tenant id = true := fun r member =>
        List.find?_eq_none.mp none r.entry (List.mem_map_of_mem member)
      simp only [run, TableStore.run, TableStore.sure, TableStore.revokeDeviceTokens,
        map_ite_of_not none]

theorem withTokensRevoked_withTokensRevoked :
    (s.withTokensRevoked tenant id).withTokensRevoked tenant id =
      s.withTokensRevoked tenant id := by
  cases s with
  | memory m =>
      have twice := map_ite_map_ite (p := fun t : Token => t.tenant = tenant ∧ t.deviceId = id)
        (f := fun t => { t with revoked := true }) (g := fun t => { t with revoked := true })
        (fun _ isOf => isOf) (fun _ => rfl) m.tokens
      simp only [withTokensRevoked, twice]
  | tables t =>
      have twice := map_ite_map_ite (p := fun r : TokenRow => r.tenant = tenant ∧ r.deviceId = id)
        (f := fun r => { r with revoked := true }) (g := fun r => { r with revoked := true })
        (fun _ isOf => isOf) (fun _ => rfl) t.tokens
      simp only [withTokensRevoked, twice]

@[simp]
theorem devices_withTokensRevoked : (s.withTokensRevoked tenant id).devices = s.devices := by
  cases s <;> rfl

/-- A status and a revocation are written to different records. -/
theorem withDeviceStatus_withTokensRevoked (other : Tenant) (otherId : String) :
    (s.withTokensRevoked other otherId).withDeviceStatus tenant id status now =
      (s.withDeviceStatus tenant id status now).withTokensRevoked other otherId := by
  cases s <;> rfl

end Store

end DeviceAdmission
