import DeviceAdmission.Proofs.Store.Moves
import DeviceAdmission.Proofs.Store.Parts.Filtering
import DeviceAdmission.Proofs.Store.Statuses

/-!
# The part of a tenant in tables

A store in tables selects rows by their tenant, but for three places that look at ids alone: no two
rows of a table may have the same id, and an expired token is retired by its id. So a call is
answered out of the part of its tenant as long as no other tenant has a row with an id that the call
brings, and it leaves other parts as long as the rows of tokens have different ids.
-/

namespace DeviceAdmission

namespace TableStore

variable {s cleared : TableStore} {t tenant : Tenant} {α : Type}

/-- The part of a tenant. -/
def part (s : TableStore) (t : Tenant) : TableStore where
  devices := s.devices.filter (isOf DeviceRow.tenant t)
  tokens := s.tokens.filter (isOf TokenRow.tenant t)

theorem isOf_of_isDevice {r : DeviceRow} {id : String} (h : r.isDevice t id = true) :
    isOf DeviceRow.tenant t r = true := by
  rw [DeviceRow.isDevice, Bool.and_eq_true] at h
  exact h.1

theorem isOf_of_hasIdentity {r : DeviceRow} {identityData : String}
    (h : r.hasIdentity t identityData = true) : isOf DeviceRow.tenant t r = true := by
  rw [DeviceRow.hasIdentity, Bool.and_eq_true] at h
  exact h.1

theorem isOf_of_isAcceptedDevice {r : DeviceRow} {id : String}
    (h : isAcceptedDevice t id r = true) : isOf DeviceRow.tenant t r = true := by
  rw [isAcceptedDevice, Bool.and_eq_true] at h
  exact isOf_of_isDevice h.1

theorem isOf_of_isToken {r : TokenRow} {id : String} (h : r.isToken t id = true) :
    isOf TokenRow.tenant t r = true := by
  rw [TokenRow.isToken, Bool.and_eq_true] at h
  exact h.1

theorem isOf_of_isOutstanding {r : TokenRow} {deviceId : String}
    (h : r.isOutstanding t deviceId = true) : isOf TokenRow.tenant t r = true := by
  rw [TokenRow.isOutstanding, Bool.and_eq_true, Bool.and_eq_true] at h
  exact h.1.2

/-! ## Rows of devices -/

/-- A row is added to the part of its tenant as it is added to all rows. -/
theorem addDevice_part {d : Device}
    (allotted : ∀ r ∈ s.devices, r.id = d.id → r.tenant = d.tenant) :
    (s.part d.tenant).addDevice d =
      (s.addDevice d).map fun added => (added.1.part d.tenant, added.2) := by
  have known : (s.devices.filter (isOf DeviceRow.tenant d.tenant)).any
      (DeviceRow.hasIdentity d.tenant d.identityData) =
        s.devices.any (DeviceRow.hasIdentity d.tenant d.identityData) :=
    any_filter_of_imp fun _ _ => isOf_of_hasIdentity
  have taken : (s.devices.filter (isOf DeviceRow.tenant d.tenant)).any (·.id = d.id) =
      s.devices.any (·.id = d.id) := by
    apply any_filter_of_imp
    intro r member idEq
    exact decide_eq_true (allotted r member (of_decide_eq_true idEq))
  have own : isOf DeviceRow.tenant d.tenant (.ofDevice d) = true :=
    isOf_self DeviceRow.tenant (.ofDevice d)
  simp only [addDevice, part, known, taken]
  split
  · rfl
  · split
    · rfl
    · simp only [Except.map, List.filter_append, List.filter_cons_of_pos own, List.filter_nil]

theorem getOrCreate_part {d : Device}
    (allotted : ∀ r ∈ s.devices, r.id = d.id → r.tenant = d.tenant) :
    (s.part d.tenant).getOrCreate d =
      ((s.getOrCreate d).1, (s.getOrCreate d).2.part d.tenant) := by
  have found : ∀ s : TableStore, (s.part d.tenant).devices.find?
      (DeviceRow.hasIdentity d.tenant d.identityData) =
        s.devices.find? (DeviceRow.hasIdentity d.tenant d.identityData) := fun _ =>
    find?_filter_of_imp fun _ _ => isOf_of_hasIdentity
  rw [getOrCreate, getOrCreate, addDevice_part allotted]
  cases s.addDevice d with
  | error fault => rfl
  | ok added =>
      simp only [Except.map, found]
      cases added.1.devices.find? (DeviceRow.hasIdentity d.tenant d.identityData) with
      | none => rfl
      | some row =>
          dsimp only
          cases row.read with
          | error fault => rfl
          | ok device => rfl

/-! ## Rows of tokens -/

theorem tenant_revoke (r : TokenRow) : r.revoke.tenant = r.tenant :=
  rfl

theorem retire_part (s : TableStore) (t : Tenant) (id : String) :
    (s.part t).retire id = (s.retire id).part t := by
  have retired := filter_change (p := fun r => decide (r.id = id)) (t := t) tenant_revoke s.tokens
  simp only [decide_eq_true_eq] at retired
  simp only [retire, part, retired]

theorem addToken_part {u : Token}
    (allotted : ∀ r ∈ s.tokens, r.id = u.id → r.tenant = u.tenant) :
    (s.part u.tenant).addToken u = (s.addToken u).map (part · u.tenant) := by
  have taken : (s.tokens.filter (isOf TokenRow.tenant u.tenant)).any (·.id = u.id) =
      s.tokens.any (·.id = u.id) := by
    apply any_filter_of_imp
    intro r member idEq
    exact decide_eq_true (allotted r member (of_decide_eq_true idEq))
  have live : (s.tokens.filter (isOf TokenRow.tenant u.tenant)).any
      (TokenRow.isOutstanding u.tenant u.deviceId) =
        s.tokens.any (TokenRow.isOutstanding u.tenant u.deviceId) :=
    any_filter_of_imp fun _ _ => isOf_of_isOutstanding
  have own : isOf TokenRow.tenant u.tenant (.ofToken u) = true :=
    isOf_self TokenRow.tenant (.ofToken u)
  simp only [addToken, part, taken, live]
  split
  · rfl
  · split
    · rfl
    · simp only [Except.map, List.filter_append, List.filter_cons_of_pos own, List.filter_nil]

theorem insertOrGetLive_part {u : Token} (now : Instant)
    (allotted : ∀ r ∈ s.tokens, r.id = u.id → r.tenant = u.tenant) :
    (s.part u.tenant).insertOrGetLive u now =
      ((s.insertOrGetLive u now).1, (s.insertOrGetLive u now).2.part u.tenant) := by
  have found : (s.part u.tenant).tokens.find? (TokenRow.isOutstanding u.tenant u.deviceId) =
      s.tokens.find? (TokenRow.isOutstanding u.tenant u.deviceId) :=
    find?_filter_of_imp fun _ _ => isOf_of_isOutstanding
  have stillAllotted : ∀ id, ∀ r ∈ (s.retire id).tokens, r.id = u.id → r.tenant = u.tenant := by
    intro id r member idEq
    rcases List.mem_map.mp member with ⟨old, oldMem, rfl⟩
    split at idEq
    · rename_i retired
      rw [if_pos retired]
      exact allotted old oldMem idEq
    · rename_i kept
      rw [if_neg kept]
      exact allotted old oldMem idEq
  have steps : (s.part u.tenant).insertOrGetLiveSteps u now =
      (s.insertOrGetLiveSteps u now).map fun r => (r.1, r.2.part u.tenant) := by
    rw [insertOrGetLiveSteps, insertOrGetLiveSteps, found]
    cases readFound TokenRow.read
        (s.tokens.find? (TokenRow.isOutstanding u.tenant u.deviceId)) with
    | error fault => rfl
    | ok existing? =>
        simp only [Bind.bind, Except.bind]
        cases existing? with
        | none =>
            simp only [addToken_part allotted]
            cases s.addToken u with
            | error fault => rfl
            | ok added => rfl
        | some existing =>
            by_cases expired : existing.isExpiredAt now = true
            · simp only [expired, if_true, retire_part, addToken_part (stillAllotted _)]
              cases (s.retire existing.id).addToken u with
              | error fault => rfl
              | ok added => rfl
            · simp only [expired, if_false, Bool.false_eq_true]
              rfl
  rw [insertOrGetLive, insertOrGetLive, steps]
  cases s.insertOrGetLiveSteps u now with
  | error fault => rfl
  | ok result => rfl

/-! ## Calls -/

/-- A call is answered out of the part of its tenant, and changes it as if it were alone, where the
ids that it brings are those of no other tenant's rows. -/
theorem run_part {c : StoreCall α} (own : c.tenant = t)
    (device : ∀ d, c.newDevice? = some d → ∀ r ∈ s.devices, r.id = d.id → r.tenant = t)
    (token : ∀ u, c.candidate? = some u → ∀ r ∈ s.tokens, r.id = u.id → r.tenant = t) :
    (s.part t).run c = ((s.run c).1, (s.run c).2.part t) := by
  subst own
  cases c with
  | getOrCreate candidate => exact getOrCreate_part (device candidate rfl)
  | getDevice tenant id =>
      have found : (s.part tenant).deviceRow? tenant id = s.deviceRow? tenant id :=
        find?_filter_of_imp fun _ _ => isOf_of_isDevice
      simp only [run, StoreCall.tenant, found]
  | listDevices tenant skip limit =>
      have rows : (s.part tenant).tenantRows tenant = s.tenantRows tenant := by
        have own : (s.devices.filter (isOf DeviceRow.tenant tenant)).filter (·.tenant = tenant) =
            s.devices.filter (·.tenant = tenant) := filter_filter_of_imp fun _ _ same => same
        simp only [tenantRows, part, own]
      simp only [run, StoreCall.tenant, listDevices, rows]
  | updateStatus tenant id status now =>
      have any : (s.devices.filter (isOf DeviceRow.tenant tenant)).any
          (DeviceRow.isDevice tenant id) = s.devices.any (DeviceRow.isDevice tenant id) :=
        any_filter_of_imp fun _ _ => isOf_of_isDevice
      simp only [run, sure, updateStatus, StoreCall.tenant, part, any]
      rw [filter_change]
      exact fun _ => rfl
  | rotateKey tenant id key now =>
      have any : (s.devices.filter (isOf DeviceRow.tenant tenant)).any
          (isAcceptedDevice tenant id) = s.devices.any (isAcceptedDevice tenant id) :=
        any_filter_of_imp fun _ _ => isOf_of_isAcceptedDevice
      simp only [run, sure, rotateKey, StoreCall.tenant, part, any]
      rw [filter_change]
      exact fun _ => rfl
  | insertOrGetLive candidate now => exact insertOrGetLive_part now (token candidate rfl)
  | getToken tenant id =>
      have found : (s.part tenant).tokenRow? tenant id = s.tokenRow? tenant id :=
        find?_filter_of_imp fun _ _ => isOf_of_isToken
      simp only [run, StoreCall.tenant, found]
  | revokeToken tenant id =>
      have any : (s.tokens.filter (isOf TokenRow.tenant tenant)).any (TokenRow.isToken tenant id) =
          s.tokens.any (TokenRow.isToken tenant id) :=
        any_filter_of_imp fun _ _ => isOf_of_isToken
      simp only [run, sure, revokeToken, StoreCall.tenant, part, any, filter_change tenant_revoke]
  | revokeDeviceTokens tenant deviceId =>
      have counted : (s.tokens.filter (isOf TokenRow.tenant tenant)).filter
          (TokenRow.isOutstanding tenant deviceId) =
            s.tokens.filter (TokenRow.isOutstanding tenant deviceId) :=
        filter_filter_of_imp fun _ _ => isOf_of_isOutstanding
      simp only [run, sure, revokeDeviceTokens, StoreCall.tenant, part, counted,
        filter_change tenant_revoke]

/-- A registration leaves the parts of other tenants. -/
theorem part_getOrCreate_of_ne {d : Device} (other : d.tenant ≠ t) :
    (s.getOrCreate d).2.part t = s.part t := by
  have apart := not_isOf_of_ne (isOf_self DeviceRow.tenant (.ofDevice d)) other
  have kept : ∀ {s' : TableStore} {created : Bool}, s.addDevice d = .ok (s', created) →
      s'.part t = s.part t := by
    intro s' created added
    unfold addDevice at added
    split at added
    · cases added
      rfl
    · split at added
      · cases added
      · cases added
        simp only [part, List.filter_append, List.filter_cons_of_neg apart, List.filter_nil,
          List.append_nil]
  rw [getOrCreate]
  split
  · rfl
  · rename_i added
    split
    · exact kept added
    · split
      · exact kept added
      · exact kept added

/-- Where no two rows of tokens have the same id, an insertion leaves the parts of other tenants:
the row that it retires by its id is one of its own tenant. -/
theorem part_insertOrGetLive_of_ne {u : Token} (now : Instant) (other : u.tenant ≠ t)
    (unique : (s.tokens.map TokenRow.id).Nodup) :
    (s.insertOrGetLive u now).2.part t = s.part t := by
  have apart := not_isOf_of_ne (isOf_self TokenRow.tenant (.ofToken u)) other
  rcases s.insertOrGetLive_cases u now with ⟨fault, failed⟩ | reused | added
  · rw [failed]
  · rcases reused with ⟨row, existing, -, -, -, equation⟩
    rw [equation]
  · rcases added with ⟨cleared, s', clearing, added, equation⟩
    obtain ⟨-, -, rfl⟩ := addToken_eq_ok added
    have clearedPart : cleared.part t = s.part t := by
      cases clearing with
      | untouched none => rfl
      | @retired row existing found read expired =>
          have rowMem := List.mem_of_find?_eq_some found
          have idEq : row.id = existing.id :=
            congrArg TokenEntry.id (TokenEntry.entry_of_read (e := row.entry) read)
          have retiresOwn : ∀ r ∈ s.tokens, decide (r.id = existing.id) = true →
              isOf TokenRow.tenant u.tenant r = true := by
            intro r member same
            have isRow : r = row := List.inj_on_of_nodup_map unique member rowMem
              ((of_decide_eq_true same).trans idEq.symm)
            rw [isRow]
            exact isOf_of_isOutstanding (List.find?_some found)
          have kept := filter_change_of_ne tenant_revoke retiresOwn other
          simp only [decide_eq_true_eq] at kept
          simp only [retire, part, kept]
    rw [equation, ← clearedPart]
    simp only [part, List.filter_append, List.filter_cons_of_neg apart, List.filter_nil,
      List.append_nil]

/-- A call leaves the parts of other tenants, where no two rows of tokens have the same id. -/
theorem part_run_of_ne {c : StoreCall α} (other : c.tenant ≠ t)
    (unique : (s.tokens.map TokenRow.id).Nodup) : (s.run c).2.part t = s.part t := by
  cases c with
  | getOrCreate candidate => exact part_getOrCreate_of_ne other
  | getDevice tenant id => rfl
  | listDevices tenant skip limit => rfl
  | updateStatus tenant id status now =>
      have other : tenant ≠ t := other
      simp only [run, sure, updateStatus, part]
      rw [filter_change_of_ne ?_ (fun _ _ => isOf_of_isDevice) other]
      exact fun _ => rfl
  | rotateKey tenant id key now =>
      have other : tenant ≠ t := other
      simp only [run, sure, rotateKey, part]
      rw [filter_change_of_ne ?_ (fun _ _ => isOf_of_isAcceptedDevice) other]
      exact fun _ => rfl
  | insertOrGetLive candidate now => exact part_insertOrGetLive_of_ne now other unique
  | getToken tenant id => rfl
  | revokeToken tenant id =>
      have other : tenant ≠ t := other
      simp only [run, sure, revokeToken, part]
      rw [filter_change_of_ne tenant_revoke (fun _ _ => isOf_of_isToken) other]
  | revokeDeviceTokens tenant deviceId =>
      have other : tenant ≠ t := other
      simp only [run, sure, revokeDeviceTokens, part]
      rw [filter_change_of_ne tenant_revoke (fun _ _ => isOf_of_isOutstanding) other]

end TableStore

end DeviceAdmission
