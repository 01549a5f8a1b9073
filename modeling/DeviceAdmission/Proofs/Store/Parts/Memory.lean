import DeviceAdmission.Proofs.Store.Order
import DeviceAdmission.Proofs.Store.Parts.Filtering

/-!
# The part of a tenant in memory

A store in memory looks everything up under a tenant: devices and tokens by tenant and id, and the
index by tenant and identity data. So a call is answered out of the part of its tenant.
-/

namespace DeviceAdmission

namespace MemoryStore

variable {s : MemoryStore} {t tenant : Tenant} {α : Type}

/-- Which tenant an entry of the index is about. -/
def tenantOfIdentity (n : (Tenant × String) × String) : Tenant :=
  n.1.1

/-- The part of a tenant. -/
def part (s : MemoryStore) (t : Tenant) : MemoryStore where
  devices := s.devices.filter (isOf Device.tenant t)
  identities := s.identities.filter (isOf tenantOfIdentity t)
  tokens := s.tokens.filter (isOf Token.tenant t)

theorem isOf_of_isDevice {d : Device} {id : String} (h : isDevice t id d = true) :
    isOf Device.tenant t d = true := by
  rw [isDevice, Bool.and_eq_true] at h
  exact h.1

theorem isOf_of_isToken {u : Token} {id : String} (h : isToken t id u = true) :
    isOf Token.tenant t u = true := by
  rw [isToken, Bool.and_eq_true] at h
  exact h.1

theorem isOf_of_isOutstanding {u : Token} {deviceId : String}
    (h : u.isOutstanding t deviceId = true) : isOf Token.tenant t u = true := by
  rw [Token.isOutstanding, Bool.and_eq_true, Bool.and_eq_true] at h
  exact h.1.2

theorem isOf_of_identity {n : (Tenant × String) × String} {identityData : String}
    (h : decide (n.1 = (t, identityData)) = true) : isOf tenantOfIdentity t n = true :=
  decide_eq_true (congrArg Prod.fst (of_decide_eq_true h))

@[simp]
theorem device?_part (s : MemoryStore) (t : Tenant) (id : String) :
    (s.part t).device? t id = s.device? t id :=
  find?_filter_of_imp fun _ _ => isOf_of_isDevice

@[simp]
theorem token?_part (s : MemoryStore) (t : Tenant) (id : String) :
    (s.part t).token? t id = s.token? t id :=
  find?_filter_of_imp fun _ _ => isOf_of_isToken

@[simp]
theorem identity?_part (s : MemoryStore) (t : Tenant) (identityData : String) :
    (s.part t).identity? (t, identityData) = s.identity? (t, identityData) := by
  rw [identity?, identity?, part, find?_filter_of_imp]
  exact fun _ _ => isOf_of_identity

/-! ## Putting -/

theorem putToken_eq (u : Token) (tokens : List Token) :
    putToken u tokens = putBy (isToken u.tenant u.id) u tokens := by
  induction tokens with
  | nil => rfl
  | cons v rest ih => rw [putToken, putBy, ih]

theorem putIdentity_eq (identity : Tenant × String) (id : String)
    (index : List ((Tenant × String) × String)) :
    putIdentity identity id index = putBy (·.1 = identity) (identity, id) index := by
  induction index with
  | nil => rfl
  | cons n rest ih => simp only [putIdentity, putBy, ih, decide_eq_true_eq]

theorem filter_putToken (u : Token) (tokens : List Token) :
    (putToken u tokens).filter (isOf Token.tenant u.tenant) =
      putToken u (tokens.filter (isOf Token.tenant u.tenant)) := by
  rw [putToken_eq, putToken_eq]
  exact filter_putBy (isOf_self Token.tenant u) (fun _ => isOf_of_isToken) tokens

theorem filter_putToken_of_ne {u : Token} (other : u.tenant ≠ t) (tokens : List Token) :
    (putToken u tokens).filter (isOf Token.tenant t) = tokens.filter (isOf Token.tenant t) := by
  rw [putToken_eq]
  exact filter_putBy_of_not (not_isOf_of_ne (isOf_self Token.tenant u) other)
    (fun _ same => not_isOf_of_ne (isOf_of_isToken same) other) tokens

theorem filter_putIdentity (t : Tenant) (identityData id : String)
    (index : List ((Tenant × String) × String)) :
    (putIdentity (t, identityData) id index).filter (isOf tenantOfIdentity t) =
      putIdentity (t, identityData) id (index.filter (isOf tenantOfIdentity t)) := by
  rw [putIdentity_eq, putIdentity_eq]
  exact filter_putBy (isOf_self tenantOfIdentity ((t, identityData), id))
    (fun _ => isOf_of_identity) index

theorem filter_putIdentity_of_ne (other : tenant ≠ t) (identityData id : String)
    (index : List ((Tenant × String) × String)) :
    (putIdentity (tenant, identityData) id index).filter (isOf tenantOfIdentity t) =
      index.filter (isOf tenantOfIdentity t) := by
  rw [putIdentity_eq]
  exact filter_putBy_of_not
    (not_isOf_of_ne (isOf_self tenantOfIdentity ((tenant, identityData), id)) other)
    (fun _ same => not_isOf_of_ne (isOf_of_identity same) other) index

theorem putDevice_eq_cons {d : Device} {devices : List Device}
    (first : ∀ e ∈ devices, precedes d e = true) : putDevice d devices = d :: devices := by
  cases devices with
  | nil => rfl
  | cons e rest => rw [putDevice, if_pos (first e List.mem_cons_self)]

/-- A device is put into the part of its tenant where it belongs. -/
theorem filter_putDevice {devices : List Device} (ordered : Ordered devices) (d : Device) :
    (putDevice d devices).filter (isOf Device.tenant d.tenant) =
      putDevice d (devices.filter (isOf Device.tenant d.tenant)) := by
  have own := isOf_self Device.tenant d
  induction devices with
  | nil => rw [putDevice, List.filter_cons_of_pos own, List.filter_nil, putDevice]
  | cons e rest ih =>
      rcases List.pairwise_cons.mp ordered with ⟨before, restOrdered⟩
      rw [putDevice]
      split
      · rename_i first
        rw [List.filter_cons_of_pos own, putDevice_eq_cons]
        intro f member
        rcases List.mem_cons.mp (List.mem_filter.mp member).1 with rfl | later
        · exact first
        · exact precedes_trans first (before f later)
      · rename_i notFirst
        split
        · rename_i same
          rw [List.filter_cons_of_pos own, List.filter_cons_of_pos (isOf_of_isDevice same),
            putDevice, if_neg notFirst, if_pos same]
        · rename_i other
          by_cases kept : isOf Device.tenant d.tenant e = true
          · rw [List.filter_cons_of_pos kept, List.filter_cons_of_pos kept, putDevice,
              if_neg notFirst, if_neg other, ih restOrdered]
          · rw [List.filter_cons_of_neg kept, List.filter_cons_of_neg kept, ih restOrdered]

theorem filter_putDevice_of_ne {d : Device} (other : d.tenant ≠ t) (devices : List Device) :
    (putDevice d devices).filter (isOf Device.tenant t) =
      devices.filter (isOf Device.tenant t) := by
  have apart := not_isOf_of_ne (isOf_self Device.tenant d) other
  induction devices with
  | nil => rw [putDevice, List.filter_cons_of_neg apart]
  | cons e rest ih =>
      rw [putDevice]
      split
      · rw [List.filter_cons_of_neg apart]
      · split
        · rename_i same
          rw [List.filter_cons_of_neg apart,
            List.filter_cons_of_neg (not_isOf_of_ne (isOf_of_isDevice same) other)]
        · rw [List.filter_cons, List.filter_cons, ih]

/-! ## Changing and revoking -/

/-- A change of a device within its tenant is a change of the part. -/
theorem part_changeDevice (s : MemoryStore) (t : Tenant) (id : String) {change : Device → Device}
    (same : ∀ d, (change d).tenant = d.tenant) :
    (s.changeDevice t id change).part t = (s.part t).changeDevice t id change := by
  rw [part, changeDevice, part, changeDevice, filter_change same]

theorem part_changeDevice_of_ne (other : tenant ≠ t) (s : MemoryStore) (id : String)
    {change : Device → Device} (same : ∀ d, (change d).tenant = d.tenant) :
    (s.changeDevice tenant id change).part t = s.part t := by
  rw [part, changeDevice, part,
    filter_change_of_ne same (fun _ _ => isOf_of_isDevice) other]

theorem tenant_revoke (u : Token) : u.revoke.tenant = u.tenant :=
  rfl

/-- A visit for a device visits the tokens of its tenant. -/
theorem takeLive_filter (t : Tenant) (deviceId : String) (now : Instant) (tokens : List Token) :
    takeLive t deviceId now (tokens.filter (isOf Token.tenant t)) =
      ((takeLive t deviceId now tokens).1,
        (takeLive t deviceId now tokens).2.filter (isOf Token.tenant t)) := by
  induction tokens with
  | nil => rfl
  | cons u rest ih =>
      rw [takeLive]
      cases outstanding : u.isOutstanding t deviceId with
      | true =>
          have own := isOf_of_isOutstanding outstanding
          have ownStill : isOf Token.tenant t u.revoke = true := own
          rw [List.filter_cons_of_pos own, takeLive, outstanding]
          by_cases expired : u.isExpiredAt now = true
          · simp only [expired, if_true, ih, List.filter_cons_of_pos ownStill]
          · simp only [expired, if_true, if_false, Bool.false_eq_true,
              List.filter_cons_of_pos own]
      | false =>
          by_cases own : isOf Token.tenant t u = true
          · rw [List.filter_cons_of_pos own, takeLive, outstanding]
            simp only [Bool.false_eq_true, if_false, ih, List.filter_cons_of_pos own]
          · rw [List.filter_cons_of_neg own]
            simp only [Bool.false_eq_true, if_false, ih, List.filter_cons_of_neg own]

/-- A visit leaves the tokens of other tenants. -/
theorem filter_takeLive_of_ne (other : tenant ≠ t) (deviceId : String) (now : Instant)
    (tokens : List Token) :
    (takeLive tenant deviceId now tokens).2.filter (isOf Token.tenant t) =
      tokens.filter (isOf Token.tenant t) := by
  induction tokens with
  | nil => rfl
  | cons u rest ih =>
      rw [takeLive]
      cases outstanding : u.isOutstanding tenant deviceId with
      | true =>
          have apart := not_isOf_of_ne (isOf_of_isOutstanding outstanding) other
          have apartStill : ¬isOf Token.tenant t u.revoke = true := apart
          by_cases expired : u.isExpiredAt now = true
          · simp only [expired, if_true, List.filter_cons_of_neg apartStill,
              List.filter_cons_of_neg apart, ih]
          · simp only [expired, if_true, if_false, Bool.false_eq_true]
      | false => simp only [Bool.false_eq_true, if_false, List.filter_cons, ih]

/-! ## Calls -/

/-- A call is answered out of the part of its tenant, and changes it as if it were alone. -/
theorem run_part (ordered : Ordered s.devices) {c : StoreCall α} (own : c.tenant = t) :
    (s.part t).run c = ((s.run c).1, (s.run c).2.part t) := by
  subst own
  cases c with
  | getOrCreate candidate =>
      have devices := filter_putDevice ordered candidate
      have identities := filter_putIdentity candidate.tenant candidate.identityData candidate.id
        s.identities
      have found : (s.part candidate.tenant).device? candidate.tenant =
          s.device? candidate.tenant := funext fun id => device?_part s candidate.tenant id
      simp only [run, getOrCreate, StoreCall.tenant, identity?_part, found]
      split
      · rfl
      · simp only [part, devices, identities]
  | getDevice tenant id => simp only [run, StoreCall.tenant, device?_part]
  | listDevices tenant skip limit =>
      have listed : (s.devices.filter (isOf Device.tenant tenant)).filter (·.tenant = tenant) =
          s.devices.filter (·.tenant = tenant) := filter_filter_of_imp fun _ _ same => same
      simp only [run, listDevices, StoreCall.tenant, part, listed]
  | updateStatus tenant id status now =>
      simp only [run, updateStatus, StoreCall.tenant, device?_part]
      split
      · rfl
      · rw [part_changeDevice]
        exact fun _ => rfl
  | rotateKey tenant id key now =>
      simp only [run, rotateKey, StoreCall.tenant, device?_part]
      split
      · rfl
      · split
        · rw [part_changeDevice]
          exact fun _ => rfl
        · rfl
  | insertOrGetLive candidate now =>
      have visited := takeLive_filter candidate.tenant candidate.deviceId now s.tokens
      simp only [run, insertOrGetLive, StoreCall.tenant, part, visited]
      cases takeLive candidate.tenant candidate.deviceId now s.tokens with
      | mk live tokens =>
          cases live with
          | some existing => rfl
          | none => simp only [filter_putToken]
  | getToken tenant id => simp only [run, StoreCall.tenant, token?_part]
  | revokeToken tenant id =>
      simp only [run, revokeToken, StoreCall.tenant, token?_part]
      split
      · rfl
      · simp only [part, filter_change tenant_revoke]
  | revokeDeviceTokens tenant deviceId =>
      have counted : (s.tokens.filter (isOf Token.tenant tenant)).filter
          (fun u => u.isOutstanding tenant deviceId) =
            s.tokens.filter fun u => u.isOutstanding tenant deviceId :=
        filter_filter_of_imp fun _ _ => isOf_of_isOutstanding
      simp only [run, revokeDeviceTokens, StoreCall.tenant, part, counted,
        filter_change tenant_revoke]

/-- A call leaves the parts of other tenants. -/
theorem part_run_of_ne {c : StoreCall α} (other : c.tenant ≠ t) :
    (s.run c).2.part t = s.part t := by
  cases c with
  | getOrCreate candidate =>
      have other : candidate.tenant ≠ t := other
      simp only [run, getOrCreate]
      split
      · rfl
      · simp only [part, filter_putDevice_of_ne other, filter_putIdentity_of_ne other]
  | getDevice tenant id => rfl
  | listDevices tenant skip limit => rfl
  | updateStatus tenant id status now =>
      simp only [run, updateStatus]
      split
      · rfl
      · exact part_changeDevice_of_ne other s id fun _ => rfl
  | rotateKey tenant id key now =>
      simp only [run, rotateKey]
      split
      · rfl
      · split
        · exact part_changeDevice_of_ne other s id fun _ => rfl
        · rfl
  | insertOrGetLive candidate now =>
      have other : candidate.tenant ≠ t := other
      have visited := filter_takeLive_of_ne other candidate.deviceId now s.tokens
      simp only [run, insertOrGetLive]
      split
      · rename_i equation
        rw [equation] at visited
        simp only [part, visited]
      · rename_i equation
        rw [equation] at visited
        simp only [part, filter_putToken_of_ne other, visited]
  | getToken tenant id => rfl
  | revokeToken tenant id =>
      have other : tenant ≠ t := other
      simp only [run, revokeToken]
      split
      · rfl
      · simp only [part]
        rw [filter_change_of_ne tenant_revoke (fun _ _ => isOf_of_isToken) other]
  | revokeDeviceTokens tenant deviceId =>
      have other : tenant ≠ t := other
      simp only [run, revokeDeviceTokens, part]
      rw [filter_change_of_ne tenant_revoke (fun _ _ => isOf_of_isOutstanding) other]

end MemoryStore

end DeviceAdmission
