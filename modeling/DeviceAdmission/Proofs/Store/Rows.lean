import DeviceAdmission.Proofs.Store.Devices

/-!
# Rows and what they are read as

A row is read back as the record it was made of exactly when the times of the record are legible.
The writer of a row does not ask for that, so a row may be added that no call can read.
-/

namespace DeviceAdmission

theorem readTimestamp_timestamp_of_not {t : Instant} (column : Nat)
    (illegible : ¬t.isLegible = true) :
    readTimestamp column (timestamp t) = .error (.timeUnreadable column) := by
  rw [Instant.isLegible, Bool.and_eq_true, decide_eq_true_eq, decide_eq_true_eq] at illegible
  rw [readTimestamp, timestamp, Rfc3339.read?_write_eq_none .offset illegible]
  rfl

/-- Whether the times of a device are legible. -/
def Device.isLegible (d : Device) : Bool :=
  d.createdAt.isLegible && d.updatedAt.isLegible

/-- Whether the times of a token are legible. -/
def Token.isLegible (t : Token) : Bool :=
  t.issuedAt.isLegible && t.expiresAt.isLegible

theorem Device.isLegible_iff {d : Device} :
    d.isLegible = true ↔ d.createdAt.isLegible = true ∧ d.updatedAt.isLegible = true :=
  Bool.and_eq_true_iff

theorem Token.isLegible_iff {t : Token} :
    t.isLegible = true ↔ t.issuedAt.isLegible = true ∧ t.expiresAt.isLegible = true :=
  Bool.and_eq_true_iff

namespace DeviceRow

/-- The row of a device with legible times is read as the device. -/
theorem read_ofDevice {d : Device} (legible : d.isLegible = true) :
    (ofDevice d).read = .ok d := by
  obtain ⟨created, updated⟩ := Device.isLegible_iff.mp legible
  simp only [read, ofDevice, readStatus, DeviceStatus.ofName?_name, Option.elim_some,
    readTimestamp_timestamp _ created, readTimestamp_timestamp _ updated]
  rfl

/-- The row of another device cannot be read. -/
theorem exists_read_ofDevice {d : Device} (illegible : ¬d.isLegible = true) :
    ∃ fault, (ofDevice d).read = .error fault := by
  simp only [read, ofDevice, readStatus, DeviceStatus.ofName?_name, Option.elim_some]
  by_cases created : d.createdAt.isLegible = true
  · have updated : ¬d.updatedAt.isLegible = true := fun updated =>
      illegible (Device.isLegible_iff.mpr ⟨created, updated⟩)
    rw [readTimestamp_timestamp _ created, readTimestamp_timestamp_of_not _ updated]
    exact ⟨_, rfl⟩
  · rw [readTimestamp_timestamp_of_not _ created]
    exact ⟨_, rfl⟩

end DeviceRow

/-- The entry that the row of a token has, with the mark that it has got since. -/
def Token.rowEntry (t : Token) : TokenEntry where
  id := t.id
  tenant := t.tenant
  deviceId := t.deviceId
  raw := t.raw
  issuedAt := StoreKind.tables.kept 4 t.issuedAt
  expiresAt := StoreKind.tables.kept 5 t.expiresAt
  revoked := t.revoked

namespace Token

theorem isToken_rowEntry (t : Token) (tenant : Tenant) (id : String) :
    t.rowEntry.isToken tenant id = MemoryStore.isToken tenant id t :=
  rfl

theorem isOutstanding_rowEntry (t : Token) (tenant : Tenant) (deviceId : String) :
    t.rowEntry.isOutstanding tenant deviceId = t.isOutstanding tenant deviceId :=
  rfl

theorem rowEntry_revoke (t : Token) : t.revoke.rowEntry = t.rowEntry.revoke := by
  simp only [rowEntry, Token.revoke, TokenEntry.revoke]

/-- The entry of a new row is that of the candidate with force. -/
theorem rowEntry_unrevoked (t : Token) :
    { t with revoked := false }.rowEntry = StoreKind.tables.tokenEntry t := by
  simp only [rowEntry, StoreKind.tokenEntry, StoreKind.kept, TokenRow.entry, TokenRow.ofToken]

/-- The row of a token with legible times has the entry of the token. -/
theorem rowEntry_eq {t : Token} (legible : t.isLegible = true) : t.rowEntry = t.entry := by
  obtain ⟨issued, expires⟩ := isLegible_iff.mp legible
  simp only [rowEntry, StoreKind.kept_eq_ok _ _ issued, StoreKind.kept_eq_ok _ _ expires, entry]

/-- The row of another token cannot be read. -/
theorem exists_read_rowEntry {t : Token} (illegible : ¬t.isLegible = true) :
    ∃ fault, t.rowEntry.read = .error fault := by
  simp only [TokenEntry.read, rowEntry, StoreKind.kept]
  by_cases issued : t.issuedAt.isLegible = true
  · have expires : ¬t.expiresAt.isLegible = true := fun expires =>
      illegible (isLegible_iff.mpr ⟨issued, expires⟩)
    rw [readTimestamp_timestamp _ issued, readTimestamp_timestamp_of_not _ expires]
    exact ⟨_, rfl⟩
  · rw [readTimestamp_timestamp_of_not _ issued]
    exact ⟨_, rfl⟩

end Token

namespace TableStore

variable {t : TableStore} {candidate : Device}

/-- What is answered for a row that stands for the device of a candidate. -/
def answerRow (row : DeviceRow) (created : Bool) : Except StoreFault (Device × Bool) :=
  match row.read with
  | .ok device => .ok (device, created)
  | .error fault => .error (.deviceUnreadable fault)

theorem answerRow_eq_ok {row : DeviceRow} {created : Bool} {a : Device × Bool}
    (answer : answerRow row created = .ok a) : row.read = .ok a.1 ∧ a.2 = created := by
  unfold answerRow at answer
  cases read : row.read with
  | ok d =>
      rw [read] at answer
      cases answer
      exact ⟨rfl, rfl⟩
  | error fault =>
      rw [read] at answer
      cases answer

/-- Where a row has the identity of the candidate, it is answered and nothing changes. -/
theorem getOrCreate_of_found {row : DeviceRow}
    (found : t.devices.find? (DeviceRow.hasIdentity candidate.tenant candidate.identityData) =
      some row) : t.getOrCreate candidate = (answerRow row false, t) := by
  have known : t.devices.any (DeviceRow.hasIdentity candidate.tenant candidate.identityData) =
      true := List.any_eq_true.mpr ⟨row, List.mem_of_find?_eq_some found, List.find?_some found⟩
  simp only [getOrCreate, addDevice, known, if_true, found, answerRow]
  cases row.read <;> rfl

/-- Where no row has it, one for the candidate is added, whether or not it can be read. -/
theorem getOrCreate_of_none (fresh : ∀ r ∈ t.devices, r.id ≠ candidate.id)
    (none : t.devices.find? (DeviceRow.hasIdentity candidate.tenant candidate.identityData) =
      none) : t.getOrCreate candidate =
        (answerRow (.ofDevice candidate) true,
          { t with devices := t.devices ++ [.ofDevice candidate] }) := by
  have unknown : t.devices.any (DeviceRow.hasIdentity candidate.tenant candidate.identityData) =
      false := List.any_eq_false.mpr fun r member => List.find?_eq_none.mp none r member
  have freshRow : t.devices.any (fun r => r.id = candidate.id) = false :=
    List.any_eq_false.mpr fun r member => by simp [fresh r member]
  have hasIt : (DeviceRow.ofDevice candidate).hasIdentity candidate.tenant candidate.identityData =
      true := by
    simp [DeviceRow.hasIdentity, DeviceRow.ofDevice]
  have last : (t.devices ++ [DeviceRow.ofDevice candidate]).find?
      (DeviceRow.hasIdentity candidate.tenant candidate.identityData) =
        some (DeviceRow.ofDevice candidate) := by
    rw [List.find?_append, none, List.find?_cons, hasIt]
    rfl
  simp only [getOrCreate, addDevice, unknown, freshRow, Bool.false_eq_true, if_false, last,
    answerRow]
  cases (DeviceRow.ofDevice candidate).read <;> rfl

end TableStore

end DeviceAdmission
