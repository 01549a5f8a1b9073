import DeviceAdmission.Proofs.Store.Identities
import DeviceAdmission.Proofs.Store.Insertions

/-!
# Writes to tables that fail

An insertion into tables revokes what has expired and then adds a row, and all of it is undone if
the row cannot be added, which is the case just where another row has its id. The rules against a
second live token are never what stops it. A registration may fail in the same way, and then it has
changed nothing either. It fails once more when the row that it has added cannot be read, and that
row stays.
-/

namespace DeviceAdmission

open TokenEntry

namespace TableStore

/-- What the rules of the tables say of their rows, and that every row can be read. -/
structure WellFormed (t : TableStore) : Prop where
  deviceIds : (t.devices.map DeviceRow.id).Nodup
  identities : (t.devices.map fun r => (r.tenant, r.identityData)).Nodup
  tokenIds : (t.tokens.map TokenRow.id).Nodup
  single : SingleLive (Store.tables t).tokens
  devicesRead : ∀ r ∈ t.devices, r.read.isOk = true
  tokensRead : ∀ r ∈ t.tokens, r.read.isOk = true

variable {t : TableStore}

theorem WellFormed.sound (wellFormed : t.WellFormed) : (Store.tables t).Sound := by
  refine ⟨wellFormed.single, fun _ => ?_⟩
  rw [Store.tokens, List.map_map]
  exact wellFormed.tokenIds

theorem exists_of_isOk {α ε : Type} {r : Except ε α} (ok : r.isOk = true) : ∃ a, r = .ok a := by
  cases r with
  | ok a => exact ⟨a, rfl⟩
  | error e => cases ok

/-- What succeeded has not failed. -/
theorem not_exists_error {α ε : Type} (a : α) : ¬∃ e : ε, (.ok a : Except ε α) = .error e := by
  rintro ⟨e, failed⟩
  cases failed

/-! ## Registrations -/

/-- A candidate whose id is taken is not added. -/
theorem getOrCreate_of_taken {candidate : Device}
    (unknown : ∀ r ∈ t.devices, r.hasIdentity candidate.tenant candidate.identityData = false)
    (taken : ∃ r ∈ t.devices, r.id = candidate.id) :
    t.getOrCreate candidate = (.error (.idTaken .devices), t) := by
  have noIdentity : t.devices.any
      (DeviceRow.hasIdentity candidate.tenant candidate.identityData) = false :=
    List.any_eq_false.mpr fun r member => by simp [unknown r member]
  have sameId : t.devices.any (fun r => r.id = candidate.id) = true := by
    obtain ⟨r, member, idEq⟩ := taken
    exact List.any_eq_true.mpr ⟨r, member, decide_eq_true idEq⟩
  simp only [getOrCreate, addDevice, noIdentity, sameId, Bool.false_eq_true, if_false, if_true]

/-- A registration fails just where the identity is unknown and the id is taken, or else the row of
the candidate cannot be read. In the former case nothing has changed, in the latter the row is
there. -/
theorem WellFormed.getOrCreate_failed (wellFormed : t.WellFormed) (candidate : Device) :
    ((∃ fault, (t.getOrCreate candidate).1 = .error fault) ↔
        (∀ r ∈ t.devices, r.hasIdentity candidate.tenant candidate.identityData = false) ∧
          ((∃ r ∈ t.devices, r.id = candidate.id) ∨ candidate.isLegible = false)) ∧
      ∀ fault, (t.getOrCreate candidate).1 = .error fault →
        (t.getOrCreate candidate).2 =
          if ∃ r ∈ t.devices, r.id = candidate.id then t
          else { t with devices := t.devices ++ [.ofDevice candidate] } := by
  cases found : t.devices.find?
      (DeviceRow.hasIdentity candidate.tenant candidate.identityData) with
  | some row =>
      have member := List.mem_of_find?_eq_some found
      have known := List.find?_some found
      obtain ⟨device, read⟩ := exists_of_isOk (wellFormed.devicesRead row member)
      have answer : t.getOrCreate candidate = (.ok (device, false), t) := by
        rw [getOrCreate_of_found found, answerRow, read]
      rw [answer]
      refine ⟨iff_of_false (not_exists_error _) ?_, ?_⟩
      · intro both
        rw [both.1 row member] at known
        cases known
      · exact fun _ failed => absurd ⟨_, failed⟩ (not_exists_error _)
  | none =>
      have unknown : ∀ r ∈ t.devices,
          r.hasIdentity candidate.tenant candidate.identityData = false :=
        fun r member => Bool.not_eq_true _ ▸ List.find?_eq_none.mp found r member
      by_cases taken : ∃ r ∈ t.devices, r.id = candidate.id
      · rw [getOrCreate_of_taken unknown taken, if_pos taken]
        exact ⟨iff_of_true ⟨_, rfl⟩ ⟨unknown, .inl taken⟩, fun _ _ => rfl⟩
      · have fresh : ∀ r ∈ t.devices, r.id ≠ candidate.id := fun r member same =>
          taken ⟨r, member, same⟩
        rw [getOrCreate_of_none fresh found, if_neg taken]
        refine ⟨?_, fun _ _ => rfl⟩
        cases legible : candidate.isLegible with
        | true =>
            rw [answerRow, DeviceRow.read_ofDevice legible]
            refine iff_of_false (not_exists_error _) ?_
            rintro ⟨-, sameId | illegible⟩
            · exact taken sameId
            · cases illegible
        | false =>
            obtain ⟨fault, read⟩ := DeviceRow.exists_read_ofDevice (Bool.eq_false_iff.mp legible)
            refine iff_of_true ⟨.deviceUnreadable fault, ?_⟩ ⟨unknown, .inr rfl⟩
            rw [answerRow, read]

/-! ## Insertions -/

/-- The tables before a row is added are no longer what they were. -/
theorem mem_retire {r : TokenRow} (member : r ∈ t.tokens) (unrevoked : r.revoked = false) :
    r.revoke ∈ (t.retire r.id).tokens ∧ r ∉ (t.retire r.id).tokens := by
  constructor
  · exact List.mem_map.mpr ⟨r, member, if_pos rfl⟩
  · intro still
    obtain ⟨old, -, equal⟩ := List.mem_map.mp still
    split at equal
    · rw [← equal] at unrevoked
      cases unrevoked
    · rename_i other
      exact other (congrArg TokenRow.id equal)

/-- The expired token of the device is the one that is revoked first. -/
theorem cleared_retire {candidate : Token} {now : Instant}
    (single : SingleLive (Store.tables t).tokens) {r : TokenRow} (member : r ∈ t.tokens)
    (outstanding : r.isOutstanding candidate.tenant candidate.deviceId = true) {u : Token}
    (read : r.read = .ok u) (expired : u.isExpiredAt now = true) :
    Cleared t candidate now (t.retire r.id) := by
  obtain ⟨row, found, entryEq⟩ := Store.find?_outstanding_tables single
    (List.mem_map_of_mem member) ((TokenRow.isOutstanding_entry r).trans outstanding)
  have rowRead : row.read = .ok u := (congrArg TokenEntry.read entryEq).trans read
  have sameEntry : r.entry = u.entry := entry_of_read read
  have idEq : r.id = u.id := congrArg TokenEntry.id sameEntry
  rw [idEq]
  exact .retired found rowRead expired

/-- A live token of the device is given. -/
theorem WellFormed.insertOrGetLive_of_not_expired (wellFormed : t.WellFormed) {candidate : Token}
    {now : Instant} (notAll : ¬∀ r ∈ t.tokens,
      r.isOutstanding candidate.tenant candidate.deviceId = true →
        ∃ u : Token, r.read = .ok u ∧ u.isExpiredAt now = true) :
    ∃ u, (t.insertOrGetLive candidate now).1 = .ok u := by
  push Not at notAll
  obtain ⟨r, member, outstanding, notOver⟩ := notAll
  obtain ⟨u, read⟩ := exists_of_isOk (wellFormed.tokensRead r member)
  have entryEq : r.entry = u.entry := entry_of_read read
  have live : u.isExpiredAt now = false := Bool.not_eq_true _ ▸ notOver u read
  have held : u.entry ∈ (Store.tables t).tokens := entryEq ▸ List.mem_map_of_mem member
  have answer := Store.run_insertOrGetLive_of_live wellFormed.sound held
    (by rw [← Token.isOutstanding_entry, ← entryEq]; exact outstanding) live
  exact ⟨u, congrArg Prod.fst answer⟩

/-- An insertion fails just where the tokens of the device have expired or are revoked, and the id
of the candidate is taken. Nothing has changed then, although the row of an expired token had been
revoked before the candidate was refused. -/
theorem WellFormed.insertOrGetLive_failed (wellFormed : t.WellFormed) (candidate : Token)
    (now : Instant) :
    ((∃ fault, (t.insertOrGetLive candidate now).1 = .error fault) ↔
        (∀ r ∈ t.tokens, r.isOutstanding candidate.tenant candidate.deviceId = true →
          ∃ u : Token, r.read = .ok u ∧ u.isExpiredAt now = true) ∧
          ∃ r ∈ t.tokens, r.id = candidate.id) ∧
      ∀ fault, (t.insertOrGetLive candidate now).1 = .error fault →
        (t.insertOrGetLive candidate now).2 = t ∧
          ∀ r ∈ t.tokens, r.isOutstanding candidate.tenant candidate.deviceId = true →
            (t.retire r.id).addToken candidate = .error fault ∧
              r.revoke ∈ (t.retire r.id).tokens ∧ r ∉ (t.retire r.id).tokens := by
  by_cases expired : ∀ r ∈ t.tokens, r.isOutstanding candidate.tenant candidate.deviceId = true →
      ∃ u : Token, r.read = .ok u ∧ u.isExpiredAt now = true
  · obtain ⟨cleared, clearing⟩ := exists_cleared expired
    rw [insertOrGetLive_of_cleared clearing, clearing.addToken_eq wellFormed.sound]
    by_cases taken : ∃ r ∈ t.tokens, r.id = candidate.id
    · have sameId : t.tokens.any (·.id = candidate.id) = true := by
        obtain ⟨r, member, idEq⟩ := taken
        exact List.any_eq_true.mpr ⟨r, member, decide_eq_true idEq⟩
      rw [if_pos sameId]
      refine ⟨iff_of_true ⟨_, rfl⟩ ⟨expired, taken⟩, ?_⟩
      rintro _ ⟨⟩
      refine ⟨rfl, fun r member outstanding => ?_⟩
      obtain ⟨u, read, ended⟩ := expired r member outstanding
      have retiring := cleared_retire wellFormed.single member outstanding read ended
      have unrevoked : r.revoked = false := (isOutstanding_iff (e := r.entry).mp outstanding).1
      refine ⟨?_, mem_retire member unrevoked⟩
      rw [retiring.addToken_eq wellFormed.sound, if_pos sameId]
    · have free : ¬t.tokens.any (·.id = candidate.id) = true := by
        rw [List.any_eq_true]
        rintro ⟨r, member, idEq⟩
        exact taken ⟨r, member, of_decide_eq_true idEq⟩
      rw [if_neg free]
      refine ⟨iff_of_false (not_exists_error _) fun both => taken both.2, ?_⟩
      exact fun _ failed => absurd ⟨_, failed⟩ (not_exists_error _)
  · obtain ⟨u, given⟩ := wellFormed.insertOrGetLive_of_not_expired expired
    rw [given]
    refine ⟨iff_of_false (not_exists_error _) fun both => expired both.1, ?_⟩
    exact fun _ failed => absurd ⟨_, failed⟩ (not_exists_error _)

/-! ## Main statement -/

/-- What a failed write to well-formed tables leaves, whatever id the candidate has. A registration
that fails leaves both tables as they were, but where the identity and the id of the candidate are
new and its row cannot be read: then it has added that row and changed nothing else. An insertion
that fails leaves both tables as they were; the expired token of the device, which had been revoked
in the rows that the candidate could not be added to, is unrevoked in those that are left. -/
theorem WellFormed.failed_writes (wellFormed : t.WellFormed) :
    (∀ candidate : Device,
      ((∃ fault, (t.getOrCreate candidate).1 = .error fault) ↔
          (∀ r ∈ t.devices, r.hasIdentity candidate.tenant candidate.identityData = false) ∧
            ((∃ r ∈ t.devices, r.id = candidate.id) ∨ candidate.isLegible = false)) ∧
        ∀ fault, (t.getOrCreate candidate).1 = .error fault →
          (t.getOrCreate candidate).2 =
            if ∃ r ∈ t.devices, r.id = candidate.id then t
            else { t with devices := t.devices ++ [.ofDevice candidate] }) ∧
      ∀ (candidate : Token) (now : Instant),
        ((∃ fault, (t.insertOrGetLive candidate now).1 = .error fault) ↔
            (∀ r ∈ t.tokens, r.isOutstanding candidate.tenant candidate.deviceId = true →
              ∃ u : Token, r.read = .ok u ∧ u.isExpiredAt now = true) ∧
              ∃ r ∈ t.tokens, r.id = candidate.id) ∧
          ∀ fault, (t.insertOrGetLive candidate now).1 = .error fault →
            (t.insertOrGetLive candidate now).2 = t ∧
              ∀ r ∈ t.tokens, r.isOutstanding candidate.tenant candidate.deviceId = true →
                (t.retire r.id).addToken candidate = .error fault ∧
                  r.revoke ∈ (t.retire r.id).tokens ∧ r ∉ (t.retire r.id).tokens := by
  constructor
  · exact wellFormed.getOrCreate_failed
  · exact wellFormed.insertOrGetLive_failed

end TableStore

namespace Sample

/-- A token of another tenant's device. -/
def foreignToken : Token :=
  { expiringToken 100 with id := "t1", tenant := ⟨"acme"⟩ }

/-- Tables with the token of the device, which expires, and the one of the other tenant. -/
def expiringTables : TableStore :=
  let first := TableStore.empty.run (.insertOrGetLive (expiringToken 100) (.ofSeconds 0))
  (first.2.run (.insertOrGetLive foreignToken (.ofSeconds 0))).2

theorem wellFormed_expiringTables : expiringTables.WellFormed where
  deviceIds := by decide +kernel
  identities := by decide +kernel
  tokenIds := by decide +kernel
  single :=
    (((Store.sound_empty .tables).run (.insertOrGetLive (expiringToken 100) (.ofSeconds 0))).run
      (.insertOrGetLive foreignToken (.ofSeconds 0))).single
  devicesRead := by decide +kernel
  tokensRead := by decide +kernel

/-- Another token for the device cannot have the id of the other tenant's, and its expired token is
left as it was. -/
theorem failed_writes_expiringTables :
    expiringTables.insertOrGetLive { expiringToken 200 with id := "t1" } (.ofSeconds 100) =
        (.error (.idTaken .tokens), expiringTables) ∧
      .ofToken (expiringToken 100) ∈ expiringTables.tokens := by
  obtain ⟨-, insertions⟩ := wellFormed_expiringTables.failed_writes
  obtain ⟨-, failed⟩ := insertions { expiringToken 200 with id := "t1" } (.ofSeconds 100)
  have refused : (expiringTables.insertOrGetLive { expiringToken 200 with id := "t1" }
      (.ofSeconds 100)).1 = .error (.idTaken .tokens) := by decide +kernel
  exact ⟨Prod.ext refused (failed _ refused).1, by decide +kernel⟩

/-- A failed write does not always leave the tables as they were: a device that is registered in the
year 10000 is refused and is there. -/
theorem not_always_undone : ¬∀ t : TableStore, t.WellFormed →
    (∀ (candidate : Device) (fault : StoreFault),
      (t.getOrCreate candidate).1 = .error fault → (t.getOrCreate candidate).2 = t) ∧
      ∀ (candidate : Token) (now : Instant) (fault : StoreFault),
        (t.insertOrGetLive candidate now).1 = .error fault →
          (t.insertOrGetLive candidate now).2 = t := by
  intro claim
  have wellFormed : TableStore.empty.WellFormed :=
    { deviceIds := by decide
      identities := by decide
      tokenIds := by decide
      single := (Store.sound_empty .tables).single
      devicesRead := by decide
      tokensRead := by decide }
  have failed : (TableStore.empty.getOrCreate lateDevice).1 =
      .error (.deviceUnreadable (.timeUnreadable 5)) := by decide +kernel
  have undone := (claim .empty wellFormed).1 lateDevice _ failed
  exact absurd undone (by decide +kernel)

end Sample

end DeviceAdmission
