import DeviceAdmission.Proofs.Store.Order
import DeviceAdmission.Proofs.Store.Reached
import DeviceAdmission.Proofs.Text.Utf8

/-!
# What a listing answers

In every store that calls lead to the ids of a tenant's devices are different, so a listing is in
the strict order of ids, which is that of their bytes. A call for a part of a listing reads the
devices of that part: it is answered with them exactly if each of them can be read. All this is so
whatever times the store was given.
-/

namespace DeviceAdmission

namespace TableStore

variable {t : TableStore}

/-- Whether the rows of devices have different ids. -/
def HasKeys (t : TableStore) : Prop :=
  (t.devices.map DeviceRow.id).Nodup

theorem HasKeys.change {p : DeviceRow → Bool} {f : DeviceRow → DeviceRow} {tokens : List TokenRow}
    (keys : t.HasKeys) (same : ∀ r, (f r).id = r.id) :
    HasKeys ⟨t.devices.map fun r => if p r then f r else r, tokens⟩ := by
  have ids : (t.devices.map fun r => if p r then f r else r).map DeviceRow.id =
      t.devices.map DeviceRow.id := by
    rw [List.map_map]
    apply List.map_congr_left
    intro r _
    simp only [Function.comp]
    split
    · exact same r
    · rfl
  rw [HasKeys, ids]
  exact keys

/-- A row is added only under an id that no other row has. -/
theorem HasKeys.addDevice {candidate : Device} {t' : TableStore} {created : Bool}
    (keys : t.HasKeys) (added : t.addDevice candidate = .ok (t', created)) : t'.HasKeys := by
  unfold TableStore.addDevice at added
  split at added
  · cases added
    exact keys
  · split at added
    · cases added
    · rename_i free
      cases added
      rw [HasKeys, List.map_append, List.map_singleton]
      refine List.nodup_append.mpr ⟨keys, List.nodup_singleton _, ?_⟩
      rintro id old id' new rfl
      obtain ⟨r, member, idEq⟩ := List.mem_map.mp old
      rw [List.mem_singleton.mp new] at idEq
      exact free (List.any_eq_true.mpr ⟨r, member, decide_eq_true idEq⟩)

theorem HasKeys.getOrCreate (keys : t.HasKeys) (candidate : Device) :
    (t.getOrCreate candidate).2.HasKeys := by
  unfold TableStore.getOrCreate
  cases added : t.addDevice candidate with
  | error fault => exact keys
  | ok result =>
      have kept := keys.addDevice added
      dsimp only
      split
      · exact kept
      · split
        · exact kept
        · exact kept

/-- Every call keeps the ids of rows different. -/
theorem HasKeys.run {α : Type} (keys : t.HasKeys) (c : StoreCall α) : (t.run c).2.HasKeys := by
  cases c with
  | getOrCreate candidate => exact keys.getOrCreate candidate
  | getDevice tenant id => exact keys
  | listDevices tenant skip limit => exact keys
  | updateStatus tenant id status now => exact keys.change fun _ => rfl
  | rotateKey tenant id key now => exact keys.change fun _ => rfl
  | insertOrGetLive candidate now =>
      rw [HasKeys, TableStore.run, t.devices_insertOrGetLive candidate now]
      exact keys
  | getToken tenant id => exact keys
  | revokeToken tenant id => exact keys
  | revokeDeviceTokens tenant deviceId => exact keys

end TableStore

namespace Store

open DeviceEntry

variable {s : Store} {kind : StoreKind} {tenant : Tenant}

/-- The devices of a tenant. -/
def devicesOf (s : Store) (tenant : Tenant) : List DeviceEntry :=
  s.devices.filter (·.tenant = tenant)

theorem length_listing (s : Store) (tenant : Tenant) :
    (s.listing tenant).length = (s.devicesOf tenant).length :=
  (perm_listing s tenant).length_eq

/-- Whether the devices of a tenant are told apart by their ids, and are in order if they are in
memory. -/
def HasKeys : Store → Prop
  | memory m => MemoryStore.Ordered m.devices
  | tables t => t.HasKeys

theorem HasKeys.ordered (keys : s.HasKeys) : s.Ordered := by
  cases s with
  | memory m => exact keys
  | tables t => trivial

theorem HasKeys.run {α : Type} (keys : s.HasKeys) (c : StoreCall α) : (s.run c).2.HasKeys := by
  cases s with
  | memory m => exact (HasKeys.ordered (s := .memory m) keys).run c
  | tables t => exact TableStore.HasKeys.run keys c

/-- In every store that calls lead to, ids tell devices apart. -/
theorem Reached.hasKeys (reached : Reached kind s) : s.HasKeys := by
  induction reached with
  | empty =>
      cases kind with
      | memory => exact List.Pairwise.nil
      | tables => exact List.nodup_nil
  | call before c ih => exact ih.run c
  | rearranged before order ih =>
      cases order with
      | memory perm => exact ih

theorem HasKeys.nodup_listing (keys : s.HasKeys) (tenant : Tenant) :
    ((s.listing tenant).map DeviceEntry.id).Nodup := by
  cases s with
  | memory m =>
      have sorted : MemoryStore.Ordered (m.devices.filter (·.tenant = tenant)) :=
        List.Pairwise.filter _ keys
      rw [Store.listing, List.map_map, List.Nodup, List.pairwise_map]
      apply sorted.imp_of_mem
      intro d e dMem eMem first sameId
      have sameId : d.id = e.id := sameId
      have sameTenant : d.tenant = e.tenant := by
        rw [of_decide_eq_true (List.mem_filter.mp dMem).2,
          of_decide_eq_true (List.mem_filter.mp eMem).2]
      rcases MemoryStore.precedes_iff.mp first with other | ⟨-, less⟩
      · exact absurd (sameTenant ▸ other) (String.lt_irrefl _)
      · exact absurd (sameId ▸ less) (String.lt_irrefl _)
  | tables t =>
      have rows : ((t.tenantRows tenant).map DeviceRow.id).Nodup := by
        have perm : (t.tenantRows tenant).Perm (t.devices.filter (·.tenant = tenant)) :=
          List.mergeSort_perm _ _
        exact (perm.map DeviceRow.id).nodup_iff.mpr
          (List.Nodup.sublist (List.filter_sublist.map _) keys)
      rw [Store.listing, List.map_map]
      exact rows

/-- A listing is in the strict order of the bytes of ids. -/
theorem HasKeys.listing (keys : s.HasKeys) (tenant : Tenant) :
    (s.listing tenant).Pairwise fun e f => Utf8.encode e.id < Utf8.encode f.id := by
  have different := List.pairwise_map.mp (keys.nodup_listing tenant)
  apply (keys.ordered.listing tenant).imp₂ ?_ different
  intro e f least other
  exact Utf8.encode_lt_encode (String.not_le.mp fun most => other (String.le_antisymm least most))

/-! ## Parts of a listing -/

/-- Entries are read as devices exactly if they are the entries of these devices. -/
theorem mapM_read_eq_ok_iff {entries : List DeviceEntry} {found : List Device} :
    entries.mapM DeviceEntry.read = .ok found ↔ entries = found.map Device.entry := by
  induction entries generalizing found with
  | nil =>
      rw [List.mapM_nil, eq_comm (b := List.map _ _), List.map_eq_nil_iff]
      constructor
      · intro answer
        cases answer
        rfl
      · rintro rfl
        rfl
  | cons e rest ih =>
      rw [List.mapM_cons]
      constructor
      · intro answer
        cases head : e.read with
        | error fault =>
            rw [head] at answer
            cases answer
        | ok d =>
            cases tail : rest.mapM DeviceEntry.read with
            | error fault =>
                rw [head, tail] at answer
                cases answer
            | ok others =>
                rw [head, tail] at answer
                cases answer
                rw [List.map_cons, entry_of_read head, ih.mp tail]
      · intro entries
        cases found with
        | nil => cases entries
        | cons d others =>
            obtain ⟨rfl, restEq⟩ := List.cons.inj entries
            rw [read_entry, ih.mpr restEq]
            rfl

/-- A call for a part of a listing reads the entries of that part, where an offset can count the
listing. -/
theorem run_listDevices_eq (few : (s.listing tenant).length ≤ maxOffset) (skip limit : Nat) :
    s.run (.listDevices tenant skip limit) =
      ((((s.listing tenant).drop skip).take limit).mapM DeviceEntry.read, s) := by
  cases s with
  | memory m =>
      have read : (((listing (memory m) tenant).drop skip).take limit).mapM DeviceEntry.read =
          .ok (m.listDevices tenant skip limit) := by
        rw [mapM_read_eq_ok_iff, MemoryStore.listDevices, listing, List.map_take, List.map_drop]
      rw [read]
      rfl
  | tables t =>
      rw [listing, List.length_map] at few
      have read : ∀ rows : List DeviceRow,
          (rows.map DeviceRow.entry).mapM DeviceEntry.read = rows.mapM DeviceRow.read := by
        intro rows
        rw [List.mapM_map]
        rfl
      simp only [run, TableStore.run, TableStore.listDevices, listing]
      rw [← List.map_drop, ← List.map_take, read]
      by_cases far : maxOffset < skip
      · rw [if_pos far, List.drop_eq_nil_of_le (Nat.le_trans few (Nat.le_of_lt far)), List.take_nil]
        rfl
      · have rest : ((t.tenantRows tenant).drop skip).length ≤ maxOffset := by
          rw [List.length_drop]
          exact Nat.le_trans (Nat.sub_le _ _) few
        rw [if_neg far, ← List.take_take, List.take_of_length_le rest]

theorem Reached.kind_eq (reached : Reached kind s) : s.kind = kind := by
  induction reached with
  | empty => cases kind <;> rfl
  | call before c ih => rw [kind_run, ih]
  | rearranged before order ih => rw [order.sameDevices.kind, ih]

/-- In memory all devices of a listing can be read, and in tables if the rows can. -/
theorem Reached.exists_map_entry_listing (reached : Reached kind s)
    (legible : kind = .tables → ∀ e ∈ s.devicesOf tenant, ∃ d : Device, e = d.entry) :
    ∃ all : List Device, s.listing tenant = all.map Device.entry := by
  cases s with
  | memory m => exact ⟨_, rfl⟩
  | tables t =>
      apply exists_map_entry
      intro e member
      exact legible reached.kind_eq.symm e ((perm_listing _ tenant).mem_iff.mp member)

/-! ## Stores without faults -/

/-- Whether no call for a part of a listing fails. -/
def AnswersListings (s : Store) : Prop :=
  ∀ tenant skip limit, ∃ found, (s.run (.listDevices tenant skip limit)).1 = .ok found

theorem answersListings_memory (m : MemoryStore) : (memory m).AnswersListings :=
  fun _ _ _ => ⟨_, rfl⟩

/-- A store that answers every call for a part of a listing reads all devices of it. -/
theorem AnswersListings.exists_map_entry (answers : s.AnswersListings)
    (few : (s.listing tenant).length ≤ maxOffset) :
    ∃ all : List Device, s.listing tenant = all.map Device.entry := by
  obtain ⟨all, answer⟩ := answers tenant 0 (s.listing tenant).length
  rw [run_listDevices_eq few, List.drop_zero, List.take_length] at answer
  exact ⟨all, mapM_read_eq_ok_iff.mp answer⟩

end Store

end DeviceAdmission
