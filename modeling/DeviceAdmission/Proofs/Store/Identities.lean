import DeviceAdmission.Proofs.Store.Readback
import DeviceAdmission.Proofs.Store.Sight

/-!
# Identities

A device is known by what it says it is, within its tenant. The first candidate that brings an
identity gives the device its id, and every later one is answered with this device as it is stored
then. In memory an index leads from identities to ids; every entry of it is of a device that is
there, so no device is registered for an identity that is indexed already.
-/

namespace DeviceAdmission

/-- The stores that calls lead to from an empty one, the latest call first. The order of the tokens
in memory may change between them. -/
inductive Store.After (kind : StoreKind) : List AnyCall → Store → Prop where
  | empty : After kind [] (.empty kind)
  | call {calls : List AnyCall} {s : Store} (before : After kind calls s) (c : AnyCall) :
      After kind (c :: calls) (s.run c.2).2
  | rearranged {calls : List AnyCall} {s s' : Store} (before : After kind calls s)
      (order : s.Rearranged s') : After kind calls s'

/-- The candidate that was the first to bring an identity, of calls with the latest first. -/
def firstCandidate? (tenant : Tenant) (identityData : String) : List AnyCall → Option Device
  | [] => none
  | c :: earlier =>
    (firstCandidate? tenant identityData earlier).or
      (c.2.newDevice?.filter fun d => d.tenant = tenant && d.identityData = identityData)

theorem firstCandidate?_cons_of_none {c : AnyCall} {tenant : Tenant} {identityData : String}
    (none : c.2.newDevice? = none) (calls : List AnyCall) :
    firstCandidate? tenant identityData (c :: calls) =
      firstCandidate? tenant identityData calls := by
  rw [firstCandidate?, none, Option.filter_none, Option.or_none]

/-- A candidate is the first to bring its identity, or one before it was. Other identities are not
affected. -/
theorem firstCandidate?_cons_getOrCreate (candidate : Device) (calls : List AnyCall)
    (tenant : Tenant) (identityData : String) :
    firstCandidate? tenant identityData (⟨_, .getOrCreate candidate⟩ :: calls) =
      (firstCandidate? tenant identityData calls).or
        (if candidate.tenant = tenant ∧ candidate.identityData = identityData then some candidate
          else none) := by
  simp only [firstCandidate?, StoreCall.newDevice?, Option.filter, Bool.and_eq_true,
    decide_eq_true_eq]

namespace Store

open DeviceEntry

variable {kind : StoreKind} {s s' : Store} {calls : List AnyCall} {ids : List String}

/-! ## Names -/

/-- A call that brings no device leaves the names. -/
theorem Distinct.names_run {α : Type} {c : StoreCall α} (distinct : s.Distinct ids)
    (none : c.newDevice? = none) : (s.run c).2.names = s.names := by
  by_cases spares : c.sparesCards = true
  · rw [names_eq_map_cards, names_eq_map_cards, (sameCards_run s spares).cards]
  cases c with
  | getOrCreate candidate => cases none
  | rotateKey tenant id key now =>
      have sameNames : ∀ e, (withKey key (s.kind.kept 6 now) e).names = e.names := fun _ => rfl
      rw [names, (distinct.run_rotateKey tenant id key now).2.1, map_names_changeWhere sameNames]
      rfl
  | _ => exact absurd rfl spares

/-- The ids of the devices are those that the first candidates brought. -/
structure Identified (s : Store) (calls : List AnyCall) : Prop where
  distinct : s.Distinct (newDeviceIds calls)
  first : ∀ tenant identityData id, ((tenant, identityData), id) ∈ s.names ↔
    ∃ d, firstCandidate? tenant identityData calls = some d ∧ d.id = id

theorem identified_empty (kind : StoreKind) : (Store.empty kind).Identified [] := by
  refine ⟨distinct_empty kind, fun tenant identityData id => ?_⟩
  rw [names, devices_empty]
  constructor
  · rintro ⟨⟩
  · rintro ⟨d, ⟨⟩, -⟩

theorem Identified.of_names (identified : s.Identified calls) (same : s.SameDevices s') :
    s'.Identified calls := by
  refine ⟨identified.distinct.of_sameCards same.sameCards, fun tenant identityData id => ?_⟩
  rw [names, same.devices]
  exact identified.first tenant identityData id

/-- A device with the identity is the one that the first candidate registered. -/
theorem Identified.exists_known (identified : s.Identified calls) {tenant : Tenant}
    {identityData : String} {d : Device}
    (first : firstCandidate? tenant identityData calls = some d) :
    ∃ e ∈ s.devices, e.id = d.id ∧ e.hasIdentity tenant identityData = true := by
  have member := (identified.first tenant identityData d.id).mpr ⟨d, first, rfl⟩
  obtain ⟨e, eMem, namesEq⟩ := List.mem_map.mp member
  obtain ⟨identity, idEq⟩ := Prod.mk.inj namesEq
  exact ⟨e, eMem, idEq, hasIdentity_iff.mpr (Prod.mk.inj identity)⟩

/-- Where no candidate brought the identity, no device has it. -/
theorem Identified.unknown (identified : s.Identified calls) {tenant : Tenant}
    {identityData : String} (none : firstCandidate? tenant identityData calls = none) :
    ∀ e ∈ s.devices, e.hasIdentity tenant identityData = false := by
  intro e member
  cases known : e.hasIdentity tenant identityData with
  | false => rfl
  | true =>
      obtain ⟨rfl, rfl⟩ := hasIdentity_iff.mp known
      obtain ⟨d, first, -⟩ :=
        (identified.first e.tenant e.identityData e.id).mp (List.mem_map_of_mem member)
      rw [none] at first
      cases first

/-- A candidate whose identity is known changes neither the names nor which candidates were
first. -/
theorem Identified.getOrCreate_known {candidate d : Device} (identified : s.Identified calls)
    (first : firstCandidate? candidate.tenant candidate.identityData calls = some d)
    (tenant : Tenant) (identityData : String) :
    (s.run (.getOrCreate candidate)).2 = s ∧
      firstCandidate? tenant identityData (⟨_, .getOrCreate candidate⟩ :: calls) =
        firstCandidate? tenant identityData calls := by
  obtain ⟨e, member, -, identity⟩ := identified.exists_known first
  constructor
  · rw [identified.distinct.getOrCreate_known member identity]
  · rw [firstCandidate?_cons_getOrCreate]
    split
    · rename_i own
      obtain ⟨rfl, rfl⟩ := own
      rw [first, Option.some_or]
    · rw [Option.or_none]

/-- A candidate whose identity is unknown is the first to bring it. -/
theorem Identified.getOrCreate_unknown {candidate : Device} (identified : s.Identified calls)
    (fresh : candidate.id ∉ newDeviceIds calls)
    (none : firstCandidate? candidate.tenant candidate.identityData calls = none)
    (tenant : Tenant) (identityData id : String) :
    ((tenant, identityData), id) ∈ (s.run (.getOrCreate candidate)).2.names ↔
      ∃ d, firstCandidate? tenant identityData (⟨_, .getOrCreate candidate⟩ :: calls) = some d ∧
        d.id = id := by
  obtain ⟨-, devices⟩ := identified.distinct.getOrCreate_unknown fresh (identified.unknown none)
  have inNames : ((tenant, identityData), id) ∈ (s.run (.getOrCreate candidate)).2.names ↔
      ((tenant, identityData), id) = candidate.entry.names ∨
        ((tenant, identityData), id) ∈ s.names := by
    rw [names, (devices.map DeviceEntry.names).mem_iff, List.map_cons, List.mem_cons,
      StoreKind.names_deviceEntry]
    rfl
  rw [inNames, identified.first, firstCandidate?_cons_getOrCreate]
  split
  · rename_i own
    obtain ⟨rfl, rfl⟩ := own
    rw [none, Option.none_or]
    constructor
    · rintro (namesEq | ⟨d, ⟨⟩, -⟩)
      exact ⟨candidate, rfl, (congrArg Prod.snd namesEq).symm⟩
    · rintro ⟨d, first, rfl⟩
      cases first
      exact .inl rfl
  · rename_i other
    rw [Option.or_none]
    constructor
    · rintro (namesEq | known)
      · have identity := Prod.mk.inj (congrArg Prod.fst namesEq)
        exact absurd ⟨identity.1.symm, identity.2.symm⟩ other
      · exact known
    · exact .inr

/-- A call with a fresh id keeps the ids those that the first candidates brought. -/
theorem Identified.call (identified : s.Identified calls) {c : AnyCall}
    (fresh : ∀ d, c.2.newDevice? = some d → d.id ∉ newDeviceIds calls) :
    (s.run c.2).2.Identified (c :: calls) := by
  refine ⟨?_, fun tenant identityData id => ?_⟩
  · rw [Ledger.newDeviceIds_cons]
    exact identified.distinct.run fresh
  obtain ⟨α, c⟩ := c
  cases brought : c.newDevice? with
  | none =>
      rw [identified.distinct.names_run brought, firstCandidate?_cons_of_none brought]
      exact identified.first tenant identityData id
  | some candidate =>
      cases c with
      | getOrCreate candidate =>
          cases first : firstCandidate? candidate.tenant candidate.identityData calls with
          | some d =>
              obtain ⟨left, same⟩ := identified.getOrCreate_known first tenant identityData
              rw [same, left]
              exact identified.first tenant identityData id
          | none =>
              exact identified.getOrCreate_unknown (fresh candidate rfl) first tenant
                identityData id
      | _ => cases brought

theorem After.identified (after : After kind calls s) (fresh : (newDeviceIds calls).Nodup) :
    s.Identified calls := by
  induction after with
  | empty => exact identified_empty kind
  | @call calls s before c ih =>
      rw [Ledger.newDeviceIds_cons] at fresh
      refine (ih fresh.of_append_right).call fun d brought => ?_
      rw [brought, Option.map_some, Option.toList_some] at fresh
      exact (List.nodup_cons.mp fresh).1
  | rearranged before order ih => exact (ih fresh).of_names order.sameDevices

theorem After.kind_eq (after : After kind calls s) : s.kind = kind := by
  induction after with
  | empty => cases kind <;> rfl
  | call before c ih => exact (kind_run _ c.2).trans ih
  | rearranged before order ih => exact order.sameDevices.kind.trans ih

/-! ## What can be read -/

/-- The tables after some calls are determined by these. -/
theorem After.eq_tables (after : After .tables calls s) : s = tables (TableStore.after calls) := by
  induction after with
  | empty => rfl
  | call before c ih =>
      rw [ih]
      rfl
  | rearranged before order ih =>
      rw [ih] at order
      cases order

/-- The devices can be read, in tables if the calls brought only legible times. -/
theorem After.exists_entry (after : After kind calls s) (fresh : FreshIn calls)
    (legible : kind = .tables → ∀ c ∈ calls, c.2.IsLegible) :
    ∀ e ∈ s.devices, ∃ d : Device, e = d.entry := by
  intro e member
  cases kind with
  | memory =>
      cases s with
      | memory m =>
          obtain ⟨d, -, rfl⟩ := List.mem_map.mp member
          exact ⟨d, rfl⟩
      | tables t => cases after.kind_eq
  | tables =>
      rw [after.eq_tables] at member
      have all := Ledger.allLegible_of calls fresh (legible rfl)
      obtain ⟨row, rowMem, rfl⟩ := List.mem_map.mp member
      rw [all.rows] at rowMem
      obtain ⟨d, dMem, rfl⟩ := List.mem_map.mp rowMem
      exact ⟨d, Ledger.entry_ofDevice (all.devices d dMem)⟩

end Store

/-! ## The index in memory -/

/-- Whether the index and the devices of a store in memory stand for each other: each device is
indexed, each entry of the index is of a device, and no identity and no id occurs twice. -/
structure MemoryStore.Corresponds (m : MemoryStore) : Prop where
  perm : m.identities.Perm (m.devices.map fun d => ((d.tenant, d.identityData), d.id))
  identities : (m.identities.map Prod.fst).Nodup
  ids : (m.identities.map Prod.snd).Nodup
  /-- What is looked up through the index is there, so it is never registered again. -/
  leads : ∀ identity id, m.identity? identity = some id →
    ∃ d, m.device? identity.1 id = some d ∧ d.tenant = identity.1 ∧ d.identityData = identity.2

theorem Store.Distinct.corresponds {m : MemoryStore} {ids : List String}
    (distinct : (Store.memory m).Distinct ids) : m.Corresponds := by
  have indexed : m.identities.Perm (Store.memory m).names := distinct.indexed rfl
  have perm : m.identities.Perm
      (m.devices.map fun d => ((d.tenant, d.identityData), d.id)) := by
    rw [names, devices, List.map_map] at indexed
    exact indexed
  refine ⟨perm, (indexed.map Prod.fst).nodup_iff.mpr distinct.uniqueIdentity,
    (indexed.map Prod.snd).nodup_iff.mpr distinct.uniqueId, ?_⟩
  intro identity id found
  obtain ⟨n, nFound, idEq⟩ := Option.map_eq_some_iff.mp found
  have named : n.1 = identity := by simpa using List.find?_some nFound
  obtain ⟨d, dMem, namesEq⟩ := List.mem_map.mp (perm.mem_iff.mp (List.mem_of_find?_eq_some nFound))
  rw [← namesEq] at named idEq
  have answer := distinct.registered.run_getDevice (d := d) (List.mem_map_of_mem dMem)
  simp only [Store.run, MemoryStore.run, Prod.mk.injEq, and_true, Except.ok.injEq] at answer
  rw [← named, ← idEq]
  exact ⟨d, answer, rfl, rfl⟩

/-! ## Main statement -/

namespace Store

variable {kind : StoreKind} {s : Store} {calls : List AnyCall}

/-- Identity is unique and stable. For all calls with fresh ids to a store of either kind, no two
devices of a tenant have the same identity data. The next candidate is created exactly where it is
the first to bring its identity: then it joins the devices. Otherwise the answer is the device that
the first candidate with this identity registered, as it is stored now, and the store is left as it
is. In memory both are always answered, in tables where the times that the calls bring are of the
years 0 to 9999. In memory the index and the devices stand for each other. -/
theorem After.identity_stable (after : After kind calls s) (fresh : FreshIn calls) :
    (s.devices.map fun e => (e.tenant, e.identityData)).Nodup ∧
      (∀ d, firstCandidate? d.tenant d.identityData calls = none → d.id ∉ newDeviceIds calls →
        (s.run (.getOrCreate d)).1 = (kind.deviceEntry d).sighted true ∧
          (s.run (.getOrCreate d)).2.devices.Perm (kind.deviceEntry d :: s.devices) ∧
          ((kind = .tables → (StoreCall.getOrCreate d).IsLegible) →
            (s.run (.getOrCreate d)).1 = .ok (d, true))) ∧
      (∀ d first, firstCandidate? d.tenant d.identityData calls = some first →
        ∃ e ∈ s.devices, e.id = first.id ∧ e.tenant = d.tenant ∧
          e.identityData = d.identityData ∧ s.run (.getOrCreate d) = (e.sighted false, s) ∧
          ((kind = .tables → ∀ c ∈ calls, c.2.IsLegible) →
            ∃ stored : Device, e = stored.entry ∧
              s.run (.getOrCreate d) = (.ok (stored, false), s))) ∧
      ∀ m, s = .memory m → m.Corresponds := by
  have identified := after.identified fresh.devices
  have distinct := identified.distinct
  refine ⟨?_, ?_, ?_, ?_⟩
  · have unique := distinct.uniqueIdentity
    rw [names, List.map_map] at unique
    exact unique
  · intro d none freshId
    have seen := distinct.getOrCreate_unknown freshId (identified.unknown none)
    rw [after.kind_eq] at seen
    refine ⟨seen.1, seen.2, fun legible => ?_⟩
    rw [seen.1, StoreKind.deviceEntry_eq]
    · rfl
    · intro isTables
      have times := legible isTables
      exact ⟨times _ List.mem_cons_self, times _ (List.mem_cons_of_mem _ List.mem_cons_self)⟩
  · intro d first known
    obtain ⟨e, member, idEq, identity⟩ := identified.exists_known known
    have answer := distinct.getOrCreate_known member identity
    obtain ⟨tenantEq, identityEq⟩ := DeviceEntry.hasIdentity_iff.mp identity
    refine ⟨e, member, idEq, tenantEq, identityEq, answer, fun legible => ?_⟩
    obtain ⟨stored, rfl⟩ := after.exists_entry fresh legible e member
    exact ⟨stored, rfl, answer⟩
  · rintro m rfl
    exact distinct.corresponds

end Store

namespace Sample

/-- The device that has registered early. -/
def registration : List AnyCall :=
  [⟨_, .getOrCreate earlyDevice⟩]

/-- The tables with the device. -/
def earlyStore : Store :=
  ((Store.empty .tables).run (.getOrCreate earlyDevice)).2

/-- Another candidate with the identity of the device is answered with the device. -/
theorem identity_stable_earlyDevice :
    Store.After .tables registration earlyStore ∧ FreshIn registration ∧
      earlyStore.run (.getOrCreate { earlyDevice with id := "e" }) =
        (.ok (earlyDevice, false), earlyStore) := by
  have after : Store.After .tables registration earlyStore := Store.After.empty.call _
  have fresh : FreshIn registration := ⟨by decide +kernel, by decide +kernel⟩
  have legible : ∀ c ∈ registration, c.2.IsLegible := by
    simp only [registration, List.forall_mem_cons, StoreCall.IsLegible, StoreCall.times]
    exact ⟨⟨by decide, by decide, List.forall_mem_nil _⟩, List.forall_mem_nil _⟩
  obtain ⟨-, -, known, -⟩ := after.identity_stable fresh
  obtain ⟨e, eMem, -, -, -, -, read⟩ := known { earlyDevice with id := "e" } earlyDevice (by decide)
  obtain ⟨stored, rfl, answer⟩ := read fun _ => legible
  have only : ∀ e ∈ earlyStore.devices, e.read.toOption = some earlyDevice := by decide +kernel
  have same : stored = earlyDevice := Option.some.inj (only _ eMem)
  rw [same] at answer
  exact ⟨after, fresh, answer⟩

/-- A device that is registered in the first second of the year 10000. -/
def lateDevice : Device :=
  .firstSeen "d" .default "mac" "key" (.ofSeconds 253402300800)

/-- Tables do not always answer the first candidate with an identity: in the year 10000 it is
registered, and cannot be read. -/
theorem not_always_created : ¬∀ (kind : StoreKind) (calls : List AnyCall) (s : Store) (d : Device),
    Store.After kind calls s → FreshIn (⟨_, .getOrCreate d⟩ :: calls) →
    (∀ time ∈ (StoreCall.getOrCreate d).times, time.isInRange = true) →
    firstCandidate? d.tenant d.identityData calls = none →
      ∃ stored, (s.run (.getOrCreate d)).1 = .ok (stored, true) := by
  intro claim
  have inRange : ∀ time ∈ (StoreCall.getOrCreate lateDevice).times, time.isInRange = true := by
    simp only [StoreCall.times, List.forall_mem_cons]
    exact ⟨by decide, by decide, List.forall_mem_nil _⟩
  obtain ⟨stored, answer⟩ := claim .tables [] (.empty .tables) lateDevice .empty
    ⟨by decide +kernel, by decide +kernel⟩ inRange rfl
  have failed : ((Store.empty .tables).run (.getOrCreate lateDevice)).1.toOption = none := by
    decide +kernel
  rw [answer] at failed
  cases failed

end Sample

end DeviceAdmission
