import DeviceAdmission.Proofs.Store.Insertions
import DeviceAdmission.Proofs.Store.Ledger
import DeviceAdmission.Proofs.Store.Order

/-!
# What is accepted and what is given back

Calls with fresh ids lose nothing that is in the ledger. What is in it is given back exactly if its
times are legible, and where all times of all calls are, no call fails. The counterexample behind
the main statement is a token that expires in the year 10000.
-/

namespace DeviceAdmission

namespace Ledger

variable {α : Type} {l l' : Ledger} {t t' : TableStore} {c : StoreCall α} {given : List String}

/-! ## Ledgers and tables -/

/-- What holds of the ledger of calls with fresh ids and the tables that they lead to: every device
of the ledger has its row, and the rows of tokens are those of the ledger. -/
structure Matches (l : Ledger) (t : TableStore) (calls : List AnyCall) : Prop where
  devices : (l.devices.map DeviceRow.ofDevice).Sublist t.devices
  tokens : (Store.tables t).tokens = l.tokens.map Token.rowEntry
  distinct : (Store.tables t).Distinct (newDeviceIds calls)
  sound : (Store.tables t).Sound
  used : ∀ u ∈ l.tokens, u.id ∈ newTokenIds calls

theorem newDeviceIds_cons (c : AnyCall) (calls : List AnyCall) :
    newDeviceIds (c :: calls) = (c.2.newDevice?.map Device.id).toList ++ newDeviceIds calls := by
  simp only [newDeviceIds, List.filterMap_cons]
  cases c.2.newDevice?.map Device.id <;> rfl

theorem newTokenIds_cons (c : AnyCall) (calls : List AnyCall) :
    newTokenIds (c :: calls) = (c.2.candidate?.map Token.id).toList ++ newTokenIds calls := by
  simp only [newTokenIds, List.filterMap_cons]
  cases c.2.candidate?.map Token.id <;> rfl

/-- The ids of a call are none of those given before. -/
theorem fresh_of_cons {c : AnyCall} {calls : List AnyCall} (fresh : FreshIn (c :: calls)) :
    FreshIn calls ∧ (∀ d, c.2.newDevice? = some d → d.id ∉ newDeviceIds calls) ∧
      ∀ u, c.2.candidate? = some u → u.id ∉ newTokenIds calls := by
  have devices := fresh.devices
  have tokens := fresh.tokens
  rw [newDeviceIds_cons] at devices
  rw [newTokenIds_cons] at tokens
  refine ⟨⟨devices.of_append_right, tokens.of_append_right⟩, ?_, ?_⟩
  · intro d brought
    rw [brought, Option.map_some, Option.toList_some] at devices
    exact (List.nodup_cons.mp devices).1
  · intro u brought
    rw [brought, Option.map_some, Option.toList_some] at tokens
    exact (List.nodup_cons.mp tokens).1

theorem Matches.freshRows {calls : List AnyCall} (same : l.Matches t calls)
    (unused : ∀ d, c.newDevice? = some d → d.id ∉ newDeviceIds calls) :
    ∀ d, c.newDevice? = some d → ∀ r ∈ t.devices, r.id ≠ d.id := fun d brought r member =>
  same.distinct.id_ne (unused d brought) r.entry (List.mem_map_of_mem member)

theorem Matches.freshTokens {calls : List AnyCall} (same : l.Matches t calls)
    (unused : ∀ u, c.candidate? = some u → u.id ∉ newTokenIds calls) :
    ∀ u, c.candidate? = some u → ∀ e ∈ (Store.tables t).tokens, e.id ≠ u.id := by
  intro u brought e member sameId
  rw [same.tokens] at member
  obtain ⟨v, old, rfl⟩ := List.mem_map.mp member
  have sameId : v.id = u.id := sameId
  exact unused u brought (sameId ▸ same.used v old)

theorem DeviceStep.sublist (step : DeviceStep c l l' t t')
    (before : (l.devices.map DeviceRow.ofDevice).Sublist t.devices) :
    (l'.devices.map DeviceRow.ofDevice).Sublist t'.devices := by
  cases step with
  | same ledger rows =>
      rw [ledger, rows]
      exact before
  | @changed f g ledger rows agree legible =>
      have mapped : (l.devices.map f).map DeviceRow.ofDevice =
          (l.devices.map DeviceRow.ofDevice).map g := by
        rw [List.map_map, List.map_map]
        apply List.map_congr_left
        intro d member
        exact agree d (before.subset (List.mem_map_of_mem member))
      rw [ledger, rows, mapped]
      exact before.map g
  | added ledger rows legible =>
      rw [ledger, rows, List.map_append]
      exact before.append (.refl _)
  | unread brought illegible ledger rows =>
      rw [ledger, rows]
      exact before.trans (List.sublist_append_left _ _)

/-- A call with fresh ids keeps the match. -/
theorem Matches.note {c : AnyCall} {calls : List AnyCall} (same : l.Matches t calls)
    (unusedDevice : ∀ d, c.2.newDevice? = some d → d.id ∉ newDeviceIds calls)
    (unusedToken : ∀ u, c.2.candidate? = some u → u.id ∉ newTokenIds calls) :
    (l.note c.2 (t.run c.2).1).Matches (t.run c.2).2 (c :: calls) := by
  have deviceStep := l.deviceStep same.distinct (same.freshRows unusedDevice)
  have tokenStep := l.tokenStep c.2 same.sound (same.freshTokens unusedToken)
  constructor
  · exact deviceStep.sublist same.devices
  · exact tokenStep.tokens_eq same.tokens
  · rw [newDeviceIds_cons]
    exact same.distinct.run unusedDevice
  · exact same.sound.run c.2
  · intro u member
    rw [newTokenIds_cons]
    rcases tokenStep.exists_origin member with ⟨v, old, becomes⟩ | ⟨v, brought, rfl⟩
    · have sameId : u.id = v.id := by
        rcases becomes with rfl | rfl
        · rfl
        · rfl
      rw [sameId]
      exact List.mem_append_right _ (same.used v old)
    · rw [brought]
      exact List.mem_cons_self

theorem matches_of (calls : List AnyCall) (fresh : FreshIn calls) :
    (of calls).Matches (TableStore.after calls) calls := by
  induction calls with
  | nil =>
      constructor
      · exact .slnil
      · rfl
      · exact Store.distinct_empty .tables
      · exact Store.sound_empty .tables
      · rintro u ⟨⟩
  | cons c calls ih =>
      obtain ⟨earlier, unusedDevice, unusedToken⟩ := fresh_of_cons fresh
      exact (ih earlier).note unusedDevice unusedToken

/-! ## What is given back -/

/-- The row of a device of the ledger is found under its tenant and id. -/
theorem Matches.deviceRow?_eq {calls : List AnyCall} (same : l.Matches t calls) {d : Device}
    (member : d ∈ l.devices) : t.deviceRow? d.tenant d.id = some (.ofDevice d) := by
  have rowMem : DeviceRow.ofDevice d ∈ t.devices :=
    same.devices.subset (List.mem_map_of_mem member)
  refine find?_eq_some_of_unique rowMem ?_ ?_
  · simp [DeviceRow.isDevice, DeviceRow.ofDevice]
  · intro r rMem isIt
    simp only [DeviceRow.isDevice, Bool.and_eq_true, decide_eq_true_eq] at isIt
    exact same.distinct.row_eq_of_id rMem rowMem isIt.2

/-- A device of the ledger is given back exactly when its times are legible. -/
theorem Matches.givesDevice_iff {calls : List AnyCall} (same : l.Matches t calls) {d : Device}
    (member : d ∈ l.devices) : t.GivesDevice d ↔ d.isLegible = true := by
  have found := same.deviceRow?_eq member
  have rowMem : DeviceRow.ofDevice d ∈ t.devices :=
    same.devices.subset (List.mem_map_of_mem member)
  constructor
  · intro gives
    by_contra illegible
    obtain ⟨fault, read⟩ := DeviceRow.exists_read_ofDevice illegible
    have get := congrArg Prod.fst gives.get
    simp only [TableStore.run, found, TableStore.readFound, read] at get
    cases get
  · intro legible
    constructor
    · simp only [TableStore.run, found, TableStore.readFound, DeviceRow.read_ofDevice legible]
      rfl
    · intro c tenantEq dataEq
      have identified : t.devices.find? (DeviceRow.hasIdentity c.tenant c.identityData) =
          some (.ofDevice d) := by
        refine find?_eq_some_of_unique rowMem ?_ ?_
        · simp [DeviceRow.hasIdentity, DeviceRow.ofDevice, tenantEq, dataEq]
        · intro r rMem isIt
          simp only [DeviceRow.hasIdentity, Bool.and_eq_true, decide_eq_true_eq] at isIt
          exact same.distinct.row_eq_of_identity rMem rowMem (isIt.1.trans tenantEq)
            (isIt.2.trans dataEq)
      rw [TableStore.run, TableStore.getOrCreate_of_found identified, TableStore.answerRow,
        DeviceRow.read_ofDevice legible]

/-- What is outstanding of a device of a legible token is the row of this token. -/
theorem read_of_outstanding {u : Token} {tenant : Tenant} {deviceId : String}
    (sound : (Store.tables t).Sound) (member : u.entry ∈ (Store.tables t).tokens)
    (outstanding : u.isOutstanding tenant deviceId = true) :
    ∃ row, t.tokens.find? (TokenRow.isOutstanding tenant deviceId) = some row ∧
      row.read = .ok u := by
  cases found : t.tokens.find? (TokenRow.isOutstanding tenant deviceId) with
  | none =>
      obtain ⟨row, rowMem, rowEq⟩ := List.mem_map.mp member
      have notOut := List.find?_eq_none.mp found row rowMem
      rw [← TokenRow.isOutstanding_entry, rowEq] at notOut
      exact absurd outstanding notOut
  | some row =>
      have rowMem : row.entry ∈ (Store.tables t).tokens :=
        List.mem_map_of_mem (List.mem_of_find?_eq_some found)
      have rowOut : row.entry.isOutstanding tenant deviceId = true := by
        rw [TokenRow.isOutstanding_entry]
        exact List.find?_some found
      have same : row.entry = u.entry :=
        sound.single.eq_of_outstanding rowMem member rowOut outstanding
      refine ⟨row, rfl, ?_⟩
      change row.entry.read = .ok u
      rw [same, TokenEntry.read_entry]

/-- A token of the ledger is given back exactly when its times are legible. -/
theorem Matches.givesToken_iff {calls : List AnyCall} (same : l.Matches t calls) {u : Token}
    (member : u ∈ l.tokens) : t.GivesToken u ↔ u.isLegible = true := by
  have entryMem : u.rowEntry ∈ (Store.tables t).tokens := by
    rw [same.tokens]
    exact List.mem_map_of_mem member
  have found : (Store.tables t).tokens.find? (TokenEntry.isToken u.tenant u.id) =
      some u.rowEntry := by
    refine find?_eq_some_of_unique entryMem ?_ ?_
    · exact TokenEntry.isToken_iff.mpr ⟨rfl, rfl⟩
    · intro e eMem isIt
      exact List.inj_on_of_nodup_map (same.sound.unique rfl) eMem entryMem
        (TokenEntry.isToken_iff.mp isIt).2
  have get := Store.run_getToken (.tables t) u.tenant u.id
  rw [found] at get
  constructor
  · intro gives
    by_contra illegible
    obtain ⟨fault, read⟩ := Token.exists_read_rowEntry illegible
    simp only [Store.run, gives.get, TableStore.readFound, read] at get
    cases congrArg Prod.fst get
  · intro legible
    rw [Token.rowEntry_eq legible] at get entryMem
    constructor
    · have answer := congrArg Prod.fst get
      exact Prod.ext answer rfl
    · intro c now outstanding live
      obtain ⟨row, rowFound, read⟩ := read_of_outstanding same.sound entryMem outstanding
      simp [TableStore.run, TableStore.insertOrGetLive, TableStore.insertOrGetLiveSteps, rowFound,
        TableStore.readFound, read, live, Bind.bind, Except.bind, Except.map, Pure.pure,
        Except.pure]

/-! ## Legible calls -/

/-- Whether the rows of devices are those of the ledger and all its times are legible. -/
structure AllLegible (l : Ledger) (t : TableStore) : Prop where
  rows : t.devices = l.devices.map DeviceRow.ofDevice
  devices : ∀ d ∈ l.devices, d.isLegible = true
  tokens : ∀ u ∈ l.tokens, u.isLegible = true

theorem isLegible_of_newDevice? (legible : c.IsLegible) {d : Device}
    (brought : c.newDevice? = some d) : d.isLegible = true := by
  cases c with
  | getOrCreate candidate =>
      cases brought
      exact Device.isLegible_iff.mpr ⟨legible _ List.mem_cons_self,
        legible _ (List.mem_cons_of_mem _ List.mem_cons_self)⟩
  | _ => cases brought

theorem isLegible_of_candidate? (legible : c.IsLegible) {u : Token}
    (brought : c.candidate? = some u) : u.isLegible = true := by
  cases c with
  | insertOrGetLive candidate now =>
      cases brought
      exact Token.isLegible_iff.mpr ⟨legible _ List.mem_cons_self,
        legible _ (List.mem_cons_of_mem _ List.mem_cons_self)⟩
  | _ => cases brought

/-- A call whose times are legible keeps all times legible. -/
theorem AllLegible.step (before : l.AllLegible t) (deviceStep : DeviceStep c l l' t t')
    (tokenStep : TokenStep c l l' t t') (legible : c.IsLegible) : l'.AllLegible t' := by
  have tokens : ∀ u ∈ l'.tokens, u.isLegible = true := by
    intro u member
    rcases tokenStep.exists_origin member with ⟨v, old, becomes⟩ | ⟨v, brought, rfl⟩
    · rcases becomes with rfl | rfl
      · exact before.tokens u old
      · exact before.tokens v old
    · have broughtLegible : v.isLegible = true := isLegible_of_candidate? legible brought
      exact broughtLegible
  cases deviceStep with
  | same ledger rows =>
      refine ⟨?_, ?_, tokens⟩
      · rw [rows, ledger, before.rows]
      · rw [ledger]
        exact before.devices
  | @changed f g ledger rows agree changeLegible =>
      refine ⟨?_, ?_, tokens⟩
      · rw [rows, ledger, before.rows, List.map_map, List.map_map]
        apply List.map_congr_left
        intro d member
        exact (agree d (before.rows ▸ List.mem_map_of_mem member)).symm
      · intro d member
        rw [ledger] at member
        obtain ⟨e, old, rfl⟩ := List.mem_map.mp member
        exact changeLegible legible e (before.devices e old)
  | @added d ledger rows dLegible =>
      refine ⟨?_, ?_, tokens⟩
      · rw [rows, ledger, before.rows, List.map_append, List.map_singleton]
      · intro e member
        rw [ledger] at member
        rcases List.mem_append.mp member with old | new
        · exact before.devices e old
        · rw [List.mem_singleton.mp new]
          exact dLegible
  | unread brought illegible ledger rows =>
      exact absurd (isLegible_of_newDevice? legible brought) illegible

theorem allLegible_of (calls : List AnyCall) (fresh : FreshIn calls)
    (legible : ∀ c ∈ calls, c.2.IsLegible) : (of calls).AllLegible (TableStore.after calls) := by
  induction calls with
  | nil =>
      constructor
      · rfl
      · rintro d ⟨⟩
      · rintro u ⟨⟩
  | cons c calls ih =>
      obtain ⟨earlier, unusedDevice, unusedToken⟩ := fresh_of_cons fresh
      have before := ih earlier fun c member => legible c (List.mem_cons_of_mem _ member)
      have same := matches_of calls earlier
      exact before.step ((of calls).deviceStep same.distinct (same.freshRows unusedDevice))
        ((of calls).tokenStep c.2 same.sound (same.freshTokens unusedToken))
        (legible c List.mem_cons_self)

theorem entry_ofDevice {d : Device} (legible : d.isLegible = true) :
    (DeviceRow.ofDevice d).entry = d.entry := by
  have read := DeviceRow.read_ofDevice legible
  rw [← DeviceRow.read_entry] at read
  exact DeviceEntry.entry_of_read read

/-- A listing is the page of the ledger. -/
theorem AllLegible.run_listDevices (legible : l.AllLegible t) (tenant : Tenant)
    (skip limit : Nat) :
    t.run (.listDevices tenant skip limit) = (.ok (l.page tenant skip limit), t) := by
  have rows : t.tenantRows tenant = ((l.devices.filter (·.tenant = tenant)).mergeSort
      fun a b => a.id ≤ b.id).map DeviceRow.ofDevice := by
    rw [TableStore.tenantRows, legible.rows, List.filter_map, List.map_mergeSort]
    · rfl
    · intro a _ b _
      rfl
  simp only [TableStore.run, TableStore.listDevices, page, rows]
  by_cases far : maxOffset < skip
  · rw [if_pos far, if_pos far]
  · rw [if_neg far, if_neg far, ← List.map_drop, ← List.map_take]
    rw [Store.mapM_read_eq_ok]
    rw [List.map_map]
    apply List.map_congr_left
    intro d member
    have listed := List.mem_of_mem_drop (List.mem_of_mem_take member)
    have inLedger := (List.mem_filter.mp ((List.mergeSort_perm _ _).mem_iff.mp listed)).1
    exact entry_ofDevice (legible.devices d inLedger)

/-- No call with a fresh id and legible times fails. -/
theorem AllLegible.exists_answer {calls : List AnyCall} {c : AnyCall} (legible : l.AllLegible t)
    (same : l.Matches t calls)
    (unusedDevice : ∀ d, c.2.newDevice? = some d → d.id ∉ newDeviceIds calls)
    (unusedToken : ∀ u, c.2.candidate? = some u → u.id ∉ newTokenIds calls)
    (times : c.2.IsLegible) : ∃ a, (t.run c.2).1 = .ok a := by
  have readRow : ∀ r ∈ t.devices, ∃ d, r.read = .ok d := by
    intro r member
    rw [legible.rows] at member
    obtain ⟨d, dMem, rfl⟩ := List.mem_map.mp member
    exact ⟨d, DeviceRow.read_ofDevice (legible.devices d dMem)⟩
  have readable : ∀ e ∈ (Store.tables t).tokens, ∃ u : Token, e = u.entry := by
    intro e member
    rw [same.tokens] at member
    obtain ⟨u, uMem, rfl⟩ := List.mem_map.mp member
    exact ⟨u, Token.rowEntry_eq (legible.tokens u uMem)⟩
  obtain ⟨α, c⟩ := c
  cases c with
  | getOrCreate candidate =>
      simp only [TableStore.run]
      cases found : t.devices.find?
          (DeviceRow.hasIdentity candidate.tenant candidate.identityData) with
      | some row =>
          obtain ⟨d, read⟩ := readRow row (List.mem_of_find?_eq_some found)
          rw [TableStore.getOrCreate_of_found found, TableStore.answerRow, read]
          exact ⟨_, rfl⟩
      | none =>
          have fresh := same.freshRows unusedDevice candidate rfl
          have read := DeviceRow.read_ofDevice (isLegible_of_newDevice? times rfl)
          rw [TableStore.getOrCreate_of_none fresh found, TableStore.answerRow, read]
          exact ⟨_, rfl⟩
  | getDevice tenant id =>
      simp only [TableStore.run]
      cases found : t.deviceRow? tenant id with
      | none => exact ⟨_, rfl⟩
      | some row =>
          obtain ⟨d, read⟩ := readRow row (List.mem_of_find?_eq_some found)
          simp only [TableStore.readFound, read]
          exact ⟨_, rfl⟩
  | listDevices tenant skip limit =>
      rw [legible.run_listDevices]
      exact ⟨_, rfl⟩
  | updateStatus tenant id status now => exact ⟨_, rfl⟩
  | rotateKey tenant id key now => exact ⟨_, rfl⟩
  | insertOrGetLive candidate now =>
      obtain ⟨u, s', answer⟩ := Store.exists_run_insertOrGetLive same.sound now
        (fun e member _ => readable e member) (same.freshTokens unusedToken candidate rfl)
      exact ⟨u, congrArg Prod.fst answer⟩
  | getToken tenant id =>
      have answer := Store.run_getToken (.tables t) tenant id
      have answer := congrArg Prod.fst answer
      simp only [Store.run] at answer
      rw [answer]
      cases found : (Store.tables t).tokens.find? (TokenEntry.isToken tenant id) with
      | none => exact ⟨_, rfl⟩
      | some e =>
          obtain ⟨u, rfl⟩ := readable e (List.mem_of_find?_eq_some found)
          exact ⟨_, rfl⟩
  | revokeToken tenant id => exact ⟨_, rfl⟩
  | revokeDeviceTokens tenant deviceId => exact ⟨_, rfl⟩

/-! ## Main statement -/

/-- What tables give back after any calls with fresh ids. A device or token that they have accepted
is given back, as last updated, exactly if its times lie in the years 0 to 9999. If the calls have
brought no other times, all that was accepted is given back, a listing is the page of it, and the
next call with fresh ids and such times does not fail. -/
theorem reads_back (calls : List AnyCall) (fresh : FreshIn calls) :
    (∀ d ∈ (of calls).devices,
        (TableStore.after calls).GivesDevice d ↔ d.isLegible = true) ∧
      (∀ u ∈ (of calls).tokens, (TableStore.after calls).GivesToken u ↔ u.isLegible = true) ∧
      ((∀ c ∈ calls, c.2.IsLegible) →
        (∀ d ∈ (of calls).devices, (TableStore.after calls).GivesDevice d) ∧
        (∀ u ∈ (of calls).tokens, (TableStore.after calls).GivesToken u) ∧
        (∀ tenant skip limit, (TableStore.after calls).run (.listDevices tenant skip limit) =
          (.ok ((of calls).page tenant skip limit), TableStore.after calls)) ∧
        ∀ c, FreshIn (c :: calls) → c.2.IsLegible →
          ∃ a, ((TableStore.after calls).run c.2).1 = .ok a) := by
  have same := matches_of calls fresh
  refine ⟨fun d member => same.givesDevice_iff member, fun u member => same.givesToken_iff member,
    fun legible => ?_⟩
  have allLegible := allLegible_of calls fresh legible
  refine ⟨?_, ?_, allLegible.run_listDevices, ?_⟩
  · intro d member
    exact (same.givesDevice_iff member).mpr (allLegible.devices d member)
  · intro u member
    exact (same.givesToken_iff member).mpr (allLegible.tokens u member)
  · intro c freshNext times
    obtain ⟨-, unusedDevice, unusedToken⟩ := fresh_of_cons freshNext
    exact allLegible.exists_answer same unusedDevice unusedToken times

end Ledger

namespace Sample

/-- A device that is registered in the first second of 1970. -/
def earlyDevice : Device :=
  .firstSeen "d" .default "mac" "key" (.ofSeconds 0)

/-- A token of the device that expires in the second that is given. -/
def expiringToken (second : Int) : Token where
  id := "t"
  deviceId := "d"
  tenant := .default
  raw := "raw"
  issuedAt := .ofSeconds 0
  expiresAt := .ofSeconds second
  revoked := false

/-- The device is registered, and then the token is put. -/
def insertionCalls (second : Int) : List AnyCall :=
  [⟨_, .insertOrGetLive (expiringToken second) (.ofSeconds 0)⟩, ⟨_, .getOrCreate earlyDevice⟩]

/-- In the last second of the year 9999 the token may still expire. -/
theorem gives_insertionCalls :
    (TableStore.after (insertionCalls 253402300799)).GivesDevice earlyDevice ∧
      (TableStore.after (insertionCalls 253402300799)).GivesToken
        (expiringToken 253402300799) := by
  obtain ⟨devices, tokens, -⟩ := Ledger.reads_back (insertionCalls 253402300799)
    ⟨by decide +kernel, by decide +kernel⟩
  exact ⟨(devices earlyDevice (by decide +kernel)).mpr (by decide +kernel),
    (tokens (expiringToken 253402300799) (by decide +kernel)).mpr (by decide +kernel)⟩

/-- Not everything that is accepted is given back: a token that expires one second later cannot be
read again. -/
theorem not_given_back : ¬∀ calls : List AnyCall, FreshIn calls →
    (∀ c ∈ calls, ∀ time ∈ c.2.times, time.isInRange = true) →
      (∀ d ∈ (Ledger.of calls).devices, (TableStore.after calls).GivesDevice d) ∧
        ∀ u ∈ (Ledger.of calls).tokens, (TableStore.after calls).GivesToken u := by
  intro claim
  have inRange : ∀ c ∈ insertionCalls 253402300800, ∀ time ∈ c.2.times,
      time.isInRange = true := by
    simp only [insertionCalls, List.forall_mem_cons, StoreCall.times]
    exact ⟨⟨by decide, by decide, nofun⟩, ⟨by decide, by decide, nofun⟩, nofun⟩
  obtain ⟨-, tokens⟩ := claim (insertionCalls 253402300800)
    ⟨by decide +kernel, by decide +kernel⟩ inRange
  have gives := tokens (expiringToken 253402300800) (by decide +kernel)
  exact absurd gives.get (by decide +kernel)

end Sample

end DeviceAdmission
