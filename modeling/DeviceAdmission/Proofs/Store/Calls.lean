import DeviceAdmission.Proofs.Store.Entries
import DeviceAdmission.Store.Gap

/-!
# Calls that concern tokens

What each call answers and leaves, in terms of the entries of a store. The calls about devices leave
the tokens as they were and the calls about tokens the devices. The main statement is about
`insertOrGetLive`: it fails without an effect, or gives the one live token of the device and leaves
everything, or revokes what has expired and puts the candidate.
-/

namespace DeviceAdmission

/-- How a time is read back from a store that keeps it in the column of a row. -/
def StoreKind.kept : StoreKind → (column : Nat) → Instant → Except StoreFault Instant
  | memory, _, t => .ok t
  | tables, column, t => readTimestamp column (timestamp t)

/-- The entry that a new token becomes. -/
def StoreKind.tokenEntry : StoreKind → Token → TokenEntry
  | memory, t => t.entry
  | tables, t => (TokenRow.ofToken t).entry

namespace Store

/-- The index of a store in memory. A store in tables has none. -/
def identities : Store → List ((Tenant × String) × String)
  | memory m => m.identities
  | tables _ => []

/-- Two stores with the same devices. -/
structure SameDevices (s s' : Store) : Prop where
  kind : s'.kind = s.kind
  devices : s'.devices = s.devices
  identities : s'.identities = s.identities

/-- Two stores with the same tokens. -/
structure SameTokens (s s' : Store) : Prop where
  kind : s'.kind = s.kind
  tokens : s'.tokens = s.tokens

theorem SameDevices.refl (s : Store) : s.SameDevices s :=
  ⟨rfl, rfl, rfl⟩

theorem SameTokens.refl (s : Store) : s.SameTokens s :=
  ⟨rfl, rfl⟩

theorem SameTokens.trans {s s' s'' : Store} (first : s.SameTokens s')
    (second : s'.SameTokens s'') : s.SameTokens s'' := by
  constructor
  · exact second.kind.trans first.kind
  · exact second.tokens.trans first.tokens

end Store

open TokenEntry

/-! ## Entries of both kinds of stores -/

section Entries

variable {tenant : Tenant} {deviceId id : String}

@[simp]
theorem Token.isToken_entry (t : Token) :
    t.entry.isToken tenant id = MemoryStore.isToken tenant id t :=
  rfl

@[simp]
theorem Token.isOutstanding_entry (t : Token) :
    t.entry.isOutstanding tenant deviceId = t.isOutstanding tenant deviceId :=
  rfl

@[simp]
theorem TokenRow.isToken_entry (r : TokenRow) :
    r.entry.isToken tenant id = r.isToken tenant id :=
  rfl

@[simp]
theorem TokenRow.isOutstanding_entry (r : TokenRow) :
    r.entry.isOutstanding tenant deviceId = r.isOutstanding tenant deviceId :=
  rfl

theorem Token.entry_revoke (t : Token) : t.revoke.entry = t.entry.revoke :=
  rfl

theorem TokenRow.entry_revoke (r : TokenRow) : r.revoke.entry = r.entry.revoke :=
  rfl

theorem map_entry_revoke (p : TokenEntry → Bool) (tokens : List Token) :
    (tokens.map fun t => if p t.entry then t.revoke else t).map Token.entry =
      revokeWhere p (tokens.map Token.entry) := by
  rw [revokeWhere, List.map_map, List.map_map]
  apply List.map_congr_left
  intro t _
  simp only [Function.comp]
  split
  · rfl
  · rfl

theorem map_rowEntry_revoke (p : TokenEntry → Bool) (rows : List TokenRow) :
    (rows.map fun r => if p r.entry then r.revoke else r).map TokenRow.entry =
      revokeWhere p (rows.map TokenRow.entry) := by
  rw [revokeWhere, List.map_map, List.map_map]
  apply List.map_congr_left
  intro r _
  simp only [Function.comp]
  split
  · rfl
  · rfl

theorem map_entry_putToken (t : Token) (tokens : List Token) :
    (MemoryStore.putToken t tokens).map Token.entry = put t.entry (tokens.map Token.entry) := by
  induction tokens with
  | nil => rfl
  | cons u rest ih =>
      rw [MemoryStore.putToken, List.map_cons, put, Token.isToken_entry]
      change _ = if MemoryStore.isToken t.tenant t.id u then _ else _
      split
      · rfl
      · rw [List.map_cons, ih]

@[simp]
theorem StoreKind.id_tokenEntry (kind : StoreKind) (t : Token) : (kind.tokenEntry t).id = t.id := by
  cases kind <;> rfl

@[simp]
theorem StoreKind.tenant_tokenEntry (kind : StoreKind) (t : Token) :
    (kind.tokenEntry t).tenant = t.tenant := by
  cases kind <;> rfl

@[simp]
theorem StoreKind.deviceId_tokenEntry (kind : StoreKind) (t : Token) :
    (kind.tokenEntry t).deviceId = t.deviceId := by
  cases kind <;> rfl

@[simp]
theorem StoreKind.raw_tokenEntry (kind : StoreKind) (t : Token) :
    (kind.tokenEntry t).raw = t.raw := by
  cases kind <;> rfl

end Entries

/-! ## Rows of tokens -/

namespace TableStore

variable {t t' cleared : TableStore} {candidate u : Token} {row : TokenRow} {now : Instant}

/-- A row is added behind the others, where no row has its id and its device has no other one that
is not revoked. -/
theorem addToken_eq_ok (added : t.addToken candidate = .ok t') :
    (∀ r ∈ t.tokens, r.id ≠ candidate.id) ∧
      (∀ r ∈ t.tokens, r.isOutstanding candidate.tenant candidate.deviceId = false) ∧
      t' = { t with tokens := t.tokens ++ [.ofToken candidate] } := by
  unfold addToken at added
  split at added
  · cases added
  · rename_i freshId
    split at added
    · cases added
    · rename_i noneLive
      simp only [List.any_eq_true, decide_eq_true_eq, not_exists, not_and] at freshId noneLive
      cases added
      refine ⟨freshId, ?_, rfl⟩
      intro r member
      exact Bool.not_eq_true _ ▸ noneLive r member

/-- The rows that a new one is added to: those that are there, with the expired one of the device
revoked. -/
inductive Cleared (t : TableStore) (candidate : Token) (now : Instant) : TableStore → Prop where
  | untouched
      (none : t.tokens.find? (TokenRow.isOutstanding candidate.tenant candidate.deviceId) = none) :
      Cleared t candidate now t
  | retired {row : TokenRow} {existing : Token}
      (found : t.tokens.find? (TokenRow.isOutstanding candidate.tenant candidate.deviceId) =
        some row)
      (read : row.read = .ok existing) (expired : existing.isExpiredAt now = true) :
      Cleared t candidate now (t.retire existing.id)

theorem insertOrGetLive_of_unreadable {fault : StoreFault}
    (found : t.tokens.find? (TokenRow.isOutstanding candidate.tenant candidate.deviceId) = some row)
    (failed : row.read = .error fault) : t.insertOrGetLive candidate now = (.error fault, t) := by
  simp [insertOrGetLive, insertOrGetLiveSteps, found, readFound, failed, Bind.bind, Except.bind,
    Except.map]

theorem insertOrGetLive_of_live
    (found : t.tokens.find? (TokenRow.isOutstanding candidate.tenant candidate.deviceId) = some row)
    (read : row.read = .ok u) (live : u.isExpiredAt now = false) :
    t.insertOrGetLive candidate now = (.ok u, t) := by
  simp [insertOrGetLive, insertOrGetLiveSteps, found, readFound, read, live, Bind.bind, Except.bind,
    Except.map, Pure.pure, Except.pure]

/-- Behind the cleared rows the candidate is added, or nothing has happened. -/
theorem insertOrGetLive_of_cleared (clearing : Cleared t candidate now cleared) :
    t.insertOrGetLive candidate now =
      match cleared.addToken candidate with
      | .ok t' => (.ok candidate, t')
      | .error fault => (.error fault, t) := by
  cases clearing with
  | untouched none =>
      simp only [insertOrGetLive, insertOrGetLiveSteps, none, readFound, Bind.bind, Except.bind]
      cases t.addToken candidate <;> rfl
  | @retired row existing found read expired =>
      simp only [insertOrGetLive, insertOrGetLiveSteps, found, readFound, read, expired, if_true,
        Bind.bind, Except.bind, Except.map]
      cases (t.retire existing.id).addToken candidate <;> rfl

/-- The ways that `insertOrGetLive` ends with rows. -/
theorem insertOrGetLive_cases (t : TableStore) (candidate : Token) (now : Instant) :
    (∃ fault, t.insertOrGetLive candidate now = (.error fault, t)) ∨
      (∃ row existing,
        t.tokens.find? (TokenRow.isOutstanding candidate.tenant candidate.deviceId) = some row ∧
          row.read = .ok existing ∧ existing.isExpiredAt now = false ∧
          t.insertOrGetLive candidate now = (.ok existing, t)) ∨
      ∃ cleared t', Cleared t candidate now cleared ∧ cleared.addToken candidate = .ok t' ∧
        t.insertOrGetLive candidate now = (.ok candidate, t') := by
  have clears : ∀ {cleared}, Cleared t candidate now cleared →
      (∃ fault, t.insertOrGetLive candidate now = (.error fault, t)) ∨
        ∃ cleared t', Cleared t candidate now cleared ∧ cleared.addToken candidate = .ok t' ∧
          t.insertOrGetLive candidate now = (.ok candidate, t') := by
    intro cleared clearing
    rw [insertOrGetLive_of_cleared clearing]
    cases added : cleared.addToken candidate with
    | error fault => exact .inl ⟨fault, rfl⟩
    | ok t' => exact .inr ⟨cleared, t', clearing, added, rfl⟩
  cases found : t.tokens.find? (TokenRow.isOutstanding candidate.tenant candidate.deviceId) with
  | none => exact (clears (.untouched found)).imp_right .inr
  | some row =>
      cases read : row.read with
      | error fault => exact .inl ⟨fault, insertOrGetLive_of_unreadable found read⟩
      | ok existing =>
          cases expired : existing.isExpiredAt now with
          | false =>
              exact .inr (.inl ⟨row, existing, rfl, read, expired,
                insertOrGetLive_of_live found read expired⟩)
          | true => exact (clears (.retired found read expired)).imp_right .inr

theorem devices_insertOrGetLive (t : TableStore) (candidate : Token) (now : Instant) :
    (t.insertOrGetLive candidate now).2.devices = t.devices := by
  rcases insertOrGetLive_cases t candidate now with ⟨fault, failed⟩ | reused | added
  · rw [failed]
  · rcases reused with ⟨row, existing, -, -, -, equation⟩
    rw [equation]
  · rcases added with ⟨cleared, t', clearedEq, addedEq, equation⟩
    rw [equation, (addToken_eq_ok addedEq).2.2]
    cases clearedEq with
    | untouched none => rfl
    | retired found read expired => rfl

end TableStore

namespace Store

variable {s : Store} {tenant : Tenant} {deviceId id : String} {now : Instant}

/-! ## What stays -/

@[simp]
theorem kind_run {α : Type} (s : Store) (c : StoreCall α) : (s.run c).2.kind = s.kind := by
  cases s <;> rfl

/-- The calls about devices leave the tokens. -/
theorem sameTokens_run {α : Type} (s : Store) {c : StoreCall α}
    (aboutDevices : c.method.table = .devices) : s.SameTokens (s.run c).2 := by
  refine ⟨kind_run s c, ?_⟩
  cases s with
  | memory m =>
      cases c with
      | getOrCreate candidate =>
          simp only [run, MemoryStore.run, MemoryStore.getOrCreate]
          split <;> rfl
      | getDevice tenant id => rfl
      | listDevices tenant skip limit => rfl
      | updateStatus tenant id status now =>
          simp only [run, MemoryStore.run, MemoryStore.updateStatus]
          split <;> rfl
      | rotateKey tenant id key now =>
          simp only [run, MemoryStore.run, MemoryStore.rotateKey]
          split
          · rfl
          · split <;> rfl
      | insertOrGetLive candidate now => cases aboutDevices
      | getToken tenant id => rfl
      | revokeToken tenant id => cases aboutDevices
      | revokeDeviceTokens tenant deviceId => cases aboutDevices
  | tables t =>
      cases c with
      | getOrCreate candidate =>
          have kept : ∀ {t' : TableStore} {created : Bool},
              t.addDevice candidate = .ok (t', created) → t'.tokens = t.tokens := by
            intro t' created added
            unfold TableStore.addDevice at added
            split at added
            · cases added; rfl
            · split at added
              · cases added
              · cases added; rfl
          simp only [run, TableStore.run, TableStore.getOrCreate]
          split
          · rfl
          · rename_i t' created added
            have same := kept added
            split
            · simp only [tokens, same]
            · split <;> simp only [tokens, same]
      | getDevice tenant id => rfl
      | listDevices tenant skip limit => rfl
      | updateStatus tenant id status now => rfl
      | rotateKey tenant id key now => rfl
      | insertOrGetLive candidate now => cases aboutDevices
      | getToken tenant id => rfl
      | revokeToken tenant id => cases aboutDevices
      | revokeDeviceTokens tenant deviceId => cases aboutDevices

/-! ## Looking up and revoking -/

/-- What was found was read. -/
theorem readFound_eq_ok {ρ α : Type} {read : ρ → Except StoreFault α} {row? : Option ρ} {a : α}
    (h : TableStore.readFound read row? = .ok (some a)) :
    ∃ row, row? = some row ∧ read row = .ok a := by
  cases row? with
  | none => cases h
  | some row =>
      refine ⟨row, rfl, ?_⟩
      cases result : read row with
      | error fault =>
          rw [TableStore.readFound, result] at h
          cases h
      | ok b =>
          rw [TableStore.readFound, result] at h
          cases h
          rfl

/-- A device is looked up under its tenant and id. -/
theorem run_getDevice (s : Store) (tenant : Tenant) (id : String) :
    s.run (.getDevice tenant id) =
      (TableStore.readFound DeviceEntry.read (s.devices.find? (DeviceEntry.isDevice tenant id)),
        s) := by
  cases s with
  | memory m =>
      simp only [run, MemoryStore.run, MemoryStore.device?, devices, List.find?_map]
      have same : DeviceEntry.isDevice tenant id ∘ Device.entry =
          MemoryStore.isDevice tenant id := rfl
      rw [same]
      cases m.devices.find? (MemoryStore.isDevice tenant id) <;> rfl
  | tables t =>
      simp only [run, TableStore.run, TableStore.deviceRow?, devices, List.find?_map]
      have same : DeviceEntry.isDevice tenant id ∘ DeviceRow.entry =
          DeviceRow.isDevice tenant id := rfl
      rw [same]
      cases t.devices.find? (DeviceRow.isDevice tenant id) <;> rfl

/-- A token is looked up under its tenant and id. -/
theorem run_getToken (s : Store) (tenant : Tenant) (id : String) :
    s.run (.getToken tenant id) =
      (TableStore.readFound TokenEntry.read (s.tokens.find? (isToken tenant id)), s) := by
  cases s with
  | memory m =>
      simp only [run, MemoryStore.run, MemoryStore.token?, tokens, List.find?_map]
      have same : isToken tenant id ∘ Token.entry = MemoryStore.isToken tenant id := rfl
      rw [same]
      cases m.tokens.find? (MemoryStore.isToken tenant id) <;> rfl
  | tables t =>
      simp only [run, TableStore.run, TableStore.tokenRow?, tokens, List.find?_map]
      have same : isToken tenant id ∘ TokenRow.entry = TokenRow.isToken tenant id := rfl
      rw [same]
      cases t.tokens.find? (TokenRow.isToken tenant id) <;> rfl

/-- Whether a token was revoked is whether there is one with the tenant and id. -/
theorem run_revokeToken (s : Store) (tenant : Tenant) (id : String) :
    (s.run (.revokeToken tenant id)).1 = .ok (s.tokens.any (isToken tenant id)) := by
  cases s with
  | memory m =>
      have any : (memory m).tokens.any (isToken tenant id) = (m.token? tenant id).isSome := by
        rw [tokens, List.any_map, MemoryStore.token?, List.isSome_find?]
        rfl
      rw [any]
      simp only [run, MemoryStore.run, MemoryStore.revokeToken]
      cases m.token? tenant id <;> rfl
  | tables t =>
      simp only [run, TableStore.run, TableStore.sure, TableStore.revokeToken, tokens,
        List.any_map]
      rfl

/-- The token with the tenant and id is revoked. -/
theorem tokens_revokeToken (s : Store) (tenant : Tenant) (id : String) :
    (s.run (.revokeToken tenant id)).2.tokens = revokeWhere (isToken tenant id) s.tokens := by
  cases s with
  | memory m =>
      simp only [run, MemoryStore.run, MemoryStore.revokeToken]
      cases found : m.token? tenant id with
      | none =>
          symm
          apply revokeWhere_eq_self
          intro e member
          rcases List.mem_map.mp member with ⟨t, tMem, rfl⟩
          simpa using List.find?_eq_none.mp found t tMem
      | some t => exact map_entry_revoke (isToken tenant id) m.tokens
  | tables t => exact map_rowEntry_revoke (isToken tenant id) t.tokens

/-- The calls about tokens leave the devices. -/
theorem sameDevices_run {α : Type} (s : Store) {c : StoreCall α}
    (aboutTokens : c.method.table = .tokens) : s.SameDevices (s.run c).2 := by
  cases s with
  | memory m =>
      cases c with
      | insertOrGetLive candidate now =>
          simp only [run, MemoryStore.run, MemoryStore.insertOrGetLive]
          split <;> exact ⟨rfl, rfl, rfl⟩
      | getToken tenant id => exact .refl _
      | revokeToken tenant id =>
          simp only [run, MemoryStore.run, MemoryStore.revokeToken]
          split <;> exact ⟨rfl, rfl, rfl⟩
      | revokeDeviceTokens tenant deviceId => exact ⟨rfl, rfl, rfl⟩
      | getOrCreate candidate => cases aboutTokens
      | getDevice tenant id => cases aboutTokens
      | listDevices tenant skip limit => cases aboutTokens
      | updateStatus tenant id status now => cases aboutTokens
      | rotateKey tenant id key now => cases aboutTokens
  | tables t =>
      cases c with
      | insertOrGetLive candidate now =>
          simp only [run, TableStore.run]
          have devicesEq := TableStore.devices_insertOrGetLive t candidate now
          exact ⟨rfl, by rw [devices, devicesEq, devices], rfl⟩
      | getToken tenant id => exact .refl _
      | revokeToken tenant id => exact ⟨rfl, rfl, rfl⟩
      | revokeDeviceTokens tenant deviceId => exact ⟨rfl, rfl, rfl⟩
      | getOrCreate candidate => cases aboutTokens
      | getDevice tenant id => cases aboutTokens
      | listDevices tenant skip limit => cases aboutTokens
      | updateStatus tenant id status now => cases aboutTokens
      | rotateKey tenant id key now => cases aboutTokens

/-- The number of tokens that lost their force is the number of those that had it. -/
theorem run_revokeDeviceTokens (s : Store) (tenant : Tenant) (deviceId : String) :
    (s.run (.revokeDeviceTokens tenant deviceId)).1 =
      .ok (s.tokens.countP (isOutstanding tenant deviceId)) := by
  cases s with
  | memory m =>
      rw [tokens, List.countP_map, List.countP_eq_length_filter]
      rfl
  | tables t =>
      rw [tokens, List.countP_map, List.countP_eq_length_filter]
      rfl

/-- The tokens of the device are revoked. -/
theorem tokens_revokeDeviceTokens (s : Store) (tenant : Tenant) (deviceId : String) :
    (s.run (.revokeDeviceTokens tenant deviceId)).2.tokens =
      revokeWhere (isOutstanding tenant deviceId) s.tokens := by
  cases s with
  | memory m => exact map_entry_revoke (isOutstanding tenant deviceId) m.tokens
  | tables t => exact map_rowEntry_revoke (isOutstanding tenant deviceId) t.tokens

/-! ## Inserting -/

/-- What holds of every store that was reached by calls: a device has at most one outstanding token,
and rows have different ids. -/
structure Sound (s : Store) : Prop where
  single : SingleLive s.tokens
  unique : s.kind = .tables → (s.tokens.map TokenEntry.id).Nodup

/-- The ways that `insertOrGetLive` may end. -/
inductive Insertion (s : Store) (candidate : Token) (now : Instant) :
    Except StoreFault Token × Store → Prop where
  | failed (fault : StoreFault) : Insertion s candidate now (.error fault, s)
  | reused {t : Token} (member : t.entry ∈ s.tokens)
      (outstanding : t.isOutstanding candidate.tenant candidate.deviceId = true)
      (live : t.isExpiredAt now = false) : Insertion s candidate now (.ok t, s)
  | added {s' : Store}
      (expired : ∀ e ∈ s.tokens,
        e.isOutstanding candidate.tenant candidate.deviceId = true →
          ∃ t : Token, e = t.entry ∧ t.isExpiredAt now = true)
      (fresh : s.kind = .tables → ∀ e ∈ s.tokens, e.id ≠ candidate.id)
      (devices : s.SameDevices s')
      (tokens : s'.tokens = put (s.kind.tokenEntry candidate)
        (revokeWhere (isOutstanding candidate.tenant candidate.deviceId) s.tokens)) :
      Insertion s candidate now (.ok candidate, s')

/-- Where a device has at most one outstanding token, a visit revokes it if it has expired and ends
with it otherwise. -/
theorem takeLive_eq {tokens : List Token} (single : SingleLive (tokens.map Token.entry))
    (tenant : Tenant) (deviceId : String) (now : Instant) :
    MemoryStore.takeLive tenant deviceId now tokens =
      match tokens.find? (fun t => t.isOutstanding tenant deviceId) with
      | none => (none, tokens)
      | some t =>
        if t.isExpiredAt now then
          (none, tokens.map fun u => if u.isOutstanding tenant deviceId then u.revoke else u)
        else (some t, tokens) := by
  induction tokens with
  | nil => rfl
  | cons t rest ih =>
      have restEq := ih single.of_cons
      rw [MemoryStore.takeLive]
      cases outstanding : t.isOutstanding tenant deviceId with
      | true =>
          -- Behind the outstanding token the visit finds nothing.
          have behind : ∀ u ∈ rest, u.isOutstanding tenant deviceId = false := fun u member =>
            single.none_behind outstanding u.entry (List.mem_map_of_mem member)
          have none : rest.find? (fun u => u.isOutstanding tenant deviceId) = none := by
            rw [List.find?_eq_none]
            intro u member
            rw [behind u member]
            exact Bool.false_ne_true
          have kept : (rest.map fun u => if u.isOutstanding tenant deviceId then u.revoke else u) =
              rest := by
            have same : ∀ u ∈ rest,
                (if u.isOutstanding tenant deviceId then u.revoke else u) = id u := by
              intro u member
              rw [behind u member]
              rfl
            rw [List.map_congr_left same, List.map_id]
          rw [none] at restEq
          simp only [List.find?_cons, outstanding, if_true, restEq, List.map_cons, kept]
      | false =>
          simp only [List.find?_cons, outstanding, Bool.false_eq_true, if_false, restEq,
            List.map_cons]
          cases rest.find? (fun u => u.isOutstanding tenant deviceId) with
          | none => rfl
          | some u =>
              by_cases expired : u.isExpiredAt now = true
              · simp only [expired, if_true]
              · simp only [expired, if_false, Bool.false_eq_true]

theorem insertion_memory {m : MemoryStore} (single : SingleLive (memory m).tokens)
    (candidate : Token) (now : Instant) :
    Insertion (memory m) candidate now ((memory m).run (.insertOrGetLive candidate now)) := by
  have visit := takeLive_eq single candidate.tenant candidate.deviceId now
  simp only [run, MemoryStore.run, MemoryStore.insertOrGetLive]
  cases found : m.tokens.find? (fun t => t.isOutstanding candidate.tenant candidate.deviceId) with
  | none =>
      rw [found] at visit
      have none : ∀ e ∈ (memory m).tokens,
          e.isOutstanding candidate.tenant candidate.deviceId = false := by
        intro e member
        obtain ⟨t, tMem, rfl⟩ := List.mem_map.mp member
        simpa using List.find?_eq_none.mp found t tMem
      rw [visit]
      refine .added ?_ (fun equal => by cases equal) ⟨rfl, rfl, rfl⟩ ?_
      · intro e member outstanding
        rw [none e member] at outstanding
        cases outstanding
      · rw [revokeWhere_eq_self none]
        exact map_entry_putToken candidate m.tokens
  | some t =>
      rw [found] at visit
      have member : t.entry ∈ (memory m).tokens :=
        List.mem_map_of_mem (List.mem_of_find?_eq_some found)
      have outstanding := List.find?_some found
      by_cases expired : t.isExpiredAt now = true
      · simp only [expired, if_true] at visit
        rw [visit]
        refine .added ?_ (fun equal => by cases equal) ⟨rfl, rfl, rfl⟩ ?_
        · intro e eMem eOut
          exact ⟨t, single.eq_of_outstanding eMem member eOut outstanding, expired⟩
        · rw [tokens, map_entry_putToken]
          exact congrArg (put candidate.entry) (map_entry_revoke
            (isOutstanding candidate.tenant candidate.deviceId) m.tokens)
      · simp only [expired, if_false, Bool.false_eq_true] at visit
        rw [visit]
        exact .reused member outstanding (Bool.not_eq_true _ ▸ expired)

/-- Before a row is added, what is outstanding of its device has expired and is revoked. -/
theorem tokens_cleared {t cleared : TableStore} {candidate : Token} (sound : (tables t).Sound)
    (clearing : TableStore.Cleared t candidate now cleared) :
    (∀ e ∈ (tables t).tokens, e.isOutstanding candidate.tenant candidate.deviceId = true →
        ∃ u : Token, e = u.entry ∧ u.isExpiredAt now = true) ∧
      cleared.devices = t.devices ∧
      (tables cleared).tokens =
        revokeWhere (isOutstanding candidate.tenant candidate.deviceId) (tables t).tokens := by
  cases clearing with
  | untouched none =>
      have noneOut : ∀ e ∈ (tables t).tokens,
          e.isOutstanding candidate.tenant candidate.deviceId = false := by
        intro e member
        rcases List.mem_map.mp member with ⟨r, rMem, rfl⟩
        simpa using List.find?_eq_none.mp none r rMem
      refine ⟨?_, rfl, (revokeWhere_eq_self noneOut).symm⟩
      intro e member outstanding
      rw [noneOut e member] at outstanding
      cases outstanding
  | @retired row existing found read expired =>
      have entryEq : row.entry = existing.entry := entry_of_read read
      have member : row.entry ∈ (tables t).tokens :=
        List.mem_map_of_mem (List.mem_of_find?_eq_some found)
      have outstanding : row.entry.isOutstanding candidate.tenant candidate.deviceId = true := by
        rw [TokenRow.isOutstanding_entry]
        exact List.find?_some found
      have idEq : row.id = existing.id := congrArg TokenEntry.id entryEq
      refine ⟨?_, rfl, ?_⟩
      · intro e eMem eOut
        refine ⟨existing, ?_, expired⟩
        rw [sound.single.eq_of_outstanding eMem member eOut outstanding, entryEq]
      · -- The row is revoked by its id, which no other row has.
        have byId := map_rowEntry_revoke (fun e => decide (e.id = row.id)) t.tokens
        simp only [decide_eq_true_eq] at byId
        rw [TableStore.retire, ← idEq]
        apply byId.trans
        apply List.map_congr_left
        intro e eMem
        by_cases same : e = row.entry
        · subst same
          rw [outstanding]
          simp [TokenRow.entry]
        · have otherId : e.id ≠ row.id := fun equal =>
            same (List.inj_on_of_nodup_map (sound.unique rfl) eMem member equal)
          have notOut : ¬e.isOutstanding candidate.tenant candidate.deviceId = true := fun out =>
            same (sound.single.eq_of_outstanding eMem member out outstanding)
          rw [if_neg (by simpa using otherId), if_neg notOut]

theorem insertion_tables {t : TableStore} (sound : (tables t).Sound) (candidate : Token)
    (now : Instant) :
    Insertion (tables t) candidate now ((tables t).run (.insertOrGetLive candidate now)) := by
  simp only [run, TableStore.run]
  rcases t.insertOrGetLive_cases candidate now with ⟨fault, failed⟩ | reused | added
  · rw [failed]
    exact .failed fault
  · rcases reused with ⟨row, existing, found, read, live, equation⟩
    rw [equation]
    have entryEq : row.entry = existing.entry := entry_of_read read
    have member : row.entry ∈ (tables t).tokens :=
      List.mem_map_of_mem (List.mem_of_find?_eq_some found)
    have outstanding := List.find?_some found
    rw [← TokenRow.isOutstanding_entry, entryEq] at outstanding
    rw [entryEq] at member
    exact .reused member outstanding live
  · rcases added with ⟨cleared, t', clearing, addedEq, equation⟩
    obtain ⟨freshId, -, rfl⟩ := TableStore.addToken_eq_ok addedEq
    rcases tokens_cleared sound clearing with ⟨expired, devicesEq, tokensEq⟩
    rw [equation]
    have freshEntry : ∀ e ∈ (tables cleared).tokens, e.id ≠ candidate.id := by
      intro e member
      rcases List.mem_map.mp member with ⟨r, rMem, rfl⟩
      exact freshId r rMem
    refine .added expired ?_ ⟨rfl, ?_, rfl⟩ ?_
    · intro _ e member sameId
      rw [tokensEq] at freshEntry
      apply freshEntry _ (mem_revokeWhere_iff.mpr ⟨e, member, rfl⟩)
      split
      · exact sameId
      · exact sameId
    · simp only [devices, devicesEq]
    · rw [← tokensEq, put_eq_append]
      · simp only [tokens, List.map_append]
        rfl
      · intro e member keyEq
        exact freshEntry e member (congrArg Prod.snd keyEq)

/-- A token is inserted in one of these ways. -/
theorem insertion (sound : s.Sound) (candidate : Token) (now : Instant) :
    Insertion s candidate now (s.run (.insertOrGetLive candidate now)) := by
  cases s with
  | memory m => exact insertion_memory sound.single candidate now
  | tables t => exact insertion_tables sound candidate now

end Store

end DeviceAdmission
