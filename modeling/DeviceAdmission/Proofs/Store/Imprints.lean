import DeviceAdmission.Proofs.Store.Reached
import DeviceAdmission.Proofs.Store.Statuses

/-!
# What a store never rewrites

A device is kept under its id with the tenant, the identity data and the time that it was registered
with, and a token with all that it was put with but its mark of revocation. This file says of each
call that it leaves what is kept in this way. The only record that a call may overwrite is one with
the id that its own candidate brings, in whatever store it is made.
-/

namespace DeviceAdmission

/-- A time as a store keeps it: as it is, or by its timestamp in a row. -/
inductive KeptTime where
  | instant (t : Instant)
  | stamp (text : String)
  deriving DecidableEq, Repr

/-- What of a device is kept as it was registered. -/
structure DeviceImprint where
  id : String
  tenant : Tenant
  identityData : String
  createdAt : KeptTime
  deriving DecidableEq, Repr

/-- What devices are told apart by. -/
def DeviceImprint.names (x : DeviceImprint) : (Tenant × String) × String :=
  ((x.tenant, x.identityData), x.id)

/-- A token as it is kept. -/
structure TokenImprint where
  id : String
  tenant : Tenant
  deviceId : String
  raw : String
  issuedAt : KeptTime
  expiresAt : KeptTime
  revoked : Bool
  deriving DecidableEq, Repr

namespace TokenImprint

/-- What a token is looked up by. -/
def key (x : TokenImprint) : Tenant × String :=
  (x.tenant, x.id)

def revoke (x : TokenImprint) : TokenImprint :=
  { x with revoked := true }

/-- Whether a token as it is kept later is the same, except that it may have been revoked. -/
def Becomes (x y : TokenImprint) : Prop :=
  y = x ∨ y = x.revoke

variable {x y z : TokenImprint}

theorem Becomes.trans (first : x.Becomes y) (second : y.Becomes z) : x.Becomes z := by
  rcases first with rfl | rfl
  · exact second
  · rcases second with rfl | rfl
    · exact .inr rfl
    · exact .inr rfl

theorem Becomes.key (becomes : x.Becomes y) : y.key = x.key := by
  rcases becomes with rfl | rfl
  · rfl
  · rfl

theorem Becomes.id (becomes : x.Becomes y) : y.id = x.id :=
  congrArg Prod.snd becomes.key

end TokenImprint

def Device.imprint (d : Device) : DeviceImprint :=
  ⟨d.id, d.tenant, d.identityData, .instant d.createdAt⟩

def DeviceRow.imprint (r : DeviceRow) : DeviceImprint :=
  ⟨r.id, r.tenant, r.identityData, .stamp r.createdAt⟩

def Token.imprint (t : Token) : TokenImprint :=
  ⟨t.id, t.tenant, t.deviceId, t.raw, .instant t.issuedAt, .instant t.expiresAt, t.revoked⟩

def TokenRow.imprint (r : TokenRow) : TokenImprint :=
  ⟨r.id, r.tenant, r.deviceId, r.raw, .stamp r.issuedAt, .stamp r.expiresAt, r.revoked⟩

namespace Store

/-- What is kept of the devices of a store. -/
def deviceImprints : Store → List DeviceImprint
  | memory m => m.devices.map Device.imprint
  | tables t => t.devices.map DeviceRow.imprint

/-- The tokens of a store as they are kept. -/
def tokenImprints : Store → List TokenImprint
  | memory m => m.tokens.map Token.imprint
  | tables t => t.tokens.map TokenRow.imprint

theorem map_names_deviceImprints (s : Store) :
    s.deviceImprints.map DeviceImprint.names = s.names := by
  cases s with
  | memory m =>
      rw [deviceImprints, names, devices, List.map_map, List.map_map]
      rfl
  | tables t =>
      rw [deviceImprints, names, devices, List.map_map, List.map_map]
      rfl

theorem map_key_tokenImprints (s : Store) :
    s.tokenImprints.map TokenImprint.key = s.tokens.map TokenEntry.key := by
  cases s with
  | memory m =>
      rw [tokenImprints, tokens, List.map_map, List.map_map]
      rfl
  | tables t =>
      rw [tokenImprints, tokens, List.map_map, List.map_map]
      rfl

end Store

/-! ## Changes of lists -/

section Lists

variable {α : Type} {l : List α} {p : α → Bool} {x : TokenImprint}

/-- What a change leaves of each is left of all. -/
theorem mem_map_imprint_of_map_ite {β : Type} {b : β} {imprint : α → β} {change : α → α}
    (same : ∀ a, imprint (change a) = imprint a) (member : b ∈ l.map imprint) :
    b ∈ (l.map fun a => if p a then change a else a).map imprint := by
  obtain ⟨a, aMem, rfl⟩ := List.mem_map.mp member
  have kept : imprint (if p a then change a else a) = imprint a := by
    split
    · exact same a
    · rfl
  rw [← kept]
  exact List.mem_map_of_mem (List.mem_map_of_mem aMem)

/-- What is revoked or left becomes what it is then. -/
theorem exists_becomes_of_map_ite {imprint : α → TokenImprint} {revoke : α → α}
    (revokes : ∀ a, imprint (revoke a) = (imprint a).revoke) (member : x ∈ l.map imprint) :
    ∃ y ∈ (l.map fun a => if p a then revoke a else a).map imprint, x.Becomes y := by
  obtain ⟨a, aMem, rfl⟩ := List.mem_map.mp member
  refine ⟨imprint (if p a then revoke a else a),
    List.mem_map_of_mem (List.mem_map_of_mem aMem), ?_⟩
  split
  · exact .inr (revokes a)
  · exact .inl rfl

end Lists

namespace MemoryStore

variable {m : MemoryStore}

/-- What is put leaves the devices with other ids. -/
theorem mem_putDevice_of_mem {d e : Device} {devices : List Device} (member : e ∈ devices)
    (other : e.id ≠ d.id) : e ∈ putDevice d devices := by
  induction devices with
  | nil => cases member
  | cons first rest ih =>
      rw [putDevice]
      split
      · exact List.mem_cons_of_mem d member
      · rcases List.mem_cons.mp member with rfl | later
        · have notIt : isDevice d.tenant d.id e = false := by simp [isDevice, other]
          rw [notIt]
          exact List.mem_cons_self
        · split
          · exact List.mem_cons_of_mem d later
          · exact List.mem_cons_of_mem first (ih later)

/-- What is put leaves the tokens with other ids. -/
theorem mem_putToken_of_mem {t u : Token} {tokens : List Token} (member : u ∈ tokens)
    (other : u.id ≠ t.id) : u ∈ putToken t tokens := by
  induction tokens with
  | nil => cases member
  | cons first rest ih =>
      rw [putToken]
      rcases List.mem_cons.mp member with rfl | later
      · have notIt : isToken t.tenant t.id u = false := by simp [isToken, other]
        rw [notIt]
        exact List.mem_cons_self
      · split
        · exact List.mem_cons_of_mem t later
        · exact List.mem_cons_of_mem first (ih later)

/-- A visit for the live token of a device leaves each token or revokes it. -/
theorem exists_mem_takeLive (tenant : Tenant) (deviceId : String) (now : Instant) {t : Token}
    {tokens : List Token} (member : t ∈ tokens) :
    ∃ u ∈ (takeLive tenant deviceId now tokens).2, t.imprint.Becomes u.imprint := by
  induction tokens with
  | nil => cases member
  | cons first rest ih =>
      rw [takeLive]
      split
      · split
        · rcases List.mem_cons.mp member with rfl | later
          · exact ⟨t.revoke, List.mem_cons_self, .inr rfl⟩
          · obtain ⟨u, uMem, becomes⟩ := ih later
            exact ⟨u, List.mem_cons_of_mem _ uMem, becomes⟩
        · exact ⟨t, member, .inl rfl⟩
      · rcases List.mem_cons.mp member with rfl | later
        · exact ⟨t, List.mem_cons_self, .inl rfl⟩
        · obtain ⟨u, uMem, becomes⟩ := ih later
          exact ⟨u, List.mem_cons_of_mem _ uMem, becomes⟩

end MemoryStore

/-- A row for a device is added behind the others, or none is. -/
theorem TableStore.getOrCreate_snd (t : TableStore) (candidate : Device) :
    (t.getOrCreate candidate).2 = t ∨
      (t.getOrCreate candidate).2 =
        { t with devices := t.devices ++ [.ofDevice candidate] } := by
  have left : ∀ t' created, t.addDevice candidate = .ok (t', created) →
      (t.getOrCreate candidate).2 = t' := by
    intro t' created added
    simp only [getOrCreate, added]
    split
    · rfl
    · split <;> rfl
  cases added : t.addDevice candidate with
  | error fault => exact .inl (by simp only [getOrCreate, added])
  | ok result =>
      obtain ⟨t', created⟩ := result
      rw [left t' created added]
      unfold addDevice at added
      split at added
      · cases added
        exact .inl rfl
      · split at added
        · cases added
        · cases added
          exact .inr rfl

/-! ## Calls -/

namespace Store

variable {α : Type} {m : MemoryStore} {t : TableStore} {x : DeviceImprint} {y : TokenImprint}

theorem mem_deviceImprints_getOrCreate {s : Store} {candidate : Device}
    (member : x ∈ s.deviceImprints) (other : x.id ≠ candidate.id) :
    x ∈ (s.run (.getOrCreate candidate)).2.deviceImprints := by
  cases s with
  | memory m =>
      obtain ⟨d, dMem, rfl⟩ := List.mem_map.mp member
      simp only [run, MemoryStore.run, MemoryStore.getOrCreate]
      split
      · exact member
      · exact List.mem_map_of_mem (MemoryStore.mem_putDevice_of_mem dMem other)
  | tables t =>
      simp only [run, TableStore.run, deviceImprints]
      rcases t.getOrCreate_snd candidate with left | added
      · rw [left]
        exact member
      · rw [added, List.map_append]
        exact List.mem_append_left _ member

/-- A call leaves what is kept of the devices, except of one with the id that it brings. -/
theorem mem_deviceImprints_run (s : Store) (c : StoreCall α) (member : x ∈ s.deviceImprints)
    (other : ∀ d, c.newDevice? = some d → x.id ≠ d.id) :
    x ∈ (s.run c).2.deviceImprints := by
  cases c with
  | getOrCreate candidate => exact mem_deviceImprints_getOrCreate member (other candidate rfl)
  | updateStatus tenant id status now =>
      cases s with
      | memory m =>
          simp only [run, MemoryStore.run, MemoryStore.updateStatus]
          split
          · exact member
          · exact mem_map_imprint_of_map_ite (fun _ => rfl) member
      | tables t => exact mem_map_imprint_of_map_ite (fun _ => rfl) member
  | rotateKey tenant id key now =>
      cases s with
      | memory m =>
          simp only [run, MemoryStore.run, MemoryStore.rotateKey]
          split
          · exact member
          · split
            · exact mem_map_imprint_of_map_ite (fun _ => rfl) member
            · exact member
      | tables t => exact mem_map_imprint_of_map_ite (fun _ => rfl) member
  | insertOrGetLive candidate now =>
      cases s with
      | memory m =>
          simp only [run, MemoryStore.run, MemoryStore.insertOrGetLive]
          split
          · exact member
          · exact member
      | tables t =>
          simp only [run, TableStore.run, deviceImprints, TableStore.devices_insertOrGetLive]
          exact member
  | revokeToken tenant id =>
      cases s with
      | memory m =>
          simp only [run, MemoryStore.run, MemoryStore.revokeToken]
          split
          · exact member
          · exact member
      | tables t => exact member
  | _ => cases s <;> exact member

theorem exists_becomes_insertOrGetLive {s : Store} {candidate : Token} {now : Instant}
    (member : y ∈ s.tokenImprints) (other : y.id ≠ candidate.id) :
    ∃ z ∈ (s.run (.insertOrGetLive candidate now)).2.tokenImprints, y.Becomes z := by
  cases s with
  | memory m =>
      obtain ⟨u, uMem, rfl⟩ := List.mem_map.mp member
      obtain ⟨v, vMem, becomes⟩ := MemoryStore.exists_mem_takeLive candidate.tenant
        candidate.deviceId now uMem
      have otherId : v.id ≠ candidate.id := fun same => other (becomes.id.symm.trans same)
      simp only [run, MemoryStore.run, MemoryStore.insertOrGetLive]
      cases visited : MemoryStore.takeLive candidate.tenant candidate.deviceId now m.tokens with
      | mk live tokens =>
          rw [visited] at vMem
          cases live with
          | some existing => exact ⟨_, List.mem_map_of_mem vMem, becomes⟩
          | none =>
              exact ⟨_, List.mem_map_of_mem (MemoryStore.mem_putToken_of_mem vMem otherId),
                becomes⟩
  | tables t =>
      simp only [run, TableStore.run]
      rcases TableStore.insertOrGetLive_cases t candidate now with
        ⟨fault, failed⟩ | ⟨row, existing, -, -, -, reused⟩ | ⟨cleared, t', clearing, adding, added⟩
      · rw [failed]
        exact ⟨y, member, .inl rfl⟩
      · rw [reused]
        exact ⟨y, member, .inl rfl⟩
      · have stays : ∃ z ∈ cleared.tokens.map TokenRow.imprint, y.Becomes z := by
          cases clearing with
          | untouched none => exact ⟨y, member, .inl rfl⟩
          | @retired row existing found read expired =>
              have becomes := exists_becomes_of_map_ite (p := fun r => decide (r.id = existing.id))
                (fun row : TokenRow => (rfl : row.revoke.imprint = row.imprint.revoke)) member
              simp only [decide_eq_true_eq] at becomes
              exact becomes
        obtain ⟨z, zMem, becomes⟩ := stays
        rw [added, (TableStore.addToken_eq_ok adding).2.2]
        refine ⟨z, ?_, becomes⟩
        rw [tokenImprints, List.map_append]
        exact List.mem_append_left _ zMem

/-- A call leaves the tokens as they are kept or revokes them, except one with the id that it
brings. -/
theorem exists_becomes_run (s : Store) (c : StoreCall α) (member : y ∈ s.tokenImprints)
    (other : ∀ u, c.candidate? = some u → y.id ≠ u.id) :
    ∃ z ∈ (s.run c).2.tokenImprints, y.Becomes z := by
  have same : (s.run c).2.tokenImprints = s.tokenImprints →
      ∃ z ∈ (s.run c).2.tokenImprints, y.Becomes z :=
    fun equal => ⟨y, equal ▸ member, .inl rfl⟩
  cases c with
  | insertOrGetLive candidate now =>
      exact exists_becomes_insertOrGetLive member (other candidate rfl)
  | revokeToken tenant id =>
      cases s with
      | memory m =>
          simp only [run, MemoryStore.run, MemoryStore.revokeToken]
          split
          · exact ⟨y, member, .inl rfl⟩
          · exact exists_becomes_of_map_ite (fun _ => rfl) member
      | tables t => exact exists_becomes_of_map_ite (fun _ => rfl) member
  | revokeDeviceTokens tenant deviceId =>
      cases s with
      | memory m => exact exists_becomes_of_map_ite (fun _ => rfl) member
      | tables t => exact exists_becomes_of_map_ite (fun _ => rfl) member
  | getOrCreate candidate =>
      apply same
      cases s with
      | memory m =>
          simp only [run, MemoryStore.run, MemoryStore.getOrCreate]
          split <;> rfl
      | tables t =>
          simp only [run, TableStore.run, tokenImprints]
          rcases t.getOrCreate_snd candidate with left | added
          · rw [left]
          · rw [added]
  | updateStatus tenant id status now =>
      apply same
      cases s with
      | memory m =>
          simp only [run, MemoryStore.run, MemoryStore.updateStatus]
          split <;> rfl
      | tables t => rfl
  | rotateKey tenant id key now =>
      apply same
      cases s with
      | memory m =>
          simp only [run, MemoryStore.run, MemoryStore.rotateKey]
          split
          · rfl
          · split <;> rfl
      | tables t => rfl
  | _ => cases s <;> exact same rfl

end Store

end DeviceAdmission
