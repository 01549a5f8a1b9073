import DeviceAdmission.Store.Basic
import Mathlib.Data.List.Nodup

/-!
# What a store holds

Both kinds of stores are seen as lists of entries. An entry is a record whose times and status are
what they are read as, so a store in memory and one in tables that hold the same are seen alike. The
calls to a store revoke entries and put new ones, and this file says what the two leave of a list of
entries.
-/

namespace DeviceAdmission

/-- What at most one element satisfies is found whatever the order. -/
theorem find?_eq_of_perm {α : Type} {l l' : List α} {p : α → Bool} (perm : l.Perm l')
    (single : ∀ a ∈ l, ∀ b ∈ l, p a = true → p b = true → a = b) : l.find? p = l'.find? p := by
  cases found : l.find? p with
  | none =>
      symm
      rw [List.find?_eq_none] at found ⊢
      intro a member
      exact found a (perm.mem_iff.mpr member)
  | some a =>
      have aMem := List.mem_of_find?_eq_some found
      cases found' : l'.find? p with
      | none =>
          exact absurd (List.find?_some found)
            (List.find?_eq_none.mp found' a (perm.mem_iff.mp aMem))
      | some b =>
          have bMem := perm.mem_iff.mpr (List.mem_of_find?_eq_some found')
          rw [single a aMem b bMem (List.find?_some found) (List.find?_some found')]

/-- A device as a store holds it. -/
structure DeviceEntry where
  id : String
  tenant : Tenant
  identityData : String
  publicKey : String
  status : Except StoreFault DeviceStatus
  createdAt : Except StoreFault Instant
  updatedAt : Except StoreFault Instant

/-- A token as a store holds it. -/
structure TokenEntry where
  id : String
  tenant : Tenant
  deviceId : String
  raw : String
  issuedAt : Except StoreFault Instant
  expiresAt : Except StoreFault Instant
  revoked : Bool

/-- The entry of a device that can be read. -/
def Device.entry (d : Device) : DeviceEntry where
  id := d.id
  tenant := d.tenant
  identityData := d.identityData
  publicKey := d.publicKey
  status := .ok d.status
  createdAt := .ok d.createdAt
  updatedAt := .ok d.updatedAt

/-- The entry of a token that can be read. -/
def Token.entry (t : Token) : TokenEntry where
  id := t.id
  tenant := t.tenant
  deviceId := t.deviceId
  raw := t.raw
  issuedAt := .ok t.issuedAt
  expiresAt := .ok t.expiresAt
  revoked := t.revoked

def DeviceRow.entry (r : DeviceRow) : DeviceEntry where
  id := r.id
  tenant := r.tenant
  identityData := r.identityData
  publicKey := r.publicKey
  status := readStatus r.status
  createdAt := readTimestamp 5 r.createdAt
  updatedAt := readTimestamp 6 r.updatedAt

def TokenRow.entry (r : TokenRow) : TokenEntry where
  id := r.id
  tenant := r.tenant
  deviceId := r.deviceId
  raw := r.raw
  issuedAt := readTimestamp 4 r.issuedAt
  expiresAt := readTimestamp 5 r.expiresAt
  revoked := r.revoked

namespace Store

/-- The devices of a store. -/
def devices : Store → List DeviceEntry
  | memory m => m.devices.map Device.entry
  | tables t => t.devices.map DeviceRow.entry

/-- The tokens of a store. -/
def tokens : Store → List TokenEntry
  | memory m => m.tokens.map Token.entry
  | tables t => t.tokens.map TokenRow.entry

def kind : Store → StoreKind
  | memory _ => .memory
  | tables _ => .tables

@[simp]
theorem devices_empty (kind : StoreKind) : (empty kind).devices = [] := by
  cases kind with
  | memory => rfl
  | tables => rfl

@[simp]
theorem tokens_empty (kind : StoreKind) : (empty kind).tokens = [] := by
  cases kind with
  | memory => rfl
  | tables => rfl

end Store

namespace DeviceEntry

def read (e : DeviceEntry) : Except StoreFault Device := do
  let status ← e.status
  let createdAt ← e.createdAt
  let updatedAt ← e.updatedAt
  pure
    { id := e.id, identityData := e.identityData, publicKey := e.publicKey, status,
      tenant := e.tenant, createdAt, updatedAt }

def isDevice (tenant : Tenant) (id : String) (e : DeviceEntry) : Bool :=
  e.tenant = tenant && e.id = id

def hasIdentity (tenant : Tenant) (identityData : String) (e : DeviceEntry) : Bool :=
  e.tenant = tenant && e.identityData = identityData

@[simp]
theorem read_entry (d : Device) : d.entry.read = .ok d :=
  rfl

/-- Different devices have different entries. -/
theorem entry_injective {d e : Device} (equal : d.entry = e.entry) : d = e := by
  have read := read_entry d
  rw [equal, read_entry] at read
  exact (Except.ok.inj read).symm

/-- The device that an entry is read as has what the entry has. -/
theorem entry_of_read {d : Device} {e : DeviceEntry} (read : e.read = .ok d) : e = d.entry := by
  rcases e with ⟨id, tenant, identityData, publicKey, status, createdAt, updatedAt⟩
  cases status with
  | error fault => cases read
  | ok status =>
      cases createdAt with
      | error fault => cases read
      | ok created =>
          cases updatedAt with
          | error fault => cases read
          | ok updated =>
              cases read
              rfl

theorem isDevice_iff {tenant : Tenant} {id : String} {e : DeviceEntry} :
    e.isDevice tenant id = true ↔ e.tenant = tenant ∧ e.id = id := by
  simp [isDevice]

theorem hasIdentity_iff {tenant : Tenant} {identityData : String} {e : DeviceEntry} :
    e.hasIdentity tenant identityData = true ↔
      e.tenant = tenant ∧ e.identityData = identityData := by
  simp [hasIdentity]

end DeviceEntry

namespace TokenEntry

def read (e : TokenEntry) : Except StoreFault Token := do
  let issuedAt ← e.issuedAt
  let expiresAt ← e.expiresAt
  pure
    { id := e.id, deviceId := e.deviceId, tenant := e.tenant, raw := e.raw, issuedAt, expiresAt,
      revoked := e.revoked }

def isToken (tenant : Tenant) (id : String) (e : TokenEntry) : Bool :=
  e.tenant = tenant && e.id = id

/-- Whether an entry is a token of the device that is not revoked. -/
def isOutstanding (tenant : Tenant) (deviceId : String) (e : TokenEntry) : Bool :=
  !e.revoked && e.tenant = tenant && e.deviceId = deviceId

/-- What the tokens of a store are told apart by. -/
def key (e : TokenEntry) : Tenant × String :=
  (e.tenant, e.id)

def revoke (e : TokenEntry) : TokenEntry :=
  { e with revoked := true }

/-- Revoke the entries that `p` picks. -/
def revokeWhere (p : TokenEntry → Bool) (entries : List TokenEntry) : List TokenEntry :=
  entries.map fun e => if p e then e.revoke else e

/-- Put an entry, in place of one with the same key. -/
def put (e : TokenEntry) : List TokenEntry → List TokenEntry
  | [] => [e]
  | f :: rest => if f.isToken e.tenant e.id then e :: rest else f :: put e rest

variable {tenant : Tenant} {deviceId id : String} {e f : TokenEntry}
variable {entries : List TokenEntry} {p q : TokenEntry → Bool}

@[simp]
theorem read_entry (t : Token) : t.entry.read = .ok t :=
  rfl

/-- Different tokens have different entries. -/
theorem entry_injective {t u : Token} (equal : t.entry = u.entry) : t = u := by
  have read := read_entry t
  rw [equal, read_entry] at read
  exact (Except.ok.inj read).symm

/-- The token that an entry is read as has what the entry has. -/
theorem entry_of_read {t : Token} (read : e.read = .ok t) : e = t.entry := by
  rcases e with ⟨id, tenant, deviceId, raw, issuedAt, expiresAt, revoked⟩
  cases issuedAt with
  | error fault => cases read
  | ok issued =>
      cases expiresAt with
      | error fault => cases read
      | ok expires =>
          cases read
          rfl

theorem isToken_iff : e.isToken tenant id = true ↔ e.tenant = tenant ∧ e.id = id := by
  simp [isToken]

theorem isToken_iff_key : f.isToken e.tenant e.id = true ↔ f.key = e.key := by
  simp [isToken, key]

theorem isOutstanding_iff : e.isOutstanding tenant deviceId = true ↔
    e.revoked = false ∧ e.tenant = tenant ∧ e.deviceId = deviceId := by
  simp [isOutstanding, and_assoc]

@[simp]
theorem isOutstanding_revoke : e.revoke.isOutstanding tenant deviceId = false := by
  simp [isOutstanding, revoke]

@[simp]
theorem key_revoke : e.revoke.key = e.key :=
  rfl

/-! ## Revoking -/

theorem mem_revokeWhere_iff : f ∈ revokeWhere p entries ↔
    ∃ e ∈ entries, f = if p e then e.revoke else e := by
  simp only [revokeWhere, List.mem_map, eq_comm]

@[simp]
theorem map_key_revokeWhere : (revokeWhere p entries).map key = entries.map key := by
  rw [revokeWhere, List.map_map]
  apply List.map_congr_left
  intro e _
  simp only [Function.comp]
  split
  · rfl
  · rfl

theorem revokeWhere_eq_self (none : ∀ e ∈ entries, p e = false) :
    revokeWhere p entries = entries := by
  induction entries with
  | nil => rfl
  | cons e rest ih =>
      have notHead : p e = false := none e List.mem_cons_self
      have rest := ih fun f member => none f (List.mem_cons_of_mem e member)
      simp only [revokeWhere] at rest
      simp only [revokeWhere, List.map_cons, notHead, Bool.false_eq_true, if_false, rest]

/-- None of the entries that were picked is outstanding any more. -/
theorem notOutstanding_of_mem_revokeWhere
    (picked : ∀ e ∈ entries, e.isOutstanding tenant deviceId = true → p e = true)
    (member : f ∈ revokeWhere p entries) : f.isOutstanding tenant deviceId = false := by
  rcases mem_revokeWhere_iff.mp member with ⟨e, old, rfl⟩
  split
  · exact isOutstanding_revoke
  · rename_i notPicked
    cases outstanding : e.isOutstanding tenant deviceId with
    | false => rfl
    | true => exact absurd (picked e old outstanding) notPicked

theorem countP_revokeWhere_le :
    (revokeWhere p entries).countP (isOutstanding tenant deviceId) ≤
      entries.countP (isOutstanding tenant deviceId) := by
  rw [revokeWhere, List.countP_map]
  apply List.countP_mono_left
  intro e _ outstanding
  simp only [Function.comp] at outstanding
  split at outstanding
  · simp at outstanding
  · exact outstanding

/-! ## Putting -/

/-- Where no entry has the key, the new one comes last. -/
theorem put_eq_append (fresh : ∀ f ∈ entries, f.key ≠ e.key) : put e entries = entries ++ [e] := by
  induction entries with
  | nil => rfl
  | cons f rest ih =>
      have other : ¬f.isToken e.tenant e.id = true := fun same =>
        fresh f List.mem_cons_self (isToken_iff_key.mp same)
      have rest := ih fun g member => fresh g (List.mem_cons_of_mem f member)
      simp only [put, other, if_false, rest, Bool.false_eq_true, List.cons_append]

theorem mem_of_mem_put (member : f ∈ put e entries) : f = e ∨ f ∈ entries := by
  induction entries with
  | nil =>
      left
      exact List.mem_singleton.mp member
  | cons g rest ih =>
      rw [put] at member
      split at member
      · rcases List.mem_cons.mp member with new | old
        · exact .inl new
        · exact .inr (List.mem_cons_of_mem g old)
      · rcases List.mem_cons.mp member with first | later
        · right
          rw [first]
          exact List.mem_cons_self
        · rcases ih later with new | old
          · exact .inl new
          · exact .inr (List.mem_cons_of_mem g old)

theorem mem_put_self : e ∈ put e entries := by
  induction entries with
  | nil => exact List.mem_cons_self
  | cons f rest ih =>
      rw [put]
      split
      · exact List.mem_cons_self
      · exact List.mem_cons_of_mem f ih

theorem mem_put_of_mem (member : f ∈ entries) (other : f.key ≠ e.key) : f ∈ put e entries := by
  induction entries with
  | nil => cases member
  | cons g rest ih =>
      rw [put]
      split
      · rename_i same
        rcases List.mem_cons.mp member with first | later
        · rw [first] at other
          exact absurd (isToken_iff_key.mp same) other
        · exact List.mem_cons_of_mem e later
      · rcases List.mem_cons.mp member with first | later
        · rw [first]
          exact List.mem_cons_self
        · exact List.mem_cons_of_mem g (ih later)

theorem countP_put_le : (put e entries).countP q ≤ entries.countP q + if q e then 1 else 0 := by
  induction entries with
  | nil => simp [put, List.countP_cons]
  | cons f rest ih =>
      rw [put]
      split
      · rw [List.countP_cons, List.countP_cons]
        omega
      · rw [List.countP_cons, List.countP_cons]
        omega

/-! ## Keys -/

/-- No two entries have the same key. -/
def Keyed (entries : List TokenEntry) : Prop :=
  (entries.map key).Nodup

theorem Keyed.revokeWhere (keyed : Keyed entries) : Keyed (revokeWhere p entries) := by
  rw [Keyed, map_key_revokeWhere]
  exact keyed

theorem Keyed.put (keyed : Keyed entries) : Keyed (put e entries) := by
  induction entries with
  | nil => simp [Keyed, TokenEntry.put]
  | cons f rest ih =>
      have parts := List.nodup_cons.mp keyed
      rw [TokenEntry.put]
      split
      · rename_i same
        have keyEq : f.key = e.key := isToken_iff_key.mp same
        rw [Keyed, List.map_cons, ← keyEq]
        exact keyed
      · rename_i other
        refine List.nodup_cons.mpr ⟨?_, ih parts.2⟩
        intro member
        obtain ⟨g, gMem, keyEq⟩ := List.mem_map.mp member
        rcases mem_of_mem_put gMem with new | old
        · rw [new] at keyEq
          exact other (isToken_iff_key.mpr keyEq.symm)
        · exact parts.1 (List.mem_map.mpr ⟨g, old, keyEq⟩)

/-- An entry that is put stands beside those with other keys. -/
theorem Keyed.perm_put (keyed : Keyed entries) (e : TokenEntry) :
    (TokenEntry.put e entries).Perm (e :: entries.filter fun f => f.key ≠ e.key) := by
  induction entries with
  | nil => exact .refl _
  | cons f rest ih =>
      have parts := List.nodup_cons.mp keyed
      rw [TokenEntry.put]
      split
      · rename_i same
        have keyEq : f.key = e.key := isToken_iff_key.mp same
        have others : rest.filter (fun g => g.key ≠ e.key) = rest := by
          rw [List.filter_eq_self]
          intro g member
          refine decide_eq_true fun gKey => parts.1 ?_
          exact List.mem_map.mpr ⟨g, member, gKey.trans keyEq.symm⟩
        rw [List.filter_cons_of_neg (by simpa using keyEq), others]
      · rename_i other
        have keyNe : f.key ≠ e.key := fun keyEq => other (isToken_iff_key.mpr keyEq)
        rw [List.filter_cons_of_pos (by simpa using keyNe)]
        exact ((ih parts.2).cons f).trans (.swap e f _)

theorem Keyed.perm {others : List TokenEntry} (keyed : Keyed entries)
    (perm : entries.Perm others) : Keyed others :=
  (perm.map key).nodup_iff.mp keyed

/-- Where an entry is put, the order of the others does not matter. -/
theorem Keyed.put_perm_put {others : List TokenEntry} (keyed : Keyed entries)
    (perm : entries.Perm others) (e : TokenEntry) :
    (TokenEntry.put e entries).Perm (TokenEntry.put e others) :=
  (keyed.perm_put e).trans (((perm.filter _).cons e).trans ((keyed.perm perm).perm_put e).symm)

/-- Two entries with the same key are one. -/
theorem Keyed.eq_of_key (keyed : Keyed entries) (eMem : e ∈ entries) (fMem : f ∈ entries)
    (keyEq : e.key = f.key) : e = f :=
  List.inj_on_of_nodup_map keyed eMem fMem keyEq

/-- An entry is found under its key. -/
theorem Keyed.find?_of_mem (keyed : Keyed entries) (member : e ∈ entries) :
    entries.find? (isToken e.tenant e.id) = some e := by
  cases found : entries.find? (isToken e.tenant e.id) with
  | none =>
      have none := List.find?_eq_none.mp found e member
      exact absurd (isToken_iff.mpr ⟨rfl, rfl⟩) none
  | some f =>
      have same := isToken_iff_key.mp (List.find?_some found)
      rw [keyed.eq_of_key (List.mem_of_find?_eq_some found) member same]

/-! ## Outstanding tokens -/

/-- No device has two tokens that are not revoked. -/
def SingleLive (entries : List TokenEntry) : Prop :=
  ∀ tenant deviceId, entries.countP (isOutstanding tenant deviceId) ≤ 1

theorem SingleLive.revokeWhere (single : SingleLive entries) :
    SingleLive (revokeWhere p entries) :=
  fun tenant deviceId => Nat.le_trans countP_revokeWhere_le (single tenant deviceId)

/-- A token may be put where its device has none. -/
theorem SingleLive.put (single : SingleLive entries)
    (none : ∀ f ∈ entries, f.isOutstanding e.tenant e.deviceId = false) :
    SingleLive (put e entries) := by
  intro tenant deviceId
  apply Nat.le_trans countP_put_le
  by_cases own : e.isOutstanding tenant deviceId = true
  · rcases isOutstanding_iff.mp own with ⟨-, rfl, rfl⟩
    have zero : entries.countP (isOutstanding e.tenant e.deviceId) = 0 := by
      rw [List.countP_eq_zero]
      intro f member
      simp [none f member]
    simp only [zero, own, if_true, Nat.zero_add, Nat.le_refl]
  · rw [if_neg own]
    exact single tenant deviceId

theorem SingleLive.perm {others : List TokenEntry} (single : SingleLive entries)
    (perm : entries.Perm others) : SingleLive others := by
  intro tenant deviceId
  rw [← perm.countP_eq]
  exact single tenant deviceId

theorem SingleLive.of_cons (single : SingleLive (e :: entries)) : SingleLive entries := by
  intro tenant deviceId
  have bound := single tenant deviceId
  rw [List.countP_cons] at bound
  exact Nat.le_trans (Nat.le_add_right _ _) bound

/-- Behind an outstanding token there is no other one of its device. -/
theorem SingleLive.none_behind (single : SingleLive (e :: entries))
    (outstanding : e.isOutstanding tenant deviceId = true) :
    ∀ f ∈ entries, f.isOutstanding tenant deviceId = false := by
  have bound := single tenant deviceId
  rw [List.countP_cons, if_pos outstanding] at bound
  have zero : entries.countP (isOutstanding tenant deviceId) = 0 := by omega
  intro f member
  cases other : f.isOutstanding tenant deviceId with
  | false => rfl
  | true => exact absurd other (List.countP_eq_zero.mp zero f member)

/-- Two outstanding tokens of a device are one. -/
theorem SingleLive.eq_of_outstanding (single : SingleLive entries) (eMem : e ∈ entries)
    (fMem : f ∈ entries) (eOut : e.isOutstanding tenant deviceId = true)
    (fOut : f.isOutstanding tenant deviceId = true) : e = f := by
  induction entries with
  | nil => cases eMem
  | cons g rest ih =>
      rcases List.mem_cons.mp eMem with eFirst | eLater
      · rcases List.mem_cons.mp fMem with fFirst | fLater
        · rw [eFirst, fFirst]
        · rw [eFirst] at eOut
          exact absurd fOut (by rw [single.none_behind eOut f fLater]; exact Bool.false_ne_true)
      · rcases List.mem_cons.mp fMem with fFirst | fLater
        · rw [fFirst] at fOut
          exact absurd eOut (by rw [single.none_behind fOut e eLater]; exact Bool.false_ne_true)
        · exact ih single.of_cons eLater fLater

/-- The outstanding token of a device is the one that is found. -/
theorem SingleLive.find?_of_mem (single : SingleLive entries) (member : e ∈ entries)
    (outstanding : e.isOutstanding tenant deviceId = true) :
    entries.find? (isOutstanding tenant deviceId) = some e := by
  cases found : entries.find? (isOutstanding tenant deviceId) with
  | none => exact absurd outstanding (List.find?_eq_none.mp found e member)
  | some f =>
      rw [single.eq_of_outstanding (List.mem_of_find?_eq_some found) member
        (List.find?_some found) outstanding]

end TokenEntry

end DeviceAdmission
