import DeviceAdmission.Proofs.Store.Keys
import DeviceAdmission.Proofs.Store.Reached

/-!
# What a store in tables gives back

Whoever calls a store can keep a ledger of what was accepted, as last updated. This file compares
the ledger with what the tables give back. Calls with fresh ids never lose what is in the ledger,
but a record is only given back if its times lie in the years 0 to 9999: the writer of a row takes
any time, and the reader of a row does not. A device with another time is not accepted to begin
with, whereas a token is, and then stands in the way of every later token of its device.
-/

namespace DeviceAdmission

/-- What satisfies a predicate that nothing else satisfies is found. -/
theorem find?_eq_some_of_unique {α : Type} {l : List α} {p : α → Bool} {a : α} (member : a ∈ l)
    (holds : p a = true) (unique : ∀ b ∈ l, p b = true → b = a) : l.find? p = some a := by
  cases found : l.find? p with
  | none => exact absurd holds (List.find?_eq_none.mp found a member)
  | some b =>
      rw [unique b (List.mem_of_find?_eq_some found) (List.find?_some found)]

/-- A change of what satisfies a predicate changes nothing where nothing does. -/
theorem map_ite_eq_self {α : Type} {l : List α} {p : α → Bool} {g : α → α}
    (none : l.any p = false) : (l.map fun a => if p a then g a else a) = l := by
  induction l with
  | nil => rfl
  | cons a rest ih =>
      obtain ⟨notHead, notRest⟩ := Bool.or_eq_false_iff.mp none
      rw [List.map_cons, ih notRest, notHead]
      rfl

namespace Store.Distinct

variable {t : TableStore} {ids : List String}

/-- Two rows with the same id are one. -/
theorem row_eq_of_id (distinct : (tables t).Distinct ids) {r q : DeviceRow}
    (rMem : r ∈ t.devices) (qMem : q ∈ t.devices) (idEq : r.id = q.id) : r = q := by
  have unique := distinct.uniqueId
  rw [names, devices, List.map_map, List.map_map] at unique
  exact List.inj_on_of_nodup_map unique rMem qMem idEq

/-- Two rows of a tenant with the same identity data are one. -/
theorem row_eq_of_identity (distinct : (tables t).Distinct ids) {r q : DeviceRow}
    (rMem : r ∈ t.devices) (qMem : q ∈ t.devices) (tenantEq : r.tenant = q.tenant)
    (dataEq : r.identityData = q.identityData) : r = q := by
  have unique := distinct.uniqueIdentity
  rw [names, devices, List.map_map, List.map_map] at unique
  exact List.inj_on_of_nodup_map unique rMem qMem (Prod.ext tenantEq dataEq)

end Store.Distinct

/-! ## The ledger -/

/-- The devices and tokens that a store has accepted, as last updated. -/
structure Ledger where
  devices : List Device
  tokens : List Token

namespace Ledger

def empty : Ledger := ⟨[], []⟩

/-- Change the device with the tenant and id. -/
def changeDevice (l : Ledger) (tenant : Tenant) (id : String) (f : Device → Device) : Ledger :=
  { l with devices := l.devices.map fun d => if MemoryStore.isDevice tenant id d then f d else d }

/-- Revoke the tokens that `p` picks. -/
def revokeWhere (l : Ledger) (p : Token → Bool) : Ledger :=
  { l with tokens := l.tokens.map fun t => if p t then t.revoke else t }

/-- Note down what a call was answered. A failure accepts nothing, and neither does the answer that
there is no such record or that there is one already. A new token has force, and takes it from the
one before. -/
def note {α : Type} (l : Ledger) : StoreCall α → Except StoreFault α → Ledger
  | .getOrCreate _, .ok (d, true) => { l with devices := l.devices ++ [d] }
  | .updateStatus tenant id status now, .ok true =>
    l.changeDevice tenant id fun d => { d with status, updatedAt := now }
  | .rotateKey tenant id key now, .ok true =>
    l.changeDevice tenant id fun d => { d with publicKey := key, updatedAt := now }
  | .insertOrGetLive candidate _, .ok t =>
    if t.id = candidate.id then
      let retired := l.revokeWhere (·.isOutstanding candidate.tenant candidate.deviceId)
      { retired with tokens := retired.tokens ++ [{ t with revoked := false }] }
    else l
  | .revokeToken tenant id, .ok true => l.revokeWhere (MemoryStore.isToken tenant id)
  | .revokeDeviceTokens tenant deviceId, .ok _ =>
    l.revokeWhere (·.isOutstanding tenant deviceId)
  | _, _ => l

end Ledger

/-- A call with the type of its answer. -/
abbrev AnyCall : Type 1 :=
  Σ α : Type, StoreCall α

/-- The tables after some calls, the latest first. -/
def TableStore.after : List AnyCall → TableStore
  | [] => .empty
  | c :: earlier => ((after earlier).run c.2).2

/-- The ledger of some calls to tables, the latest first. -/
def Ledger.of : List AnyCall → Ledger
  | [] => .empty
  | c :: earlier => (of earlier).note c.2 ((TableStore.after earlier).run c.2).1

/-- The ids of the devices that calls may register. -/
def newDeviceIds (calls : List AnyCall) : List String :=
  calls.filterMap fun c => c.2.newDevice?.map Device.id

/-- The ids of the tokens that calls may put. -/
def newTokenIds (calls : List AnyCall) : List String :=
  calls.filterMap fun c => c.2.candidate?.map Token.id

/-- Whether no id is given twice. -/
structure FreshIn (calls : List AnyCall) : Prop where
  devices : (newDeviceIds calls).Nodup
  tokens : (newTokenIds calls).Nodup

namespace StoreCall

variable {α : Type}

/-- The times that a call may write into a row. -/
def times : StoreCall α → List Instant
  | getOrCreate candidate => [candidate.createdAt, candidate.updatedAt]
  | updateStatus _ _ _ now => [now]
  | rotateKey _ _ _ now => [now]
  | insertOrGetLive candidate _ => [candidate.issuedAt, candidate.expiresAt]
  | _ => []

/-- Whether all times that a call may write are legible. -/
def IsLegible (c : StoreCall α) : Prop :=
  ∀ t ∈ c.times, t.isLegible = true

end StoreCall

namespace TableStore

/-- Whether tables give a device back, to those who look it up and to those who register it
again. -/
structure GivesDevice (t : TableStore) (d : Device) : Prop where
  get : t.run (.getDevice d.tenant d.id) = (.ok (some d), t)
  known : ∀ c : Device, c.tenant = d.tenant → c.identityData = d.identityData →
    t.run (.getOrCreate c) = (.ok (d, false), t)

/-- Whether tables give a token back, to those who look it up and, while it is live, to those who
ask for the live token of its device. -/
structure GivesToken (t : TableStore) (u : Token) : Prop where
  get : t.run (.getToken u.tenant u.id) = (.ok (some u), t)
  live : ∀ (c : Token) (now : Instant), u.isOutstanding c.tenant c.deviceId = true →
    u.isExpiredAt now = false → t.run (.insertOrGetLive c now) = (.ok u, t)

end TableStore

/-- The devices of a tenant by their ids, without the first `skip`, at most `limit`. -/
def Ledger.page (l : Ledger) (tenant : Tenant) (skip limit : Nat) : List Device :=
  if maxOffset < skip then []
  else (((l.devices.filter (·.tenant = tenant)).mergeSort fun a b => a.id ≤ b.id).drop skip).take
    (min limit maxOffset)

/-! ## Devices -/

namespace Ledger

variable {α : Type} {l l' : Ledger} {t t' : TableStore} {c : StoreCall α} {given : List String}

/-- What a call does to the devices of a ledger and to the rows of devices. -/
inductive DeviceStep (c : StoreCall α) (l l' : Ledger) (t t' : TableStore) : Prop where
  | same (ledger : l'.devices = l.devices) (rows : t'.devices = t.devices)
  | changed {f : Device → Device} {g : DeviceRow → DeviceRow}
      (ledger : l'.devices = l.devices.map f) (rows : t'.devices = t.devices.map g)
      (agree : ∀ d, DeviceRow.ofDevice d ∈ t.devices →
        DeviceRow.ofDevice (f d) = g (DeviceRow.ofDevice d))
      (legible : c.IsLegible → ∀ d : Device, d.isLegible = true → (f d).isLegible = true)
  | added {d : Device} (ledger : l'.devices = l.devices ++ [d])
      (rows : t'.devices = t.devices ++ [.ofDevice d]) (legible : d.isLegible = true)
  | unread {d : Device} (brought : c.newDevice? = some d) (illegible : ¬d.isLegible = true)
      (ledger : l'.devices = l.devices) (rows : t'.devices = t.devices ++ [.ofDevice d])

theorem deviceStep_getOrCreate {candidate : Device} (l : Ledger)
    (fresh : ∀ r ∈ t.devices, r.id ≠ candidate.id) :
    DeviceStep (.getOrCreate candidate) l (l.note (.getOrCreate candidate)
      (t.run (.getOrCreate candidate)).1) t (t.run (.getOrCreate candidate)).2 := by
  simp only [TableStore.run]
  cases found : t.devices.find?
      (DeviceRow.hasIdentity candidate.tenant candidate.identityData) with
  | some row =>
      rw [TableStore.getOrCreate_of_found found, TableStore.answerRow]
      cases row.read with
      | ok d => exact .same rfl rfl
      | error fault => exact .same rfl rfl
  | none =>
      rw [TableStore.getOrCreate_of_none fresh found, TableStore.answerRow]
      by_cases legible : candidate.isLegible = true
      · rw [DeviceRow.read_ofDevice legible]
        exact .added rfl rfl legible
      · obtain ⟨fault, read⟩ := DeviceRow.exists_read_ofDevice legible
        rw [read]
        exact .unread rfl legible rfl rfl

/-- A change of the devices with a tenant and id is the same in the ledger and in the rows. -/
theorem deviceStep_changeDevice {tenant : Tenant} {id : String} {f : Device → Device}
    {g : DeviceRow → DeviceRow} {p : DeviceRow → Bool}
    (ledger : l' = l.changeDevice tenant id f)
    (rows : t'.devices = t.devices.map fun r => if p r then g r else r)
    (picks : ∀ r ∈ t.devices, p r = r.isDevice tenant id)
    (agree : ∀ d, DeviceRow.ofDevice (f d) = g (DeviceRow.ofDevice d))
    (legible : c.IsLegible → ∀ d : Device, d.isLegible = true → (f d).isLegible = true) :
    DeviceStep c l l' t t' := by
  subst ledger
  refine .changed rfl rows ?_ ?_
  · intro d member
    have picked : p (DeviceRow.ofDevice d) = MemoryStore.isDevice tenant id d := picks _ member
    rw [picked]
    split
    · exact agree d
    · rfl
  · intro isLegible d dLegible
    split
    · exact legible isLegible d dLegible
    · exact dLegible

theorem deviceStep_updateStatus (l : Ledger) (t : TableStore) (tenant : Tenant) (id : String)
    (status : DeviceStatus) (now : Instant) :
    DeviceStep (.updateStatus tenant id status now) l
      (l.note (.updateStatus tenant id status now)
        (t.run (.updateStatus tenant id status now)).1) t
      (t.run (.updateStatus tenant id status now)).2 := by
  simp only [TableStore.run, TableStore.sure, TableStore.updateStatus]
  cases known : t.devices.any (DeviceRow.isDevice tenant id) with
  | true =>
      refine deviceStep_changeDevice rfl rfl (fun _ _ => rfl) (fun _ => rfl) ?_
      intro isLegible d dLegible
      exact Device.isLegible_iff.mpr ⟨(Device.isLegible_iff.mp dLegible).1,
        isLegible now List.mem_cons_self⟩
  | false => exact .same rfl (map_ite_eq_self known)

theorem deviceStep_rotateKey (l : Ledger) (distinct : (Store.tables t).Distinct given)
    (tenant : Tenant) (id key : String) (now : Instant) :
    DeviceStep (.rotateKey tenant id key now) l
      (l.note (.rotateKey tenant id key now) (t.run (.rotateKey tenant id key now)).1) t
      (t.run (.rotateKey tenant id key now)).2 := by
  simp only [TableStore.run, TableStore.sure, TableStore.rotateKey]
  cases known : t.devices.any (TableStore.isAcceptedDevice tenant id) with
  | true =>
      obtain ⟨q, qMem, qAccepted⟩ := List.any_eq_true.mp known
      have qIs : q.isDevice tenant id = true := (Bool.and_eq_true_iff.mp qAccepted).1
      -- The accepted row is the only one with the id, so the status picks what the id does.
      have picks : ∀ r ∈ t.devices,
          TableStore.isAcceptedDevice tenant id r = r.isDevice tenant id := by
        intro r rMem
        cases isIt : r.isDevice tenant id with
        | false => rw [TableStore.isAcceptedDevice, isIt, Bool.false_and]
        | true =>
            have idEq : r.id = q.id := by
              simp only [DeviceRow.isDevice, Bool.and_eq_true, decide_eq_true_eq] at isIt qIs
              exact isIt.2.trans qIs.2.symm
            rw [distinct.row_eq_of_id rMem qMem idEq]
            exact qAccepted
      refine deviceStep_changeDevice rfl rfl picks (fun _ => rfl) ?_
      intro isLegible d dLegible
      exact Device.isLegible_iff.mpr ⟨(Device.isLegible_iff.mp dLegible).1,
        isLegible now List.mem_cons_self⟩
  | false => exact .same rfl (map_ite_eq_self known)

/-- What a call with a fresh id does to the devices of a ledger. -/
theorem deviceStep (l : Ledger) (distinct : (Store.tables t).Distinct given)
    (fresh : ∀ d, c.newDevice? = some d → ∀ r ∈ t.devices, r.id ≠ d.id) :
    DeviceStep c l (l.note c (t.run c).1) t (t.run c).2 := by
  cases c with
  | getOrCreate candidate => exact deviceStep_getOrCreate l (fresh candidate rfl)
  | getDevice tenant id => exact .same rfl rfl
  | listDevices tenant skip limit => exact .same rfl rfl
  | updateStatus tenant id status now => exact deviceStep_updateStatus l t tenant id status now
  | rotateKey tenant id key now => exact deviceStep_rotateKey l distinct tenant id key now
  | insertOrGetLive candidate now =>
      refine .same ?_ (t.devices_insertOrGetLive candidate now)
      simp only [TableStore.run]
      cases (t.insertOrGetLive candidate now).1 with
      | error fault => rfl
      | ok u =>
          simp only [note]
          split <;> rfl
  | getToken tenant id => exact .same rfl rfl
  | revokeToken tenant id =>
      refine .same ?_ rfl
      simp only [TableStore.run, TableStore.sure, TableStore.revokeToken]
      cases t.tokens.any (TokenRow.isToken tenant id) <;> rfl
  | revokeDeviceTokens tenant deviceId => exact .same rfl rfl

/-! ## Tokens -/

/-- What a call does to the tokens of a ledger: some may be revoked, and one may be added with
force. -/
inductive TokenStep (c : StoreCall α) (l l' : Ledger) (t t' : TableStore) : Prop where
  | revoked {p : Token → Bool} {q : TokenEntry → Bool} (picks : ∀ u : Token, q u.rowEntry = p u)
      (ledger : l'.tokens = (l.revokeWhere p).tokens)
      (rows : (Store.tables t').tokens = TokenEntry.revokeWhere q (Store.tables t).tokens)
  | added {p : Token → Bool} {q : TokenEntry → Bool} {u : Token}
      (picks : ∀ u : Token, q u.rowEntry = p u) (brought : c.candidate? = some u)
      (ledger : l'.tokens = (l.revokeWhere p).tokens ++ [{ u with revoked := false }])
      (rows : (Store.tables t').tokens =
        TokenEntry.revokeWhere q (Store.tables t).tokens ++ [StoreKind.tables.tokenEntry u])

theorem tokenStep_of_same (ledger : l'.tokens = l.tokens)
    (rows : (Store.tables t').tokens = (Store.tables t).tokens) : TokenStep c l l' t t' := by
  refine .revoked (p := fun _ => false) (q := fun _ => false) (fun _ => rfl) ?_ ?_
  · rw [ledger, revokeWhere]
    exact (List.map_id' _).symm
  · rw [rows, TokenEntry.revokeWhere_eq_self fun _ _ => rfl]

theorem tokenStep_insertOrGetLive {candidate : Token} {now : Instant} (l : Ledger)
    (sound : (Store.tables t).Sound)
    (fresh : ∀ e ∈ (Store.tables t).tokens, e.id ≠ candidate.id) :
    TokenStep (.insertOrGetLive candidate now) l
      (l.note (.insertOrGetLive candidate now) (t.run (.insertOrGetLive candidate now)).1) t
      (t.run (.insertOrGetLive candidate now)).2 := by
  have insertion := Store.insertion sound candidate now
  simp only [Store.run] at insertion
  generalize (t.run (.insertOrGetLive candidate now)).1 = answer at insertion ⊢
  generalize (t.run (.insertOrGetLive candidate now)).2 = t' at insertion ⊢
  cases insertion with
  | failed fault => exact tokenStep_of_same rfl rfl
  | @reused u member outstanding live =>
      have otherId : u.id ≠ candidate.id := fresh u.entry member
      refine tokenStep_of_same ?_ rfl
      simp only [note, otherId, if_false]
  | added expired freshRow devices tokens =>
      refine .added (p := (·.isOutstanding candidate.tenant candidate.deviceId))
        (fun u => u.isOutstanding_rowEntry candidate.tenant candidate.deviceId) rfl ?_ ?_
      · simp only [note, if_true]
      · rw [tokens, TokenEntry.put_eq_append]
        · rfl
        · intro f member sameKey
          obtain ⟨e, old, rfl⟩ := TokenEntry.mem_revokeWhere_iff.mp member
          apply fresh e old
          have idEq := congrArg Prod.snd sameKey
          split at idEq
          · exact idEq
          · exact idEq

/-- What a call with a fresh id does to the tokens of a ledger. -/
theorem tokenStep (l : Ledger) (c : StoreCall α) (sound : (Store.tables t).Sound)
    (fresh : ∀ u, c.candidate? = some u → ∀ e ∈ (Store.tables t).tokens, e.id ≠ u.id) :
    TokenStep c l (l.note c (t.run c).1) t (t.run c).2 := by
  have same : c.method.table = .devices → (l.note c (t.run c).1).tokens = l.tokens →
      TokenStep c l (l.note c (t.run c).1) t (t.run c).2 := fun aboutDevices ledger =>
    tokenStep_of_same ledger (Store.sameTokens_run (.tables t) aboutDevices).tokens
  cases c with
  | getOrCreate candidate =>
      apply same rfl
      cases (t.run (.getOrCreate candidate)).1 with
      | error fault => rfl
      | ok a =>
          rcases a with ⟨d, created⟩
          cases created <;> rfl
  | getDevice tenant id => exact same rfl rfl
  | listDevices tenant skip limit => exact same rfl rfl
  | updateStatus tenant id status now =>
      apply same rfl
      simp only [TableStore.run, TableStore.sure, TableStore.updateStatus]
      cases t.devices.any (DeviceRow.isDevice tenant id) <;> rfl
  | rotateKey tenant id key now =>
      apply same rfl
      simp only [TableStore.run, TableStore.sure, TableStore.rotateKey]
      cases t.devices.any (TableStore.isAcceptedDevice tenant id) <;> rfl
  | insertOrGetLive candidate now =>
      exact tokenStep_insertOrGetLive l sound (fresh candidate rfl)
  | getToken tenant id => exact tokenStep_of_same rfl rfl
  | revokeToken tenant id =>
      have rows := Store.tokens_revokeToken (.tables t) tenant id
      have answer := Store.run_revokeToken (.tables t) tenant id
      simp only [Store.run] at rows answer
      rw [answer]
      cases known : (Store.tables t).tokens.any (TokenEntry.isToken tenant id) with
      | true => exact .revoked (fun u => u.isToken_rowEntry tenant id) rfl rows
      | false =>
          refine tokenStep_of_same rfl (rows.trans (TokenEntry.revokeWhere_eq_self ?_))
          exact fun e member => Bool.not_eq_true _ ▸ List.any_eq_false.mp known e member
  | revokeDeviceTokens tenant deviceId =>
      have rows := Store.tokens_revokeDeviceTokens (.tables t) tenant deviceId
      exact .revoked (fun u => u.isOutstanding_rowEntry tenant deviceId) rfl rows

theorem map_rowEntry_revokeWhere {p : Token → Bool} {q : TokenEntry → Bool}
    (picks : ∀ u : Token, q u.rowEntry = p u) (l : Ledger) :
    (l.revokeWhere p).tokens.map Token.rowEntry =
      TokenEntry.revokeWhere q (l.tokens.map Token.rowEntry) := by
  rw [revokeWhere, TokenEntry.revokeWhere, List.map_map, List.map_map]
  apply List.map_congr_left
  intro u _
  simp only [Function.comp, picks]
  split
  · exact u.rowEntry_revoke
  · rfl

/-- The rows of tokens agree with the ledger after a call if they did before. -/
theorem TokenStep.tokens_eq (step : TokenStep c l l' t t')
    (before : (Store.tables t).tokens = l.tokens.map Token.rowEntry) :
    (Store.tables t').tokens = l'.tokens.map Token.rowEntry := by
  cases step with
  | revoked picks ledger rows =>
      rw [rows, ledger, map_rowEntry_revokeWhere picks, before]
  | added picks brought ledger rows =>
      rw [rows, ledger, List.map_append, map_rowEntry_revokeWhere picks, before]
      rw [List.map_singleton, Token.rowEntry_unrevoked]

/-- A token of the ledger was there before, maybe with force, or the call brought it. -/
theorem TokenStep.exists_origin (step : TokenStep c l l' t t') {u : Token}
    (member : u ∈ l'.tokens) :
    (∃ v ∈ l.tokens, u = v ∨ u = v.revoke) ∨
      ∃ v, c.candidate? = some v ∧ u = { v with revoked := false } := by
  have ofRevoked : ∀ {p : Token → Bool}, u ∈ (l.revokeWhere p).tokens →
      ∃ v ∈ l.tokens, u = v ∨ u = v.revoke := by
    intro p member
    rcases List.mem_map.mp member with ⟨v, old, rfl⟩
    refine ⟨v, old, ?_⟩
    split
    · exact .inr rfl
    · exact .inl rfl
  cases step with
  | revoked picks ledger rows => exact .inl (ofRevoked (ledger ▸ member))
  | @added p q v picks brought ledger rows =>
      rw [ledger] at member
      rcases List.mem_append.mp member with old | new
      · exact .inl (ofRevoked old)
      · exact .inr ⟨v, brought, List.mem_singleton.mp new⟩

end Ledger

end DeviceAdmission
