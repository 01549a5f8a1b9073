import DeviceAdmission.Proofs.Store.Reached
import Mathlib.Data.List.Perm.Basic

/-!
# The order of tokens in memory

A store in memory keeps its tokens in an order that means nothing. Two stores that differ in this
order alone answer every call alike and differ in nothing else afterwards, because no two tokens
have the same key and a device has at most one that is not revoked.
-/

namespace DeviceAdmission

open TokenEntry

namespace MemoryStore

variable {m : MemoryStore} {tokens : List Token} {α : Type}

/-- Whether two answers with the stores that they leave differ in the order of tokens alone. -/
structure SameButOrder (r r' : α × MemoryStore) : Prop where
  answer : r.1 = r'.1
  devices : r'.2.devices = r.2.devices
  identities : r'.2.identities = r.2.identities
  tokens : r.2.tokens.Perm r'.2.tokens

/-- A token is put in place of the one with its key, whatever the order. -/
theorem putToken_perm {l l' : List Token} (keyed : Keyed (l.map Token.entry)) (perm : l.Perm l')
    (u : Token) : (putToken u l).Perm (putToken u l') := by
  have injective : Function.Injective Token.entry := fun _ _ => entry_injective
  rw [← List.map_perm_map_iff injective, map_entry_putToken, map_entry_putToken]
  exact keyed.put_perm_put (perm.map Token.entry) u.entry

theorem sameButOrder_insertOrGetLive (single : SingleLive (m.tokens.map Token.entry))
    (keyed : Keyed (m.tokens.map Token.entry)) (perm : m.tokens.Perm tokens) (candidate : Token)
    (now : Instant) :
    SameButOrder (m.insertOrGetLive candidate now)
      ({ m with tokens }.insertOrGetLive candidate now) := by
  have single' : SingleLive (tokens.map Token.entry) := single.perm (perm.map Token.entry)
  have same : m.tokens.find? (fun t => t.isOutstanding candidate.tenant candidate.deviceId) =
      tokens.find? (fun t => t.isOutstanding candidate.tenant candidate.deviceId) := by
    apply find?_eq_of_perm perm
    intro t tMem u uMem tOut uOut
    exact entry_injective (single.eq_of_outstanding (List.mem_map_of_mem tMem)
      (List.mem_map_of_mem uMem) tOut uOut)
  simp only [insertOrGetLive, Store.takeLive_eq single, Store.takeLive_eq single', ← same]
  cases m.tokens.find? (fun t => t.isOutstanding candidate.tenant candidate.deviceId) with
  | none => exact ⟨rfl, rfl, rfl, putToken_perm keyed perm candidate⟩
  | some existing =>
      by_cases expired : existing.isExpiredAt now = true
      · simp only [expired, if_true]
        have revoked : (m.tokens.map fun u =>
            if u.isOutstanding candidate.tenant candidate.deviceId then u.revoke else u).map
              Token.entry = revokeWhere (isOutstanding candidate.tenant candidate.deviceId)
                (m.tokens.map Token.entry) :=
          map_entry_revoke (isOutstanding candidate.tenant candidate.deviceId) m.tokens
        have stillKeyed := keyed.revokeWhere
          (p := isOutstanding candidate.tenant candidate.deviceId)
        rw [← revoked] at stillKeyed
        exact ⟨rfl, rfl, rfl, putToken_perm stillKeyed (perm.map _) candidate⟩
      · simp only [expired, if_false, Bool.false_eq_true]
        exact ⟨rfl, rfl, rfl, perm⟩

theorem token?_eq_of_perm (keyed : Keyed (m.tokens.map Token.entry)) (perm : m.tokens.Perm tokens)
    (tenant : Tenant) (id : String) :
    { m with tokens }.token? tenant id = m.token? tenant id := by
  symm
  apply find?_eq_of_perm perm
  intro t tMem u uMem tIs uIs
  have tIs : t.entry.isToken tenant id = true := tIs
  have uIs : u.entry.isToken tenant id = true := uIs
  rcases isToken_iff.mp tIs with ⟨rfl, rfl⟩
  exact entry_injective (keyed.eq_of_key (List.mem_map_of_mem tMem) (List.mem_map_of_mem uMem)
    (isToken_iff_key.mp uIs).symm)

/-- A call is answered alike whatever the order of tokens, and leaves them in some order. -/
theorem sameButOrder_run (single : SingleLive (m.tokens.map Token.entry))
    (keyed : Keyed (m.tokens.map Token.entry)) (perm : m.tokens.Perm tokens) (c : StoreCall α) :
    SameButOrder (m.run c) ({ m with tokens }.run c) := by
  have identity : { m with tokens }.identity? = m.identity? := rfl
  have device : { m with tokens }.device? = m.device? := rfl
  cases c with
  | getOrCreate candidate =>
      simp only [run, getOrCreate, identity, device]
      cases (m.identity? (candidate.tenant, candidate.identityData)).bind
          (m.device? candidate.tenant) with
      | some existing => exact ⟨rfl, rfl, rfl, perm⟩
      | none => exact ⟨rfl, rfl, rfl, perm⟩
  | getDevice tenant id => exact ⟨rfl, rfl, rfl, perm⟩
  | listDevices tenant skip limit => exact ⟨rfl, rfl, rfl, perm⟩
  | updateStatus tenant id status now =>
      simp only [run, updateStatus, device]
      cases m.device? tenant id with
      | none => exact ⟨rfl, rfl, rfl, perm⟩
      | some device => exact ⟨rfl, rfl, rfl, perm⟩
  | rotateKey tenant id key now =>
      simp only [run, rotateKey, device]
      cases m.device? tenant id with
      | none => exact ⟨rfl, rfl, rfl, perm⟩
      | some device =>
          by_cases accepted : device.status = .accepted
          · simp only [accepted, if_true]
            exact ⟨rfl, rfl, rfl, perm⟩
          · simp only [accepted, if_false]
            exact ⟨rfl, rfl, rfl, perm⟩
  | insertOrGetLive candidate now =>
      exact sameButOrder_insertOrGetLive single keyed perm candidate now
  | getToken tenant id =>
      refine ⟨?_, rfl, rfl, perm⟩
      simp only [run, token?_eq_of_perm keyed perm]
  | revokeToken tenant id =>
      simp only [run, revokeToken, token?_eq_of_perm keyed perm]
      cases m.token? tenant id with
      | none => exact ⟨rfl, rfl, rfl, perm⟩
      | some t => exact ⟨rfl, rfl, rfl, perm.map _⟩
  | revokeDeviceTokens tenant deviceId =>
      exact ⟨(perm.filter _).length_eq, rfl, rfl, perm.map _⟩

end MemoryStore

namespace Store

variable {s s' s'' : Store} {α : Type}

/-- Whether two stores differ at most in the order of tokens in memory. -/
def Shuffled (s s' : Store) : Prop :=
  s = s' ∨ s.Rearranged s'

theorem Shuffled.refl (s : Store) : s.Shuffled s :=
  .inl rfl

theorem Shuffled.symm (h : s.Shuffled s') : s'.Shuffled s := by
  rcases h with rfl | ⟨⟨perm⟩⟩
  · exact .inl rfl
  · exact .inr (.memory perm.symm)

theorem Shuffled.trans (first : s.Shuffled s') (second : s'.Shuffled s'') : s.Shuffled s'' := by
  rcases first with rfl | ⟨⟨perm⟩⟩
  · exact second
  · rcases second with rfl | ⟨⟨perm'⟩⟩
    · exact .inr (.memory perm)
    · exact .inr (.memory (perm.trans perm'))

/-- Stores that differ in the order of tokens alone answer every call alike, and stay so. -/
theorem Shuffled.run (h : s.Shuffled s') (sound : s.Sound) (keyed : Keyed s.tokens)
    (c : StoreCall α) : (s.run c).1 = (s'.run c).1 ∧ (s.run c).2.Shuffled (s'.run c).2 := by
  rcases h with rfl | order
  · exact ⟨rfl, .refl _⟩
  · cases order with
    | @memory m tokens perm =>
        have same := MemoryStore.sameButOrder_run sound.single keyed perm c
        simp only [Store.run]
        generalize m.run c = r at same ⊢
        generalize MemoryStore.run _ c = r' at same ⊢
        rcases r with ⟨answer, devices, identities, left⟩
        rcases r' with ⟨answer', devices', identities', left'⟩
        rcases same with ⟨answerEq, devicesEq, identitiesEq, perm'⟩
        simp only at answerEq devicesEq identitiesEq perm'
        subst answerEq devicesEq identitiesEq
        exact ⟨rfl, .inr (.memory perm')⟩

end Store

end DeviceAdmission
