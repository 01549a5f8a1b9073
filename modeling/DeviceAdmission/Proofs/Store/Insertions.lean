import DeviceAdmission.Proofs.Store.Changes

/-!
# What an insertion does, exactly

Over a sound store an insertion is decided by the outstanding token of the device. One that cannot
be read makes it fail and one that has not expired is given, and both leave the store as it was.
Otherwise the one that has expired, if there is one, is revoked, and the candidate is added behind
the other tokens. Tables refuse that just where a token has the id of the candidate.
-/

namespace DeviceAdmission

open TokenEntry

variable {candidate u : Token} {tenant : Tenant} {deviceId : String} {now : Instant}
variable {e : TokenEntry}

/-! ## In memory -/

namespace MemoryStore

/-- A token with an id that no other one has comes last. -/
theorem putToken_eq_append {tokens : List Token} (fresh : ∀ t ∈ tokens, t.id ≠ u.id) :
    putToken u tokens = tokens ++ [u] := by
  induction tokens with
  | nil => rfl
  | cons t rest ih =>
      have other : ¬isToken u.tenant u.id t = true := fun same => by
        simp only [isToken, Bool.and_eq_true, decide_eq_true_eq] at same
        exact fresh t List.mem_cons_self same.2
      rw [putToken, if_neg other, ih fun v member => fresh v (List.mem_cons_of_mem t member)]
      rfl

/-- A visit ends with a token that has not expired. -/
theorem live_of_takeLive {tokens : List Token}
    (ended : (takeLive tenant deviceId now tokens).1 = some u) : u.isExpiredAt now = false := by
  induction tokens with
  | nil => cases ended
  | cons t rest ih =>
      rw [takeLive] at ended
      by_cases outstanding : t.isOutstanding tenant deviceId = true
      · rw [if_pos outstanding] at ended
        by_cases expired : t.isExpiredAt now = true
        · rw [if_pos expired] at ended
          exact ih ended
        · rw [if_neg expired] at ended
          cases ended
          exact Bool.not_eq_true _ ▸ expired
      · rw [if_neg outstanding] at ended
        exact ih ended

end MemoryStore

namespace Store

variable {m : MemoryStore}

theorem find?_outstanding_memory (single : SingleLive (memory m).tokens)
    (member : u.entry ∈ (memory m).tokens) (outstanding : u.isOutstanding tenant deviceId = true) :
    m.tokens.find? (fun t => t.isOutstanding tenant deviceId) = some u := by
  have found := single.find?_of_mem member ((Token.isOutstanding_entry u).trans outstanding)
  rw [tokens, List.find?_map] at found
  obtain ⟨t, foundIn, entryEq⟩ := Option.map_eq_some_iff.mp found
  rw [← entry_injective entryEq]
  exact foundIn

/-- A visit that ends with no live token has revoked the tokens of the device. -/
theorem insertOrGetLive_memory_of_expired (single : SingleLive (memory m).tokens)
    (expired : ∀ t ∈ m.tokens, t.isOutstanding candidate.tenant candidate.deviceId = true →
      t.isExpiredAt now = true)
    (fresh : ∀ t ∈ m.tokens, t.id ≠ candidate.id) :
    (memory m).run (.insertOrGetLive candidate now) =
      (.ok candidate,
        ((memory m).withTokensRevoked candidate.tenant candidate.deviceId).withToken
          candidate) := by
  have visited : MemoryStore.takeLive candidate.tenant candidate.deviceId now m.tokens =
      (none, m.tokens.map fun t =>
        if t.isOutstanding candidate.tenant candidate.deviceId then t.revoke else t) := by
    rw [takeLive_eq single]
    cases found : m.tokens.find? (fun t =>
        t.isOutstanding candidate.tenant candidate.deviceId) with
    | none =>
        have none := List.find?_eq_none.mp found
        exact congrArg (Prod.mk Option.none) (map_ite_of_not none).symm
    | some t =>
        have outstanding := List.find?_some found
        exact if_pos (expired t (List.mem_of_find?_eq_some found) outstanding)
  have freshStill : ∀ t ∈ m.tokens.map (fun t =>
      if t.isOutstanding candidate.tenant candidate.deviceId then t.revoke else t),
        t.id ≠ candidate.id := by
    intro t member
    rcases List.mem_map.mp member with ⟨old, oldMem, rfl⟩
    split
    · exact fresh old oldMem
    · exact fresh old oldMem
  rw [← revokeDeviceTokens_eq]
  simp only [run, MemoryStore.run, MemoryStore.insertOrGetLive, visited,
    MemoryStore.putToken_eq_append freshStill, MemoryStore.revokeDeviceTokens, withToken]

end Store

/-! ## In tables -/

namespace TableStore

variable {t cleared : TableStore} {row : TokenRow}

/-- The rows before the candidate is added are those with the tokens of its device revoked. -/
theorem Cleared.eq_withTokensRevoked (clearing : Cleared t candidate now cleared)
    (sound : (Store.tables t).Sound) :
    Store.tables cleared =
      (Store.tables t).withTokensRevoked candidate.tenant candidate.deviceId := by
  rw [← Store.revokeDeviceTokens_eq]
  cases clearing with
  | untouched none =>
      have kept := map_ite_of_not (f := TokenRow.revoke) (List.find?_eq_none.mp none)
      simp only [Store.run, run, sure, revokeDeviceTokens, kept]
  | @retired row existing found read expired =>
      have entryEq : row.entry = existing.entry := entry_of_read read
      have idEq : row.id = existing.id := congrArg TokenEntry.id entryEq
      have unique : (t.tokens.map TokenRow.id).Nodup := by
        have unique := sound.unique rfl
        rw [Store.tokens, List.map_map] at unique
        exact unique
      -- The row is picked by its id, which no other row has.
      have picked : ∀ r ∈ t.tokens, (if r.id = existing.id then r.revoke else r) =
          if r.isOutstanding candidate.tenant candidate.deviceId then r.revoke else r := by
        intro r member
        have rowMem := List.mem_of_find?_eq_some found
        have rowOut := List.find?_some found
        by_cases same : r.id = existing.id
        · have equal : r = row :=
            List.inj_on_of_nodup_map unique member rowMem (same.trans idEq.symm)
          rw [if_pos same, if_pos (equal ▸ rowOut)]
        · have notOut : ¬r.isOutstanding candidate.tenant candidate.deviceId = true := fun out => by
            have entryEq := sound.single.eq_of_outstanding (e := r.entry) (f := row.entry)
              (List.mem_map_of_mem member) (List.mem_map_of_mem rowMem) out rowOut
            exact same ((congrArg TokenEntry.id entryEq).trans idEq)
          rw [if_neg same, if_neg notOut]
      simp only [Store.run, run, sure, revokeDeviceTokens, retire, List.map_congr_left picked]

/-- No other row of the device is in the way of the candidate, but one with its id may be. -/
theorem Cleared.addToken_eq (clearing : Cleared t candidate now cleared)
    (sound : (Store.tables t).Sound) :
    cleared.addToken candidate =
      if t.tokens.any (·.id = candidate.id) then .error (.idTaken .tokens)
      else .ok { cleared with tokens := cleared.tokens ++ [.ofToken candidate] } := by
  have tokensEq := congrArg TableStore.tokens
    (Store.tables.inj (clearing.eq_withTokensRevoked sound))
  have taken : cleared.tokens.any (·.id = candidate.id) = t.tokens.any (·.id = candidate.id) := by
    rw [tokensEq, List.any_map]
    congr 1
    funext r
    simp only [Function.comp]
    split <;> rfl
  have noneLive : cleared.tokens.any
      (TokenRow.isOutstanding candidate.tenant candidate.deviceId) = false := by
    rw [List.any_eq_false]
    intro r member outstanding
    rw [tokensEq] at member
    rcases List.mem_map.mp member with ⟨old, -, rfl⟩
    split at outstanding
    · simp [TokenRow.isOutstanding] at outstanding
    · rename_i other
      simp only [TokenRow.isOutstanding, Bool.and_eq_true, decide_eq_true_eq] at outstanding
      exact other ⟨outstanding.1.2, outstanding.2⟩
  rw [addToken, taken, noneLive]
  rfl

/-- Rows can be cleared where what is outstanding of the device has expired. -/
theorem exists_cleared
    (expired : ∀ r ∈ t.tokens, r.isOutstanding candidate.tenant candidate.deviceId = true →
      ∃ v : Token, r.read = .ok v ∧ v.isExpiredAt now = true) :
    ∃ cleared, Cleared t candidate now cleared := by
  cases found : t.tokens.find? (TokenRow.isOutstanding candidate.tenant candidate.deviceId) with
  | none => exact ⟨t, .untouched found⟩
  | some row =>
      obtain ⟨v, read, ended⟩ :=
        expired row (List.mem_of_find?_eq_some found) (List.find?_some found)
      exact ⟨_, .retired found read ended⟩

/-- What an insertion comes to where what is outstanding of the device has expired. -/
theorem insertOrGetLive_of_expired (sound : (Store.tables t).Sound)
    (expired : ∀ r ∈ t.tokens, r.isOutstanding candidate.tenant candidate.deviceId = true →
      ∃ v : Token, r.read = .ok v ∧ v.isExpiredAt now = true) :
    (Store.tables t).run (.insertOrGetLive candidate now) =
      if t.tokens.any (·.id = candidate.id) then (.error (.idTaken .tokens), .tables t)
      else
        (.ok candidate, ((Store.tables t).withTokensRevoked candidate.tenant
          candidate.deviceId).withToken candidate) := by
  obtain ⟨cleared, clearing⟩ := exists_cleared expired
  rw [← clearing.eq_withTokensRevoked sound]
  simp only [Store.run, run, insertOrGetLive_of_cleared clearing, clearing.addToken_eq sound]
  cases t.tokens.any (·.id = candidate.id) <;> rfl

end TableStore

/-! ## In both -/

namespace Store

variable {s : Store}

theorem find?_outstanding_tables {t : TableStore} (single : SingleLive (tables t).tokens)
    (member : e ∈ (tables t).tokens) (outstanding : e.isOutstanding tenant deviceId = true) :
    ∃ row, t.tokens.find? (TokenRow.isOutstanding tenant deviceId) = some row ∧ row.entry = e := by
  have found := single.find?_of_mem member outstanding
  rw [tokens, List.find?_map] at found
  exact Option.map_eq_some_iff.mp found

/-- A live token of the device is given, and nothing changes. -/
theorem run_insertOrGetLive_of_live (sound : s.Sound) (member : u.entry ∈ s.tokens)
    (outstanding : u.isOutstanding candidate.tenant candidate.deviceId = true)
    (live : u.isExpiredAt now = false) : s.run (.insertOrGetLive candidate now) = (.ok u, s) := by
  cases s with
  | memory m =>
      have visited := takeLive_eq sound.single candidate.tenant candidate.deviceId now
      rw [find?_outstanding_memory sound.single member outstanding] at visited
      simp only [live, Bool.false_eq_true, if_false] at visited
      simp only [run, MemoryStore.run, MemoryStore.insertOrGetLive, visited]
  | tables t =>
      obtain ⟨row, found, entryEq⟩ := find?_outstanding_tables sound.single member
        ((Token.isOutstanding_entry u).trans outstanding)
      have read : row.read = .ok u := (congrArg TokenEntry.read entryEq).trans (read_entry u)
      simp only [run, TableStore.run, TableStore.insertOrGetLive_of_live found read live]

/-- A token of the device that cannot be read fails the insertion, and nothing changes. -/
theorem run_insertOrGetLive_of_unreadable (sound : s.Sound) (member : e ∈ s.tokens)
    (outstanding : e.isOutstanding candidate.tenant candidate.deviceId = true) {fault : StoreFault}
    (failed : e.read = .error fault) :
    s.run (.insertOrGetLive candidate now) = (.error fault, s) := by
  cases s with
  | memory m =>
      rcases List.mem_map.mp member with ⟨t, -, rfl⟩
      cases failed
  | tables t =>
      obtain ⟨row, found, rfl⟩ := find?_outstanding_tables sound.single member outstanding
      simp only [run, TableStore.run, TableStore.insertOrGetLive_of_unreadable found failed]

/-- Where the device has no live token, those that it has are revoked and the candidate is added. -/
theorem run_insertOrGetLive_of_expired (sound : s.Sound)
    (expired : ∀ e ∈ s.tokens, e.isOutstanding candidate.tenant candidate.deviceId = true →
      ∃ v : Token, e = v.entry ∧ v.isExpiredAt now = true)
    (fresh : ∀ e ∈ s.tokens, e.id ≠ candidate.id) :
    s.run (.insertOrGetLive candidate now) =
      (.ok candidate,
        (s.withTokensRevoked candidate.tenant candidate.deviceId).withToken candidate) := by
  cases s with
  | memory m =>
      refine insertOrGetLive_memory_of_expired sound.single (fun t member outstanding => ?_)
        fun t member => fresh t.entry (List.mem_map_of_mem member)
      obtain ⟨v, entryEq, ended⟩ := expired t.entry (List.mem_map_of_mem member) outstanding
      rw [entry_injective entryEq]
      exact ended
  | tables t =>
      have free : t.tokens.any (·.id = candidate.id) = false :=
        List.any_eq_false.mpr fun r member sameId =>
          fresh r.entry (List.mem_map_of_mem member) (of_decide_eq_true sameId)
      rw [TableStore.insertOrGetLive_of_expired sound, free]
      · rfl
      · intro r member outstanding
        obtain ⟨v, entryEq, ended⟩ := expired r.entry (List.mem_map_of_mem member) outstanding
        exact ⟨v, (congrArg TokenEntry.read entryEq).trans (read_entry v), ended⟩

/-- Nothing stands in the way of an insertion where the outstanding token of the device can be read
and the id of the candidate is fresh. -/
theorem exists_run_insertOrGetLive (sound : s.Sound) (now : Instant)
    (readable : ∀ e ∈ s.tokens, e.isOutstanding candidate.tenant candidate.deviceId = true →
      ∃ t : Token, e = t.entry)
    (fresh : ∀ e ∈ s.tokens, e.id ≠ candidate.id) :
    ∃ t s', s.run (.insertOrGetLive candidate now) = (.ok t, s') := by
  by_cases expired : ∀ e ∈ s.tokens, e.isOutstanding candidate.tenant candidate.deviceId = true →
      ∃ v : Token, e = v.entry ∧ v.isExpiredAt now = true
  · exact ⟨_, _, run_insertOrGetLive_of_expired sound expired fresh⟩
  · push Not at expired
    obtain ⟨e, member, outstanding, live⟩ := expired
    obtain ⟨t, rfl⟩ := readable e member outstanding
    exact ⟨_, _, run_insertOrGetLive_of_live sound member outstanding
      (Bool.not_eq_true _ ▸ live t rfl)⟩

/-- A token that is given and is not the candidate has not expired, in whatever store. -/
theorem eq_or_live_of_insertOrGetLive {left : Store}
    (answer : s.run (.insertOrGetLive candidate now) = (.ok u, left)) :
    u = candidate ∨ u.isExpiredAt now = false := by
  cases s with
  | memory m =>
      simp only [run, MemoryStore.run, MemoryStore.insertOrGetLive] at answer
      cases visited : MemoryStore.takeLive candidate.tenant candidate.deviceId now m.tokens with
      | mk live rest =>
          rw [visited] at answer
          cases live with
          | none =>
              cases answer
              exact .inl rfl
          | some t =>
              cases answer
              exact .inr (MemoryStore.live_of_takeLive (congrArg Prod.fst visited))
  | tables t =>
      simp only [run, TableStore.run] at answer
      rcases t.insertOrGetLive_cases candidate now with ⟨fault, failed⟩ | reused | added
      · rw [failed] at answer
        cases answer
      · obtain ⟨row, existing, -, -, live, equation⟩ := reused
        rw [equation] at answer
        cases answer
        exact .inr live
      · obtain ⟨cleared, t', -, -, equation⟩ := added
        rw [equation] at answer
        cases answer
        exact .inl rfl

/-- Another token of the device with force is given just as long as it has not expired. -/
theorem insertOrGetLive_eq_ok_iff (sound : s.Sound) (member : u.entry ∈ s.tokens)
    (outstanding : u.isOutstanding candidate.tenant candidate.deviceId = true)
    (other : candidate ≠ u) :
    (s.run (.insertOrGetLive candidate now)).1 = .ok u ↔ now < u.expiresAt := by
  constructor
  · intro given
    rcases eq_or_live_of_insertOrGetLive (Prod.ext given rfl) with same | live
    · exact absurd same.symm other
    · exact Int.not_le.mp (of_decide_eq_false live)
  · intro before
    have live : u.isExpiredAt now = false := decide_eq_false (Int.not_le.mpr before)
    rw [run_insertOrGetLive_of_live sound member outstanding live]

/-! ## Main statement -/

/-- The live token of a device, or else a new one in place of the one that has expired. -/
def liveOrNew (s : Store) (tenant : Tenant) (deviceId : String) (now : Instant) (new : Token) :
    Except StoreFault Token × Store :=
  match s.tokens.find? (isOutstanding tenant deviceId) with
  | none => (.ok new, s.withToken new)
  | some held =>
    match held.read with
    | .error fault => (.error fault, s)
    | .ok t =>
      if now < t.expiresAt then (.ok t, s)
      else (.ok new, (s.withTokensRevoked tenant deviceId).withToken new)

/-- An insertion of a token with a fresh id gives the live token of the device or the new one. -/
theorem run_insertOrGetLive_eq (sound : s.Sound) (fresh : ∀ e ∈ s.tokens, e.id ≠ candidate.id)
    (now : Instant) :
    s.run (.insertOrGetLive candidate now) =
      s.liveOrNew candidate.tenant candidate.deviceId now candidate := by
  unfold liveOrNew
  cases found : s.tokens.find? (isOutstanding candidate.tenant candidate.deviceId) with
  | none =>
      have free := withTokensRevoked_of_none found
      rw [run_insertOrGetLive_of_expired sound (fun e member outstanding => absurd outstanding
        (List.find?_eq_none.mp found e member)) fresh, free]
  | some held =>
      have member := List.mem_of_find?_eq_some found
      have outstanding := List.find?_some found
      dsimp only
      cases read : held.read with
      | error fault => exact run_insertOrGetLive_of_unreadable sound member outstanding read
      | ok t =>
          obtain rfl := entry_of_read read
          by_cases live : now < t.expiresAt
          · have notExpired : t.isExpiredAt now = false :=
              decide_eq_false (Int.not_le.mpr live)
            rw [run_insertOrGetLive_of_live sound member outstanding notExpired]
            exact (if_pos live).symm
          · have ended : t.isExpiredAt now = true := decide_eq_true (Int.not_lt.mp live)
            rw [run_insertOrGetLive_of_expired sound _ fresh]
            · exact (if_neg live).symm
            · intro e eMem eOut
              exact ⟨t, sound.single.eq_of_outstanding eMem member eOut outstanding, ended⟩

end Store

end DeviceAdmission
