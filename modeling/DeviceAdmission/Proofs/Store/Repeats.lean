import DeviceAdmission.Proofs.Store.Changes

/-!
# Calls that are repeated

A status that is set again at the same time, and tokens of a device that are revoked again, change
nothing that the first call has not changed. The two calls change different parts of a store, so it
does not matter which of them comes first. An insertion that succeeded leaves a store in which the
outstanding token of the device can be read, so nothing stands in the way of the next one.
-/

namespace DeviceAdmission

open TokenEntry

/-! ## Statuses and revocations -/

namespace Store

variable (s : Store) (tenant : Tenant) (id : String) (status : DeviceStatus) (now : Instant)

/-- Setting a status that was just set changes nothing. -/
theorem updateStatus_twice :
    ((s.run (.updateStatus tenant id status now)).2.run (.updateStatus tenant id status now)).2 =
      (s.run (.updateStatus tenant id status now)).2 := by
  rw [updateStatus_eq, updateStatus_eq, withDeviceStatus_withDeviceStatus]

/-- Revoking the tokens of a device that were just revoked changes nothing. -/
theorem revokeDeviceTokens_twice :
    ((s.run (.revokeDeviceTokens tenant id)).2.run (.revokeDeviceTokens tenant id)).2 =
      (s.run (.revokeDeviceTokens tenant id)).2 := by
  rw [revokeDeviceTokens_eq, revokeDeviceTokens_eq, withTokensRevoked_withTokensRevoked]

/-- A status is set after the tokens of a device were revoked as before. -/
theorem updateStatus_revokeDeviceTokens (other : Tenant) (otherId : String) :
    ((s.run (.revokeDeviceTokens other otherId)).2.run (.updateStatus tenant id status now)).2 =
      ((s.run (.updateStatus tenant id status now)).2.run
        (.revokeDeviceTokens other otherId)).2 := by
  rw [updateStatus_eq, updateStatus_eq, revokeDeviceTokens_eq, revokeDeviceTokens_eq,
    withDeviceStatus_withTokensRevoked]

end Store

/-! ## Insertions -/

namespace Store

variable {s s' : Store} {tenant : Tenant} {deviceId : String} {now : Instant}
variable {candidate t : Token}

/-- Whether the outstanding tokens of the device can be read. -/
def ReadsLive (s : Store) (tenant : Tenant) (deviceId : String) : Prop :=
  ∀ e ∈ s.tokens, e.isOutstanding tenant deviceId = true → ∃ u : Token, e = u.entry

/-- An insertion succeeds only where the outstanding token of the device can be read. -/
theorem Insertion.readsLive (inserted : Insertion s candidate now (.ok t, s'))
    (single : SingleLive s.tokens) : s.ReadsLive candidate.tenant candidate.deviceId := by
  intro e member outstanding
  cases inserted with
  | reused old isOutstanding live =>
      exact ⟨t, single.eq_of_outstanding member old outstanding isOutstanding⟩
  | added expired fresh devices tokens =>
      rcases expired e member outstanding with ⟨u, equation, -⟩
      exact ⟨u, equation⟩

/-- The token that is outstanding after an insertion can be read, where the candidate is kept as it
is. -/
theorem Insertion.readsLive_after (inserted : Insertion s candidate now (.ok t, s'))
    (single : SingleLive s.tokens) (kept : s.kind.tokenEntry candidate = candidate.entry) :
    s'.ReadsLive candidate.tenant candidate.deviceId := by
  cases inserted with
  | reused old isOutstanding live =>
      exact (Insertion.reused old isOutstanding live).readsLive single
  | added expired fresh devices tokens =>
      intro e member outstanding
      rw [tokens, kept] at member
      rcases mem_of_mem_put member with rfl | old
      · exact ⟨candidate, rfl⟩
      · have notOut := notOutstanding_of_mem_revokeWhere (fun _ _ isOut => isOut) old
        rw [outstanding] at notOut
        cases notOut

/-- Revoking tokens leaves the outstanding ones as they were. -/
theorem ReadsLive.of_revoked {p : TokenEntry → Bool} (reads : s.ReadsLive tenant deviceId)
    (tokens : s'.tokens = revokeWhere p s.tokens) : s'.ReadsLive tenant deviceId := by
  intro e member outstanding
  rw [tokens] at member
  rcases mem_revokeWhere_iff.mp member with ⟨f, old, rfl⟩
  by_cases picked : p f = true
  · rw [if_pos picked, isOutstanding_revoke] at outstanding
    cases outstanding
  · rw [if_neg picked] at outstanding ⊢
    exact reads f old outstanding

end Store

end DeviceAdmission
