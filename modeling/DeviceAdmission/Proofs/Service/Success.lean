import DeviceAdmission.Proofs.Service.Conduct

/-!
# What success says

What an operation that succeeded has achieved is read off the calls that it made: the token that it
gives is recorded, what it revoked has no force, and a token that it verified is recorded with force
and belongs to an accepted device.
-/

namespace DeviceAdmission

open TokenEntry

namespace Authority

variable {a : Authority} {w w' : World} {tenant : Tenant} {deviceId tokenId raw : String}

theorem sameTokens_of_ensureAccepted (h : (a.ensureAccepted tenant deviceId).run w = (.ok (), w')) :
    w.store.SameTokens w'.store ∧ w'.now = w.now := by
  obtain ⟨found, w₁, called, rest⟩ := Action.run_bind_eq_ok.mp h
  have same := Action.sameTokens_of_call_eq_ok rfl called
  rcases Action.call_eq_ok called with ⟨-, -, -, nowEq⟩
  cases found with
  | none => cases rest
  | some device =>
      by_cases accepted : device.status = .accepted
      · simp only [accepted, if_true] at rest
        cases rest
        exact ⟨same, nowEq⟩
      · simp only [accepted, if_false] at rest
        cases rest

/-- An issuance that succeeded minted a candidate and inserted it, in a store with the tokens that
there were and the ones that are left. -/
theorem issue_eq_ok {t : Token} (h : (a.issue tokenId tenant deviceId).run w = (.ok t, w')) :
    ∃ candidate s s', a.mint tokenId tenant deviceId w.now = .ok candidate ∧
      w.store.SameTokens s ∧ s.run (.insertOrGetLive candidate w.now) = (.ok t, s') ∧
      s'.SameTokens w'.store := by
  rcases Action.run_bind_eq_ok.mp h with ⟨_, w₁, accepted, h⟩
  rcases sameTokens_of_ensureAccepted accepted with ⟨before, nowEq⟩
  obtain ⟨now, _, clock, h⟩ := Action.run_bind_eq_ok.mp h
  cases clock
  rcases Action.run_bind_eq_ok.mp h with ⟨candidate, _, made, h⟩
  rcases Prod.mk.inj made with ⟨minted, rfl⟩
  rcases Action.run_bind_eq_ok.mp h with ⟨token, w₂, called, h⟩
  obtain ⟨again, w₃, checked, h⟩ := Action.run_bind_eq_ok.mp h
  rcases Action.call_eq_ok called with ⟨s, same, answer, -⟩
  rw [nowEq] at minted answer
  cases again with
  | error e =>
      rcases Action.run_bind_eq_ok.mp h with ⟨_, _, _, failed⟩
      cases failed
  | ok done =>
      cases h
      rw [Action.run_attempt] at checked
      rcases Prod.mk.inj checked with ⟨result, rfl⟩
      have ran := Action.run_eq_of_fst (Except.ok.inj result)
      refine ⟨candidate, s, w₂.store, minted, ?_, answer, (sameTokens_of_ensureAccepted ran).1⟩
      exact ⟨same.kind.trans before.kind, same.tokens.trans before.tokens⟩

/-- The token that an issuance gives is one of the device, and the store has its record. -/
theorem recorded_of_issue {t : Token} (sound : w.store.Sound)
    (h : (a.issue tokenId tenant deviceId).run w = (.ok t, w')) :
    t.tenant = tenant ∧ t.deviceId = deviceId ∧ t.revoked = false ∧
      ∃ e ∈ w'.store.tokens, e.Records t := by
  obtain ⟨candidate, s, s', minted, before, answer, after⟩ := issue_eq_ok h
  have made := minting minted
  have soundS := before.sound sound
  have inserted := Store.insertion soundS candidate w.now
  rw [answer] at inserted
  rcases inserted.eq_ok soundS with ⟨member, outstanding, -, rfl, -⟩ | ⟨rfl, member, -⟩
  · rw [made.tenantEq, made.deviceEq] at outstanding
    rcases TokenEntry.isOutstanding_iff.mp ((Token.isOutstanding_entry t).trans outstanding) with
      ⟨unrevoked, tenantEq, deviceEq⟩
    refine ⟨tenantEq, deviceEq, unrevoked, t.entry, ?_, records_entry t⟩
    rw [after.tokens]
    exact member
  · refine ⟨made.tenantEq, made.deviceEq, made.unrevoked, _, ?_, records_tokenEntry s.kind _⟩
    rw [after.tokens]
    exact member

/-- A token that was revoked is in the store and has no force. -/
theorem revoked_of_revoke (h : (a.revoke tenant tokenId).run w = (.ok (), w')) :
    (∃ e ∈ w'.store.tokens, e.key = (tenant, tokenId)) ∧
      ∀ e ∈ w'.store.tokens, e.key = (tenant, tokenId) → e.revoked = true := by
  rcases Action.run_bind_eq_ok.mp h with ⟨found, w₁, called, h⟩
  rcases Action.call_eq_ok called with ⟨s, -, answer, -⟩
  have answered := Store.run_revokeToken s tenant tokenId
  have tokensEq := Store.tokens_revokeToken s tenant tokenId
  rw [answer] at answered tokensEq
  cases found with
  | false => cases h
  | true =>
      cases h
      have any : s.tokens.any (isToken tenant tokenId) = true :=
        (Except.ok.inj answered).symm
      rcases List.any_eq_true.mp any with ⟨e, member, isIt⟩
      constructor
      · refine ⟨e.revoke, ?_, ?_⟩
        · rw [tokensEq]
          exact mem_revokeWhere_iff.mpr ⟨e, member, by rw [if_pos isIt]⟩
        · obtain ⟨rfl, rfl⟩ := isToken_iff.mp isIt
          rfl
      · intro f fMem keyEq
        rw [tokensEq] at fMem
        rcases mem_revokeWhere_iff.mp fMem with ⟨g, gMem, rfl⟩
        split
        · rfl
        · rename_i other
          rw [if_neg other] at keyEq
          exact absurd (isToken_iff.mpr ⟨congrArg Prod.fst keyEq, congrArg Prod.snd keyEq⟩) other

/-- A verification that succeeded found the token of the claims, with force and of the device in the
claims, and then this device, accepted. -/
theorem verify_eq_ok {v : VerifiedToken} (h : (a.verify raw).run w = (.ok v, w')) :
    ∃ claims token device w₁,
      TokenClaims.decode? a.keys.verifies a.policy.issuer raw = some claims ∧
        (a.call (.getToken ⟨claims.tenant⟩ claims.id)).run w = (.ok (some token), w₁) ∧
        token.revoked = false ∧ token.deviceId = claims.subject ∧
        (a.call (.getDevice ⟨claims.tenant⟩ claims.subject)).run w₁ = (.ok (some device), w') ∧
        device.status = .accepted ∧
        v = ⟨token.id, device.id, ⟨claims.tenant⟩, token.expiresAt⟩ := by
  unfold verify at h
  cases decoded : TokenClaims.decode? a.keys.verifies a.policy.issuer raw with
  | none =>
      rw [decoded] at h
      cases h
  | some claims =>
      rw [decoded] at h
      rcases Action.run_bind_eq_ok.mp h with ⟨now, _, clock, h⟩
      cases clock
      by_cases expired : a.hasExpired claims w.now = true
      · simp only [expired, if_true] at h
        cases h
      simp only [expired, if_false, Bool.false_eq_true] at h
      rcases Action.run_bind_eq_ok.mp h with ⟨found, w₁, called, h⟩
      cases found with
      | none => cases h
      | some token =>
          by_cases unfit : token.revoked ∨ token.deviceId ≠ claims.subject
          · simp only [unfit, if_true] at h
            cases h
          simp only [unfit, if_false] at h
          simp only [not_or, Decidable.not_not, Bool.not_eq_true] at unfit
          rcases Action.run_bind_eq_ok.mp h with ⟨device?, w₂, lookedUp, h⟩
          cases device? with
          | none => cases h
          | some device =>
              by_cases accepted : device.status = .accepted
              · simp only [accepted, if_true] at h
                cases h
                exact ⟨claims, token, device, w₁, rfl, called, unfit.1, unfit.2, lookedUp, accepted,
                  rfl⟩
              · simp only [accepted, if_false] at h
                cases h

/-- Only a token that is recorded and not revoked is verified, for the device of its record. -/
theorem recorded_of_verify {v : VerifiedToken} (verified : ((a.verify raw).run w).1 = .ok v) :
    ∃ claims, TokenClaims.decode? a.keys.verifies a.policy.issuer raw = some claims ∧
      v.tokenId = claims.id ∧ v.deviceId = claims.subject ∧ v.tenant = ⟨claims.tenant⟩ ∧
      ∃ e ∈ w.store.tokens, e.key = (v.tenant, v.tokenId) ∧ e.deviceId = v.deviceId ∧
        e.revoked = false ∧ e.expiresAt = .ok v.expiresAt := by
  rcases verify_eq_ok (Action.run_eq_of_fst verified) with
    ⟨claims, token, device, w₁, decoded, called, unrevoked, own, lookedUp, -, rfl⟩
  rcases Action.call_eq_ok called with ⟨s, same, answer, -⟩
  rw [Store.run_getToken] at answer
  rcases Store.readFound_eq_ok (Prod.mk.inj answer).1 with ⟨row, rowFound, read⟩
  rw [entry_of_read read] at rowFound
  have member := List.mem_of_find?_eq_some rowFound
  rw [same.tokens] at member
  rcases isToken_iff.mp (List.find?_some rowFound) with ⟨tenantEq, idEq⟩
  rcases Action.call_eq_ok lookedUp with ⟨s₁, -, answer, -⟩
  rw [Store.run_getDevice] at answer
  rcases Store.readFound_eq_ok (Prod.mk.inj answer).1 with ⟨row, rowFound, read⟩
  rw [DeviceEntry.entry_of_read read] at rowFound
  rcases DeviceEntry.isDevice_iff.mp (List.find?_some rowFound) with ⟨-, deviceEq⟩
  refine ⟨claims, decoded, idEq, deviceEq, rfl, token.entry, member, ?_, ?_, unrevoked, rfl⟩
  · exact Prod.ext tenantEq rfl
  · exact own.trans deviceEq.symm

end Authority

namespace Admission

variable {s : Admission} {w w' : World} {tenant : Tenant} {deviceId : String}

/-- The token that answers a request is recorded in the store. -/
theorem recorded_of_grant {ids : FreshIds} {body : Bytes} {signature : Option String} {t : Token}
    (sound : w.store.Sound) (h : (s.grant ids body signature).run w = (.ok t, w')) :
    t.revoked = false ∧ ∃ e ∈ w'.store.tokens, e.Records t := by
  rcases Action.run_bind_eq_ok.mp h with ⟨wall, _, clock, h⟩
  cases clock
  obtain ⟨⟨request, tenant⟩, w₁, checked, h⟩ := Action.run_bind_eq_ok.mp h
  rcases Prod.mk.inj checked with ⟨-, rfl⟩
  rcases Action.run_bind_eq_ok.mp h with ⟨device, w₂, lookedUp, h⟩
  let scope : Scope := ⟨tenant, some ids.device, none, none⟩
  have makes : (s.lookUpDevice ids.device tenant request).Makes (scope.Covers s.authority w.now)
      w.now w.wallSeconds := makes_lookUpDevice request rfl rfl
  have evolved : w.Evolves (fun _ _ => False)
      ((s.lookUpDevice ids.device tenant request).run w).2 := by
    apply makes.evolves rfl rfl
    rintro γ c covered t candidate kind
    rcases covered.token t candidate with ⟨id, deviceId, none, -⟩
    cases none
  rw [lookedUp] at evolved
  have soundS := sound.moves (evolved.moves sound)
  rcases Authority.recorded_of_issue soundS h with ⟨-, -, unrevoked, recorded⟩
  exact ⟨unrevoked, recorded⟩

/-- A device that was set to another status than accepted has no token with force. -/
theorem revoked_of_setStatus {status : DeviceStatus} (loses : status.revokesTokens = true)
    (h : (s.setStatus tenant deviceId status).run w = (.ok (), w')) :
    ∀ e ∈ w'.store.tokens, e.tenant = tenant → e.deviceId = deviceId → e.revoked = true := by
  obtain ⟨now, _, clock, h⟩ := Action.run_bind_eq_ok.mp h
  cases clock
  rcases Action.run_bind_eq_ok.mp h with ⟨known, w₁, -, h⟩
  cases known with
  | false => cases h
  | true =>
      rcases Action.run_bind_eq_ok.mp h with ⟨count, w₂, lost, h⟩
      cases h
      simp only [Authority.onStatusChanged, loses, if_true] at lost
      rcases Action.call_eq_ok lost with ⟨store, -, answer, -⟩
      have tokensEq := Store.tokens_revokeDeviceTokens store tenant deviceId
      rw [answer] at tokensEq
      intro e member tenantEq deviceEq
      rw [tokensEq] at member
      have none := notOutstanding_of_mem_revokeWhere (fun _ _ outstanding => outstanding) member
      cases revoked : e.revoked with
      | true => rfl
      | false =>
          rw [isOutstanding_iff.mpr ⟨revoked, tenantEq, deviceEq⟩] at none
          cases none

end Admission

end DeviceAdmission
