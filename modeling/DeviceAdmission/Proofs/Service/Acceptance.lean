import DeviceAdmission.Proofs.Service.Run

/-!
# Revocation is permanent

A record that has lost its force never gets it back, and no other record ever has its id. So a token
that a revocation or a change of status took away is not verified again in the rest of a run, at no
time and whatever interferes. By the same records a device has at most one raw token that is
verified.
-/

namespace DeviceAdmission

open TokenEntry

namespace Run

/-- Whether a verification over the store of a run accepts a raw text as that of a token, at some
time and with some interference. -/
def Accepts (r : Run) (s : Admission) (raw : String) (v : VerifiedToken) : Prop :=
  ∃ w : World, w.store = r.store ∧ ((s.authority.verify raw).run w).1 = .ok v

variable {s : Admission} {kind : StoreKind} {r : Run} {t u : Token} {e ev : Event}
variable {v : VerifiedToken} {earlier later : List Event}

/-- Whatever is accepted is recorded and not revoked. -/
theorem Accepts.recorded {raw : String} (accepted : r.Accepts s raw v) :
    ∃ f ∈ r.store.tokens, f.key = (v.tenant, v.tokenId) ∧ f.deviceId = v.deviceId ∧
      f.revoked = false ∧ f.expiresAt = .ok v.expiresAt := by
  rcases accepted with ⟨w, current, verified⟩
  obtain ⟨_, -, -, -, -, recorded⟩ :=
    Authority.recorded_of_verify verified
  rw [current] at recorded
  exact recorded

/-- A token that was handed out is accepted only as itself, while its record has its force. -/
theorem Kept.of_accepts (kept : r.Kept s) (member : e ∈ r.past) (handed : e.HandsOut t)
    (accepted : r.Accepts s t.raw v) :
    v.tokenId = t.id ∧ v.tenant = t.tenant ∧ v.deviceId = t.deviceId ∧
      ∃ f ∈ r.store.tokens, f.Records t ∧ f.revoked = false := by
  rcases kept.recorded e member t handed with ⟨g, gMem, gRecords⟩
  rcases kept.minted g gMem with ⟨m, minted, -, mRecords⟩
  have rawEq : m.raw = t.raw := mRecords.raw.symm.trans gRecords.raw
  obtain ⟨w, current, verified⟩ := accepted
  obtain ⟨claims, decoded, idEq, deviceEq, tenantEq, f, fMem, keyEq, fDevice, unrevoked, -⟩ :=
    Authority.recorded_of_verify verified
  rw [← rawEq] at decoded
  rcases minted.eq_of_decode? decoded with ⟨claimsId, claimsDevice, claimsTenant, -⟩
  rw [current] at fMem
  have vId : v.tokenId = t.id := by
    rw [idEq, claimsId, ← mRecords.id, gRecords.id]
  have vTenant : v.tenant = t.tenant := by
    rw [tenantEq, claimsTenant, ← mRecords.tenant, gRecords.tenant]
  have vDevice : v.deviceId = t.deviceId := by
    rw [deviceEq, claimsDevice, ← mRecords.deviceId, gRecords.deviceId]
  have same : f = g := by
    apply kept.keyed.eq_of_key fMem gMem
    rw [keyEq, vId, vTenant, key, gRecords.id, gRecords.tenant]
  refine ⟨vId, vTenant, vDevice, g, gMem, gRecords, ?_⟩
  rw [← same]
  exact unrevoked

/-! ## What stays revoked -/

/-- An event of a run is a step of the run before it. -/
theorem Reached.exists_step (reached : r.Reached s kind) (past : r.past = later ++ ev :: earlier) :
    ∃ r₀ : Run, r₀.Reached s kind ∧ r₀.past = earlier ∧
      (r₀.next s ev.step).past = ev :: earlier := by
  induction reached generalizing later with
  | start => cases later <;> cases past
  | @step r before st ih =>
      cases later with
      | nil =>
          rcases List.cons.inj past with ⟨rfl, rfl⟩
          exact ⟨r, before, rfl, rfl⟩
      | cons latest later => exact ih (List.cons.inj past).2
  | rearranged before order ih => exact ih past

theorem nodup_tokenIds_of_append (fresh : (tokenIds (later ++ earlier)).Nodup) :
    (tokenIds earlier).Nodup := by
  rw [tokenIds, List.filterMap_append] at fresh
  exact fresh.of_append_right

/-- The records that an event left without force stay so, where their ids were given before. -/
theorem Reached.revoked_after {D : TokenEntry → Prop} (reached : r.Reached s kind)
    (fresh : (tokenIds r.past).Nodup) (past : r.past = later ++ ev :: earlier)
    (stable : ∀ e f : TokenEntry, e.Becomes f → D f → D e)
    (known : ∀ f, D f → f.id ∈ tokenIds (ev :: earlier))
    (established : ∀ (r₀ : Run) (st : Step), (r₀.next s st).past = ev :: earlier →
      ∀ f ∈ (r₀.next s st).store.tokens, D f → f.revoked = true) :
    ∀ f ∈ r.store.tokens, D f → f.revoked = true := by
  induction reached generalizing later with
  | start => cases later <;> cases past
  | @step r before st ih =>
      cases later with
      | nil => exact established r st past
      | cons latest later =>
          have pastEq : r.past = later ++ ev :: earlier := (List.cons.inj past).2
          have allFresh := fresh
          rw [tokenIds_next] at fresh
          have kept := before.kept fresh.of_append_right
          have moves := (st.evolves s r.store).moves kept.sound
          intro f member lost
          rcases Store.exists_origin_of_moves moves member with
            ⟨e, new, becomes⟩ | ⟨e, old, becomes⟩
          · rcases new with ⟨id, given, m, mints, rfl⟩
            -- The id of what was put is fresh, so it is none of those that lost their force.
            have used := known _ (stable _ _ becomes lost)
            rw [StoreKind.id_tokenEntry, (Authority.minted_of_mints st.inRange mints).1] at used
            have inPast : id ∈ tokenIds r.past := by
              rw [pastEq, tokenIds, List.filterMap_append]
              exact List.mem_append_right _ used
            rw [given, Option.toList_some, List.singleton_append, List.nodup_cons] at fresh
            exact absurd inPast fresh.1
          · exact becomes.revoked (ih fresh.of_append_right pastEq e old
              (stable _ _ becomes lost))
  | rearranged before order ih =>
      intro f member lost
      exact ih fresh past f (order.perm.mem_iff.mpr member) lost

/-- A token that was handed out has an id that was given before. -/
theorem Kept.id_mem (kept : r.Kept s) (member : e ∈ r.past) (handed : e.HandsOut t) :
    t.id ∈ tokenIds r.past := by
  obtain ⟨f, fMem, records⟩ := kept.recorded e member t handed
  rcases kept.minted f fMem with ⟨m, -, used, mRecords⟩
  rw [← records.id, mRecords.id]
  exact used

/-! ## Acknowledgements -/

/-- A device whose change of status was acknowledged has lost its tokens. -/
theorem revoked_of_next_setStatus {r₀ : Run} {st : Step} {tenant : Tenant} {deviceId : String}
    {status : DeviceStatus} (loses : status ≠ .accepted)
    (pastEq : (r₀.next s st).past = ev :: earlier)
    (operation : ev.step.operation = .setStatus tenant deviceId status)
    (acknowledged : ev.reply = .ok .done) :
    ∀ f ∈ (r₀.next s st).store.tokens, f.tenant = tenant → f.deviceId = deviceId →
      f.revoked = true := by
  rcases List.cons.inj pastEq with ⟨rfl, -⟩
  simp only at operation acknowledged
  have ran := Action.run_eq_of_fst acknowledged
  simp only [next]
  generalize ((s.perform st.operation).run (st.world r₀.store)).2 = w' at ran ⊢
  simp only [operation, Admission.perform] at ran
  rcases Action.run_bind_eq_ok.mp ran with ⟨_, w, changed, replied⟩
  cases replied
  have revokes : status.revokesTokens = true := decide_eq_true loses
  exact Admission.revoked_of_setStatus revokes changed

/-- A token whose revocation was acknowledged is recorded and has lost its force. -/
theorem revoked_of_next_revokeToken {r₀ : Run} {st : Step} {tenant : Tenant} {tokenId : String}
    (pastEq : (r₀.next s st).past = ev :: earlier)
    (operation : ev.step.operation = .revokeToken tenant tokenId)
    (acknowledged : ev.reply = .ok .done) :
    (∃ f ∈ (r₀.next s st).store.tokens, f.key = (tenant, tokenId)) ∧
      ∀ f ∈ (r₀.next s st).store.tokens, f.key = (tenant, tokenId) → f.revoked = true := by
  obtain ⟨rfl, -⟩ := List.cons.inj pastEq
  simp only at operation acknowledged
  have ran := Action.run_eq_of_fst acknowledged
  simp only [next]
  generalize ((s.perform st.operation).run (st.world r₀.store)).2 = w' at ran ⊢
  simp only [operation, Admission.perform] at ran
  rcases Action.run_bind_eq_ok.mp ran with ⟨_, w, revoked, replied⟩
  cases replied
  exact Authority.revoked_of_revoke revoked

/-- After a change of status to another one than accepted was acknowledged, the tokens that the
device had before are not accepted. -/
theorem Reached.not_accepts_of_setStatus {tenant : Tenant} {deviceId : String}
    {status : DeviceStatus} (reached : r.Reached s kind) (fresh : (tokenIds r.past).Nodup)
    (past : r.past = later ++ ev :: earlier) (acknowledged : ev.reply = .ok .done)
    (loses : status ≠ .accepted)
    (operation : ev.step.operation = .setStatus tenant deviceId status)
    (member : e ∈ earlier) (handed : e.HandsOut t) (tenantEq : t.tenant = tenant)
    (deviceEq : t.deviceId = deviceId) : ¬r.Accepts s t.raw v := by
  rcases reached.exists_step past with ⟨r₀, before, pastEq, -⟩
  have freshLater : (tokenIds (ev :: earlier)).Nodup := nodup_tokenIds_of_append (past ▸ fresh)
  have freshBefore : (tokenIds ([ev] ++ earlier)).Nodup := freshLater
  have idMem : t.id ∈ tokenIds earlier := by
    rw [← pastEq]
    apply Kept.id_mem (before.kept ?_) (pastEq ▸ member) handed
    rw [pastEq]
    exact nodup_tokenIds_of_append freshBefore
  have lost : ∀ f ∈ r.store.tokens,
      f.tenant = tenant ∧ f.deviceId = deviceId ∧ f.id ∈ tokenIds earlier → f.revoked = true := by
    apply reached.revoked_after fresh past
    · intro e f becomes h
      rw [becomes.tenant, becomes.deviceId, becomes.id] at h
      exact h
    · intro f h
      rw [tokenIds, List.filterMap_cons]
      split
      · exact h.2.2
      · exact List.mem_cons_of_mem _ h.2.2
    · intro r₁ st nextEq f fMem h
      exact revoked_of_next_setStatus loses nextEq operation acknowledged f fMem h.1 h.2.1
  intro accepted
  have inPast : e ∈ r.past := by
    rw [past]
    exact List.mem_append_right _ (List.mem_cons_of_mem ev member)
  obtain ⟨-, -, -, f, fMem, records, unrevoked⟩ :=
    (reached.kept fresh).of_accepts inPast handed accepted
  have revoked := lost f fMem ⟨records.tenant.trans tenantEq, records.deviceId.trans deviceEq,
    records.id ▸ idMem⟩
  rw [unrevoked] at revoked
  cases revoked

/-- After a revocation was acknowledged, nothing is accepted as the token. -/
theorem Reached.not_accepts_of_revokeToken {tenant : Tenant} {tokenId raw : String}
    (reached : r.Reached s kind) (fresh : (tokenIds r.past).Nodup)
    (past : r.past = later ++ ev :: earlier) (acknowledged : ev.reply = .ok .done)
    (operation : ev.step.operation = .revokeToken tenant tokenId)
    (tenantEq : v.tenant = tenant) (idEq : v.tokenId = tokenId) : ¬r.Accepts s raw v := by
  rcases reached.exists_step past with ⟨r₀, before, pastEq, nextEq⟩
  have freshNext : (tokenIds (r₀.next s ev.step).past).Nodup := by
    rw [nextEq]
    exact nodup_tokenIds_of_append (past ▸ fresh)
  obtain ⟨⟨g, gMem, gKey⟩, -⟩ := revoked_of_next_revokeToken nextEq operation acknowledged
  rcases ((before.step ev.step).kept freshNext).minted g gMem with ⟨m, -, used, mRecords⟩
  rw [nextEq, ← mRecords.id] at used
  have lost : ∀ f ∈ r.store.tokens, f.key = (tenant, tokenId) → f.revoked = true := by
    apply reached.revoked_after fresh past
    · intro e f becomes h
      rw [← becomes.key]
      exact h
    · intro f h
      have sameId : f.id = g.id := congrArg Prod.snd (h.trans gKey.symm)
      rw [sameId]
      exact used
    · intro r₁ st stepEq
      exact (revoked_of_next_revokeToken stepEq operation acknowledged).2
  intro accepted
  rcases accepted.recorded with ⟨f, fMem, keyEq, -, unrevoked, -⟩
  rw [tenantEq, idEq] at keyEq
  rw [lost f fMem keyEq] at unrevoked
  cases unrevoked

/-! ## Main statements -/

/-- A revocation that was acknowledged is permanent. Whatever follows in a run, whose token ids are
fresh but whose calls may fail: the tokens that a device had before it was set to another status
than accepted are not accepted, and a token that was revoked by its id is not either, whatever its
raw text. -/
theorem Reached.not_accepts_after_acknowledgement (reached : r.Reached s kind)
    (fresh : (tokenIds r.past).Nodup) (past : r.past = later ++ ev :: earlier)
    (acknowledged : ev.reply = .ok .done) :
    (∀ tenant deviceId status, status ≠ .accepted →
        ev.step.operation = .setStatus tenant deviceId status →
        ∀ before ∈ earlier, ∀ t, before.HandsOut t → t.tenant = tenant → t.deviceId = deviceId →
          ∀ v, ¬r.Accepts s t.raw v) ∧
      ∀ tenant tokenId, ev.step.operation = .revokeToken tenant tokenId →
        (∀ raw v, r.Accepts s raw v → ¬(v.tenant = tenant ∧ v.tokenId = tokenId)) ∧
          ∀ e ∈ r.past, ∀ t, e.HandsOut t → t.tenant = tenant → t.id = tokenId →
            ∀ v, ¬r.Accepts s t.raw v := by
  constructor
  · intro tenant deviceId status loses operation before member t handed tenantEq deviceEq v
    exact reached.not_accepts_of_setStatus fresh past acknowledged loses operation member handed
      tenantEq deviceEq
  · intro tenant tokenId operation
    have lost : ∀ raw v, r.Accepts s raw v → ¬(v.tenant = tenant ∧ v.tokenId = tokenId) := by
      rintro raw v accepted ⟨tenantEq, idEq⟩
      exact reached.not_accepts_of_revokeToken fresh past acknowledged operation tenantEq idEq
        accepted
    refine ⟨lost, ?_⟩
    intro e member t handed tenantEq idEq v accepted
    rcases (reached.kept fresh).of_accepts member handed accepted with ⟨vId, vTenant, -⟩
    exact lost t.raw v accepted ⟨vTenant.trans tenantEq, vId.trans idEq⟩

/-- The token of the sample is accepted until its device is rejected. -/
theorem not_accepts_sample :
    (Sample.issued .memory).Accepts Sample.admission Sample.token.raw Sample.verified ∧
      ¬(Sample.rejected .memory).Accepts Sample.admission Sample.token.raw Sample.verified := by
  constructor
  · exact ⟨World.quiet (Sample.issued .memory).store (.ofSeconds 110) 0, rfl, by decide +kernel⟩
  · obtain ⟨lost, -⟩ := (Sample.reached .memory).not_accepts_after_acknowledgement
      (Sample.nodup_tokenIds .memory) (rfl : _ = [] ++ _ :: _) (by decide +kernel)
    exact lost .default "d" .rejected (by decide) rfl _ List.mem_cons_self Sample.token
      (by decide +kernel) rfl rfl Sample.verified

/-- Two raw tokens that a device was given and that are both accepted are the same. -/
theorem Reached.raw_eq_of_accepts {d e : Event} {v₁ v₂ : VerifiedToken}
    (reached : r.Reached s kind) (fresh : (tokenIds r.past).Nodup)
    (dMem : d ∈ r.past) (dHanded : d.HandsOut t) (eMem : e ∈ r.past) (eHanded : e.HandsOut u)
    (tenantEq : t.tenant = u.tenant) (deviceEq : t.deviceId = u.deviceId)
    (tAccepted : r.Accepts s t.raw v₁) (uAccepted : r.Accepts s u.raw v₂) : t.raw = u.raw := by
  have kept := reached.kept fresh
  rcases kept.of_accepts dMem dHanded tAccepted with ⟨-, -, -, f, fMem, fRecords, fUnrevoked⟩
  rcases kept.of_accepts eMem eHanded uAccepted with ⟨-, -, -, g, gMem, gRecords, gUnrevoked⟩
  have fOut : f.isOutstanding u.tenant u.deviceId = true :=
    isOutstanding_iff.mpr
      ⟨fUnrevoked, fRecords.tenant.trans tenantEq, fRecords.deviceId.trans deviceEq⟩
  have gOut : g.isOutstanding u.tenant u.deviceId = true :=
    isOutstanding_iff.mpr ⟨gUnrevoked, gRecords.tenant, gRecords.deviceId⟩
  have same : f = g := kept.sound.single.eq_of_outstanding fMem gMem fOut gOut
  calc t.raw = f.raw := fRecords.raw.symm
    _ = g.raw := by rw [same]
    _ = u.raw := gRecords.raw

end Run

/-- A device has at most one live token. In every store that calls lead to it has at most one token
that is not revoked; so an insertion that succeeds gives either this token, where it has not
expired, and leaves the store, or the candidate, where there was no live one. And after every run
whose token ids are fresh, at most one of the raw tokens that a device was given is accepted at
all. -/
theorem at_most_one_live_token (kind : StoreKind) :
    (∀ s : Store, s.Reached kind → SingleLive s.tokens) ∧
      (∀ (s s' : Store) (candidate t : Token) (now : Instant), s.Reached kind →
        s.run (.insertOrGetLive candidate now) = (.ok t, s') →
          (t.entry ∈ s.tokens ∧ t.isOutstanding candidate.tenant candidate.deviceId = true ∧
              t.isExpiredAt now = false ∧ s' = s ∧
              ∀ e ∈ s.tokens, e.isOutstanding candidate.tenant candidate.deviceId = true →
                e = t.entry) ∨
            (t = candidate ∧ s.kind.tokenEntry candidate ∈ s'.tokens ∧
              ∀ e ∈ s.tokens, e.isOutstanding candidate.tenant candidate.deviceId = true →
                ∃ u : Token, e = u.entry ∧ u.isExpiredAt now = true)) ∧
      ∀ (a : Admission) (r : Run), r.Reached a kind → (tokenIds r.past).Nodup →
        ∀ d ∈ r.past, ∀ e ∈ r.past, ∀ t u, d.HandsOut t → e.HandsOut u → t.tenant = u.tenant →
          t.deviceId = u.deviceId → ∀ v₁ v₂, r.Accepts a t.raw v₁ → r.Accepts a u.raw v₂ →
            t.raw = u.raw := by
  constructor
  · intro s reached
    exact reached.sound.single
  constructor
  · intro s s' candidate t now reached inserted
    have insertion := Store.insertion reached.sound candidate now
    rw [inserted] at insertion
    exact insertion.eq_ok reached.sound
  · intro a r reached fresh d dMem e eMem t u dHanded eHanded tenantEq deviceEq v₁ v₂ tAccepted
      uAccepted
    exact reached.raw_eq_of_accepts fresh dMem dHanded eMem eHanded tenantEq deviceEq tAccepted
      uAccepted

/-- A store with the token of the sample alone. -/
def Sample.stocked : Store :=
  ((Store.empty .tables).run (.insertOrGetLive Sample.token (.ofSeconds 102))).2

/-- A store with the token of the sample gives it again where another one is to be inserted. -/
theorem at_most_one_live_token_sample :
    (Sample.issued .tables).store.tokens.countP (isOutstanding .default "d") = 1 ∧
      Sample.stocked.tokens.countP (isOutstanding .default "d") ≤ 1 ∧
      Sample.token.entry ∈ Sample.stocked.tokens := by
  rcases at_most_one_live_token .tables with ⟨single, inserted, -⟩
  refine ⟨by decide +kernel, single Sample.stocked (.call .empty _) .default "d", ?_⟩
  rcases inserted Sample.stocked _ { Sample.token with id := "t2" } Sample.token (.ofSeconds 103)
    (.call .empty _) (Prod.ext (by decide +kernel) rfl) with ⟨member, -⟩ | ⟨same, -⟩
  · exact member
  · exact absurd same (by decide)

end DeviceAdmission
