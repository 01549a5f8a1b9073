import DeviceAdmission.Proofs.Service.Run

/-!
# Issuance among changes of status

Others may set statuses before any of the calls of an issuance, as often as they like. An issuance
looks at the status before it stores a token and once more afterwards, and takes the token back
where the second look finds that the device is not accepted. So whatever others do, a token that is
handed out is recorded with its force and its device is accepted at that moment, and an issuance
that is refused after it had a token leaves the device none.
-/

namespace DeviceAdmission

open TokenEntry

namespace Store

variable {s s' : Store} {tenant : Tenant} {deviceId : String}

/-- Whether a store answers that the device is accepted. -/
def Entitles (s : Store) (tenant : Tenant) (deviceId : String) : Prop :=
  ∃ d : Device, s.run (.getDevice tenant deviceId) = (.ok (some d), s) ∧ d.status = .accepted

/-- A look changes nothing, so the store that is left gives the same answer. -/
theorem entitles_of_run {d : Device}
    (answer : s.run (.getDevice tenant deviceId) = (.ok (some d), s'))
    (accepted : d.status = .accepted) : s'.Entitles tenant deviceId := by
  have left : s = s' := by
    rw [run_getDevice] at answer
    exact (Prod.mk.inj answer).2
  subst left
  exact ⟨d, answer, accepted⟩

/-- A token that was inserted is recorded, and its record is outstanding. -/
theorem Insertion.outstanding {candidate t : Token} {now : Instant}
    (h : Insertion s candidate now (.ok t, s')) (unrevoked : candidate.revoked = false) :
    ∃ e ∈ s'.tokens, e.Records t ∧
      e.isOutstanding candidate.tenant candidate.deviceId = true := by
  cases h with
  | reused member outstanding live => exact ⟨t.entry, member, records_entry t, outstanding⟩
  | added expired fresh devices tokens =>
      have newRevoked : (s.kind.tokenEntry candidate).revoked = false := by
        cases s.kind with
        | memory => exact unrevoked
        | tables => rfl
      refine ⟨s.kind.tokenEntry candidate, ?_, records_tokenEntry s.kind candidate, ?_⟩
      · rw [tokens]
        exact mem_put_self
      · exact isOutstanding_iff.mpr ⟨newRevoked, by simp, by simp⟩

/-- Where the one outstanding token of a device is revoked by its id, the device has none. -/
theorem none_outstanding_revokeToken {e : TokenEntry} (single : SingleLive s.tokens)
    (member : e ∈ s.tokens) (outstanding : e.isOutstanding tenant deviceId = true) :
    ∀ f ∈ (s.run (.revokeToken tenant e.id)).2.tokens,
      f.isOutstanding tenant deviceId = false := by
  intro f fMem
  rw [tokens_revokeToken] at fMem
  apply notOutstanding_of_mem_revokeWhere ?_ fMem
  intro g gMem gOut
  rw [single.eq_of_outstanding gMem member gOut outstanding]
  exact isToken_iff.mpr ⟨(isOutstanding_iff.mp outstanding).2.1, rfl⟩

end Store

namespace Action

variable {α : Type} {w w' : World}

/-- A call about devices leaves the tokens, however it ends. -/
theorem sameTokens_call {limit : Nat} {c : StoreCall α}
    (aboutDevices : c.method.table = .devices) :
    w.store.SameTokens ((call limit c).run w).2.store := by
  have written := Store.sameTokens_writes (w.interference w.calls c.site).writes w.store
  rcases store_call limit c w with storeEq | storeEq
  · rw [storeEq]
    exact written
  · rw [storeEq]
    have after := Store.sameTokens_run
      ((w.interference w.calls c.site).writes.foldl StatusWrite.apply w.store) aboutDevices
    exact ⟨after.kind.trans written.kind, after.tokens.trans written.tokens⟩

end Action

namespace Authority

variable {a : Authority} {w w' : World} {tenant : Tenant} {deviceId tokenId : String}
variable {r : Except Failure Token}

/-- The look at the status of a device is one call, which leaves the tokens. If it passes, the store
that is left says that the device is accepted. -/
theorem run_ensureAccepted (a : Authority) (tenant : Tenant) (deviceId : String) (w : World) :
    w.store.SameTokens ((a.ensureAccepted tenant deviceId).run w).2.store ∧
      ((a.ensureAccepted tenant deviceId).run w).2.calls =
        ⟨.getDevice, tenant, some deviceId⟩ :: w.calls ∧
      ((a.ensureAccepted tenant deviceId).run w).2.now = w.now ∧
      (((a.ensureAccepted tenant deviceId).run w).1 = .ok () →
        ((a.ensureAccepted tenant deviceId).run w).2.store.Entitles tenant deviceId) := by
  have same : w.store.SameTokens ((a.call (.getDevice tenant deviceId)).run w).2.store :=
    Action.sameTokens_call rfl
  unfold ensureAccepted
  rw [Action.run_bind]
  cases called : (a.call (.getDevice tenant deviceId)).run w with
  | mk result w₁ =>
      have callsEq : w₁.calls = ⟨.getDevice, tenant, some deviceId⟩ :: w.calls :=
        congrArg (fun r => r.2.calls) called.symm
      have nowEq : w₁.now = w.now := congrArg (fun r => r.2.now) called.symm
      rw [called] at same
      cases result with
      | error e => exact ⟨same, callsEq, nowEq, fun passed => by cases passed⟩
      | ok found =>
          cases found with
          | none => exact ⟨same, callsEq, nowEq, fun passed => by cases passed⟩
          | some d =>
              by_cases accepted : d.status = .accepted
              · simp only [accepted, if_true]
                rcases Action.call_eq_ok called with ⟨s, -, answer, -⟩
                exact ⟨same, callsEq, nowEq, fun _ => Store.entitles_of_run answer accepted⟩
              · simp only [accepted, if_false]
                exact ⟨same, callsEq, nowEq, fun passed => by cases passed⟩

/-- A token is verified only where the store that is left says that its device is accepted. -/
theorem entitles_of_verify {raw : String} {v : VerifiedToken}
    (h : (a.verify raw).run w = (.ok v, w')) : w'.store.Entitles v.tenant v.deviceId := by
  rcases verify_eq_ok h with ⟨claims, token, device, w₁, -, -, -, -, called, accepted, rfl⟩
  rcases Action.call_eq_ok called with ⟨s, -, answer, -⟩
  have entitled := Store.entitles_of_run answer accepted
  rw [Store.run_getDevice] at answer
  rcases Store.readFound_eq_ok (Prod.mk.inj answer).1 with ⟨e, found, read⟩
  rw [DeviceEntry.entry_of_read read] at found
  have own := (DeviceEntry.isDevice_iff.mp (List.find?_some found)).2
  have own : device.id = claims.subject := own
  rw [own]
  exact entitled

/-- A token that cannot be minted is the fault of the service. -/
theorem isInternal_of_mint {now : Instant} {e : Failure}
    (failed : a.mint tokenId tenant deviceId now = .error e) : e.isInternal = true := by
  cases made : (a.newClaims tokenId tenant deviceId now).encode a.keys.sign with
  | error fault =>
      simp only [mint, made] at failed
      cases failed
      rfl
  | ok raw =>
      simp only [mint, made, Except.mapError, Bind.bind, Except.bind] at failed
      split at failed
      · cases failed
      · cases failed
        rfl

/-- The ways that an issuance ends in any world. -/
inductive Course (tenant : Tenant) (deviceId : String) (w : World) :
    Except Failure Token × World → Prop where
  /-- The first look did not pass. -/
  | refused {e : Failure} {w' : World} (same : w.store.SameTokens w'.store)
      (calls : w'.calls = [⟨.getDevice, tenant, some deviceId⟩] ++ w.calls) :
      Course tenant deviceId w (.error e, w')
  /-- Something failed. -/
  | broken {e : Failure} {w' : World} (internal : e.isInternal = true) :
      Course tenant deviceId w (.error e, w')
  /-- The second look did not pass, and the token was taken back. -/
  | withdrawn {e : Failure} {w' : World}
      (calls : w'.calls = [⟨.revokeToken, tenant, none⟩, ⟨.getDevice, tenant, some deviceId⟩,
        ⟨.insertOrGetLive, tenant, some deviceId⟩, ⟨.getDevice, tenant, some deviceId⟩] ++ w.calls)
      (bare : ∀ f ∈ w'.store.tokens, f.isOutstanding tenant deviceId = false) :
      Course tenant deviceId w (.error e, w')
  | issued {t : Token} {w' : World} (entitled : w'.store.Entitles tenant deviceId)
      (tenantEq : t.tenant = tenant) (deviceEq : t.deviceId = deviceId)
      (recorded : ∃ e ∈ w'.store.tokens, e.Records t ∧ e.revoked = false) :
      Course tenant deviceId w (.ok t, w')

/-- What an issuance does once it has a token whose record is outstanding. -/
theorem course_of_token {t : Token} {w₁ : World} (sound : w₁.store.Sound)
    (calls : w₁.calls = [⟨.insertOrGetLive, tenant, some deviceId⟩,
      ⟨.getDevice, tenant, some deviceId⟩] ++ w.calls)
    (recorded : ∃ e ∈ w₁.store.tokens, e.Records t ∧ e.isOutstanding tenant deviceId = true) :
    Course tenant deviceId w ((do
      match ← (a.ensureAccepted tenant deviceId).attempt with
      | .ok () => pure t
      | .error e => do
        let _ ← a.call (.revokeToken tenant t.id)
        Action.fail e : Action Token).run w₁) := by
  rcases recorded with ⟨e, eMem, records, outstanding⟩
  rcases isOutstanding_iff.mp outstanding with ⟨unrevoked, tenantEq, deviceEq⟩
  rcases a.run_ensureAccepted tenant deviceId w₁ with ⟨same, callsEq, -, passed⟩
  cases looked : (a.ensureAccepted tenant deviceId).run w₁ with
  | mk result w₂ =>
      rw [looked] at same callsEq passed
      have again : (a.ensureAccepted tenant deviceId).attempt.run w₁ = (.ok result, w₂) := by
        rw [Action.run_attempt, looked]
      rw [Action.run_bind_ok again]
      cases result with
      | ok _ =>
          refine .issued (passed rfl) (records.tenant.symm.trans tenantEq)
            (records.deviceId.symm.trans deviceEq) ⟨e, ?_, records, unrevoked⟩
          exact same.tokens ▸ eMem
      | error failure =>
          cases called : (a.call (.revokeToken tenant t.id)).run w₂ with
          | mk answer w₃ =>
              cases answer with
              | error fault =>
                  have named := Action.call?_of_call (congrArg Prod.fst called)
                  simp only [Action.run_bind_error called]
                  exact .broken (Failure.isInternal_of_call? named)
              | ok found =>
                  have callsEq₃ : w₃.calls = ⟨.revokeToken, tenant, none⟩ :: w₂.calls :=
                    congrArg (fun r => r.2.calls) called.symm
                  simp only [Action.run_bind_ok called]
                  refine .withdrawn (by rw [callsEq₃, callsEq, calls]; rfl) ?_
                  rcases Action.call_eq_ok called with ⟨s, written, revoked, -⟩
                  have tokens : s.tokens = w₁.store.tokens := written.tokens.trans same.tokens
                  have single : SingleLive s.tokens := tokens ▸ sound.single
                  have bare := Store.none_outstanding_revokeToken single (tokens ▸ eMem) outstanding
                  rw [records.id, revoked] at bare
                  exact bare

/-- An issuance over a sound store ends in one of these ways, whatever others do. -/
theorem course_issue (sound : w.store.Sound) (a : Authority) (tokenId : String) (tenant : Tenant)
    (deviceId : String) : Course tenant deviceId w ((a.issue tokenId tenant deviceId).run w) := by
  rcases a.run_ensureAccepted tenant deviceId w with ⟨same, callsEq, nowEq, -⟩
  unfold issue
  cases looked : (a.ensureAccepted tenant deviceId).run w with
  | mk result w₁ =>
      rw [looked] at same callsEq
      cases result with
      | error e =>
          rw [Action.run_bind_error looked]
          exact .refused same callsEq
      | ok _ =>
          rw [Action.run_bind_ok looked, Action.run_bind_ok (Action.run_now w₁)]
          cases minted : a.mint tokenId tenant deviceId w₁.now with
          | error e =>
              rw [Action.run_bind_error (Action.run_ofExcept _ w₁)]
              exact .broken (isInternal_of_mint minted)
          | ok candidate =>
              have made := minting minted
              rw [Action.run_bind_ok (Action.run_ofExcept _ w₁)]
              cases called : (a.call (.insertOrGetLive candidate w₁.now)).run w₁ with
              | mk answer w₂ =>
                  cases answer with
                  | error fault =>
                      have named := Action.call?_of_call (congrArg Prod.fst called)
                      rw [Action.run_bind_error called]
                      exact .broken (Failure.isInternal_of_call? named)
                  | ok t =>
                      rw [Action.run_bind_ok called]
                      rcases Action.call_eq_ok called with ⟨s, written, answer, -⟩
                      have soundS : s.Sound := written.sound (same.sound sound)
                      have sound₂ := soundS.run (.insertOrGetLive candidate w₁.now)
                      have inserted := Store.insertion soundS candidate w₁.now
                      rw [answer] at sound₂ inserted
                      have callsEq₂ : w₂.calls =
                          ⟨.insertOrGetLive, candidate.tenant, some candidate.deviceId⟩ ::
                            w₁.calls := congrArg (fun r => r.2.calls) called.symm
                      rw [made.tenantEq, made.deviceEq, callsEq] at callsEq₂
                      have recorded := inserted.outstanding made.unrevoked
                      rw [made.tenantEq, made.deviceEq] at recorded
                      exact course_of_token sound₂ callsEq₂ recorded

/-! ## Main statement -/

/-- Issuance is safe against changes of status that land in between. Over a store in which no device
has two outstanding tokens, and whatever others set before each call: where an issuance gives a
token, its device is accepted in the store that is left and the record of the token is there and not
revoked; where it is refused after it had inserted a token or had got the live one, the device is
left without an outstanding token; and where it is refused before, the tokens are as they were. -/
theorem issue_among_status_changes (sound : w.store.Sound)
    (ran : (a.issue tokenId tenant deviceId).run w = (r, w')) :
    (∀ t, r = .ok t → w'.store.Entitles tenant deviceId ∧ t.tenant = tenant ∧
        t.deviceId = deviceId ∧ ∃ e ∈ w'.store.tokens, e.Records t ∧ e.revoked = false) ∧
      (r = .error .notEntitled → ∃ made, w'.calls = made ++ w.calls ∧
        ((∃ c ∈ made, c.method = .insertOrGetLive) →
          ∀ e ∈ w'.store.tokens, e.isOutstanding tenant deviceId = false) ∧
        ((∀ c ∈ made, c.method ≠ .insertOrGetLive) → w.store.SameTokens w'.store)) := by
  have course := course_issue sound a tokenId tenant deviceId
  rw [ran] at course
  cases course with
  | refused same calls =>
      constructor
      · rintro t ⟨⟩
      · intro _
        refine ⟨_, calls, ?_, fun _ => same⟩
        rintro ⟨c, member, inserted⟩
        rw [List.mem_singleton.mp member] at inserted
        cases inserted
  | broken internal =>
      constructor
      · rintro t ⟨⟩
      · rintro ⟨⟩
        cases internal
  | withdrawn calls bare =>
      constructor
      · rintro t ⟨⟩
      · intro _
        refine ⟨_, calls, fun _ => bare, fun uninserted => ?_⟩
        exact absurd rfl (uninserted ⟨.insertOrGetLive, tenant, some deviceId⟩ (by simp))
  | issued entitled tenantEq deviceEq recorded =>
      constructor
      · rintro t ⟨⟩
        exact ⟨entitled, tenantEq, deviceEq, recorded⟩
      · rintro ⟨⟩

end Authority

namespace Sample

/-- The device of the sample is set to a status before each of the next calls, one after another. -/
def contested (statuses : List DeviceStatus) : World :=
  { World.quiet (registered .memory).store (.ofSeconds 102) 102 with
    interference := fun earlier _ =>
      ⟨(statuses[earlier.length]?.map fun status =>
        ⟨.default, "d", status, .ofSeconds 102⟩).toList, .proceeds⟩ }

theorem sound_contested (statuses : List DeviceStatus) : (contested statuses).store.Sound := by
  have reached : (registered .memory).Reached admission .memory := (Run.Reached.start.step _).step _
  exact (reached.kept (by decide +kernel)).sound

/-- The device gets a token although it is rejected for a moment, and none where it is still
rejected at the second look. -/
theorem issue_contested :
    (∃ e ∈ ((admission.authority.issue "t1" .default "d").run
        (contested [.accepted, .rejected, .accepted])).2.store.tokens,
          e.Records token ∧ e.revoked = false) ∧
      ∀ e ∈ ((admission.authority.issue "t1" .default "d").run
        (contested [.accepted, .accepted, .rejected, .accepted])).2.store.tokens,
          e.isOutstanding .default "d" = false := by
  constructor
  · have ran := Action.run_eq_of_fst (x := admission.authority.issue "t1" .default "d")
      (w := contested [.accepted, .rejected, .accepted]) (r := .ok token) (by decide +kernel)
    rcases Authority.issue_among_status_changes (sound_contested _) ran with ⟨given, -⟩
    exact (given token rfl).2.2.2
  · have ran := Action.run_eq_of_fst (x := admission.authority.issue "t1" .default "d")
      (w := contested [.accepted, .accepted, .rejected, .accepted]) (r := .error .notEntitled)
      (by decide +kernel)
    rcases Authority.issue_among_status_changes (sound_contested _) ran with ⟨-, refused⟩
    rcases refused rfl with ⟨made, calls, bare, -⟩
    have callsEq : _ = made := calls.trans (List.append_nil made)
    apply bare
    rw [← callsEq]
    exact ⟨⟨.insertOrGetLive, .default, some "d"⟩, by decide +kernel, rfl⟩

end Sample

end DeviceAdmission
