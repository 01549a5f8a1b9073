import DeviceAdmission.Proofs.Service.Keys
import DeviceAdmission.Proofs.Service.Withdrawal
import DeviceAdmission.Proofs.Store.Imprints

/-!
# Records that stay

Whatever is asked of the service, whichever calls fail and whatever others set meanwhile, a device
that is stored stays with its id, its tenant, its identity data and the time that it was registered,
and a token stays as it was put, except that it may be revoked once. The step is that of a call:
what no call overwrites, no operation does, because the ids that it brings are new.
-/

namespace DeviceAdmission

/-! ## Steps -/

/-- What every call preserves that brings no ids but those of a step is preserved by the step. What
others set meanwhile are such calls. -/
theorem Step.preserves {I : Store → Prop} (st : Step) (s : Admission) (store : Store)
    (calls : ∀ ⦃γ : Type⦄ (c : StoreCall γ),
      (∀ d, c.newDevice? = some d → st.operation.deviceId? = some d.id) →
      (∀ t, c.candidate? = some t → st.operation.tokenId? = some t.id) →
      ∀ store, I store → I (store.run c).2) (holds : I store) :
    I ((s.perform st.operation).run (st.world store)).2.store := by
  have written : ∀ (writes : List StatusWrite) (store : Store), I store →
      I (writes.foldl StatusWrite.apply store) := by
    intro writes
    induction writes with
    | nil => exact fun _ holds => holds
    | cons v rest ih =>
        refine fun store holds => ih (v.apply store) (calls _ ?_ ?_ store holds)
        · rintro d ⟨⟩
        · rintro t ⟨⟩
  have kept := (s.makes_perform st.operation st.now st.wallSeconds).invariant
    (w := st.world store)
    (I := fun w => (w.now = st.now ∧ w.wallSeconds = st.wallSeconds) ∧ I w.store)
    (fun _ holds => holds.1) ?_ ⟨⟨rfl, rfl⟩, holds⟩
  · exact kept.2
  · rintro limit γ c ⟨scope, known, covered⟩ w ⟨clocks, holds⟩
    have met := written (w.interference w.calls c.site).writes w.store holds
    refine ⟨clocks, ?_⟩
    rcases Action.store_call limit c w with left | left
    · rw [left]
      exact met
    · rw [left]
      obtain ⟨givenDevice, givenToken⟩ := Operation.given_of_scope known
      refine calls c ?_ ?_ _ met
      · intro d candidate
        exact givenDevice _ (covered.device d candidate).1
      · intro t candidate
        obtain ⟨id, deviceId, given, minted⟩ := covered.token t candidate
        rw [(Authority.minting minted).idEq]
        exact givenToken id given

variable {s : Admission} {st : Step} {store : Store} {x : DeviceImprint} {y : TokenImprint}

/-- A step leaves what is kept of the devices that it brings no id of. -/
theorem Step.mem_deviceImprints (member : x ∈ store.deviceImprints)
    (other : st.operation.deviceId? ≠ some x.id) :
    x ∈ ((s.perform st.operation).run (st.world store)).2.store.deviceImprints := by
  refine st.preserves (I := fun store => x ∈ store.deviceImprints) s store ?_ member
  intro γ c device _ store member
  refine store.mem_deviceImprints_run c member fun d candidate same => other ?_
  rw [device d candidate, same]

/-- A step leaves the tokens that it brings no id of, or revokes them. -/
theorem Step.exists_becomes (st : Step) (s : Admission) (member : y ∈ store.tokenImprints)
    (other : st.operation.tokenId? ≠ some y.id) :
    ∃ z ∈ ((s.perform st.operation).run (st.world store)).2.store.tokenImprints,
      y.Becomes z := by
  refine st.preserves (I := fun store => ∃ z ∈ store.tokenImprints, y.Becomes z) s store ?_
    ⟨y, member, .inl rfl⟩
  rintro γ c - token store ⟨z, zMem, becomes⟩
  obtain ⟨z', member', again⟩ := store.exists_becomes_run c zMem fun t candidate same => other
    (by rw [token t candidate, ← same, becomes.id])
  exact ⟨z', member', becomes.trans again⟩

namespace Store

/-- A device that can be told apart is the only one that is kept with its id. -/
theorem Distinct.imprint_eq {ids : List String} (distinct : store.Distinct ids)
    {x' : DeviceImprint} (member : x ∈ store.deviceImprints)
    (member' : x' ∈ store.deviceImprints) (same : x'.id = x.id) : x' = x := by
  have unique := distinct.uniqueId
  rw [← map_names_deviceImprints, List.map_map] at unique
  exact List.inj_on_of_nodup_map unique member' member same

theorem imprint_eq_of_key (keyed : TokenEntry.Keyed store.tokens) {y' : TokenImprint}
    (member : y ∈ store.tokenImprints) (member' : y' ∈ store.tokenImprints)
    (same : y'.key = y.key) : y' = y := by
  rw [TokenEntry.Keyed, ← map_key_tokenImprints] at keyed
  exact List.inj_on_of_nodup_map keyed member' member same

/-- The order of the tokens in memory is no part of what is kept. -/
theorem Rearranged.imprints {store' : Store} (order : store.Rearranged store') :
    store'.deviceImprints = store.deviceImprints ∧
      store.tokenImprints.Perm store'.tokenImprints := by
  cases order with
  | memory perm => exact ⟨rfl, perm.map Token.imprint⟩

end Store

/-! ## Runs -/

namespace Run

variable {kind : StoreKind} {r r' : Run}

/-- Whether a run goes on from another one. -/
inductive Follows (s : Admission) (r : Run) : Run → Prop where
  | refl : Follows s r r
  | step {r' : Run} (before : Follows s r r') (st : Step) : Follows s r (r'.next s st)
  | rearranged {r' : Run} {store : Store} (before : Follows s r r')
      (order : r'.store.Rearranged store) : Follows s r ⟨store, r'.past⟩

theorem Follows.reached (follows : r.Follows s r') (reached : r.Reached s kind) :
    r'.Reached s kind := by
  induction follows with
  | refl => exact reached
  | step before st ih => exact ih.step st
  | rearranged before order ih => exact ih.rearranged order

/-- The ids of a run are fresh where those of a run that goes on from it are. -/
theorem Follows.nodup_deviceIds (follows : r.Follows s r') (fresh : (deviceIds r'.past).Nodup) :
    (deviceIds r.past).Nodup := by
  induction follows with
  | refl => exact fresh
  | step before st ih => exact ih (fresh_of_nodup fresh).2
  | rearranged before order ih => exact ih fresh

/-- The id of a stored device is one that the run was given. -/
theorem Reached.mem_deviceIds (reached : r.Reached s kind) (fresh : (deviceIds r.past).Nodup)
    (member : x ∈ r.store.deviceImprints) : x.id ∈ deviceIds r.past := by
  have named : x.names ∈ r.store.names := by
    rw [← Store.map_names_deviceImprints]
    exact List.mem_map_of_mem member
  exact (reached.distinct fresh).used x.names named

/-- The id of a stored token is one that the run was given. -/
theorem Reached.mem_tokenIds (reached : r.Reached s kind) (fresh : (tokenIds r.past).Nodup)
    (member : y ∈ r.store.tokenImprints) : y.id ∈ tokenIds r.past := by
  have inKeys : y.key ∈ r.store.tokens.map TokenEntry.key := by
    rw [← Store.map_key_tokenImprints]
    exact List.mem_map_of_mem member
  obtain ⟨e, eMem, keyEq⟩ := List.mem_map.mp inKeys
  by_contra unused
  exact (reached.kept fresh).id_ne unused e eMem (congrArg Prod.snd keyEq)

/-- The id for a token that a run is given at last is not among those before. -/
theorem fresh_of_nodup_tokenIds (fresh : (tokenIds (r.next s st).past).Nodup) :
    (∀ id, st.operation.tokenId? = some id → id ∉ tokenIds r.past) ∧
      (tokenIds r.past).Nodup := by
  rw [tokenIds_next] at fresh
  refine ⟨?_, fresh.of_append_right⟩
  intro id given used
  rw [given, Option.toList_some] at fresh
  exact (List.nodup_cons.mp fresh).1 used

/-- A run that goes on with fresh ids leaves what is kept of the devices. -/
theorem Follows.mem_deviceImprints (follows : r.Follows s r') (reached : r.Reached s kind)
    (fresh : (deviceIds r'.past).Nodup) (member : x ∈ r.store.deviceImprints) :
    x ∈ r'.store.deviceImprints := by
  induction follows with
  | refl => exact member
  | @step r' before st ih =>
      obtain ⟨unused, earlier⟩ := fresh_of_nodup fresh
      have stays := ih earlier
      have used := (before.reached reached).mem_deviceIds earlier stays
      exact Step.mem_deviceImprints stays fun given => unused x.id given used
  | rearranged before order ih =>
      rw [order.imprints.1]
      exact ih fresh

/-- It leaves what they are told apart by. -/
theorem Follows.mem_names (follows : r.Follows s r') (reached : r.Reached s kind)
    (fresh : (deviceIds r'.past).Nodup) {n : (Tenant × String) × String}
    (member : n ∈ r.store.names) : n ∈ r'.store.names := by
  rw [← Store.map_names_deviceImprints] at member ⊢
  obtain ⟨x, xMem, rfl⟩ := List.mem_map.mp member
  exact List.mem_map_of_mem (follows.mem_deviceImprints reached fresh xMem)

/-- A run that goes on with fresh ids leaves the tokens, or revokes them. -/
theorem Follows.exists_becomes (follows : r.Follows s r') (reached : r.Reached s kind)
    (fresh : (tokenIds r'.past).Nodup) (member : y ∈ r.store.tokenImprints) :
    ∃ z ∈ r'.store.tokenImprints, y.Becomes z := by
  induction follows with
  | refl => exact ⟨y, member, .inl rfl⟩
  | @step r' before st ih =>
      obtain ⟨unused, earlier⟩ := fresh_of_nodup_tokenIds fresh
      obtain ⟨z, zMem, becomes⟩ := ih earlier
      have used := (before.reached reached).mem_tokenIds earlier zMem
      obtain ⟨z', zMem', again⟩ := st.exists_becomes s zMem
        fun given => unused z.id given used
      exact ⟨z', zMem', becomes.trans again⟩
  | rearranged before order ih =>
      obtain ⟨z, zMem, becomes⟩ := ih fresh
      exact ⟨z, order.imprints.2.mem_iff.mp zMem, becomes⟩

/-! ## Main statement -/

/-- Records are never lost or rewritten. For every run over either kind of store and every run that
goes on from it with fresh ids, whichever calls fail and whatever others set between calls: each
device that is stored is stored later, the only one with its id, with the same tenant, identity data
and time of its registration as the store keeps them; and each token is stored later, the only one
of its tenant with its id, as it was put, except that it may have been revoked. What was revoked
stays so. -/
theorem Reached.records_kept (reached : r.Reached s kind) (follows : r.Follows s r')
    (freshDevices : (deviceIds r'.past).Nodup) (freshTokens : (tokenIds r'.past).Nodup) :
    (∀ x ∈ r.store.deviceImprints, x ∈ r'.store.deviceImprints ∧
        ∀ x' ∈ r'.store.deviceImprints, x'.id = x.id → x' = x) ∧
      ∀ y ∈ r.store.tokenImprints, ∃ z ∈ r'.store.tokenImprints, (z = y ∨ z = y.revoke) ∧
        ∀ z' ∈ r'.store.tokenImprints, z'.tenant = y.tenant → z'.id = y.id → z' = z := by
  have later := follows.reached reached
  constructor
  · intro x member
    have stays := follows.mem_deviceImprints reached freshDevices member
    exact ⟨stays, fun _ member' => (later.distinct freshDevices).imprint_eq stays member'⟩
  · intro y member
    obtain ⟨z, zMem, becomes⟩ := follows.exists_becomes reached freshTokens member
    refine ⟨z, zMem, becomes, fun z' zMem' tenantEq idEq => ?_⟩
    have keyEq : z'.key = z.key := (Prod.ext tenantEq idEq : z'.key = y.key).trans becomes.key.symm
    exact Store.imprint_eq_of_key (later.kept freshTokens).keyed zMem zMem' keyEq

end Run

namespace Sample

/-- When the device is rejected, it stays in the store, and its token stays and is revoked. -/
theorem records_kept_rejected :
    device.imprint ∈ (issued .memory).store.deviceImprints ∧
      device.imprint ∈ (rejected .memory).store.deviceImprints ∧
      token.imprint ∈ (issued .memory).store.tokenImprints ∧
      token.imprint.revoke ∈ (rejected .memory).store.tokenImprints := by
  have deviceMem : device.imprint ∈ (issued .memory).store.deviceImprints := by decide +kernel
  have tokenMem : token.imprint ∈ (issued .memory).store.tokenImprints := by decide +kernel
  have follows : (issued .memory).Follows admission (rejected .memory) := Run.Follows.refl.step _
  obtain ⟨devices, tokens⟩ := (reached_issued .memory).records_kept follows
    (nodup_deviceIds .memory) (nodup_tokenIds .memory)
  obtain ⟨z, zMem, becomes, -⟩ := tokens token.imprint tokenMem
  have revoked : ∀ z ∈ (rejected .memory).store.tokenImprints, z.revoked = true := by
    decide +kernel
  refine ⟨deviceMem, (devices device.imprint deviceMem).1, tokenMem, ?_⟩
  rcases becomes with rfl | rfl
  · cases revoked _ zMem
  · exact zMem

end Sample

end DeviceAdmission
