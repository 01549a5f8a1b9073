import DeviceAdmission.Proofs.Service.Agreement
import DeviceAdmission.Proofs.Service.Keys

/-!
# What the records of a store say of each other

The calls of a store check nothing between its two tables, and no operation looks at both of them
as a whole. Still, after every run that nobody interferes with, the record of a token is one of a
device of the same tenant, only accepted devices have tokens with force, and the raw text of a token
says what its record says.
-/

namespace DeviceAdmission

open TokenEntry

/-- Whether a store has the device with the tenant and id. -/
def Store.HasDevice (s : Store) (tenant : Tenant) (id : String) : Prop :=
  ∃ d : Device, d.entry ∈ s.devices ∧ d.tenant = tenant ∧ d.id = id

namespace Store

variable {s s' : Store} {tenant : Tenant} {id : String} {ids : List String}

theorem HasAccepted.hasDevice (accepted : s.HasAccepted tenant id) : s.HasDevice tenant id := by
  obtain ⟨d, member, tenantEq, idEq, -⟩ := accepted
  exact ⟨d, member, tenantEq, idEq⟩

/-- A device is still there if its names are, where everything can be read. -/
theorem HasDevice.of_names (has : s.HasDevice tenant id) (registered : s'.Registered ids)
    (included : ∀ n ∈ s.names, n ∈ s'.names) : s'.HasDevice tenant id := by
  rcases has with ⟨d, member, rfl, rfl⟩
  rcases List.mem_map.mp (included _ (List.mem_map_of_mem member)) with ⟨e, eMem, namesEq⟩
  rcases registered.readable e eMem with ⟨d', rfl⟩
  exact ⟨d', eMem, congrArg (·.1.1) namesEq, congrArg (·.2) namesEq⟩

/-- What is recorded with force is a token of an accepted device. -/
theorem Orderly.revoked_of_unaccepted {d : Device} (orderly : s.Orderly ids)
    (dMem : d.entry ∈ s.devices) (unaccepted : d.status ≠ .accepted) {t : Token}
    (member : t.entry ∈ s.tokens) (tenantEq : t.tenant = d.tenant) (deviceEq : t.deviceId = d.id) :
    t.revoked = true := by
  cases unrevoked : t.revoked with
  | true => rfl
  | false =>
      have accepted := orderly.entitled t member unrevoked
      rw [tenantEq, deviceEq] at accepted
      exact absurd (orderly.registered.accepted dMem accepted) unaccepted

end Store

/-- A step takes no device away. -/
theorem Step.KeyChange.names_subset {st : Step} {s : Admission} {before after : Store}
    (change : st.KeyChange s before after) : ∀ n ∈ before.names, n ∈ after.names := by
  have ofSame : ∀ {u v : Store}, u.SameCards v → v.names = u.names := by
    intro u v same
    rw [Store.names_eq_map_cards, Store.names_eq_map_cards, same.cards]
  intro n member
  cases change with
  | none same => exact ofSame same ▸ member
  | registered submits unknown cards =>
      rw [Store.names_eq_map_cards] at member ⊢
      rcases List.mem_map.mp member with ⟨c, cMem, rfl⟩
      exact List.mem_map_of_mem (cards.mem_iff.mpr (List.mem_cons_of_mem _ cMem))
  | rotated submits allowed known set first tenantEq identityEq accepted keyNe rekeys last =>
      rw [ofSame last, rekeys.names_eq, ofSame first]
      exact member

namespace Run

variable {s : Admission} {kind : StoreKind} {r : Run} {t : Token}

/-- The device of a token that was recorded before a step is there after it, too. -/
theorem Reached.hasDevice (reached : r.Reached s kind) (calm : ∀ e ∈ r.past, e.Calm)
    (freshTokens : (tokenIds r.past).Nodup) (freshDevices : (deviceIds r.past).Nodup) :
    ∀ t : Token, t.entry ∈ r.store.tokens → r.store.HasDevice t.tenant t.deviceId := by
  induction reached with
  | start =>
      rw [Store.tokens_empty]
      rintro t ⟨⟩
  | @step r before st ih =>
      obtain ⟨unused, earlierDevices⟩ := fresh_of_nodup freshDevices
      have agrees := (before.step st).agrees calm freshTokens freshDevices
      have earlierTokens : (tokenIds r.past).Nodup := by
        rw [tokenIds_next] at freshTokens
        exact freshTokens.of_append_right
      have earlierCalm : ∀ e ∈ r.past, e.Calm := fun e member =>
        calm e (List.mem_cons_of_mem _ member)
      have known := ih earlierCalm earlierTokens earlierDevices
      have agreed := before.agrees earlierCalm earlierTokens earlierDevices
      have change := (st.handles_perform s (before.distinct earlierDevices) unused).change
      intro t member
      rcases agrees.origin t.entry member with ⟨later, e, earlier, u, past, handed, same⟩
      rw [entry_injective same]
      cases later with
      | nil =>
          -- The step itself gave the token, so its device is accepted now.
          have unrevoked := (agrees.handed e (mem_past past) u handed).1
          rw [same, Token.after_nil] at member
          exact (agrees.orderly.entitled u member unrevoked).hasDevice
      | cons latest later =>
          have old := agreed.kept later e earlier u (List.cons.inj past).2 handed
          exact (known _ old).of_names agrees.orderly.registered change.names_subset
  | rearranged before order ih =>
      intro t member
      rw [Store.HasDevice, order.sameDevices.devices]
      exact ih calm freshTokens freshDevices t (order.perm.mem_iff.mpr member)

/-- What is recorded was minted, and the marks aside it is what was minted. -/
theorem Agrees.exists_claims (agrees : r.Agrees s) (calm : ∀ e ∈ r.past, e.Calm)
    (matching : s.authority.keys.Match) (member : t.entry ∈ r.store.tokens) :
    ∃ claims,
      TokenClaims.decode? s.authority.keys.verifies s.authority.policy.issuer t.raw =
          some claims ∧
        claims.id = t.id ∧ claims.subject = t.deviceId ∧ claims.tenant = t.tenant.name ∧
        claims.expiry = t.expiresAt.seconds ∧ t.expiresAt = .ofSeconds claims.expiry := by
  rcases agrees.origin t.entry member with ⟨later, e, earlier, u, past, handed, same⟩
  have inPast := mem_past past
  have minted := (agrees.handed e inPast u handed).2
  obtain ⟨claims, decoded, idEq, subjectEq, tenantEq, expiryEq⟩ :=
    minted.decode? matching (Instant.isTimely_iff.mp ((calm e inPast).expires u handed)).1
  have expiresAtEq := (minted.eq_of_decode? decoded).2.2.2
  rw [entry_injective same]
  exact ⟨claims, decoded, idEq, subjectEq, tenantEq, expiryEq, expiresAtEq.symm⟩

/-! ## Main statement -/

/-- What the records say after every run without interference whose ids are fresh and whose keys
match. Every token is one of a device of its tenant, and its raw text decodes to its id, its device,
its tenant and its expiry in seconds. And a device that is not accepted has no token with force. -/
theorem Reached.records_agree (reached : r.Reached s kind) (calm : ∀ e ∈ r.past, e.Calm)
    (freshTokens : (tokenIds r.past).Nodup) (freshDevices : (deviceIds r.past).Nodup)
    (matching : s.authority.keys.Match) :
    (∀ e ∈ r.store.tokens, ∃ t : Token, e = t.entry ∧
        r.store.HasDevice t.tenant t.deviceId ∧
        ∃ claims,
          TokenClaims.decode? s.authority.keys.verifies s.authority.policy.issuer t.raw =
              some claims ∧
            claims.id = t.id ∧ claims.subject = t.deviceId ∧ claims.tenant = t.tenant.name ∧
            claims.expiry = t.expiresAt.seconds ∧ t.expiresAt = .ofSeconds claims.expiry) ∧
      ∀ e ∈ r.store.devices, ∃ d : Device, e = d.entry ∧
        (d.status ≠ .accepted → ∀ t : Token, t.entry ∈ r.store.tokens → t.tenant = d.tenant →
          t.deviceId = d.id → t.revoked = true) := by
  have agrees := reached.agrees calm freshTokens freshDevices
  constructor
  · intro e member
    rcases agrees.orderly.readable e member with ⟨t, rfl⟩
    exact ⟨t, rfl, reached.hasDevice calm freshTokens freshDevices t member,
      agrees.exists_claims calm matching member⟩
  · intro e member
    rcases agrees.orderly.registered.readable e member with ⟨d, rfl⟩
    refine ⟨d, rfl, ?_⟩
    intro unaccepted t tMem tenantEq deviceEq
    exact agrees.orderly.revoked_of_unaccepted member unaccepted tMem tenantEq deviceEq

end Run

namespace Sample

/-- The one token of the sample's device, which is rejected, is recorded without force. -/
theorem records_rejected :
    (rejected .memory).store.tokens.map (fun e => (e.id, e.revoked)) = [("t1", true)] ∧
      ∀ e ∈ (rejected .memory).store.tokens, ∃ t : Token, e = t.entry ∧
        (rejected .memory).store.HasDevice t.tenant t.deviceId := by
  obtain ⟨records, -⟩ := (reached .memory).records_agree (calm .memory)
    (nodup_tokenIds .memory) (nodup_deviceIds .memory) keys_match
  refine ⟨by decide +kernel, fun e member => ?_⟩
  obtain ⟨t, isIt, has, -⟩ := records e member
  exact ⟨t, isIt, has⟩

end Sample

end DeviceAdmission
