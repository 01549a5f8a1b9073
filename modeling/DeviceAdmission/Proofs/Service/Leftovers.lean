import DeviceAdmission.Proofs.Service.Encounters

/-!
# What an attempt leaves

A request whose calls may fail stops anywhere between its calls. Where nobody else interferes, it
leaves the store as it was, or with the device as the look-up of a device leaves it, and then with
the tokens as they were, with a token inserted, or with this token revoked again.
-/

namespace DeviceAdmission

open TokenEntry

namespace World

variable {w w' : World}

/-- Whether nobody sets a status between calls. -/
def IsAlone (w : World) : Prop :=
  ∀ earlier site, (w.interference earlier site).writes = []

theorem IsAlone.of_sameSetting (alone : w.IsAlone) (same : w.SameSetting w') : w'.IsAlone := by
  intro earlier site
  rw [same.interference]
  exact alone earlier site

theorem IsAlone.met {α : Type} (alone : w.IsAlone) (c : StoreCall α) : w.met c = w.store := by
  rw [World.met, alone w.calls c.site]
  rfl

/-- A call that was answered is answered by the store alone. -/
theorem IsAlone.called {α : Type} {limit : Nat} {c : StoreCall α} {a : α} (alone : w.IsAlone)
    (called : (Action.call limit c).run w = (.ok a, w')) :
    w'.IsAlone ∧ w.store.run c = (.ok a, w'.store) := by
  have still := alone.of_sameSetting (Action.sameSetting_of_call called)
  cases Action.called_of_run called with
  | answered answer =>
      rw [alone.met] at answer
      exact ⟨still, answer⟩

/-- A call that the store would answer and that failed left the store. -/
theorem IsAlone.left {α : Type} {limit : Nat} {c : StoreCall α} {a : α} {e : Failure}
    (alone : w.IsAlone) (answers : (w.store.run c).1 = .ok a)
    (called : (Action.call limit c).run w = (.error e, w')) : w'.store = w.store := by
  cases Action.called_of_run called with
  | failed answer =>
      rw [alone.met] at answer
      rw [answer] at answers
      cases answers
  | stopped left => exact left.trans (alone.met c)

end World

/-! ## Issuances -/

namespace Authority

variable {a : Authority} {s : Store} {w w' : World} {tenant : Tenant} {deviceId tokenId : String}
variable {now : Instant}

/-- What an issuance may leave of a store. -/
inductive Leftover (a : Authority) (s : Store) (tokenId : String) (tenant : Tenant)
    (deviceId : String) (now : Instant) : Store → Prop where
  | untouched : Leftover a s tokenId tenant deviceId now s
  | inserted {candidate t : Token} {s' : Store}
      (minted : a.mint tokenId tenant deviceId now = .ok candidate)
      (answer : s.run (.insertOrGetLive candidate now) = (.ok t, s')) :
      Leftover a s tokenId tenant deviceId now s'
  | withdrawn {candidate t : Token} {s' : Store}
      (minted : a.mint tokenId tenant deviceId now = .ok candidate)
      (answer : s.run (.insertOrGetLive candidate now) = (.ok t, s')) :
      Leftover a s tokenId tenant deviceId now (s'.run (.revokeToken tenant t.id)).2

theorem Looked.left {r : Except Failure Unit} (looked : Looked w tenant deviceId r w')
    (alone : w.IsAlone) : w'.IsAlone ∧ w'.store = w.store :=
  ⟨alone.of_sameSetting looked.setting, looked.store.trans (alone.met _)⟩

/-- What an issuance leaves where nobody interferes and calls may fail. -/
theorem IssuePath.leftover {r : Except Failure Token}
    (path : a.IssuePath tokenId tenant deviceId w r w') (sound : w.store.Sound)
    (alone : w.IsAlone) : a.Leftover w.store tokenId tenant deviceId w.now w'.store := by
  cases path with
  | refused first =>
      rw [(first.left alone).2]
      exact .untouched
  | notMinted first failed =>
      rw [(first.left alone).2]
      exact .untouched
  | @stopped candidate e w₁ _ first minted called =>
      obtain ⟨alone₁, left⟩ := first.left alone
      have same : w'.store = w₁.store := by
        cases Action.called_of_run called with
        | failed answer =>
            rw [alone₁.met] at answer
            have inserted := Store.insertion (left ▸ sound) candidate w.now
            rw [answer] at inserted
            generalize w'.store = after at inserted
            cases inserted
            rfl
        | stopped left => exact left.trans (alone₁.met _)
      rw [same, left]
      exact .untouched
  | issued first minted called second =>
      obtain ⟨alone₁, left⟩ := first.left alone
      obtain ⟨alone₂, answer⟩ := alone₁.called called
      rw [left] at answer
      rw [(second.left alone₂).2]
      exact .inserted minted answer
  | @left candidate t e f w₁ _ _ _ first minted called second revoked =>
      obtain ⟨alone₁, left⟩ := first.left alone
      obtain ⟨alone₂, answer⟩ := alone₁.called called
      obtain ⟨alone₃, left₃⟩ := second.left alone₂
      rw [left] at answer
      rw [(alone₃.left (Store.run_revokeToken _ tenant t.id) revoked).trans left₃]
      exact .inserted minted answer
  | withdrawn first minted called second revoked =>
      obtain ⟨alone₁, left⟩ := first.left alone
      obtain ⟨alone₂, answer⟩ := alone₁.called called
      obtain ⟨alone₃, left₃⟩ := second.left alone₂
      obtain ⟨-, taken⟩ := alone₃.called revoked
      rw [left] at answer
      rw [left₃] at taken
      have withdrawn := Leftover.withdrawn minted answer
      rw [taken] at withdrawn
      exact withdrawn

end Authority

/-! ## Submissions -/

namespace Admission

variable {s : Admission} {store : Store} {given : List String} {ids : FreshIds} {newId : String}
variable {w w' : World} {tenant : Tenant} {request : AuthRequest} {now : Instant}

/-- What a submission that passed the checks may leave of a store. -/
inductive Leftover (s : Admission) (store : Store) (ids : FreshIds) (tenant : Tenant)
    (request : AuthRequest) (now : Instant) : Store → Prop where
  | untouched : Leftover s store ids tenant request now store
  | lookedUp {d : Device} {s₁ s₂ : Store}
      (encounter : s.Encounter store ids.device tenant request now (.ok d) s₁)
      (issuance : s.authority.Leftover s₁ ids.token tenant d.id now s₂) :
      Leftover s store ids tenant request now s₂

/-- A call for a device that failed left the store. -/
theorem left_of_called {candidate : Device} {limit : Nat} {e : Failure} (alone : w.IsAlone)
    (distinct : w.store.Distinct given) (fresh : candidate.id ∉ given)
    (legible : w.store.kind = .tables →
      candidate.createdAt.isLegible = true ∧ candidate.updatedAt.isLegible = true)
    (called : (Action.call limit (.getOrCreate candidate)).run w = (.error e, w')) :
    w'.store = w.store := by
  by_cases unknown : ∀ g ∈ w.store.devices,
      g.hasIdentity candidate.tenant candidate.identityData = false
  · obtain ⟨answer, -⟩ := run_getOrCreate_of_unknown distinct fresh legible unknown
    exact alone.left (congrArg Prod.fst answer) called
  · obtain ⟨g, member, identity⟩ : ∃ g ∈ w.store.devices,
        g.hasIdentity candidate.tenant candidate.identityData = true := by
      simpa using unknown
    cases Action.called_of_run called with
    | failed answer =>
        rw [alone.met, distinct.getOrCreate_known member identity] at answer
        exact (Prod.mk.inj answer).2.symm
    | stopped left => exact left.trans (alone.met _)

/-- What the look-up of a device leaves where nobody interferes and calls may fail. -/
theorem LookUpPath.left {r : Except Failure Device}
    (path : s.LookUpPath newId tenant request w r w') (alone : w.IsAlone)
    (distinct : w.store.Distinct given) (fresh : newId ∉ given)
    (legible : w.store.kind = .tables → w.now.isLegible = true) :
    (∀ e, r = .error e → w'.store = w.store) ∧
      ∀ d, r = .ok d → s.Encounter w.store newId tenant request w.now (.ok d) w'.store := by
  obtain ⟨candidate, seen⟩ : ∃ candidate : Device,
    candidate = .firstSeen newId tenant request.identityData request.publicKey w.now := ⟨_, rfl⟩
  have freshId : candidate.id ∉ given := by
    rw [seen]
    exact fresh
  have kept : w.store.kind = .tables →
      candidate.createdAt.isLegible = true ∧ candidate.updatedAt.isLegible = true := by
    intro isTables
    rw [seen]
    exact ⟨legible isTables, legible isTables⟩
  have answered : ∀ d created w₁,
      (s.call (.getOrCreate (.firstSeen newId tenant request.identityData request.publicKey
        w.now))).run w = (.ok (d, created), w₁) →
          w₁.IsAlone ∧ w.store.run (.getOrCreate candidate) = (.ok (d, created), w₁.store) := by
    intro d created w₁ called
    rw [← seen] at called
    exact alone.called called
  -- A device that is not new is one of the store, and the store is left.
  have known : ∀ d s', w.store.run (.getOrCreate candidate) = (.ok (d, false), s') →
      d.entry ∈ w.store.devices ∧ d.entry.hasIdentity tenant request.identityData = true ∧
        s' = w.store := by
    intro d s' answer
    cases distinct.seen freshId answer with
    | known member identity =>
        rw [seen] at identity
        exact ⟨member, identity, rfl⟩
  cases path with
  | stopped called =>
      rw [← seen] at called
      refine ⟨fun _ _ => left_of_called alone distinct freshId kept called, ?_⟩
      rintro d ⟨⟩
  | @found d created _ called same =>
      obtain ⟨-, answer⟩ := answered _ _ _ called
      refine ⟨by rintro e ⟨⟩, ?_⟩
      rintro d ⟨⟩
      cases created with
      | false =>
          obtain ⟨member, identity, left⟩ := known _ _ answer
          rw [left]
          exact .known member identity (same.resolve_left nofun)
      | true =>
          have left : (w.store.run (.getOrCreate candidate)).2 = w'.store :=
            congrArg Prod.snd answer
          cases distinct.seen freshId answer with
          | new unknown entryEq devices =>
              rw [StoreKind.deviceEntry_eq kept] at entryEq
              rw [← DeviceEntry.entry_injective entryEq, ← left, seen]
              rw [seen] at unknown
              exact .registered unknown
  | refused called keyNe fixed =>
      obtain ⟨-, answer⟩ := answered _ _ _ called
      refine ⟨fun _ _ => (known _ _ answer).2.2, ?_⟩
      rintro d ⟨⟩
  | @unrotated d r e w₁ _ called keyNe accepted set ends =>
      obtain ⟨alone₁, answer⟩ := answered _ _ _ called
      obtain ⟨member, identity, left⟩ := known _ _ answer
      have tenantEq : d.tenant = tenant := (DeviceEntry.hasIdentity_iff.mp identity).1
      have rotation := run_rotateKey_of_accepted distinct member tenantEq accepted
        request.publicKey w.now
      rw [← left] at rotation
      refine ⟨fun _ _ => ?_, by rintro d ⟨⟩⟩
      rcases ends with rfl | ⟨rfl, -⟩
      · exact (alone₁.left (congrArg Prod.fst rotation) set).trans left
      · obtain ⟨-, unset⟩ := alone₁.called set
        rw [rotation] at unset
        cases (Prod.mk.inj unset).1
  | @rotated d w₁ _ called keyNe allowed accepted set =>
      obtain ⟨alone₁, answer⟩ := answered _ _ _ called
      obtain ⟨member, identity, left⟩ := known _ _ answer
      obtain ⟨-, rotation⟩ := alone₁.called set
      refine ⟨by rintro e ⟨⟩, ?_⟩
      rintro d ⟨⟩
      have allowed : ¬((!s.allowKeyRotation) = true ∨ d.status ≠ .accepted) := by
        rw [allowed, accepted]
        decide
      rw [left] at rotation
      have rotated : s.Encounter w.store newId tenant request w.now (.ok d)
          (w.store.run (.rotateKey tenant d.id request.publicKey w.now)).2 :=
        .rotated member identity keyNe allowed
      rw [rotation] at rotated
      exact rotated

/-- What a request leaves that passed the checks, where nobody interferes and calls may fail. -/
theorem GrantPath.leftover {body : Bytes} {signature : Option String} {r : Except Failure Token}
    (path : s.GrantPath ids body signature w r w') (sound : w.store.Sound) (alone : w.IsAlone)
    (distinct : w.store.Distinct given) (fresh : ids.device ∉ given)
    (legible : w.store.kind = .tables → w.now.isLegible = true)
    (checked : s.check w.wallSeconds body signature = .ok (request, tenant)) :
    s.Leftover w.store ids tenant request w.now w'.store := by
  cases path with
  | unchecked failed =>
      rw [checked] at failed
      cases failed
  | refused checked' lookedUp =>
      obtain ⟨rfl, rfl⟩ := Prod.mk.inj (Except.ok.inj (checked'.symm.trans checked))
      rw [(lookedUp.left alone distinct fresh legible).1 _ rfl]
      exact .untouched
  | issued checked' lookedUp issued =>
      obtain ⟨rfl, rfl⟩ := Prod.mk.inj (Except.ok.inj (checked'.symm.trans checked))
      have encounter := (lookedUp.left alone distinct fresh legible).2 _ rfl
      have setting := lookedUp.sameSetting
      have issuance := issued.leftover (encounter.sameTokens.sound sound)
        (alone.of_sameSetting setting)
      rw [setting.now] at issuance
      exact .lookedUp encounter issuance

end Admission

end DeviceAdmission
