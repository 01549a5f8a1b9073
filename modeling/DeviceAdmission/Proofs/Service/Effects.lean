import DeviceAdmission.Proofs.Store.Reached
import DeviceAdmission.Service.Admission

/-!
# Effects of calls on tokens

Whatever others do meanwhile and whether or not it fails, a call of an operation changes the tokens
by moves of the store: what others set leaves them, and the call revokes tokens or puts one. What is
put by the service is a token that its authority minted.
-/

namespace DeviceAdmission

open TokenEntry Relation

/-- Whether the authority makes the token at a time, with the id. -/
def Authority.Mints (a : Authority) (tokenId : String) (now : Instant) (t : Token) : Prop :=
  ∃ tenant deviceId, a.mint tokenId tenant deviceId now = .ok t

/-- What a token that is minted has of what was asked for. -/
structure Authority.Minting (a : Authority) (tokenId : String) (tenant : Tenant)
    (deviceId : String) (now : Instant) (t : Token) : Prop where
  idEq : t.id = tokenId
  tenantEq : t.tenant = tenant
  deviceEq : t.deviceId = deviceId
  issuedAt : t.issuedAt = now
  expiresAt : t.expiresAt = .ofSeconds (now.add a.policy.expiration).seconds
  unrevoked : t.revoked = false
  encoded : (a.newClaims tokenId tenant deviceId now).encode a.keys.sign = .ok t.raw
  inRange : (now.add a.policy.expiration).isInRange = true

/-- The entries that an issuance may put. -/
def Authority.NewEntry (a : Authority) (tokenId : String) (now : Instant) (kind : StoreKind)
    (e : TokenEntry) : Prop :=
  ∃ t, a.Mints tokenId now t ∧ e = kind.tokenEntry t

namespace Store

variable {s s' : Store} {new : TokenEntry → Prop}

theorem sameTokens_apply (s : Store) (w : StatusWrite) : s.SameTokens (w.apply s) :=
  sameTokens_run s rfl

/-- The statuses that others set leave the tokens. -/
theorem sameTokens_writes (writes : List StatusWrite) (s : Store) :
    s.SameTokens (writes.foldl StatusWrite.apply s) := by
  induction writes generalizing s with
  | nil => exact .refl s
  | cons w rest ih =>
      have first := sameTokens_apply s w
      have later := ih (w.apply s)
      constructor
      · exact later.kind.trans first.kind
      · exact later.tokens.trans first.tokens

end Store

/-- The clock stays and the tokens change by moves. -/
structure World.Evolves (new : StoreKind → TokenEntry → Prop) (w w' : World) : Prop where
  now : w'.now = w.now
  moves : w.store.Sound → ReflTransGen (Store.Move (new w.store.kind)) w.store w'.store

namespace World

variable {new : StoreKind → TokenEntry → Prop} {w w' w'' : World}

theorem Evolves.refl (w : World) : w.Evolves new w :=
  ⟨rfl, fun _ => .refl⟩

theorem Evolves.trans (first : w.Evolves new w') (second : w'.Evolves new w'') :
    w.Evolves new w'' := by
  constructor
  · exact second.now.trans first.now
  · intro sound
    have before := first.moves sound
    have after := second.moves (sound.moves before)
    rw [Store.kind_of_moves before] at after
    exact before.trans after

theorem Evolves.mono {larger : StoreKind → TokenEntry → Prop} (h : w.Evolves new w')
    (included : ∀ kind e, new kind e → larger kind e) : w.Evolves larger w' := by
  refine ⟨h.now, fun sound => ?_⟩
  have steps : Store.Move (new w.store.kind) ≤ Store.Move (larger w.store.kind) :=
    fun _ _ step => step.mono (included _)
  exact ReflTransGen.mono steps _ _ (h.moves sound)

end World

/-- The call of the store that a failure comes from. -/
def Failure.call? : Failure → Option String
  | internal (.storeFailed call _) => some call
  | internal (.storeTimedOut call _) => some call
  | _ => none

/-- A failure of a call is internal. -/
theorem Failure.isInternal_of_call? {e : Failure} {name : String} (h : e.call? = some name) :
    e.isInternal = true := by
  cases e with
  | internal cause => rfl
  | _ => cases h

namespace Action

variable {α β : Type} {new : StoreKind → TokenEntry → Prop} {w w' w'' : World}

theorem run_eq_of_fst {x : Action α} {r : Except Failure α} (h : (x.run w).1 = r) :
    x.run w = (r, (x.run w).2) :=
  Prod.ext h rfl

theorem run_bind_eq_ok {x : Action α} {f : α → Action β} {b : β} :
    (x >>= f).run w = (.ok b, w'') ↔
      ∃ a w', x.run w = (.ok a, w') ∧ (f a).run w' = (.ok b, w'') := by
  rw [run_bind]
  cases first : x.run w with
  | mk result middle =>
      cases result with
      | ok a => simp
      | error e => simp

theorem run_map_eq_ok {x : Action α} {f : α → β} {b : β}
    (ran : (x >>= fun a => pure (f a)).run w = (.ok b, w')) :
    ∃ a, x.run w = (.ok a, w') ∧ f a = b := by
  rcases run_bind_eq_ok.mp ran with ⟨a, w'', first, last⟩
  cases last
  exact ⟨a, first, rfl⟩

/-- What a call leaves is what the store leaves after the interference, or the latter alone. -/
theorem store_call (limit : Nat) (c : StoreCall α) (w : World) :
    ((call limit c).run w).2.store =
        (w.interference w.calls c.site).writes.foldl StatusWrite.apply w.store ∨
      ((call limit c).run w).2.store = (Store.run
        ((w.interference w.calls c.site).writes.foldl StatusWrite.apply w.store) c).2 := by
  change (outcome _ c (w.interference w.calls c.site).fate).2 = _ ∨
    (outcome _ c (w.interference w.calls c.site).fate).2 = _
  cases (w.interference w.calls c.site).fate with
  | fails fault => exact .inl rfl
  | hangs => exact .inl rfl
  | proceeds =>
      right
      simp only [outcome]
      split
      · rename_i answer
        rw [answer]
      · rename_i answer
        rw [answer]

/-- A call moves the tokens as the store does. -/
theorem evolves_call (limit : Nat) {c : StoreCall α}
    (allowed : ∀ t, c.candidate? = some t → new w.store.kind (w.store.kind.tokenEntry t)) :
    w.Evolves new ((call limit c).run w).2 := by
  refine ⟨rfl, fun sound => ?_⟩
  have written := Store.sameTokens_writes (w.interference w.calls c.site).writes w.store
  have before : ReflTransGen (Store.Move (new w.store.kind)) w.store
      ((w.interference w.calls c.site).writes.foldl StatusWrite.apply w.store) :=
    .single written.move
  rcases store_call limit c w with storeEq | storeEq
  · rw [storeEq]
    exact before
  · rw [storeEq]
    apply before.tail
    apply (Store.move_run (written.sound sound) c).mono
    rintro e ⟨t, candidate, rfl⟩
    rw [written.kind]
    exact allowed t candidate

/-- A call that is not answered ends with a failure that names it. -/
theorem call?_of_call {limit : Nat} {c : StoreCall α} {e : Failure}
    (h : ((call limit c).run w).1 = .error e) : e.call? = some c.method.name := by
  change CallOutcome.bounded limit c.method.name _ = .error e at h
  generalize (outcome _ c _).1 = result at h
  cases result with
  | answered a => cases h
  | failed fault =>
      cases h
      rfl
  | neverEnds =>
      cases h
      rfl

/-- A call that succeeded was answered by a store with the same tokens. -/
theorem call_eq_ok {limit : Nat} {c : StoreCall α} {a : α}
    (h : (call limit c).run w = (.ok a, w')) :
    ∃ s, w.store.SameTokens s ∧ s.run c = (.ok a, w'.store) ∧ w'.now = w.now := by
  refine ⟨(w.interference w.calls c.site).writes.foldl StatusWrite.apply w.store,
    Store.sameTokens_writes _ _, ?_⟩
  simp only [run, call] at h
  cases fate : (w.interference w.calls c.site).fate with
  | fails fault =>
      rw [fate] at h
      cases h
  | hangs =>
      rw [fate] at h
      cases h
  | proceeds =>
      rw [fate] at h
      simp only [outcome] at h
      cases answer : Store.run ((w.interference w.calls c.site).writes.foldl StatusWrite.apply
          w.store) c with
      | mk result after =>
          rw [answer] at h
          cases result with
          | error fault => cases h
          | ok b =>
              cases h
              exact ⟨rfl, rfl⟩

/-- A call about devices that succeeded left the tokens. -/
theorem sameTokens_of_call_eq_ok {limit : Nat} {c : StoreCall α} {a : α}
    (aboutDevices : c.method.table = .devices) (h : (call limit c).run w = (.ok a, w')) :
    w.store.SameTokens w'.store := by
  rcases call_eq_ok h with ⟨s, same, answer, -⟩
  have after := Store.sameTokens_run s aboutDevices
  rw [answer] at after
  exact ⟨after.kind.trans same.kind, after.tokens.trans same.tokens⟩

end Action

namespace Authority

variable {a : Authority} {tenant : Tenant} {deviceId tokenId : String}

/-- A token is minted with the claims that it was asked for, under a signature that was made. -/
theorem minting {t : Token} {now : Instant}
    (minted : a.mint tokenId tenant deviceId now = .ok t) :
    a.Minting tokenId tenant deviceId now t := by
  cases made : (a.newClaims tokenId tenant deviceId now).encode a.keys.sign with
  | error fault =>
      simp only [mint, made] at minted
      cases minted
  | ok raw =>
      simp only [mint, made, Except.mapError, Bind.bind, Except.bind] at minted
      split at minted
      · rename_i inRange
        cases minted
        exact ⟨rfl, rfl, rfl, rfl, rfl, rfl, made, inRange⟩
      · cases minted

end Authority

end DeviceAdmission
