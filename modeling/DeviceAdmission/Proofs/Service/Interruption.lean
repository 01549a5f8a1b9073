import DeviceAdmission.Proofs.Service.Acceptance
import DeviceAdmission.Proofs.Service.Conduct
import DeviceAdmission.Proofs.Service.Races

/-!
# Changes of status that fail midway

A change of status writes the status first and revokes the tokens of the device afterwards, in a
second call that may fail. The records of the tokens then keep their force, and only the status
keeps them from being verified. It does so until the device is accepted again, whatever else is
asked for and whichever calls fail; from then on the old tokens are verified as before. A later
change of status that is acknowledged takes them away for good.
-/

namespace DeviceAdmission

open TokenEntry

/-- Whether nobody sets the device with the tenant and id to accepted between calls. -/
def Withheld (tenant : Tenant) (deviceId : String)
    (interference : (earlier : List CallSite) → CallSite → Interference) : Prop :=
  ∀ earlier site, ∀ w ∈ (interference earlier site).writes,
    w.tenant = tenant → w.deviceId = deviceId → w.status ≠ .accepted

/-- Whether a step does not accept the device with the tenant and id, nor anybody meanwhile. -/
structure Step.Withholds (st : Step) (tenant : Tenant) (deviceId : String) : Prop where
  operation : st.operation ≠ .setStatus tenant deviceId .accepted
  interference : Withheld tenant deviceId st.interference

namespace Store

variable {s : Store} {tenant : Tenant} {deviceId : String}

theorem Barred.not_entitles (barred : s.Barred tenant deviceId) : ¬s.Entitles tenant deviceId := by
  rintro ⟨d, answer, accepted⟩
  rw [run_getDevice] at answer
  rcases readFound_eq_ok (Prod.mk.inj answer).1 with ⟨e, found, read⟩
  rw [DeviceEntry.entry_of_read read] at found
  have isAccepted : d.entry.isAccepted tenant deviceId = true :=
    isAccepted_iff.mpr ⟨DeviceEntry.isDevice_iff.mp (List.find?_some found), by
      rw [Device.entry, accepted]⟩
  rw [barred _ (List.mem_of_find?_eq_some found)] at isAccepted
  cases isAccepted

/-- The statuses that others set leave a device unaccepted, if none of them accepts it. -/
theorem Barred.writes {writes : List StatusWrite} (barred : s.Barred tenant deviceId)
    (none : ∀ w ∈ writes, w.tenant = tenant → w.deviceId = deviceId → w.status ≠ .accepted) :
    (writes.foldl StatusWrite.apply s).Barred tenant deviceId := by
  induction writes generalizing s with
  | nil => exact barred
  | cons w rest ih =>
      apply ih _ fun v member => none v (List.mem_cons_of_mem w member)
      apply barred.run
      · rintro d ⟨⟩
      · intro tenantEq statusEq
        rcases Prod.mk.inj (Option.some.inj statusEq) with ⟨deviceEq, accepted⟩
        exact none w List.mem_cons_self tenantEq deviceEq accepted

end Store

namespace Action

variable {α : Type} {w w' : World} {tenant : Tenant} {deviceId : String}

/-- A call leaves a device unaccepted if it does not accept it, nor anybody before it. -/
theorem barred_call {limit : Nat} {c : StoreCall α} (barred : w.store.Barred tenant deviceId)
    (withheld : Withheld tenant deviceId w.interference)
    (device : ∀ d, c.newDevice? = some d → d.status ≠ .accepted)
    (status : c.tenant = tenant → c.newStatus? ≠ some (deviceId, .accepted)) :
    ((call limit c).run w).2.store.Barred tenant deviceId := by
  have before := barred.writes (withheld w.calls c.site)
  rcases store_call limit c w with storeEq | storeEq
  · rw [storeEq]
    exact before
  · rw [storeEq]
    exact before.run device status

/-- An action leaves a device unaccepted if what it is about does not say otherwise. -/
theorem Makes.barred {a : Authority} {x : Action α} {scopes : Scope → Prop}
    (makes : x.Makes (fun _ c => ∃ scope, scopes scope ∧ scope.Covers a w.now c) w.now
      w.wallSeconds)
    (spared : ∀ scope, scopes scope →
      ¬(scope.tenant = tenant ∧ scope.status? = some (deviceId, .accepted)))
    (withheld : Withheld tenant deviceId w.interference)
    (barred : w.store.Barred tenant deviceId) :
    (x.run w).2.store.Barred tenant deviceId := by
  have kept := makes.invariant (w := w)
    (I := fun v => (v.now = w.now ∧ v.wallSeconds = w.wallSeconds) ∧
      v.interference = w.interference ∧ v.store.Barred tenant deviceId)
    (fun v holds => holds.1) ?_ ⟨⟨rfl, rfl⟩, rfl, barred⟩
  · exact kept.2.2
  · rintro limit γ c ⟨scope, isScope, covered⟩ v ⟨clocks, sameInterference, barred⟩
    refine ⟨clocks, sameInterference, ?_⟩
    apply barred_call barred (sameInterference ▸ withheld)
    · intro d candidate
      rw [(covered.device d candidate).2]
      decide
    · intro tenantEq statusEq
      exact spared scope isScope ⟨covered.tenant.symm.trans tenantEq, covered.status _ statusEq⟩

end Action

/-- The status that an operation sets is what the operation is about. -/
theorem Operation.eq_of_status? {s : Admission} {wall : Int} {operation : Operation} {scope : Scope}
    {deviceId : String} {status : DeviceStatus} (known : operation.scope? s wall = some scope)
    (named : scope.status? = some (deviceId, status)) :
    operation = .setStatus scope.tenant deviceId status := by
  cases operation with
  | submit ids body signature =>
      rw [scope?, Admission.scope?, Option.map_eq_some_iff] at known
      rcases known with ⟨checked, -, rfl⟩
      cases named
  | verify raw =>
      have known : s.authority.scope? (Text.trim raw) = some scope := known
      rcases Authority.exists_reading_of_scope? known with ⟨tenant, rfl⟩
      cases named
  | issue tokenId tenant deviceId =>
      cases known
      cases named
  | setStatus tenant deviceId status =>
      cases known
      cases named
      rfl
  | revokeToken tenant tokenId =>
      cases known
      cases named
  | getDevice tenant deviceId =>
      cases known
      cases named
  | listDevices tenant request =>
      cases known
      cases named

/-- A change to another status than accepted whose revocation failed has set the status. -/
theorem Admission.barred_of_setStatus {s : Admission} {w w' : World} {tenant : Tenant}
    {deviceId : String} {status : DeviceStatus} {e : Failure} (loses : status ≠ .accepted)
    (withheld : Withheld tenant deviceId w.interference)
    (ran : (s.setStatus tenant deviceId status).run w = (.error e, w'))
    (failed : e.call? = some StoreMethod.revokeDeviceTokens.name) :
    w'.store.Barred tenant deviceId := by
  unfold setStatus at ran
  rw [Action.run_bind_ok (Action.run_now w)] at ran
  cases called : (s.call (.updateStatus tenant deviceId status w.now)).run w with
  | mk result w₁ =>
      cases result with
      | error fault =>
          rw [Action.run_bind_error called] at ran
          cases ran
          have named := Action.call?_of_call (congrArg Prod.fst called)
          have other : StoreMethod.updateStatus.name ≠ StoreMethod.revokeDeviceTokens.name := by
            decide
          exact absurd (Option.some.inj (named.symm.trans failed)) other
      | ok known =>
          rw [Action.run_bind_ok called] at ran
          cases known with
          | false =>
              cases ran
              cases failed
          | true =>
              have revokes : status.revokesTokens = true := decide_eq_true loses
              have sameInterference : w₁.interference = w.interference :=
                congrArg (fun r => r.2.interference) called.symm
              rcases Action.call_eq_ok called with ⟨store, -, answer, -⟩
              have barred := Store.barred_updateStatus store tenant deviceId w.now loses
              rw [answer] at barred
              simp only [if_true, Authority.onStatusChanged, revokes] at ran
              cases revoked : (s.authority.call (.revokeDeviceTokens tenant deviceId)).run w₁ with
              | mk result w₂ =>
                  have after : w₂.store.Barred tenant deviceId := by
                    have left : ((s.authority.call (.revokeDeviceTokens tenant deviceId)).run
                        w₁).2.store.Barred tenant deviceId :=
                      Action.barred_call barred (sameInterference ▸ withheld) (by rintro d ⟨⟩)
                        (by rintro _ ⟨⟩)
                    exact congrArg (fun r => r.2.store) revoked ▸ left
                  cases result with
                  | ok count =>
                      rw [Action.run_bind_ok revoked] at ran
                      cases ran
                  | error fault =>
                      rw [Action.run_bind_error revoked] at ran
                      cases ran
                      exact after

namespace Run

variable {s : Admission} {kind : StoreKind} {r : Run} {t : Token} {ev : Event} {failure : Failure}
variable {earlier later : List Event} {tenant : Tenant} {deviceId : String} {status : DeviceStatus}

/-- A step that does not accept a device that is not accepted leaves it so. -/
theorem barred_next {st : Step} (barred : r.store.Barred tenant deviceId)
    (withholds : st.Withholds tenant deviceId) : (r.next s st).store.Barred tenant deviceId := by
  apply (s.makes_perform st.operation st.now st.wallSeconds).barred (w := st.world r.store) ?_
    withholds.interference barred
  rintro scope known ⟨rfl, accepts⟩
  exact withholds.operation (Operation.eq_of_status? known accepts)

/-- After a change of status whose revocation failed the device is not accepted until somebody
accepts it. -/
theorem Reached.barred_after (reached : r.Reached s kind) (past : r.past = later ++ ev :: earlier)
    (loses : status ≠ .accepted)
    (operation : ev.step.operation = .setStatus tenant deviceId status)
    (interrupted : ev.reply = .error failure)
    (failed : failure.call? = some StoreMethod.revokeDeviceTokens.name)
    (withheld : Withheld tenant deviceId ev.step.interference)
    (withholds : ∀ e ∈ later, e.step.Withholds tenant deviceId) :
    r.store.Barred tenant deviceId := by
  induction reached generalizing later with
  | start => cases later <;> cases past
  | @step r before st ih =>
      cases later with
      | nil =>
          rcases List.cons.inj past with ⟨rfl, -⟩
          have ran := Action.run_eq_of_fst interrupted
          simp only [next]
          generalize ((s.perform st.operation).run (st.world r.store)).2 = w' at ran ⊢
          simp only at operation
          simp only [operation, Admission.perform] at ran
          cases changed : (s.setStatus tenant deviceId status).run (st.world r.store) with
          | mk result w₁ =>
              cases result with
              | ok _ =>
                  rw [Action.run_bind_ok changed] at ran
                  cases ran
              | error e =>
                  rw [Action.run_bind_error changed] at ran
                  cases ran
                  exact Admission.barred_of_setStatus loses withheld changed failed
      | cons latest later =>
          rcases List.cons.inj past with ⟨rfl, pastEq⟩
          have barred := ih pastEq fun e member => withholds e (List.mem_cons_of_mem _ member)
          exact barred_next barred (withholds _ List.mem_cons_self)
  | rearranged before order ih =>
      have barred := ih past withholds
      intro e member
      rw [order.sameDevices.devices] at member
      exact barred e member

/-! ## Main statement -/

/-- What holds of the tokens that a device had before it was set to another status than accepted by
a change whose revocation failed: they are not verified until somebody accepts the device again,
whatever is asked for in between and whichever calls fail; and once a later change to another status
than accepted is acknowledged, they are never verified again. -/
theorem Reached.not_verified_after_interruption (reached : r.Reached s kind)
    (fresh : (tokenIds r.past).Nodup) (past : r.past = later ++ ev :: earlier)
    (loses : status ≠ .accepted)
    (operation : ev.step.operation = .setStatus tenant deviceId status)
    (interrupted : ev.reply = .error failure)
    (failed : failure.call? = some StoreMethod.revokeDeviceTokens.name)
    (withheld : Withheld tenant deviceId ev.step.interference) :
    ∀ before ∈ earlier, ∀ t, before.HandsOut t → t.tenant = tenant → t.deviceId = deviceId →
      ((∀ e ∈ later, e.step.Withholds tenant deviceId) →
        ∀ w : World, w.store = r.store → Withheld tenant deviceId w.interference →
          ∀ v, ((s.authority.verify t.raw).run w).1 ≠ .ok v) ∧
      ∀ after ack between, later = after ++ ack :: between → ack.reply = .ok .done →
        ∀ other, other ≠ .accepted → ack.step.operation = .setStatus tenant deviceId other →
          ∀ v, ¬r.Accepts s t.raw v := by
  intro before member t handed tenantEq deviceEq
  have inPast : before ∈ r.past := by
    rw [past]
    exact List.mem_append_right _ (List.mem_cons_of_mem ev member)
  constructor
  · intro withholds w current unhelped v verified
    obtain ⟨-, vTenant, vDevice, -⟩ :=
      (reached.kept fresh).of_accepts inPast handed ⟨w, current, verified⟩
    have barred := reached.barred_after past loses operation interrupted failed withheld withholds
    rw [← current] at barred
    -- The verification itself does not accept the device, so its last look finds it unaccepted.
    have after := (s.authority.makes_verify t.raw w.now w.wallSeconds).barred ?_ unhelped barred
    · have entitled := Authority.entitles_of_verify (Action.run_eq_of_fst verified)
      rw [vTenant, vDevice, tenantEq, deviceEq] at entitled
      exact after.not_entitles entitled
    · rintro scope known ⟨-, accepts⟩
      rcases Authority.exists_reading_of_scope? known with ⟨tenant, rfl⟩
      cases accepts
  · rintro after ack between rfl acknowledged other losesToo operationToo v
    rw [List.append_assoc, List.cons_append] at past
    exact reached.not_accepts_of_setStatus fresh past acknowledged losesToo operationToo
      (List.mem_append_right _ (List.mem_cons_of_mem ev member)) handed tenantEq deviceEq

end Run

/-- Whether nobody sets a status between the calls of a step. -/
def Step.IsAlone (st : Step) : Prop :=
  ∀ earlier site, (st.interference earlier site).writes = []

theorem Run.isAlone_next {s : Admission} {r : Run} {st : Step}
    (before : ∀ e ∈ r.past, e.step.IsAlone) (alone : st.IsAlone) :
    ∀ e ∈ (r.next s st).past, e.step.IsAlone :=
  List.forall_mem_cons.mpr ⟨alone, before⟩

namespace Sample

/-- The failure of a revocation that finds the store locked. -/
def locked : Failure :=
  .internal (.storeFailed StoreMethod.revokeDeviceTokens.name (.medium "database is locked"))

/-- A rejection of the device of the sample whose revocation fails. -/
def failingRejection : Step :=
  { step (.setStatus .default "d" .rejected) 105 (by decide) with
    interference := fun _ site =>
      ⟨[], if site.method = .revokeDeviceTokens then .fails (.medium "database is locked")
        else .proceeds⟩ }

/-- The device is rejected, but its token is not revoked. -/
def interrupted (kind : StoreKind) : Run :=
  (issued kind).next admission failingRejection

/-- The device is accepted again. -/
def readmitted (kind : StoreKind) : Run :=
  (interrupted kind).next admission (step (.setStatus .default "d" .accepted) 106 (by decide))

theorem reply_failingRejection : ((admission.perform failingRejection.operation).run
    (failingRejection.world (issued .memory).store)).1 = .error locked := by
  decide +kernel

theorem isAlone_readmitted (kind : StoreKind) :
    ∀ e ∈ (readmitted kind).past, e.step.IsAlone := by
  have start : ∀ e ∈ (⟨.empty kind, []⟩ : Run).past, e.step.IsAlone := by
    rintro e ⟨⟩
  have alone : ∀ operation second inRange, (step operation second inRange).IsAlone :=
    fun _ _ _ _ _ => rfl
  have registered : ∀ e ∈ (registered kind).past, e.step.IsAlone :=
    Run.isAlone_next (Run.isAlone_next start (alone _ _ _)) (alone _ _ _)
  have issued : ∀ e ∈ (issued kind).past, e.step.IsAlone :=
    Run.isAlone_next (Run.isAlone_next registered (alone _ _ _)) (alone _ _ _)
  have interrupted : ∀ e ∈ (interrupted kind).past, e.step.IsAlone :=
    Run.isAlone_next issued fun _ _ => rfl
  exact Run.isAlone_next interrupted (alone _ _ _)

/-- The token of the sample is not verified while the rejection stands. -/
theorem not_verified_interrupted : ((admission.authority.verify token.raw).run
    (World.quiet (interrupted .memory).store (.ofSeconds 105) 105)).1 ≠ .ok verified := by
  have withheld : Withheld .default "d" failingRejection.interference := by
    rintro earlier site w ⟨⟩
  have reached : (interrupted .memory).Reached admission .memory := (reached_issued .memory).step _
  obtain ⟨kept, -⟩ := reached.not_verified_after_interruption (by decide +kernel)
    (rfl : _ = [] ++ _ :: _) (by decide) rfl reply_failingRejection rfl withheld _
    List.mem_cons_self token (by decide +kernel) rfl rfl
  have unhelped : Withheld .default "d"
      (World.quiet (interrupted .memory).store (.ofSeconds 105) 105).interference := by
    rintro earlier site w ⟨⟩
  have none : ∀ e ∈ ([] : List Event), e.step.Withholds .default "d" := by
    rintro e ⟨⟩
  exact kept none (World.quiet (interrupted .memory).store (.ofSeconds 105) 105) rfl unhelped
    verified

/-- A change of status that fails midway does not bar the old tokens for good: once the device is
accepted again, its token is accepted again. -/
theorem readmitted_accepts : ¬∀ (s : Admission) (kind : StoreKind) (r : Run)
    (later earlier : List Event) (ev : Event) (tenant : Tenant) (deviceId : String)
    (status : DeviceStatus) (failure : Failure) (before : Event) (t : Token) (v : VerifiedToken),
    r.Reached s kind → (tokenIds r.past).Nodup → (deviceIds r.past).Nodup →
      (∀ e ∈ r.past, e.step.IsAlone) → r.past = later ++ ev :: earlier → status ≠ .accepted →
        ev.step.operation = .setStatus tenant deviceId status → ev.reply = .error failure →
          failure.call? = some StoreMethod.revokeDeviceTokens.name → before ∈ earlier →
            before.HandsOut t → t.tenant = tenant → t.deviceId = deviceId →
              ¬r.Accepts s t.raw v := by
  intro claim
  apply claim admission .memory (readmitted .memory) [_] _ _ .default "d" .rejected locked _ token
    verified (((reached_issued .memory).step _).step _) (by decide +kernel) (by decide +kernel)
    (isAlone_readmitted .memory) rfl (by decide) rfl reply_failingRejection rfl List.mem_cons_self
    (by decide +kernel) rfl rfl
  exact ⟨World.quiet (readmitted .memory).store (.ofSeconds 110) 110, rfl, by decide +kernel⟩

end Sample

end DeviceAdmission
