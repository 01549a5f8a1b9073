import DeviceAdmission.Proofs.Service.Retry

/-!
# What a change of status does

Where nobody interferes, an operator's change of status is told apart by one thing, whether the
tenant has the device. If it has, the status and the time of the change are written to the device,
and a status other than accepted revokes the tokens of the device in its tenant; no other record is
touched. The change is the same when it is repeated, and of several changes the last one decides
what the device is, while a token that any of them revoked stays revoked.
-/

namespace DeviceAdmission

/-! ## One change -/

namespace Store

variable {store : Store} {tenant : Tenant} {id : String}

/-- What a change of status of a device writes. -/
theorem showing_of_known (known : store.devices.any (DeviceEntry.isDevice tenant id) = true)
    (status : DeviceStatus) (now : Instant) :
    store.showing tenant id status now =
      if status = .accepted then store.withDeviceStatus tenant id status now
      else (store.withDeviceStatus tenant id status now).withTokensRevoked tenant id := by
  rw [showing, known, updateStatus_eq, revokeDeviceTokens_eq]
  cases status <;> rfl

/-- Where there is no such device, nothing is written. -/
theorem showing_of_absent (absent : store.devices.any (DeviceEntry.isDevice tenant id) = false)
    (status : DeviceStatus) (now : Instant) : store.showing tenant id status now = store := by
  rw [showing, absent, updateStatus_eq]
  exact withDeviceStatus_of_absent status now absent

end Store

namespace Admission

variable {s : Admission} {store : Store} {tenant : Tenant} {id : String} {status : DeviceStatus}
variable {now : Instant} {wall : Int}

theorem undisturbed_setStatus :
    s.undisturbed (.setStatus tenant id status) store now wall =
      (if store.devices.any (DeviceEntry.isDevice tenant id) then .ok .done
        else .error .deviceNotFound, store.showing tenant id status now) := by
  have ends : (s.perform (.setStatus tenant id status)).Ends now wall store _ _ :=
    (ends_setStatus s store tenant id status now wall).map fun _ => Reply.done
  rw [undisturbed_eq ends]
  split <;> rfl

/-! ## Several changes -/

/-- A change of the status of a given device, with the readings of the clocks. -/
structure StatusCall where
  status : DeviceStatus
  now : Instant
  wall : Int
  deriving DecidableEq, Repr

/-- What changes of the status of one device leave, the first change first. -/
def afterStatuses (s : Admission) (tenant : Tenant) (id : String) (calls : List StatusCall)
    (store : Store) : Store :=
  calls.foldl (fun store c => (s.undisturbed (.setStatus tenant id c.status) store c.now c.wall).2)
    store

theorem afterStatuses_cons (c : StatusCall) (calls : List StatusCall) :
    s.afterStatuses tenant id (c :: calls) store =
      s.afterStatuses tenant id calls (store.showing tenant id c.status c.now) := by
  rw [afterStatuses, List.foldl_cons, undisturbed_setStatus]
  rfl

theorem any_isDevice_afterStatuses (calls : List StatusCall) :
    (s.afterStatuses tenant id calls store).devices.any (DeviceEntry.isDevice tenant id) =
      store.devices.any (DeviceEntry.isDevice tenant id) := by
  induction calls generalizing store with
  | nil => rfl
  | cons c calls ih => rw [afterStatuses_cons, ih, Store.any_isDevice_showing]

theorem afterStatuses_of_absent
    (absent : store.devices.any (DeviceEntry.isDevice tenant id) = false)
    (calls : List StatusCall) : s.afterStatuses tenant id calls store = store := by
  induction calls with
  | nil => rfl
  | cons c calls ih => rw [afterStatuses_cons, Store.showing_of_absent absent, ih]

/-- What is left of earlier changes, once a status is written over theirs, is what they revoked. -/
theorem withDeviceStatus_afterStatuses
    (known : store.devices.any (DeviceEntry.isDevice tenant id) = true)
    (calls : List StatusCall) :
    (s.afterStatuses tenant id calls store).withDeviceStatus tenant id status now =
      if ∃ c ∈ calls, c.status ≠ .accepted then
        (store.withDeviceStatus tenant id status now).withTokensRevoked tenant id
      else store.withDeviceStatus tenant id status now := by
  induction calls generalizing store with
  | nil => simp [afterStatuses]
  | cons c calls ih =>
      have knownNext := (Store.any_isDevice_showing store tenant id c.status c.now).trans known
      rw [afterStatuses_cons, ih knownNext, Store.showing_of_known known]
      by_cases accepted : c.status = .accepted
      · simp only [accepted, if_true, Store.withDeviceStatus_withDeviceStatus,
          List.exists_mem_cons_iff, ne_eq, not_true_eq_false, false_or]
      · have some : ∃ b ∈ c :: calls, b.status ≠ .accepted := ⟨c, List.mem_cons_self, accepted⟩
        rw [if_neg accepted, if_pos some, Store.withDeviceStatus_withTokensRevoked,
          Store.withDeviceStatus_withDeviceStatus, Store.withTokensRevoked_withTokensRevoked,
          ite_self]

/-- A change of status after others answers as it would without them, and leaves what it would
leave, with the tokens revoked that the others revoked. -/
theorem undisturbed_afterStatuses (earlier : List StatusCall) :
    s.undisturbed (.setStatus tenant id status) (s.afterStatuses tenant id earlier store) now wall =
      let alone := s.undisturbed (.setStatus tenant id status) store now wall
      (alone.1,
        if store.devices.any (DeviceEntry.isDevice tenant id) ∧
            ∃ c ∈ earlier, c.status ≠ .accepted then
          alone.2.withTokensRevoked tenant id
        else alone.2) := by
  cases known : store.devices.any (DeviceEntry.isDevice tenant id) with
  | false => simp [afterStatuses_of_absent known, undisturbed_setStatus]
  | true =>
      have knownAfter := (any_isDevice_afterStatuses (s := s) earlier).trans known
      simp only [undisturbed_setStatus, knownAfter, known, if_true, true_and,
        Store.showing_of_known knownAfter, Store.showing_of_known known,
        withDeviceStatus_afterStatuses known]
      congr 1
      split
      · rfl
      · split
        · rw [Store.withTokensRevoked_withTokensRevoked]
        · rfl

/-! ## Main statement -/

/-- The exact effect of a change of status, over any store and at any time: it is refused, and
changes nothing, just where the tenant has no such device; otherwise it changes the status of the
device and when it was set, and, unless the status is accepted, marks all tokens of the device in
that tenant revoked, and no more than this. Repeated at the same time it changes nothing more. After
any changes of the status of the device, the last one has left of the device what it leaves
alone, and of the tokens what it leaves alone but for those that were revoked before. -/
theorem setStatus_exact (s : Admission) (store : Store) (tenant : Tenant) (id : String)
    (status : DeviceStatus) (now : Instant) (wall : Int) :
    let changed := fun store wall => s.undisturbed (.setStatus tenant id status) store now wall
    (changed store wall =
        if store.devices.any (DeviceEntry.isDevice tenant id) then
          (.ok .done,
            if status = .accepted then store.withDeviceStatus tenant id status now
            else (store.withDeviceStatus tenant id status now).withTokensRevoked tenant id)
        else (.error .deviceNotFound, store)) ∧
      (∀ later, changed (changed store wall).2 later = changed store wall) ∧
      ∀ earlier : List StatusCall,
        let last := changed (s.afterStatuses tenant id earlier store) wall
        last.1 = (changed store wall).1 ∧
          last.2.devices = (changed store wall).2.devices ∧
          last.2 =
            if store.devices.any (DeviceEntry.isDevice tenant id) ∧
                ∃ c ∈ earlier, c.status ≠ .accepted then
              (changed store wall).2.withTokensRevoked tenant id
            else (changed store wall).2 := by
  dsimp only
  refine ⟨?_, ?_, ?_⟩
  · rw [undisturbed_setStatus]
    cases known : store.devices.any (DeviceEntry.isDevice tenant id) with
    | false => rw [Store.showing_of_absent known]; rfl
    | true => rw [Store.showing_of_known known]; rfl
  · intro later
    rw [undisturbed_setStatus, undisturbed_setStatus, Store.any_isDevice_showing,
      Store.showing_showing]
  · intro earlier
    rw [undisturbed_afterStatuses]
    refine ⟨rfl, ?_, rfl⟩
    dsimp only
    split
    · rw [Store.devices_withTokensRevoked]
    · rfl

end Admission

end DeviceAdmission
