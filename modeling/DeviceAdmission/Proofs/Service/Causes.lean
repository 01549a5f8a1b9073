import DeviceAdmission.Proofs.Service.Conduct

/-!
# Causes of failures

A call of the store may fail with one fault or another, or never end. The service goes on in the
same way whichever it is: it makes the same calls, leaves the same store, and ends with the same
result but for the cause of an internal failure. And a call that failed is not passed over: the
operation ends with an internal failure, even where it takes a token back first.
-/

namespace DeviceAdmission

/-! ## Worlds that differ in the causes of failures -/

/-- Whether a call takes effect in one world exactly if it does in the other, after the same
statuses are set. -/
structure Interference.SameEffect (i j : Interference) : Prop where
  writes : i.writes = j.writes
  proceeds : i.fate = .proceeds ↔ j.fate = .proceeds

/-- Whether two worlds are the same but for the faults of calls that fail, and for whether such a
call fails or never ends. -/
structure World.FailsAlike (w w' : World) : Prop where
  store : w.store = w'.store
  now : w.now = w'.now
  wallSeconds : w.wallSeconds = w'.wallSeconds
  calls : w.calls = w'.calls
  interference : ∀ earlier site,
    (w.interference earlier site).SameEffect (w'.interference earlier site)

/-- Whether a call that was made after the given ones did not get to the store. -/
def World.FailedSince (past : List CallSite) (w : World) : Prop :=
  ∃ later site earlier, w.calls = later ++ site :: earlier ∧ past.length ≤ earlier.length ∧
    (w.interference earlier site).fate ≠ .proceeds

/-- Since the calls that were made so far none has failed. -/
theorem World.not_failedSince_calls (w : World) : ¬w.FailedSince w.calls := by
  rintro ⟨later, site, earlier, calls, length_le, -⟩
  have lengths := congrArg List.length calls
  rw [List.length_append, List.length_cons] at lengths
  omega

/-- Two results that differ at most in the cause of an internal failure. -/
inductive SameButCause {α : Type} : (r r' : Except Failure α) → Prop where
  | same (r : Except Failure α) : SameButCause r r
  | causes (c c' : InternalCause) :
      SameButCause (.error (.internal c)) (.error (.internal c'))

/-! ## Discreet actions -/

/-- An action that does not depend on the causes of failures, and that ends with an internal failure
if one of its calls fails. -/
structure Action.Discreet {α : Type} (x : Action α) : Prop where
  sameButCause : ∀ w w', w.FailsAlike w' →
    SameButCause (x.run w).1 (x.run w').1 ∧ (x.run w).2.FailsAlike (x.run w').2
  confesses : ∀ past w, ¬w.FailedSince past → (x.run w).2.FailedSince past →
    ∃ cause, (x.run w).1 = .error (.internal cause)

namespace Action

variable {α β : Type}

theorem discreet_pure (a : α) : (pure a : Action α).Discreet where
  sameButCause _ _ alike := ⟨.same _, alike⟩
  confesses _ _ none failed := absurd failed none

theorem discreet_fail (e : Failure) : (fail e : Action α).Discreet where
  sameButCause _ _ alike := ⟨.same _, alike⟩
  confesses _ _ none failed := absurd failed none

theorem discreet_ofExcept (r : Except Failure α) : (ofExcept r).Discreet where
  sameButCause _ _ alike := ⟨.same _, alike⟩
  confesses _ _ none failed := absurd failed none

theorem discreet_now : now.Discreet where
  sameButCause _ _ alike := by
    rw [run_now, run_now, alike.now]
    exact ⟨.same _, alike⟩
  confesses _ _ none failed := absurd failed none

theorem discreet_wallSeconds : wallSeconds.Discreet where
  sameButCause _ _ alike := by
    rw [run_wallSeconds, run_wallSeconds, alike.wallSeconds]
    exact ⟨.same _, alike⟩
  confesses _ _ none failed := absurd failed none

/-- A call that does not get to the store ends with an internal failure. -/
theorem exists_outcome_of_fate {fate : Fate} (limit : Nat) (name : String) (store : Store)
    (c : StoreCall α) (stopped : fate ≠ .proceeds) :
    ∃ cause, (outcome store c fate).1.bounded limit name = .error (.internal cause) ∧
      (outcome store c fate).2 = store := by
  cases fate with
  | proceeds => exact absurd rfl stopped
  | fails fault => exact ⟨_, rfl, rfl⟩
  | hangs => exact ⟨_, rfl, rfl⟩

theorem discreet_call (limit : Nat) (c : StoreCall α) : (call limit c).Discreet where
  sameButCause w w' alike := by
    have same := alike.interference w.calls c.site
    obtain ⟨store, now, wallSeconds, calls, interference⟩ := alike
    simp only [run, call, ← store, ← calls, ← same.writes]
    generalize (w.interference w.calls c.site).writes.foldl StatusWrite.apply w.store = met
    by_cases proceeds : (w.interference w.calls c.site).fate = .proceeds
    · rw [proceeds, same.proceeds.mp proceeds]
      exact ⟨.same _, rfl, now, wallSeconds, rfl, interference⟩
    · have proceeds' := fun proceeds' => proceeds (same.proceeds.mpr proceeds')
      obtain ⟨cause, failed, left⟩ := exists_outcome_of_fate limit c.method.name met c proceeds
      obtain ⟨cause', failed', left'⟩ := exists_outcome_of_fate limit c.method.name met c proceeds'
      rw [failed, failed', left, left']
      exact ⟨.causes cause cause', rfl, now, wallSeconds, rfl, interference⟩
  confesses past w none failed := by
    obtain ⟨later, site, earlier, calls, length_le, stopped⟩ := failed
    have calls : c.site :: w.calls = later ++ site :: earlier := calls
    cases later with
    | nil =>
        obtain ⟨rfl, rfl⟩ := List.cons.inj calls
        obtain ⟨cause, failed, -⟩ := exists_outcome_of_fate limit c.method.name
          ((w.interference w.calls c.site).writes.foldl StatusWrite.apply w.store) c stopped
        exact ⟨cause, failed⟩
    | cons latest later =>
        exact absurd ⟨later, site, earlier, (List.cons.inj calls).2, length_le, stopped⟩ none

/-- Two sequences that begin with a discreet action differ in causes only if what follows does. -/
theorem Discreet.sameButCause_bind {x : Action α} {f f' : α → Action β} {w w' : World}
    (first : x.Discreet) (alike : w.FailsAlike w')
    (second : ∀ a (v v' : World), v.FailsAlike v' →
      SameButCause ((f a).run v).1 ((f' a).run v').1 ∧
        ((f a).run v).2.FailsAlike ((f' a).run v').2) :
    SameButCause ((x >>= f).run w).1 ((x >>= f').run w').1 ∧
      ((x >>= f).run w).2.FailsAlike ((x >>= f').run w').2 := by
  obtain ⟨same, after⟩ := first.sameButCause w w' alike
  cases ran : x.run w with
  | mk r w₁ =>
      cases ran' : x.run w' with
      | mk r' w₁' =>
          rw [ran, ran'] at same after
          cases same with
          | same r =>
              cases r with
              | ok a =>
                  rw [run_bind_ok ran, run_bind_ok ran']
                  exact second a w₁ w₁' after
              | error e =>
                  rw [run_bind_error ran, run_bind_error ran']
                  exact ⟨.same _, after⟩
          | causes c c' =>
              rw [run_bind_error ran, run_bind_error ran']
              exact ⟨.causes c c', after⟩

/-- A sequence is discreet if its parts are. -/
theorem Discreet.bind {x : Action α} {f : α → Action β} (first : x.Discreet)
    (second : ∀ a, (f a).Discreet) : (x >>= f).Discreet where
  sameButCause _ _ alike := first.sameButCause_bind alike fun a => (second a).sameButCause
  confesses past w none failed := by
    have early := first.confesses past w none
    cases ran : x.run w with
    | mk r w₁ =>
        rw [ran] at early
        cases r with
        | error e =>
            rw [run_bind_error ran] at failed ⊢
            obtain ⟨cause, same⟩ := early failed
            cases same
            exact ⟨cause, rfl⟩
        | ok a =>
            rw [run_bind_ok ran] at failed ⊢
            refine (second a).confesses past w₁ (fun failedEarly => ?_) failed
            obtain ⟨cause, same⟩ := early failedEarly
            cases same

/-- An internal failure that goes on after a call is internal, whether or not the call fails. -/
theorem exists_run_call_bind_fail (limit : Nat) (c : StoreCall α) (cause : InternalCause)
    (w : World) : ∃ cause',
      ((call limit c >>= fun _ => (fail (.internal cause) : Action β)).run w).1 =
        .error (.internal cause') := by
  cases ran : (call limit c).run w with
  | mk r w₁ =>
      cases r with
      | ok a =>
          rw [run_bind_ok ran]
          exact ⟨cause, rfl⟩
      | error e =>
          rw [run_bind_error ran]
          have named := call?_of_call (congrArg Prod.fst ran)
          cases e with
          | internal cause' => exact ⟨cause', rfl⟩
          | _ => cases named

/-- An action is discreet after whose failure a call is made before the failure goes on. -/
theorem Discreet.attempt {γ : Type} {x : Action α} {limit : Nat} {c : StoreCall γ}
    {f : Except Failure α → Action β} (first : x.Discreet) (done : ∀ a, (f (.ok a)).Discreet)
    (undone : ∀ e, f (.error e) = call limit c >>= fun _ => fail e) :
    (attempt x >>= f).Discreet where
  sameButCause w w' alike := by
    obtain ⟨same, after⟩ := first.sameButCause w w' alike
    rw [run_bind_ok (run_attempt x w), run_bind_ok (run_attempt x w')]
    generalize (x.run w).1 = r at same ⊢
    generalize (x.run w').1 = r' at same ⊢
    cases same with
    | same r =>
        cases r with
        | ok a => exact (done a).sameButCause _ _ after
        | error e =>
            rw [undone e]
            exact ((discreet_call limit c).bind fun _ => discreet_fail e).sameButCause _ _ after
    | causes cause cause' =>
        rw [undone, undone]
        exact (discreet_call limit c).sameButCause_bind after fun _ _ _ alike =>
          ⟨.causes cause cause', alike⟩
  confesses past w none failed := by
    have early := first.confesses past w none
    rw [run_bind_ok (run_attempt x w)] at failed ⊢
    by_cases failedEarly : (x.run w).2.FailedSince past
    · obtain ⟨cause, ended⟩ := early failedEarly
      rw [ended, undone]
      exact exists_run_call_bind_fail limit c cause _
    · generalize (x.run w).1 = r at failed ⊢
      cases r with
      | ok a => exact (done a).confesses past _ failedEarly failed
      | error e =>
          rw [undone e] at failed ⊢
          exact ((discreet_call limit c).bind fun _ => discreet_fail e).confesses past _
            failedEarly failed

end Action

open DeviceAdmission.Action

/-! ## The authority -/

namespace Authority

variable (a : Authority) (tenant : Tenant) (deviceId tokenId raw : String)

theorem discreet_ensureAccepted : (a.ensureAccepted tenant deviceId).Discreet := by
  refine .bind (discreet_call _ _) fun found => ?_
  cases found with
  | none => exact discreet_fail .notEntitled
  | some device =>
      dsimp only
      split
      · exact discreet_pure ()
      · exact discreet_fail .notEntitled

theorem discreet_issue : (a.issue tokenId tenant deviceId).Discreet := by
  refine .bind (discreet_ensureAccepted a tenant deviceId) fun _ => ?_
  refine .bind discreet_now fun now => .bind (discreet_ofExcept _) fun candidate => ?_
  refine .bind (discreet_call _ _) fun token => ?_
  refine .attempt (discreet_ensureAccepted a tenant deviceId) (fun _ => ?_) (fun e => rfl)
  exact discreet_pure token

theorem discreet_verify : (a.verify raw).Discreet := by
  unfold verify
  split
  · exact discreet_fail .tokenInvalid
  · refine .bind discreet_now fun now => ?_
    split
    · exact discreet_fail .tokenExpired
    · refine .bind (discreet_call _ _) fun found => ?_
      cases found with
      | none => exact discreet_fail .tokenInvalid
      | some token =>
          dsimp only
          split
          · exact discreet_fail .tokenInvalid
          · refine .bind (discreet_call _ _) fun device? => ?_
            cases device? with
            | none => exact discreet_fail .tokenInvalid
            | some device =>
                dsimp only
                split
                · exact discreet_pure _
                · exact discreet_fail .tokenInvalid

theorem discreet_revoke : (a.revoke tenant tokenId).Discreet := by
  refine .bind (discreet_call _ _) fun found => ?_
  cases found with
  | false => exact discreet_fail .tokenNotFound
  | true => exact discreet_pure ()

theorem discreet_onStatusChanged (status : DeviceStatus) :
    (a.onStatusChanged tenant deviceId status).Discreet := by
  unfold onStatusChanged
  split
  · exact discreet_call _ _
  · exact discreet_pure 0

end Authority

/-! ## The admission -/

namespace Admission

variable (s : Admission) (tenant : Tenant) (deviceId : String) (ids : FreshIds)

theorem discreet_lookUpDevice (newId : String) (request : AuthRequest) :
    (s.lookUpDevice newId tenant request).Discreet := by
  refine .bind discreet_now fun now => .bind (discreet_call _ _) fun found => ?_
  obtain ⟨device, created⟩ := found
  dsimp only
  split
  · exact discreet_pure device
  · split
    · exact discreet_fail .notEntitled
    · refine .bind (discreet_call _ _) fun rotated => ?_
      cases rotated with
      | false => exact discreet_fail .notEntitled
      | true => exact discreet_pure device

theorem discreet_submit (body : Bytes) (signature : Option String) :
    (s.submit ids body signature).Discreet := by
  refine .bind ?_ fun token => discreet_pure token.raw
  refine .bind discreet_wallSeconds fun wall => .bind (discreet_ofExcept _) fun checked => ?_
  refine .bind (discreet_lookUpDevice s _ _ _) fun device => ?_
  exact s.authority.discreet_issue _ _ _

theorem discreet_setStatus (status : DeviceStatus) :
    (s.setStatus tenant deviceId status).Discreet := by
  refine .bind discreet_now fun now => .bind (discreet_call _ _) fun known => ?_
  cases known with
  | false => exact discreet_fail .deviceNotFound
  | true =>
      exact .bind (s.authority.discreet_onStatusChanged tenant deviceId status) fun _ =>
        discreet_pure ()

theorem discreet_getDevice : (s.getDevice tenant deviceId).Discreet := by
  refine .bind (discreet_call _ _) fun found => ?_
  cases found with
  | none => exact discreet_fail .deviceNotFound
  | some device => exact discreet_pure device

theorem discreet_listDevices (request : PageRequest) : (s.listDevices tenant request).Discreet :=
  .bind (discreet_call _ _) fun _ => discreet_pure _

theorem discreet_verify (raw : String) : (s.verify raw).Discreet :=
  s.authority.discreet_verify (Text.trim raw)

theorem discreet_revokeToken (tokenId : String) : (s.revokeToken tenant tokenId).Discreet :=
  s.authority.discreet_revoke tenant tokenId

end Admission

end DeviceAdmission
