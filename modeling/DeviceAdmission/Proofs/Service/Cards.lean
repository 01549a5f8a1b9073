import DeviceAdmission.Proofs.Service.Conduct
import DeviceAdmission.Proofs.Store.Keys

/-!
# Calls and actions among the cards of devices

A call meets the store as others have left it, and what others set leaves the cards of all devices.
An action leaves them whose calls neither look a device up nor rotate a key, and of all operations
only a submission makes such calls.
-/

namespace DeviceAdmission

/-! ## Calls -/

/-- The store that a call meets, with what others have set before it. -/
def World.met {α : Type} (w : World) (c : StoreCall α) : Store :=
  (w.interference w.calls c.site).writes.foldl StatusWrite.apply w.store

namespace Action

variable {α β : Type} {now : Instant} {wall : Int} {w w' : World}

/-- The ways that a call ends: it is answered by the store that it meets, or fails there, or does
not get to it. -/
inductive Called (w : World) (c : StoreCall α) : Except Failure α → World → Prop where
  | answered {a : α} {w' : World} (answer : (w.met c).run c = (.ok a, w'.store)) :
      Called w c (.ok a) w'
  | failed {fault : StoreFault} {e : Failure} {w' : World}
      (answer : (w.met c).run c = (.error fault, w'.store)) : Called w c (.error e) w'
  | stopped {e : Failure} {w' : World} (left : w'.store = w.met c) : Called w c (.error e) w'

theorem called (limit : Nat) (c : StoreCall α) (w : World) :
    Called w c ((call limit c).run w).1 ((call limit c).run w).2 := by
  simp only [run, call]
  cases fate : (w.interference w.calls c.site).fate with
  | fails fault => exact .stopped rfl
  | hangs => exact .stopped rfl
  | proceeds =>
      simp only [outcome]
      cases answer : Store.run ((w.interference w.calls c.site).writes.foldl StatusWrite.apply
          w.store) c with
      | mk result after =>
          cases result with
          | ok a => exact .answered answer
          | error fault => exact .failed answer

theorem called_of_run {limit : Nat} {c : StoreCall α} {r : Except Failure α}
    (ran : (call limit c).run w = (r, w')) : Called w c r w' := by
  have ends := called limit c w
  rw [ran] at ends
  exact ends

/-- What an action leaves does not depend on what is made of its value. -/
theorem run_map_snd (x : Action α) (f : α → β) (w : World) :
    ((x >>= fun a => pure (f a)).run w).2 = (x.run w).2 := by
  rw [run_bind]
  cases x.run w with
  | mk result w' => cases result <;> rfl

end Action

namespace Store

variable {s : Store} {ids : List String}

theorem sameCards_writes (writes : List StatusWrite) (s : Store) :
    s.SameCards (writes.foldl StatusWrite.apply s) := by
  induction writes generalizing s with
  | nil => exact .refl s
  | cons w rest ih => exact (sameCards_run s rfl).trans (ih (w.apply s))

end Store

theorem World.sameCards_met {α : Type} (w : World) (c : StoreCall α) :
    w.store.SameCards (w.met c) :=
  Store.sameCards_writes _ w.store

/-- An action whose calls all leave the cards leaves the cards. -/
theorem Action.Makes.sameCards {α : Type} {x : Action α} {w : World}
    (makes : x.Makes (fun _ c => c.sparesCards = true) w.now w.wallSeconds) :
    w.store.SameCards (x.run w).2.store := by
  have kept := makes.invariant (w := w)
    (I := fun v => (v.now = w.now ∧ v.wallSeconds = w.wallSeconds) ∧ w.store.SameCards v.store)
    (fun v holds => holds.1) ?_ ⟨⟨rfl, rfl⟩, .refl w.store⟩
  · exact kept.2
  · rintro limit γ c spares v ⟨clocks, same⟩
    have before := same.trans (v.sameCards_met c)
    refine ⟨clocks, ?_⟩
    rcases Action.store_call limit c v with left | left
    · rw [left]
      exact before
    · rw [left]
      exact before.trans (Store.sameCards_run (v.met c) spares)

/-! ## Actions that leave the cards -/

section Spared

variable {a : Authority} {s : Admission} {now : Instant} {wall : Int} {tenant : Tenant}
variable {deviceId tokenId : String}

theorem Authority.spares_ensureAccepted : (a.ensureAccepted tenant deviceId).Makes
    (fun _ c => c.sparesCards = true) now wall := by
  refine .bind (.call _ rfl) fun found _ => ?_
  cases found with
  | none => exact .fail .notEntitled
  | some device =>
      dsimp only
      split
      · exact .pure ()
      · exact .fail .notEntitled

theorem Authority.spares_issue : (a.issue tokenId tenant deviceId).Makes
    (fun _ c => c.sparesCards = true) now wall := by
  refine .bind spares_ensureAccepted fun _ _ => .bind .now fun time _ => ?_
  refine .bind (.ofExcept _) fun candidate _ => .bind (.call _ rfl) fun t _ => ?_
  refine .bind (.attempt spares_ensureAccepted) fun again _ => ?_
  cases again with
  | ok _ => exact .pure t
  | error e => exact .bind (.call _ rfl) fun _ _ => .fail e

theorem Authority.spares_verify (a : Authority) (raw : String) : (a.verify raw).Makes
    (fun _ c => c.sparesCards = true) now wall := by
  unfold verify
  split
  · exact .fail .tokenInvalid
  · refine .bind .now fun time _ => ?_
    dsimp only
    split
    · exact .fail .tokenExpired
    · refine .bind (.call _ rfl) fun found _ => ?_
      cases found with
      | none => exact .fail .tokenInvalid
      | some token =>
          dsimp only
          split
          · exact .fail .tokenInvalid
          · refine .bind (.call _ rfl) fun device? _ => ?_
            cases device? with
            | none => exact .fail .tokenInvalid
            | some device =>
                dsimp only
                split
                · exact .pure _
                · exact .fail .tokenInvalid

theorem Authority.spares_revoke : (a.revoke tenant tokenId).Makes
    (fun _ c => c.sparesCards = true) now wall := by
  refine .bind (.call _ rfl) fun found _ => ?_
  cases found with
  | false => exact .fail .tokenNotFound
  | true => exact .pure ()

theorem Admission.spares_setStatus {status : DeviceStatus} :
    (s.setStatus tenant deviceId status).Makes (fun _ c => c.sparesCards = true) now wall := by
  refine .bind .now fun time _ => .bind (.call _ rfl) fun known _ => ?_
  cases known with
  | false => exact .fail .deviceNotFound
  | true =>
      refine .bind ?_ fun _ _ => .pure ()
      unfold Authority.onStatusChanged
      split
      · exact .call _ rfl
      · exact .pure 0

theorem Admission.spares_getDevice : (s.getDevice tenant deviceId).Makes
    (fun _ c => c.sparesCards = true) now wall := by
  refine .bind (.call _ rfl) fun found _ => ?_
  cases found with
  | none => exact .fail .deviceNotFound
  | some device => exact .pure device

/-- All operations but a submission leave the cards. -/
theorem Admission.spares_perform {operation : Operation} (noDevice : operation.deviceId? = none) :
    (s.perform operation).Makes (fun _ c => c.sparesCards = true) now wall := by
  cases operation with
  | submit ids body signature => cases noDevice
  | issue tokenId tenant deviceId => exact .bind Authority.spares_issue fun _ _ => .pure _
  | setStatus tenant deviceId status => exact .bind spares_setStatus fun _ _ => .pure _
  | revokeToken tenant tokenId => exact .bind Authority.spares_revoke fun _ _ => .pure _
  | verify raw => exact .bind (s.authority.spares_verify (Text.trim raw)) fun _ _ => .pure _
  | getDevice tenant deviceId => exact .bind spares_getDevice fun _ _ => .pure _
  | listDevices tenant request =>
      exact .bind (.bind (.call _ rfl) fun _ _ => .pure _) fun _ _ => .pure _

end Spared

end DeviceAdmission
