import DeviceAdmission.Proofs.Gateway.RequestIds
import DeviceAdmission.Proofs.Service.Causes

/-!
# Causes that stay inside

What a caller is answered does not depend on the faults of the calls that fail, nor on whether they
fail or never end. An answer that a failed call decides says that there was an internal error and
nothing else. A request by `HEAD` is told so by the status alone, for its answer has no body.
-/

namespace DeviceAdmission

namespace Gateway

open DeviceAdmission.Action

variable {g : Gateway} {r : Http.Request} {ids : FreshIds} {w w₁ w₂ : World}

/-- The answer to a request whose action failed inside. -/
def internalError (id? : Option String) : Http.Response :=
  .ofJson 500 (Refusal.document "internal error" id?)

/-- The answer of a discreet action does not depend on causes, and where a call failed it says that
there was an internal error. -/
theorem answer_of_discreet {α : Type} {x : Action α} (discreet : x.Discreet)
    (alike : w₁.FailsAlike w₂) (id? : Option String) (write : α → Http.Response) :
    (answer id? x write w₁).1 = (answer id? x write w₂).1 ∧
      (answer id? x write w₁).2.store = (answer id? x write w₂).2.store ∧
      ((answer id? x write w₁).2.FailedSince w₁.calls →
        (answer id? x write w₁).1 = internalError id?) := by
  obtain ⟨same, after⟩ := discreet.sameButCause w₁ w₂ alike
  have confesses := discreet.confesses w₁.calls w₁ w₁.not_failedSince_calls
  unfold answer
  cases ran : x.run w₁ with
  | mk result left =>
      cases ran' : x.run w₂ with
      | mk result' left' =>
          rw [ran] at confesses
          rw [ran, ran'] at same after
          cases same with
          | same result =>
              cases result with
              | ok a =>
                  refine ⟨rfl, after.store, fun failed => ?_⟩
                  obtain ⟨cause, ended⟩ := confesses failed
                  cases ended
              | error e =>
                  refine ⟨rfl, after.store, fun failed => ?_⟩
                  obtain ⟨cause, ended⟩ := confesses failed
                  cases ended
                  rfl
          | causes c c' => exact ⟨rfl, after.store, fun _ => rfl⟩

/-- How a command is answered does not depend on causes. -/
theorem perform_of_failsAlike (g : Gateway) (ids : FreshIds) (id? : Option String)
    (command : Command) (alike : w₁.FailsAlike w₂) :
    (g.perform ids id? command w₁).1 = (g.perform ids id? command w₂).1 ∧
      (g.perform ids id? command w₁).2.store = (g.perform ids id? command w₂).2.store ∧
      ((g.perform ids id? command w₁).2.FailedSince w₁.calls →
        (g.perform ids id? command w₁).1 = internalError id?) := by
  unfold perform
  cases command with
  | health => exact ⟨rfl, alike.store, fun failed => absurd failed w₁.not_failedSince_calls⟩
  | submit body signature =>
      exact answer_of_discreet (g.service.discreet_submit ids body signature) alike id? _
  | setStatus tenant deviceId status =>
      exact answer_of_discreet (g.service.discreet_setStatus tenant deviceId status) alike id? _
  | getDevice tenant deviceId =>
      exact answer_of_discreet (g.service.discreet_getDevice tenant deviceId) alike id? _
  | listDevices tenant path page =>
      exact answer_of_discreet (g.service.discreet_listDevices tenant page) alike id? _
  | verify raw =>
      dsimp only
      exact answer_of_discreet (g.service.discreet_verify raw) alike id? _
  | revokeToken tenant tokenId =>
      exact answer_of_discreet (g.service.discreet_revokeToken tenant tokenId) alike id? _

/-- Internal causes never reach the caller. For every request and any two worlds in which the same
calls of the store fail, with whatever faults and whether they fail or never end: the two responses
are the same in status, headers and body, and so are the stores that are left. Once a call made for
the request has failed, the status is 500 and the document says that there was an internal error;
a request by `HEAD` gets the same response without its body. -/
theorem handle_eq_of_failsAlike (g : Gateway) (ids : FreshIds) (r : Http.Request)
    (alike : w₁.FailsAlike w₂) :
    (g.handle ids r w₁).1 = (g.handle ids r w₂).1 ∧
      (g.handle ids r w₁).2.store = (g.handle ids r w₂).2.store ∧
      ((g.handle ids r w₁).2.FailedSince w₁.calls →
        (g.handle ids r w₁).1.status = 500 ∧
        (g.handle ids r w₁).1.headers = (internalError (requestId? r)).sized.headers ∧
        (g.handle ids r w₁).1.body =
          if r.method = "HEAD" then .empty
          else .json (Refusal.document "internal error" (requestId? r))) := by
  unfold handle
  cases Command.ofRequest g.settings r with
  | error response =>
      exact ⟨rfl, alike.store, fun failed => absurd failed w₁.not_failedSince_calls⟩
  | ok command =>
      obtain ⟨same, store, told⟩ := g.perform_of_failsAlike ids (requestId? r) command alike
      refine ⟨congrArg (send r.method) same, store, fun failed => ?_⟩
      dsimp only
      rw [told failed, send]
      split
      · exact ⟨rfl, rfl, rfl⟩
      · exact ⟨rfl, rfl, rfl⟩

end Gateway

namespace Sample

/-- A world in which the fourth call does not get to the store: the second look at the device of a
submission. -/
def shaken (fate : Fate) : World :=
  { World.quiet (issued .tables).store (.ofSeconds 110) 110 with
    interference := fun earlier _ => if earlier.length = 3 then ⟨[], fate⟩ else .none }

theorem shaken_failsAlike :
    (shaken (.fails (.medium "disk on fire"))).FailsAlike (shaken .hangs) := by
  refine ⟨rfl, rfl, rfl, rfl, fun earlier site => ?_⟩
  by_cases fourth : earlier.length = 3
  · simp only [shaken, fourth, if_true]
    exact ⟨rfl, ⟨nofun, nofun⟩⟩
  · simp only [shaken, fourth, if_false]
    exact ⟨rfl, Iff.rfl⟩

theorem failedSince_shaken : (gateway.handle ⟨"e", "t3"⟩ submission
    (shaken (.fails (.medium "disk on fire")))).2.FailedSince [] := by
  refine ⟨[⟨.revokeToken, .default, none⟩], ⟨.getDevice, .default, some "d"⟩,
    [⟨.insertOrGetLive, .default, some "d"⟩, ⟨.getDevice, .default, some "d"⟩,
      ⟨.getOrCreate, .default, some "e"⟩], by decide +kernel, Nat.zero_le _, by decide +kernel⟩

/-- Whether the second look of a submission fails or never ends, it is told alike. -/
theorem handle_eq_shaken :
    (gateway.handle ⟨"e", "t3"⟩ submission (shaken (.fails (.medium "disk on fire")))).1 =
        (gateway.handle ⟨"e", "t3"⟩ submission (shaken .hangs)).1 ∧
      (gateway.handle ⟨"e", "t3"⟩ submission (shaken .hangs)).1.status = 500 := by
  have told := gateway.handle_eq_of_failsAlike ⟨"e", "t3"⟩ submission shaken_failsAlike
  exact ⟨told.1, told.1 ▸ (told.2.2 failedSince_shaken).1⟩

/-- By `HEAD` a failed call is told without a document. -/
theorem head_told_without_document :
    let answered := gateway.handle ⟨"e", "t"⟩
      { inquiry (Utf8.encode "acme") with method := "HEAD" } broken
    answered.2.FailedSince broken.calls ∧ answered.1.status = 500 ∧ answered.1.body = .empty := by
  refine ⟨⟨[], ⟨.getDevice, ⟨"acme"⟩, some "d"⟩, [], by decide +kernel, Nat.zero_le _, nofun⟩,
    by decide +kernel, rfl⟩

end Sample

end DeviceAdmission
