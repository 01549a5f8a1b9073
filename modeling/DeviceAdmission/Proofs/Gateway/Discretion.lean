import DeviceAdmission.Gateway.Basic
import DeviceAdmission.Proofs.Service.Checks
import DeviceAdmission.Proofs.Service.Encounters
import DeviceAdmission.Proofs.Service.Interruption
import DeviceAdmission.Proofs.Service.Keys

/-!
# What a refusal tells

A device that is not accepted is refused in one way, whether it is unknown, pending or rejected,
whichever key it is registered with, and whatever else the store holds. So the answer to a
submission is settled by the request alone, and nobody learns from it how a device stands that is
not accepted.
-/

namespace DeviceAdmission

/-- Whether a failure says no more than that a request is not entitled or that the store failed. -/
def Failure.IsReticent (e : Failure) : Prop :=
  e = .notEntitled ∨ e.call?.isSome = true

theorem Failure.isReticent_of_call? {e : Failure} {name : String} (named : e.call? = some name) :
    e.IsReticent := by
  right
  rw [named]
  rfl

namespace Store

variable {s : Store} {ids : List String} {tenant : Tenant} {id : String} {e : DeviceEntry}

/-- A look at a device that is not accepted does not pass. -/
theorem Barred.look (barred : s.Barred tenant id) :
    ∃ e, s.look tenant id = .error e ∧ e.IsReticent := by
  unfold Store.look
  have answer := run_getDevice s tenant id
  rw [answer]
  cases found : TableStore.readFound DeviceEntry.read
      (s.devices.find? (DeviceEntry.isDevice tenant id)) with
  | error fault => exact ⟨_, rfl, .inr rfl⟩
  | ok device? =>
      cases device? with
      | none => exact ⟨_, rfl, .inl rfl⟩
      | some d =>
          rw [found] at answer
          have unaccepted : d.status ≠ .accepted := fun accepted =>
            barred.not_entitles ⟨d, answer, accepted⟩
          exact ⟨_, if_neg unaccepted, .inl rfl⟩

/-- A device that is not accepted is the only one with its id. -/
theorem Distinct.barred (distinct : s.Distinct ids) (member : e ∈ s.devices)
    (unaccepted : e.status ≠ .ok .accepted) : s.Barred tenant e.id := by
  intro f fMem
  cases accepted : f.isAccepted tenant e.id with
  | false => rfl
  | true =>
      obtain ⟨⟨-, idEq⟩, status⟩ := isAccepted_iff.mp accepted
      rw [distinct.eq_of_id fMem member idEq] at status
      exact absurd status unaccepted

end Store

/-- Whether nobody accepts a device between calls. -/
def World.Withholds (w : World) : Prop :=
  ∀ earlier site, ∀ v ∈ (w.interference earlier site).writes, v.status ≠ .accepted

namespace World

variable {w w' : World} {tenant : Tenant} {id : String}

theorem SameSetting.withholds (same : w.SameSetting w') (withholds : w.Withholds) :
    w'.Withholds := by
  intro earlier site
  rw [same.interference]
  exact withholds earlier site

/-- A device that is not accepted is not accepted when a call gets to the store. -/
theorem Withholds.barred_met {α : Type} (withholds : w.Withholds)
    (barred : w.store.Barred tenant id) (c : StoreCall α) : (w.met c).Barred tenant id :=
  barred.writes fun v member _ _ => withholds w.calls c.site v member

end World

namespace Admission

variable {s : Admission} {given : List String} {newId : String} {w w' : World} {tenant : Tenant}
variable {request : AuthRequest}

/-! ## The service -/

/-- A device of the request that a call meets is not accepted if the one before is not. -/
theorem barred_met_of_identity {α : Type} (distinct : w.store.Distinct given)
    (withholds : w.Withholds)
    (unaccepted : ∀ e ∈ w.store.devices,
      e.hasIdentity tenant request.identityData = true → e.status ≠ .ok .accepted)
    (c : StoreCall α) {e : DeviceEntry} (member : e ∈ (w.met c).devices)
    (identity : e.hasIdentity tenant request.identityData = true) :
    (w.met c).Barred tenant e.id := by
  have same := w.sameCards_met c
  have inCards : e.card ∈ w.store.cards := by
    rw [← same.cards]
    exact List.mem_map_of_mem member
  rcases List.mem_map.mp inCards with ⟨f, fMem, cardEq⟩
  have fIdentity : f.hasIdentity tenant request.identityData = true :=
    (DeviceEntry.hasIdentity_of_card cardEq _ _).trans identity
  have barred : w.store.Barred tenant f.id := distinct.barred fMem (unaccepted f fMem fIdentity)
  have idEq : f.id = e.id := congrArg DeviceCard.id cardEq
  rw [idEq] at barred
  exact withholds.barred_met barred c

/-- The device that is answered for a request is not accepted in the store that is left. -/
theorem barred_of_seen {d : Device} {created : Bool} {limit : Nat}
    (distinct : w.store.Distinct given) (fresh : newId ∉ given) (withholds : w.Withholds)
    (unaccepted : ∀ e ∈ w.store.devices,
      e.hasIdentity tenant request.identityData = true → e.status ≠ .ok .accepted)
    (called : (Action.call limit (.getOrCreate (.firstSeen newId tenant request.identityData
      request.publicKey w.now))).run w = (.ok (d, created), w')) :
    w'.store.Barred tenant d.id ∧ (created = false → d.status ≠ .accepted) := by
  obtain ⟨candidate, seen⟩ : ∃ candidate : Device,
    candidate = .firstSeen newId tenant request.identityData request.publicKey w.now := ⟨_, rfl⟩
  have freshId : candidate.id ∉ given := by
    rw [seen]
    exact fresh
  rw [← seen] at called
  have metDistinct := distinct.of_sameCards (w.sameCards_met (.getOrCreate candidate))
  cases Action.called_of_run called with
  | answered answer =>
      generalize w'.store = after at answer ⊢
      cases metDistinct.seen freshId answer with
      | known member identity =>
          have barred := barred_met_of_identity distinct withholds unaccepted _ member
            (by rw [seen] at identity; exact identity)
          refine ⟨barred, fun _ accepted => ?_⟩
          have tenantEq : d.tenant = tenant := by
            rw [seen] at identity
            exact (DeviceEntry.hasIdentity_iff.mp identity).1
          have isAccepted := Device.isAccepted_entry tenantEq accepted
          have none : d.entry.isAccepted tenant d.id = false := barred _ member
          rw [isAccepted] at none
          cases none
      | new unknown entryEq devices =>
          constructor
          · intro f member
            rcases List.mem_cons.mp (devices.mem_iff.mp member) with rfl | old
            · cases accepted : d.entry.isAccepted tenant d.id with
              | false => rfl
              | true =>
                  have status := (Store.isAccepted_iff.mp accepted).2
                  rw [← entryEq, StoreKind.status_deviceEntry, seen] at status
                  cases status
            · apply Store.isAccepted_of_not_isDevice
              cases isDevice : f.isDevice tenant d.id with
              | false => rfl
              | true =>
                  have names := congrArg DeviceEntry.names entryEq
                  rw [StoreKind.names_deviceEntry] at names
                  have idEq : candidate.id = d.id := congrArg Prod.snd names
                  have sameId := (DeviceEntry.isDevice_iff.mp isDevice).2
                  exact absurd (sameId.trans idEq.symm) (metDistinct.id_ne freshId f old)
          · rintro ⟨⟩

/-- The look-up of a device that is not accepted ends with a reticent failure or with a device that
is still not accepted. -/
theorem LookUpPath.of_unaccepted {r : Except Failure Device}
    (path : s.LookUpPath newId tenant request w r w') (distinct : w.store.Distinct given)
    (fresh : newId ∉ given) (withholds : w.Withholds)
    (unaccepted : ∀ e ∈ w.store.devices,
      e.hasIdentity tenant request.identityData = true → e.status ≠ .ok .accepted) :
    (∀ e, r = .error e → e.IsReticent) ∧ ∀ d, r = .ok d → w'.store.Barred tenant d.id := by
  cases path with
  | stopped called =>
      constructor
      · rintro e ⟨⟩
        exact Failure.isReticent_of_call? (Action.call?_of_call (congrArg Prod.fst called))
      · rintro d ⟨⟩
  | found called same =>
      constructor
      · rintro e ⟨⟩
      · rintro d ⟨⟩
        exact (barred_of_seen distinct fresh withholds unaccepted called).1
  | refused called keyNe fixed =>
      constructor
      · rintro e ⟨⟩
        exact .inl rfl
      · rintro d ⟨⟩
  | unrotated called keyNe accepted set ends =>
      exact absurd accepted ((barred_of_seen distinct fresh withholds unaccepted called).2 rfl)
  | rotated called keyNe allowed accepted set =>
      exact absurd accepted ((barred_of_seen distinct fresh withholds unaccepted called).2 rfl)

end Admission

/-- An issuance for a device that is not accepted ends with a reticent failure. -/
theorem Authority.IssuePath.of_barred {a : Authority} {tokenId deviceId : String}
    {tenant : Tenant} {w w' : World} {r : Except Failure Token}
    (path : a.IssuePath tokenId tenant deviceId w r w') (withholds : w.Withholds)
    (barred : w.store.Barred tenant deviceId) : ∃ e, r = .error e ∧ e.IsReticent := by
  obtain ⟨f, looked, reticent⟩ :=
    (withholds.barred_met barred (.getDevice tenant deviceId)).look
  -- The first look already ends the issuance.
  have stops : ∀ r w₁, Authority.Looked w tenant deviceId r w₁ →
      ∃ e, r = .error e ∧ e.IsReticent := by
    intro r w₁ first
    rcases first.ends with ends | ⟨e, failed, named⟩
    · exact ⟨f, ends.trans looked, reticent⟩
    · exact ⟨e, failed, Failure.isReticent_of_call? named⟩
  have notPassed : ∀ w₁, ¬Authority.Looked w tenant deviceId (.ok ()) w₁ := by
    intro w₁ first
    obtain ⟨e, passed, -⟩ := stops _ _ first
    cases passed
  cases path with
  | refused first =>
      obtain ⟨_, failed, reticent⟩ := stops _ _ first
      cases failed
      exact ⟨_, rfl, reticent⟩
  | notMinted first failed => exact absurd first (notPassed _)
  | stopped first minted called => exact absurd first (notPassed _)
  | issued first minted called second => exact absurd first (notPassed _)
  | left first minted called second revoked => exact absurd first (notPassed _)
  | withdrawn first minted called second revoked => exact absurd first (notPassed _)

namespace Admission

variable {s : Admission} {given : List String} {ids : FreshIds} {body : Bytes}
variable {signature : Option String} {w w' : World} {tenant : Tenant} {request : AuthRequest}

/-- What a submission fails with whose device is not accepted. -/
def refusal (s : Admission) (wall : Int) (body : Bytes) (signature : Option String) : Failure :=
  match s.check wall body signature with
  | .ok _ => .notEntitled
  | .error e => e

/-- A submission of a device that is unknown to the store or not accepted, while nobody accepts a
device and no call of the store fails. -/
structure Unapproved (s : Admission) (given : List String) (ids : FreshIds) (body : Bytes)
    (signature : Option String) (w : World) : Prop where
  distinct : w.store.Distinct given
  fresh : ids.device ∉ given
  withholds : w.Withholds
  unaccepted : ∀ request tenant,
    s.check w.wallSeconds body signature = .ok (request, tenant) → ∀ e ∈ w.store.devices,
      e.hasIdentity tenant request.identityData = true → e.status ≠ .ok .accepted
  served : ∀ e, ((s.submit ids body signature).run w).1 = .error e → e.call? = none

/-- A request of a device that is not accepted fails as the checks say or reticently. -/
theorem GrantPath.of_unaccepted {r : Except Failure Token}
    (path : s.GrantPath ids body signature w r w') (distinct : w.store.Distinct given)
    (fresh : ids.device ∉ given) (withholds : w.Withholds)
    (unaccepted : ∀ request tenant,
      s.check w.wallSeconds body signature = .ok (request, tenant) → ∀ e ∈ w.store.devices,
        e.hasIdentity tenant request.identityData = true → e.status ≠ .ok .accepted) :
    ∃ e, r = .error e ∧
      (e = s.refusal w.wallSeconds body signature ∨ e.call?.isSome = true) := by
  have told : ∀ request tenant, s.check w.wallSeconds body signature = .ok (request, tenant) →
      ∀ e : Failure, e.IsReticent →
        e = s.refusal w.wallSeconds body signature ∨ e.call?.isSome = true := by
    rintro request tenant checked e (rfl | failed)
    · left
      rw [refusal, checked]
    · exact .inr failed
  cases path with
  | @unchecked e failed =>
      refine ⟨e, rfl, .inl ?_⟩
      rw [refusal, failed]
  | @refused tenant request e w₁ checked lookedUp =>
      obtain ⟨reticent, -⟩ :=
        lookedUp.of_unaccepted distinct fresh withholds (unaccepted request tenant checked)
      exact ⟨e, rfl, told request tenant checked e (reticent e rfl)⟩
  | @issued tenant request d r w₁ w₂ checked lookedUp issued =>
      obtain ⟨-, barred⟩ :=
        lookedUp.of_unaccepted distinct fresh withholds (unaccepted request tenant checked)
      obtain ⟨e, failed, reticent⟩ :=
        issued.of_barred (lookedUp.sameSetting.withholds withholds) (barred d rfl)
      exact ⟨e, failed, told request tenant checked e reticent⟩

theorem run_submit_of_grant {e : Failure}
    (failed : (s.grant ids body signature).run w = (.error e, w')) :
    (s.submit ids body signature).run w = (.error e, w') :=
  Action.run_bind_error failed

/-- What is answered to a submission whose device is not accepted depends on the request alone. -/
theorem Unapproved.submit_eq (unapproved : s.Unapproved given ids body signature w) :
    ((s.submit ids body signature).run w).1 =
      .error (s.refusal w.wallSeconds body signature) := by
  cases granted : (s.grant ids body signature).run w with
  | mk r w' =>
      obtain ⟨e, rfl, told⟩ := (grantPath granted).of_unaccepted unapproved.distinct
        unapproved.fresh unapproved.withholds unapproved.unaccepted
      have ran := run_submit_of_grant granted
      have answered := unapproved.served e (congrArg Prod.fst ran)
      rw [ran]
      rcases told with rfl | failed
      · rfl
      · rw [answered] at failed
        cases failed

/-- Where nobody interferes, a device that is not accepted is not entitled to a token. -/
theorem exists_ends_grant_of_unaccepted {store : Store} {now : Instant} {wall : Int}
    (distinct : store.Distinct given) (fresh : ids.device ∉ given)
    (legible : store.kind = .tables → now.isLegible = true)
    (checked : s.check wall body signature = .ok (request, tenant))
    (device : ∀ e ∈ store.devices, e.hasIdentity tenant request.identityData = true →
      ∃ d : Device, e = d.entry ∧ d.status ≠ .accepted) :
    ∃ s', (s.grant ids body signature).Ends now wall store (.error .notEntitled) s' := by
  have unaccepted : ∀ d : Device, d.entry ∈ store.devices →
      d.entry.hasIdentity tenant request.identityData = true → d.status ≠ .accepted := by
    intro d member identity
    obtain ⟨d', same, status⟩ := device d.entry member identity
    rw [DeviceEntry.entry_injective same]
    exact status
  obtain ⟨r, s', encounter⟩ := exists_encounter s store ids.device tenant request now
  have lookedUp := encounter.ends distinct fresh legible wall
  -- Whichever device is found or registered, it gets no token.
  have issued : ∀ d, r = .ok d → d.status ≠ .accepted →
      (s.authority.issue ids.token tenant d.id).Ends now wall s' (.error .notEntitled) s' := by
    rintro d rfl status
    exact encounter.ends_issue_of_unaccepted distinct fresh legible status ids.token wall
  cases encounter with
  | registered unknown =>
      exact ⟨_, ends_grant_of_found checked lookedUp (issued _ rfl nofun)⟩
  | unreadable member identity read =>
      obtain ⟨d, rfl, -⟩ := device _ member identity
      cases read
  | known member identity keyEq =>
      exact ⟨_, ends_grant_of_found checked lookedUp
        (issued _ rfl (unaccepted _ member identity))⟩
  | refused member identity keyNe fixed => exact ⟨_, ends_grant_of_refused checked lookedUp⟩
  | rotated member identity keyNe allowed =>
      exact absurd (.inr (unaccepted _ member identity)) allowed

/-- Where nobody interferes, no call fails if the device can be read or its times can be kept. -/
theorem unapproved_quiet {store : Store} {now : Instant} {wall : Int}
    (distinct : store.Distinct given) (fresh : ids.device ∉ given)
    (legible : store.kind = .tables → now.isLegible = true)
    (device : ∀ request tenant, s.check wall body signature = .ok (request, tenant) →
      ∀ e ∈ store.devices, e.hasIdentity tenant request.identityData = true →
        ∃ d : Device, e = d.entry ∧ d.status ≠ .accepted) :
    s.Unapproved given ids body signature (World.quiet store now wall) := by
  refine ⟨distinct, fresh, ?_, ?_, ?_⟩
  · rintro earlier site v ⟨⟩
  · intro request tenant checked e member identity accepted
    obtain ⟨d, rfl, unaccepted⟩ := device request tenant checked e member identity
    exact unaccepted (Except.ok.inj accepted)
  · intro e failed
    have ended : ∀ r s', (s.grant ids body signature).Ends now wall store (.error r) s' →
        e = r := by
      intro r s' ends
      have ran := run_submit_of_grant (Action.run_eq_of_fst ends.run_quiet.1)
      rw [ran] at failed
      exact (Except.error.inj failed).symm
    cases checked : s.check wall body signature with
    | error f =>
        rw [ended f store (ends_grant_of_unchecked checked)]
        exact call?_of_check_error checked
    | ok result =>
        obtain ⟨request, tenant⟩ := result
        obtain ⟨s', ends⟩ := exists_ends_grant_of_unaccepted distinct fresh legible checked
          (device request tenant checked)
        rw [ended .notEntitled s' ends]
        rfl

end Admission

/-! ## The gateway -/

/-- A request to the endpoint for submissions is answered at once or is a submission of its body. -/
theorem Command.submits_of_endpoint {settings : GatewaySettings} {r : Http.Request}
    {command : Command}
    (submits : Endpoint.ofTarget? (.ofText r.target) = some .authRequests)
    (read : Command.ofRequest settings r = .ok command) :
    command = .submit r.body (signature? r) := by
  simp only [ofRequest, submits] at read
  split at read
  · simp only [ofEndpoint, wholeBody, Bind.bind, Except.bind] at read
    split at read
    · cases read
    · rename_i body whole
      split at whole
      · cases whole
        cases read
        rfl
      · cases whole
  · cases read

namespace Gateway

variable {g : Gateway} {r : Http.Request} {given given₁ given₂ : List String}
variable {ids ids₁ ids₂ : FreshIds} {w w₁ w₂ : World}

/-- What a submission is answered whose device is not accepted. -/
def refusalResponse (g : Gateway) (wall : Int) (r : Http.Request) : Http.Response :=
  send r.method
    (match Command.ofRequest g.settings r with
      | .error response => response
      | .ok _ => ((Refusal.ofFailure (g.service.refusal wall r.body (signature? r))).withRequestId
          (requestId? r)).response)

theorem handle_of_unapproved
    (submits : Endpoint.ofTarget? (.ofText r.target) = some .authRequests)
    (unapproved : g.service.Unapproved given ids r.body (signature? r) w) :
    (g.handle ids r w).1 = g.refusalResponse w.wallSeconds r := by
  unfold handle refusalResponse
  cases read : Command.ofRequest g.settings r with
  | error response => rfl
  | ok command =>
      rw [Command.submits_of_endpoint submits read]
      have ran := Action.run_eq_of_fst unapproved.submit_eq
      generalize ((g.service.submit ids r.body (signature? r)).run w).2 = w' at ran
      simp only [perform, answer, ran]

/-- Nobody learns from the answer to a submission how a device stands that is not accepted. For
every request to the endpoint for submissions and any two worlds in which the device of the request
is unknown, pending or rejected, nobody accepts a device meanwhile, and no call of the store fails:
the two responses are the same in status, headers and body. -/
theorem handle_eq_of_unapproved
    (submits : Endpoint.ofTarget? (.ofText r.target) = some .authRequests)
    (wall : w₁.wallSeconds = w₂.wallSeconds)
    (first : g.service.Unapproved given₁ ids₁ r.body (signature? r) w₁)
    (second : g.service.Unapproved given₂ ids₂ r.body (signature? r) w₂) :
    (g.handle ids₁ r w₁).1 = (g.handle ids₂ r w₂).1 := by
  rw [handle_of_unapproved submits first, handle_of_unapproved submits second, wall]

end Gateway

namespace Sample

/-- The small service behind a gateway. -/
def gateway : Gateway :=
  ⟨admission, ⟨"x-tenant-id", 20, 500⟩⟩

/-- The submission of the device over HTTP. -/
def submission : Http.Request where
  method := "POST"
  target := "/api/devices/v1/authentication/auth_requests"
  headers := [("x-devauth-signature", Utf8.encode "IA==")]
  body := body

/-- The device is refused in the same way before it is known and after it is rejected. -/
theorem handle_eq_of_rejected :
    (gateway.handle ⟨"e", "t3"⟩ submission
        (World.quiet (.empty .memory) (.ofSeconds 105) 105)).1 =
      (gateway.handle ⟨"f", "t4"⟩ submission
        (World.quiet (rejected .tables).store (.ofSeconds 106) 105)).1 := by
  have unknown : admission.Unapproved [] ⟨"e", "t3"⟩ body (signature? submission)
      (World.quiet (.empty .memory) (.ofSeconds 105) 105) := by
    apply Admission.unapproved_quiet (Store.distinct_empty .memory) (by decide) nofun
    intro request tenant checked e member
    cases member
  have refused : admission.Unapproved (deviceIds (rejected .tables).past) ⟨"f", "t4"⟩ body
      (signature? submission)
      (World.quiet (rejected .tables).store (.ofSeconds 106) 105) := by
    apply Admission.unapproved_quiet
      ((reached .tables).distinct (nodup_deviceIds .tables)) (by decide +kernel)
      (fun _ => by decide)
    intro request tenant checked e member identity
    have statuses : ∀ e ∈ (rejected .tables).store.devices,
        e.read.toOption.map Device.status = some .rejected := by decide +kernel
    have status := statuses e member
    cases read : e.read with
    | error fault =>
        rw [read] at status
        cases status
    | ok d =>
        rw [read] at status
        refine ⟨d, DeviceEntry.entry_of_read read, ?_⟩
        rw [Option.some.inj status]
        nofun
  exact Gateway.handle_eq_of_unapproved (by decide +kernel) rfl unknown refused

end Sample

end DeviceAdmission
