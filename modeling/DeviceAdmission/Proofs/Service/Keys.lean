import DeviceAdmission.Proofs.Service.Cards
import DeviceAdmission.Proofs.Service.Interruption
import DeviceAdmission.Proofs.Service.Submission

/-!
# The keys of devices over a run

Whichever calls fail and whatever statuses others set meanwhile, a step leaves the cards of all
devices, registers one device with the key of a request, or rotates the key of one device that is
accepted at the moment of the write. So a device that nobody accepts keeps the key that it was first
seen with.
-/

namespace DeviceAdmission

open DeviceEntry

/-! ## What a step does to the cards -/

/-- Whether a step submits a request that passes the checks: it decodes, it is valid, the signature
verifies over the exact body under the key of the request, and it belongs to the tenant. -/
def Step.Submits (st : Step) (s : Admission) (ids : FreshIds) (request : AuthRequest)
    (tenant : Tenant) : Prop :=
  ∃ body signature bytes, st.operation = .submit ids body signature ∧
    AuthRequest.decode body = .ok request ∧ request.validate = .ok () ∧
    Base64.decode? .standard (Text.trim (signature.getD "")) = some bytes ∧
    s.signatures.verifies request.publicKey body bytes = true ∧
    s.tenants.resolve st.wallSeconds request.tenantToken = .ok tenant

/-- The device that a request registers if its identity is unknown. -/
def AuthRequest.candidate (request : AuthRequest) (id : String) (tenant : Tenant)
    (now : Instant) : Device :=
  .firstSeen id tenant request.identityData request.publicKey now

/-- What a step does to the cards of a store. A rotation looks the device of the request up in the
world `w`, and it is the store that its write meets there in which the device is accepted. -/
inductive Step.KeyChange (st : Step) (s : Admission) (before after : Store) : Prop where
  | none (same : before.SameCards after)
  | registered {ids : FreshIds} {request : AuthRequest} {tenant : Tenant}
      (submits : st.Submits s ids request tenant)
      (unknown : ∀ e ∈ before.devices, e.hasIdentity tenant request.identityData = false)
      (cards : after.cards.Perm
        (before.kind.card (request.candidate ids.device tenant st.now) :: before.cards))
  | rotated {ids : FreshIds} {request : AuthRequest} {tenant : Tenant} {d : Device}
      {e : DeviceEntry} {w w' : World} (submits : st.Submits s ids request tenant)
      (allowed : s.allowKeyRotation = true)
      (known : (s.call (.getOrCreate (request.candidate ids.device tenant st.now))).run
        (st.world before) = (.ok (d, false), w))
      (set : (s.call (.rotateKey tenant d.id request.publicKey st.now)).run w = (.ok true, w'))
      (first : before.SameCards (w.met (.rotateKey tenant d.id request.publicKey st.now)))
      (tenantEq : e.tenant = tenant) (identityEq : e.identityData = request.identityData)
      (accepted : e.status = .ok .accepted)
      (keyNe : Text.trim e.publicKey ≠ Text.trim request.publicKey)
      (rekeys : (w.met (.rotateKey tenant d.id request.publicKey st.now)).Rekeys e
        request.publicKey st.now w'.store)
      (last : w'.store.SameCards after)

namespace Step

variable {st : Step} {s : Admission} {before middle after : Store} {ids : FreshIds}
variable {request : AuthRequest} {tenant : Tenant} {given : List String}

theorem Submits.deviceId? (submits : st.Submits s ids request tenant) :
    st.operation.deviceId? = some ids.device := by
  obtain ⟨body, signature, -, operation, -⟩ := submits
  rw [operation]
  rfl

theorem submits_of_check {body : Bytes} {signature : Option String}
    (operation : st.operation = .submit ids body signature)
    (checked : s.check st.wallSeconds body signature = .ok (request, tenant)) :
    st.Submits s ids request tenant := by
  obtain ⟨decoded, valid, acceptable, resolved⟩ := Admission.of_check checked
  obtain ⟨bytes, bytesEq, verifies⟩ := Admission.exists_of_accepts acceptable
  exact ⟨body, signature, bytes, operation, decoded, valid, bytesEq, verifies, resolved⟩

theorem KeyChange.trans_sameCards (change : st.KeyChange s before middle)
    (same : middle.SameCards after) : st.KeyChange s before after := by
  cases change with
  | none first => exact .none (first.trans same)
  | registered submits unknown cards => exact .registered submits unknown (same.cards ▸ cards)
  | rotated submits allowed known set first tenantEq identityEq accepted keyNe rekeys last =>
      exact .rotated submits allowed known set first tenantEq identityEq accepted keyNe rekeys
        (last.trans same)

end Step

/-- What a step does to the cards of a store whose devices are told apart, and that it leaves such a
store. -/
structure Step.Handles (st : Step) (s : Admission) (given : List String) (before after : Store) :
    Prop where
  change : st.KeyChange s before after
  distinct : after.Distinct given

namespace Step

variable {st : Step} {s : Admission} {before middle after : Store} {ids : FreshIds}
variable {request : AuthRequest} {tenant : Tenant} {given : List String}

theorem Handles.trans_sameCards (handles : st.Handles s given before middle)
    (same : middle.SameCards after) : st.Handles s given before after :=
  ⟨handles.change.trans_sameCards same, handles.distinct.of_sameCards same⟩

theorem Handles.mono {more : List String} (handles : st.Handles s given before after)
    (included : ∀ id ∈ given, id ∈ more) : st.Handles s more before after :=
  ⟨handles.change, handles.distinct.mono included⟩

theorem handles_of_sameCards (distinct : before.Distinct given) (same : before.SameCards after) :
    st.Handles s given before after :=
  ⟨.none same, distinct.of_sameCards same⟩

/-! ## The look-up of a device -/

/-- A device with another key is found under its identity: its key is rotated where that is allowed
and the store that the write meets has the device accepted. -/
theorem handles_rotation {d : Device} {w : World} (submits : st.Submits s ids request tenant)
    (distinct : before.Distinct given) (allowed : s.allowKeyRotation = true)
    (known : (s.call (.getOrCreate (request.candidate ids.device tenant st.now))).run
      (st.world before) = (.ok (d, false), w))
    (same : before.SameCards w.store) (member : d.entry ∈ w.store.devices)
    (identityEq : d.identityData = request.identityData)
    (keyNe : Text.trim d.publicKey ≠ Text.trim request.publicKey) :
    st.Handles s given before
      ((s.call (.rotateKey tenant d.id request.publicKey st.now)).run w).2.store := by
  have met := w.sameCards_met (.rotateKey tenant d.id request.publicKey st.now)
  have first := same.trans met
  have distinctMet := distinct.of_sameCards first
  cases set : (s.call (.rotateKey tenant d.id request.publicKey st.now)).run w with
  | mk result w' =>
      cases Action.called_of_run set with
      | stopped left => exact handles_of_sameCards distinct (left ▸ first)
      | failed answer =>
          have answered := (distinctMet.run_rotateKey tenant d.id request.publicKey st.now).1
          rw [answer] at answered
          cases answered
      | @answered rotated w' answer =>
          cases rotated with
          | false =>
              have kept := (distinctMet.sameDevices_of_rotateKey answer).sameCards
              exact handles_of_sameCards distinct (first.trans kept)
          | true =>
              obtain ⟨e, eTenant, eId, accepted, rekeys⟩ := distinctMet.rekeys_of_rotateKey answer
              obtain ⟨f, fMem, cardEq⟩ := met.exists_card_eq member
              have isIt : f = e := distinctMet.eq_of_id fMem rekeys.member
                ((congrArg DeviceCard.id cardEq).trans eId.symm)
              subst isIt
              have keyEq : f.publicKey = d.publicKey := congrArg DeviceCard.publicKey cardEq
              have dataEq : f.identityData = d.identityData :=
                congrArg DeviceCard.identityData cardEq
              exact ⟨.rotated submits allowed known set first eTenant (dataEq.trans identityEq)
                accepted (keyEq ▸ keyNe) rekeys (.refl w'.store), distinctMet.of_rekeys rekeys⟩

/-- The first call of a look-up leaves the cards or registers the device. -/
theorem handles_getOrCreate (submits : st.Submits s ids request tenant)
    (distinct : before.Distinct given) (fresh : ids.device ∉ given)
    {r : Except StoreFault (Device × Bool)} (same : before.SameCards middle)
    (sighting : Store.Sighting middle (request.candidate ids.device tenant st.now) (r, after)) :
    st.Handles s (ids.device :: given) before after := by
  have more : before.Distinct (ids.device :: given) :=
    distinct.mono fun id member => List.mem_cons_of_mem _ member
  cases sighting with
  | known member identity answer => exact handles_of_sameCards more same
  | added unknown tokens cards identities answer =>
      have before_unknown : ∀ e ∈ before.devices,
          e.hasIdentity tenant request.identityData = false := by
        intro e member
        obtain ⟨f, fMem, cardEq⟩ := same.exists_card_eq member
        have sameIdentity : f.hasIdentity tenant request.identityData =
            e.hasIdentity tenant request.identityData := by
          have tenantEq : f.tenant = e.tenant := congrArg DeviceCard.tenant cardEq
          have dataEq : f.identityData = e.identityData :=
            congrArg DeviceCard.identityData cardEq
          rw [DeviceEntry.hasIdentity, tenantEq, dataEq]
          rfl
        rw [← sameIdentity]
        exact unknown f fMem
      constructor
      · apply KeyChange.registered submits before_unknown
        rw [← same.cards, ← same.kind]
        exact cards
      · exact (distinct.of_sameCards same).added fresh unknown tokens.kind cards identities

/-- A look-up that finds a device with another key ends as the rotation leaves the store. -/
theorem handles_known {d : Device} {created : Bool} {w : World}
    (submits : st.Submits s ids request tenant) (distinct : before.Distinct given)
    (allowed : s.allowKeyRotation = true) (same : before.SameCards middle)
    (isOld : ¬created = true) (keyNe : Text.trim d.publicKey ≠ Text.trim request.publicKey)
    (known : (s.call (.getOrCreate (request.candidate ids.device tenant st.now))).run
      (st.world before) = (.ok (d, created), w))
    (sighting : Store.Sighting middle (request.candidate ids.device tenant st.now)
      (.ok (d, created), w.store)) {f : Bool → Action Device}
    (idle : ∀ rotated v, ((f rotated).run v).2.store = v.store) :
    st.Handles s given before
      ((s.call (.rotateKey tenant d.id request.publicKey st.now) >>= f).run w).2.store := by
  have left : ((s.call (.rotateKey tenant d.id request.publicKey st.now) >>= f).run w).2.store =
      ((s.call (.rotateKey tenant d.id request.publicKey st.now)).run w).2.store := by
    rw [Action.run_bind]
    cases (s.call (.rotateKey tenant d.id request.publicKey st.now)).run w with
    | mk result w' =>
        cases result with
        | error e => rfl
        | ok rotated => exact idle rotated w'
  rw [left]
  generalize storeEq : w.store = after at sighting
  cases sighting with
  | added unknown tokens cards identities answer => exact absurd (answer _ rfl) isOld
  | known member identity answer =>
      obtain ⟨rfl, rfl⟩ := answer _ rfl
      have identityEq := (hasIdentity_iff.mp identity).2
      subst storeEq
      exact handles_rotation submits distinct allowed known same member identityEq keyNe

/-- The look-up of a device leaves the cards, registers it or rotates its key. -/
theorem handles_lookUpDevice (submits : st.Submits s ids request tenant)
    (distinct : before.Distinct given) (fresh : ids.device ∉ given) :
    st.Handles s (ids.device :: given) before
      ((s.lookUpDevice ids.device tenant request).run (st.world before)).2.store := by
  have met := (st.world before).sameCards_met
    (.getOrCreate (request.candidate ids.device tenant st.now))
  have sighting : Store.Sighting _ (request.candidate ids.device tenant st.now) _ :=
    (distinct.of_sameCards met).sighting fresh
  unfold Admission.lookUpDevice
  rw [Action.run_bind_ok (Action.run_now (st.world before))]
  change st.Handles s _ before (Action.run ((s.call (.getOrCreate
    (request.candidate ids.device tenant st.now))) >>= _) (st.world before)).2.store
  cases known : (s.call (.getOrCreate (request.candidate ids.device tenant st.now))).run
      (st.world before) with
  | mk result w =>
      cases Action.called_of_run known with
      | stopped left =>
          rw [Action.run_bind_error known]
          apply handles_of_sameCards (distinct.mono fun id member => List.mem_cons_of_mem _ member)
          rw [left]
          exact met
      | failed answer =>
          rw [Action.run_bind_error known]
          rw [answer] at sighting
          exact handles_getOrCreate submits distinct fresh met sighting
      | @answered found w answer =>
          rw [answer] at sighting
          have handles := handles_getOrCreate submits distinct fresh met sighting
          rw [Action.run_bind_ok known]
          obtain ⟨d, created⟩ := found
          by_cases done : created = true ∨ Text.trim d.publicKey = Text.trim request.publicKey
          · simp only [done, if_true]
            exact handles
          · simp only [done, if_false]
            split
            · exact handles
            · rename_i free
              obtain ⟨isOld, keyNe⟩ := not_or.mp done
              have allowed : s.allowKeyRotation = true := by simpa using (not_or.mp free).1
              apply (handles_known submits distinct allowed met isOld keyNe known sighting ?_).mono
              · exact fun id member => List.mem_cons_of_mem _ member
              · intro rotated v
                cases rotated <;> rfl

/-! ## The whole step -/

theorem kind_perform (st : Step) (s : Admission) (store : Store) :
    ((s.perform st.operation).run (st.world store)).2.store.kind = store.kind := by
  have kept := (s.makes_perform st.operation st.now st.wallSeconds).invariant (w := st.world store)
    (I := fun v => (v.now = st.now ∧ v.wallSeconds = st.wallSeconds) ∧ v.store.kind = store.kind)
    (fun v holds => holds.1) ?_ ⟨⟨rfl, rfl⟩, rfl⟩
  · exact kept.2
  · rintro limit γ c - v ⟨clocks, same⟩
    have before := (v.sameCards_met c).kind.trans same
    refine ⟨clocks, ?_⟩
    rcases Action.store_call limit c v with left | left
    · rw [left]
      exact before
    · rw [left, Store.kind_run]
      exact before

theorem handles_submit {body : Bytes} {signature : Option String}
    (operation : st.operation = .submit ids body signature) (distinct : before.Distinct given)
    (fresh : ids.device ∉ given) :
    st.Handles s (ids.device :: given) before
      ((s.perform (.submit ids body signature)).run (st.world before)).2.store := by
  simp only [Admission.perform, Action.run_map_snd]
  unfold Admission.grant
  rw [Action.run_bind_ok (Action.run_wallSeconds (st.world before)), Action.run_bind,
    Action.run_ofExcept]
  cases checked : s.check (st.world before).wallSeconds body signature with
  | error e =>
      apply handles_of_sameCards (distinct.mono fun id member => List.mem_cons_of_mem _ member)
      exact .refl before
  | ok result =>
      obtain ⟨request, tenant⟩ := result
      have handles :=
        handles_lookUpDevice (submits_of_check operation checked) distinct fresh
      dsimp only
      rw [Action.run_bind]
      cases lookedUp : (s.lookUpDevice ids.device tenant request).run (st.world before) with
      | mk result w =>
          rw [lookedUp] at handles
          cases result with
          | error e => exact handles
          | ok d => exact handles.trans_sameCards Authority.spares_issue.sameCards

/-- Whichever calls fail and whatever others do meanwhile, a step with a fresh id for a device
handles the cards so. -/
theorem handles_perform (st : Step) (s : Admission) (distinct : before.Distinct given)
    (fresh : ∀ id, st.operation.deviceId? = some id → id ∉ given) :
    st.Handles s (st.operation.deviceId?.toList ++ given) before
      ((s.perform st.operation).run (st.world before)).2.store := by
  cases deviceEq : st.operation.deviceId? with
  | none =>
      have spares : (s.perform st.operation).Makes (fun _ c => c.sparesCards = true)
          (st.world before).now (st.world before).wallSeconds := Admission.spares_perform deviceEq
      exact handles_of_sameCards distinct spares.sameCards
  | some id =>
      have unused := fresh id deviceEq
      cases operation : st.operation with
      | submit ids body signature =>
          rw [operation] at deviceEq
          cases deviceEq
          exact handles_submit operation distinct unused
      | _ =>
          rw [operation] at deviceEq
          cases deviceEq

end Step

namespace Run

variable {s : Admission} {kind : StoreKind} {r : Run}

/-- The id for a device that a run is given at last is not among those before. -/
theorem fresh_of_nodup {st : Step} (fresh : (deviceIds (r.next s st).past).Nodup) :
    (∀ id, st.operation.deviceId? = some id → id ∉ deviceIds r.past) ∧
      (deviceIds r.past).Nodup := by
  rw [next, deviceIds_cons] at fresh
  refine ⟨?_, fresh.of_append_right⟩
  intro id given used
  rw [given, Option.toList_some] at fresh
  exact (List.nodup_cons.mp fresh).1 used

/-- The devices of every run whose ids are fresh can be told apart. -/
theorem Reached.distinct (reached : r.Reached s kind) (fresh : (deviceIds r.past).Nodup) :
    r.store.Distinct (deviceIds r.past) := by
  induction reached with
  | start => exact Store.distinct_empty kind
  | @step r before st ih =>
      obtain ⟨unused, earlier⟩ := fresh_of_nodup fresh
      have handles := st.handles_perform s (ih earlier) unused
      rw [next, deviceIds_cons]
      exact handles.distinct
  | rearranged before order ih => exact (ih fresh).of_sameCards order.sameDevices.sameCards

theorem Reached.kind_eq (reached : r.Reached s kind) : r.store.kind = kind := by
  induction reached with
  | start => cases kind <;> rfl
  | step before st ih => exact (st.kind_perform s _).trans ih
  | rearranged before order ih => exact order.sameDevices.kind.trans ih

end Run

/-! ## First keys -/

/-- Whether an event neither accepts the device with the tenant and id nor lets others do so between
its calls. An acceptance that fails accepts nothing. -/
structure Event.Withholds (e : Event) (tenant : Tenant) (deviceId : String) : Prop where
  failed : e.step.operation = .setStatus tenant deviceId .accepted → ∃ f, e.reply = .error f
  interference : Withheld tenant deviceId e.step.interference

/-- Whether an event submitted the request with the key by which the device of an entry was seen
first. -/
def Event.Introduces (ev : Event) (s : Admission) (kind : StoreKind) (f : DeviceEntry)
    (key : String) : Prop :=
  ∃ ids request, ev.step.Submits s ids request f.tenant ∧ ids.device = f.id ∧
    request.identityData = f.identityData ∧ request.publicKey = key ∧
    f.createdAt = kind.kept 5 ev.step.now

theorem Event.Introduces.of_card {ev : Event} {s : Admission} {kind : StoreKind}
    {e f : DeviceEntry} {key : String} (introduces : ev.Introduces s kind e key)
    (cardEq : { e.card with publicKey := f.publicKey } = f.card) :
    ev.Introduces s kind f key := by
  obtain ⟨ids, request, submits, idEq, dataEq, keyEq, created⟩ := introduces
  have tenantEq : e.tenant = f.tenant := congrArg DeviceCard.tenant cardEq
  have sameId : e.id = f.id := congrArg DeviceCard.id cardEq
  have sameData : e.identityData = f.identityData := congrArg DeviceCard.identityData cardEq
  have sameTime : e.createdAt = f.createdAt := congrArg DeviceCard.createdAt cardEq
  exact ⟨ids, request, tenantEq ▸ submits, idEq.trans sameId, dataEq.trans sameData, keyEq,
    sameTime ▸ created⟩

/-- Where the card of a device comes from that a step leaves. -/
inductive Step.CardOrigin (st : Step) (s : Admission) (before : Store) (f : DeviceEntry) :
    Prop where
  | kept {e : DeviceEntry} (member : e ∈ before.devices) (card : e.card = f.card)
  | registered {ids : FreshIds} {request : AuthRequest}
      (submits : st.Submits s ids request f.tenant)
      (card : f.card = before.kind.card (request.candidate ids.device f.tenant st.now))
  | rotated {e : DeviceEntry} (member : e ∈ before.devices)
      (card : { e.card with publicKey := f.publicKey } = f.card)
      (accepted : Withheld f.tenant f.id st.interference → ¬before.Barred f.tenant f.id)

namespace Step

variable {st : Step} {s : Admission} {before after : Store} {f : DeviceEntry}

/-- A device that nobody accepts meanwhile is not accepted when the write of a key gets to it. -/
theorem barred_met {ids : FreshIds} {request : AuthRequest} {tenant other : Tenant}
    {deviceId key : String} {now : Instant} {a : Device × Bool} {w : World} {id : String}
    (known : (s.call (.getOrCreate (request.candidate ids.device tenant st.now))).run
      (st.world before) = (.ok a, w))
    (withheld : Withheld other deviceId st.interference)
    (barred : before.Barred other deviceId) :
    (w.met (.rotateKey tenant id key now)).Barred other deviceId := by
  have called : ((s.call (.getOrCreate (request.candidate ids.device tenant st.now))).run
      (st.world before)).2.store.Barred other deviceId := by
    apply Action.barred_call (w := st.world before) barred withheld
    · rintro d ⟨⟩ ⟨⟩
    · rintro - ⟨⟩
  have sameInterference : st.interference = w.interference :=
    congrArg (fun r => r.2.interference) known
  rw [known] at called
  exact called.writes ((sameInterference ▸ withheld) w.calls _)

theorem KeyChange.cardOrigin (change : st.KeyChange s before after)
    (member : f ∈ after.devices) : st.CardOrigin s before f := by
  have inCards : f.card ∈ after.cards := List.mem_map_of_mem member
  cases change with
  | none same =>
      rw [same.cards] at inCards
      rcases List.mem_map.mp inCards with ⟨e, eMem, cardEq⟩
      exact .kept eMem cardEq
  | @registered ids request tenant submits unknown cards =>
      rcases List.mem_cons.mp (cards.mem_iff.mp inCards) with new | old
      · have tenantEq : f.tenant = tenant := congrArg DeviceCard.tenant new
        subst tenantEq
        exact .registered submits new
      · rcases List.mem_map.mp old with ⟨e, eMem, cardEq⟩
        exact .kept eMem cardEq
  | @rotated ids request tenant d e w w' submits allowed known set first tenantEq identityEq
      accepted keyNe rekeys last =>
      rw [last.cards, Store.cards, rekeys.devices, changeWhere, List.map_map] at inCards
      rcases List.mem_map.mp inCards with ⟨g, gMem, cardEq⟩
      have gCard : g.card ∈ before.cards := first.cards ▸ List.mem_map_of_mem gMem
      rcases List.mem_map.mp gCard with ⟨e₀, e₀Mem, sameCard⟩
      simp only [Function.comp] at cardEq
      by_cases isIt : g.isDevice e.tenant e.id = true
      · rw [if_pos isIt] at cardEq
        rw [rekeys.only g gMem isIt] at cardEq sameCard
        have fTenant : e.tenant = f.tenant := congrArg DeviceCard.tenant cardEq
        have fId : e.id = f.id := congrArg DeviceCard.id cardEq
        have keyEq : request.publicKey = f.publicKey := congrArg DeviceCard.publicKey cardEq
        refine .rotated e₀Mem ?_ ?_
        · rw [sameCard, ← keyEq]
          exact cardEq
        · intro withheld barred
          have eBarred := barred_met known withheld barred e rekeys.member
          rw [Store.isAccepted_iff.mpr ⟨⟨fTenant, fId⟩, accepted⟩] at eBarred
          cases eBarred
      · rw [if_neg isIt] at cardEq
        exact .kept e₀Mem (sameCard.trans cardEq)

end Step

namespace Store

/-- An acceptance that fails leaves an unaccepted device so. -/
theorem barred_of_setStatus_error {s : Admission} {w w' : World} {tenant : Tenant}
    {deviceId : String} {failure : Failure} (barred : w.store.Barred tenant deviceId)
    (withheld : Withheld tenant deviceId w.interference)
    (ran : (s.setStatus tenant deviceId .accepted).run w = (.error failure, w')) :
    w'.store.Barred tenant deviceId := by
  have met : (w.met (.updateStatus tenant deviceId .accepted w.now)).Barred tenant deviceId :=
    barred.writes (withheld w.calls _)
  unfold Admission.setStatus at ran
  rw [Action.run_bind_ok (Action.run_now w)] at ran
  cases set : (s.call (.updateStatus tenant deviceId .accepted w.now)).run w with
  | mk result w₁ =>
      have called := Action.called_of_run set
      cases result with
      | error e =>
          rw [Action.run_bind_error set] at ran
          cases ran
          cases called with
          | stopped left => exact left ▸ met
          | failed answer =>
              have answered := run_updateStatus (w.met (.updateStatus tenant deviceId .accepted
                w.now)) tenant deviceId .accepted w.now
              rw [answer] at answered
              cases answered
      | ok known =>
          rw [Action.run_bind_ok set] at ran
          cases known with
          | true => cases ran
          | false =>
              cases ran
              cases called with
              | answered answer =>
                  have answered := run_updateStatus (w.met (.updateStatus tenant deviceId .accepted
                    w.now)) tenant deviceId .accepted w.now
                  have devices := devices_updateStatus (w.met (.updateStatus tenant deviceId
                    .accepted w.now)) tenant deviceId .accepted w.now
                  rw [answer] at answered devices
                  have absent := List.any_eq_false.mp (Except.ok.inj answered).symm
                  rw [changeWhere_eq_self fun e member => Bool.not_eq_true _ ▸ absent e member]
                    at devices
                  intro e member
                  exact met e (devices ▸ member)

end Store

namespace Run

variable {s : Admission} {kind : StoreKind} {r : Run} {tenant : Tenant} {deviceId : String}

/-- A device that is not accepted stays so over an event that withholds it. -/
theorem barred_of_withholds {st : Step} {reply : Except Failure Reply}
    (replied : ((s.perform st.operation).run (st.world r.store)).1 = reply)
    (withholds : Event.Withholds ⟨st, reply⟩ tenant deviceId)
    (barred : r.store.Barred tenant deviceId) : (r.next s st).store.Barred tenant deviceId := by
  by_cases accepts : st.operation = .setStatus tenant deviceId .accepted
  · obtain ⟨failure, failed⟩ := withholds.failed accepts
    have failed : reply = .error failure := failed
    have ran := Action.run_eq_of_fst (replied.trans failed)
    simp only [next]
    generalize ((s.perform st.operation).run (st.world r.store)).2 = w' at ran ⊢
    simp only [accepts, Admission.perform] at ran
    cases changed : (s.setStatus tenant deviceId .accepted).run (st.world r.store) with
    | mk result w₁ =>
        cases result with
        | ok _ =>
            rw [Action.run_bind_ok changed] at ran
            cases ran
        | error e =>
            rw [Action.run_bind_error changed] at ran
            cases ran
            exact Store.barred_of_setStatus_error (w := st.world r.store) barred
              withholds.interference changed
  · exact barred_next barred ⟨accepts, withholds.interference⟩

/-- Every device was introduced by a submission. It has the key of that one, and is not accepted,
unless it was accepted since. -/
theorem Reached.exists_introduces (reached : r.Reached s kind) (fresh : (deviceIds r.past).Nodup) :
    ∀ f ∈ r.store.devices, ∃ later ev earlier key, r.past = later ++ ev :: earlier ∧
      ev.Introduces s kind f key ∧
      ((∀ x ∈ later ++ [ev], x.Withholds f.tenant f.id) →
        f.publicKey = key ∧ r.store.Barred f.tenant f.id) := by
  induction reached with
  | start =>
      rw [Store.devices_empty]
      rintro f ⟨⟩
  | @step r before st ih =>
      obtain ⟨unused, earlierFresh⟩ := fresh_of_nodup fresh
      have distinct := before.distinct earlierFresh
      have change := (st.handles_perform s distinct unused).change
      intro f member
      cases change.cardOrigin member with
      | @kept e old cardEq =>
          obtain ⟨later, ev, earlier, key, past, introduces, still⟩ := ih earlierFresh e old
          have tenantEq : e.tenant = f.tenant := congrArg DeviceCard.tenant cardEq
          have idEq : e.id = f.id := congrArg DeviceCard.id cardEq
          have keyEq : e.publicKey = f.publicKey := congrArg DeviceCard.publicKey cardEq
          refine ⟨⟨st, _⟩ :: later, ev, earlier, key, congrArg (List.cons _) past,
            introduces.of_card (keyEq ▸ cardEq), ?_⟩
          intro withholds
          rw [List.cons_append, List.forall_mem_cons] at withholds
          rw [tenantEq, idEq, keyEq] at still
          obtain ⟨isKey, barred⟩ := still withholds.2
          exact ⟨isKey, barred_of_withholds rfl withholds.1 barred⟩
      | @registered ids request submits cardEq =>
          have idEq : f.id = ids.device := congrArg DeviceCard.id cardEq
          have created : f.createdAt = r.store.kind.kept 5 st.now :=
            congrArg DeviceCard.createdAt cardEq
          rw [before.kind_eq] at created
          refine ⟨[], ⟨st, _⟩, r.past, request.publicKey, rfl, ⟨ids, request, submits, idEq.symm,
            (congrArg DeviceCard.identityData cardEq).symm, rfl, created⟩, ?_⟩
          intro withholds
          refine ⟨congrArg DeviceCard.publicKey cardEq, ?_⟩
          apply barred_of_withholds rfl (withholds _ List.mem_cons_self)
          have unknown := distinct.id_ne (unused ids.device submits.deviceId?)
          intro e eMem
          apply Store.isAccepted_of_not_isDevice
          cases isIt : e.isDevice f.tenant f.id with
          | false => rfl
          | true => exact absurd ((isDevice_iff.mp isIt).2.trans idEq) (unknown e eMem)
      | @rotated e old cardEq accepted =>
          obtain ⟨later, ev, earlier, key, past, introduces, still⟩ := ih earlierFresh e old
          have tenantEq : e.tenant = f.tenant := congrArg DeviceCard.tenant cardEq
          have idEq : e.id = f.id := congrArg DeviceCard.id cardEq
          refine ⟨⟨st, _⟩ :: later, ev, earlier, key, congrArg (List.cons _) past,
            introduces.of_card cardEq, ?_⟩
          intro withholds
          rw [List.cons_append, List.forall_mem_cons] at withholds
          rw [tenantEq, idEq] at still
          exact absurd (still withholds.2).2 (accepted withholds.1.interference)
  | rearranged before order ih =>
      intro f member
      rw [order.sameDevices.devices] at member
      obtain ⟨later, ev, earlier, key, past, introduces, still⟩ := ih fresh f member
      refine ⟨later, ev, earlier, key, past, introduces, fun withholds => ?_⟩
      obtain ⟨isKey, barred⟩ := still withholds
      refine ⟨isKey, fun e eMem => barred e ?_⟩
      rw [← order.sameDevices.devices]
      exact eMem

/-! ## Main statement -/

/-- What becomes of the keys of devices in every run whose ids for devices are fresh, whichever
calls fail and whatever statuses others set meanwhile. A step leaves all keys, unless it registers a
device with the key of its request or rotates the key of one accepted device that its request is of.
And a device has the key of the submission that introduced it unless it was accepted since. -/
theorem Reached.key_of_device (reached : r.Reached s kind) (fresh : (deviceIds r.past).Nodup) :
    (∀ st : Step, (deviceIds (r.next s st).past).Nodup →
        st.KeyChange s r.store (r.next s st).store) ∧
      ∀ f ∈ r.store.devices, ∃ later ev earlier key, r.past = later ++ ev :: earlier ∧
        ev.Introduces s kind f key ∧
        ((∀ x ∈ later ++ [ev], x.Withholds f.tenant f.id) → f.publicKey = key) := by
  constructor
  · intro st freshNext
    have unused := (fresh_of_nodup freshNext).1
    exact (st.handles_perform s (reached.distinct fresh) unused).change
  · intro f member
    obtain ⟨later, ev, earlier, key, past, introduces, still⟩ :=
      reached.exists_introduces fresh f member
    exact ⟨later, ev, earlier, key, past, introduces, fun withholds => (still withholds).1⟩

end Run

namespace Sample

/-- The service of the sample, with rotation of keys. -/
def rotating : Admission :=
  { admission with allowKeyRotation := true }

/-- The device of the sample is registered and then accepted. -/
def trusted (kind : StoreKind) : Run :=
  let first : Run := ⟨.empty kind, []⟩
  let second := first.next rotating
    (step (.submit ⟨"d", "t0"⟩ body (some "IA==")) 110 (by decide))
  second.next rotating (step (.setStatus .default "d" .accepted) 111 (by decide))

/-- A request of the device of the sample with another key. -/
def otherBody : Bytes :=
  Utf8.encode "\x7b\"id_data\":\"mac\",\"pubkey\":\"other\"\x7d"

/-- The device submits its request with another key. -/
def renewal : Step :=
  step (.submit ⟨"e", "t1"⟩ otherBody (some "Ig==")) 112 (by decide)

/-- The key of the sample's device is the one of its first request until it is accepted and submits
another one. -/
theorem key_of_renewed : renewal.KeyChange rotating (trusted .tables).store
      ((trusted .tables).next rotating renewal).store ∧
    (trusted .tables).store.cards.map DeviceCard.publicKey = ["key"] ∧
    ((trusted .tables).next rotating renewal).store.cards.map DeviceCard.publicKey =
      ["other"] := by
  have reached : (trusted .tables).Reached rotating .tables := (Run.Reached.start.step _).step _
  obtain ⟨change, -⟩ := reached.key_of_device (by decide +kernel)
  exact ⟨change renewal (by decide +kernel), by decide +kernel, by decide +kernel⟩

end Sample

end DeviceAdmission
