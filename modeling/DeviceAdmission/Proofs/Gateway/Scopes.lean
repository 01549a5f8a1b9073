import DeviceAdmission.Proofs.Gateway.Refusals
import DeviceAdmission.Proofs.Service.Retention
import DeviceAdmission.Proofs.Text.Utf8

/-!
# The tenant that a caller names

A device names its tenant in its request, and whoever manages the device names it in a header. Where
tenant tokens are passed through, a token is the name of the tenant as it stands. Blanks around the
name in the header are not part of it. So whoever manages a device by the name that the device gave
gets to it unless a space stands before or behind that name; then the device is out of reach.
-/

namespace DeviceAdmission

/-! ## Names -/

namespace Text

variable {s : String}

/-- Whether a text is made of visible ASCII characters and spaces. -/
def IsVisible (s : String) : Prop :=
  ∀ c ∈ s.toList, 32 ≤ c.toNat ∧ c.toNat < 127

instance (s : String) : Decidable (IsVisible s) :=
  List.decidableBAll (fun c : Char => 32 ≤ c.toNat ∧ c.toNat < 127) s.toList

/-- Whether a space stands at the beginning or at the end of a text. -/
def IsPadded (s : String) : Prop :=
  s.toList.head? = some ' ' ∨ s.toList.getLast? = some ' '

instance (s : String) : Decidable (IsPadded s) :=
  inferInstanceAs (Decidable (s.toList.head? = some ' ' ∨ s.toList.getLast? = some ' '))

/-- Such a text is left by trimming unless a space stands around it. -/
theorem trim_eq_self_iff (visible : IsVisible s) : trim s = s ↔ ¬IsPadded s := by
  have chars : trim s = s ↔ trimChars s.toList = s.toList := by
    rw [trim, ← String.toList_inj, String.toList_ofList]
  have blank : isBlank ' ' = true := by decide
  have atEnd : ∀ o : Option Char, (∀ c, o = some c → c ∈ s.toList) →
      ((∀ c, o = some c → isBlank c = false) ↔ ¬o = some ' ') := by
    intro o members
    constructor
    · intro filled space
      rw [filled ' ' space] at blank
      cases blank
    · intro other c found
      obtain ⟨least, most⟩ := visible c (members c found)
      have code : c.toNat ≠ 32 := by
        intro same
        have space : c = ' ' := Char.toNat_inj.mp same
        exact other (space ▸ found)
      exact isBlank_of_visible (by omega) most
  rw [chars, trimChars_eq_self_iff, IsPadded, not_or]
  exact and_congr (atEnd _ fun _ => List.mem_of_head?) (atEnd _ fun _ => List.mem_of_getLast?)

end Text

/-- Such a text is read back from a header. -/
theorem Http.headerText?_encode {s : String} (visible : Text.IsVisible s) :
    headerText? (Utf8.encode s) = some s := by
  have small : ∀ c ∈ s.toList, c.toNat < 128 := fun c member =>
    Nat.lt_succ_of_lt (visible c member).2
  have bytes : ∀ c ∈ s.toList, (UInt8.ofNat c.toNat).toNat = c.toNat := fun c member =>
    Utf8.toNat_ascii (small c member)
  have readable : (Utf8.ascii s.toList).all (fun b => b = 9 || (32 ≤ b && b < 127)) = true := by
    rw [Utf8.ascii, List.all_map, List.all_eq_true]
    intro c member
    have least : (32 : UInt8) ≤ UInt8.ofNat c.toNat := by
      rw [UInt8.le_iff_toNat_le, bytes c member]
      exact (visible c member).1
    have most : UInt8.ofNat c.toNat < 127 := by
      rw [UInt8.lt_iff_toNat_lt, bytes c member]
      exact (visible c member).2
    simp [least, most]
  have chars : (Utf8.ascii s.toList).map (fun b => Char.ofNat b.toNat) = s.toList := by
    rw [Utf8.ascii, List.map_map]
    conv => rhs; rw [← List.map_id s.toList]
    apply List.map_congr_left
    intro c member
    rw [Function.comp_apply, bytes c member, Char.ofNat_toNat]
    rfl
  rw [Utf8.encode_eq_ascii small, headerText?, if_pos readable, chars, String.ofList_toList]

/-- A request whose management header is a name of such characters is about the tenant with that
name, without the spaces around it. -/
theorem GatewaySettings.tenant_of_header {settings : GatewaySettings} {q : Http.Request}
    {name : String} (visible : Text.IsVisible name)
    (header : q.header? settings.managementHeader = some (Utf8.encode name)) :
    settings.tenant q = .ok ⟨Text.trim name⟩ := by
  simp only [tenant, header, Http.headerText?_encode visible]

/-! ## The device of a submission -/

/-- A step submits one request, for one tenant. -/
theorem Step.Submits.unique {st : Step} {s : Admission} {ids ids' : FreshIds}
    {request request' : AuthRequest} {tenant tenant' : Tenant}
    (first : st.Submits s ids request tenant) (second : st.Submits s ids' request' tenant') :
    request' = request ∧ tenant' = tenant := by
  obtain ⟨body, signature, _, operation, decoded, -, -, -, resolved⟩ := first
  obtain ⟨body', signature', _, operation', decoded', -, -, -, resolved'⟩ := second
  rw [operation] at operation'
  cases operation'
  rw [decoded] at decoded'
  cases decoded'
  rw [resolved] at resolved'
  cases resolved'
  exact ⟨rfl, rfl⟩

/-- Where tenant tokens are passed through, the tenant of a submission has the name that its token
is. -/
theorem Step.Submits.tenant_of_passthrough {st : Step} {s : Admission} {ids : FreshIds}
    {request : AuthRequest} {tenant : Tenant} (submits : st.Submits s ids request tenant)
    (passes : s.tenants = .passthrough) : tenant = ⟨request.tenantToken.getD ""⟩ := by
  obtain ⟨_, _, _, -, -, -, -, -, resolved⟩ := submits
  rw [passes] at resolved
  exact (Except.ok.inj resolved).symm

namespace Run

variable {s : Admission} {kind : StoreKind} {r : Run} {st : Step} {ids : FreshIds}
variable {request : AuthRequest} {tenant : Tenant} {e : DeviceEntry}

/-- The device that a submission registers belongs to the tenant of the request. -/
theorem Reached.tenant_of_submits (reached : r.Reached s kind)
    (fresh : (deviceIds (r.next s st).past).Nodup) (submits : st.Submits s ids request tenant)
    (member : e ∈ (r.next s st).store.devices) (idEq : e.id = ids.device) :
    e.tenant = tenant := by
  obtain ⟨unused, earlier⟩ := fresh_of_nodup fresh
  have distinct := reached.distinct earlier
  have notOld : ∀ f ∈ r.store.devices, f.id ≠ e.id := by
    rw [idEq]
    exact distinct.id_ne (unused ids.device submits.deviceId?)
  cases (st.handles_perform s distinct unused).change.cardOrigin member with
  | registered submits' card => exact (submits.unique submits').2
  | kept old card => exact absurd (congrArg DeviceCard.id card) (notOld _ old)
  | rotated old card accepted => exact absurd (congrArg DeviceCard.id card) (notOld _ old)

end Run

/-! ## Requests about a device -/

/-- Whether a request asks for the device with an id. -/
structure Http.Request.Fetches (q : Http.Request) (id : String) : Prop where
  method : q.method = "GET"
  target : ∃ segment, Endpoint.ofTarget? (.ofText q.target) = some (.device segment) ∧
    pathId segment = .ok id

/-- Whether a request sets the status of the device with an id. -/
structure Http.Request.SetsStatus (q : Http.Request) (id : String) (status : DeviceStatus) :
    Prop where
  method : q.method = "PUT"
  target : ∃ segment, Endpoint.ofTarget? (.ofText q.target) = some (.deviceStatus segment) ∧
    pathId segment = .ok id
  small : q.body.length ≤ maxBody
  status : statusOfBody q.body = .ok status

namespace Command

variable {settings : GatewaySettings} {q : Http.Request} {id : String} {tenant : Tenant}

theorem ofRequest_of_fetches (fetches : q.Fetches id) (known : settings.tenant q = .ok tenant) :
    ofRequest settings q = .ok (.getDevice tenant id) := by
  obtain ⟨segment, names, read⟩ := fetches.target
  have takes : q.method ∈ (Endpoint.device segment).methods := by
    rw [fetches.method]
    exact List.mem_cons_self
  rw [ofRequest_eq settings names takes]
  simp only [ofEndpoint, known, read]
  rfl

theorem ofRequest_of_setsStatus {status : DeviceStatus} (sets : q.SetsStatus id status)
    (known : settings.tenant q = .ok tenant) :
    ofRequest settings q = .ok (.setStatus tenant id status) := by
  obtain ⟨segment, names, read⟩ := sets.target
  have takes : q.method ∈ (Endpoint.deviceStatus segment).methods := by
    rw [sets.method]
    exact List.mem_cons_self
  rw [ofRequest_eq settings names takes]
  simp only [ofEndpoint, known, read, wholeBody, if_pos sets.small]
  change ((refused (requestId? q) (statusOfBody q.body)).bind fun status =>
    pure (setStatus tenant id status)) = _
  rw [sets.status]
  rfl

end Command

namespace Gateway

variable {g : Gateway} {ids : FreshIds} {q : Http.Request} {w : World} {given : List String}
variable {tenant : Tenant} {id : String} {status : DeviceStatus} {e : DeviceEntry}

theorem handle_of_ofRequest {command : Command}
    (read : Command.ofRequest g.settings q = .ok command) :
    g.handle ids q w = (send q.method (g.perform ids (requestId? q) command w).1,
      (g.perform ids (requestId? q) command w).2) := by
  rw [handle, read]

/-- What is not found is answered so, and the store is left. -/
theorem answer_of_deviceNotFound {α : Type} {x : Action α}
    (ends : x.Ends w.now w.wallSeconds w.store (.error .deviceNotFound) w.store)
    (calm : w.IsCalm) (id? : Option String) (write : α → Http.Response) :
    (answer id? x write w).1.status = 404 ∧ (answer id? x write w).2.store = w.store := by
  obtain ⟨told, left⟩ := answer_of_ends_error ends calm id? write
  rw [told]
  exact ⟨rfl, left⟩

/-- A device is shown to who asks for it under its tenant. -/
theorem handle_fetches {d : Device} (calm : w.IsCalm) (distinct : w.store.Distinct given)
    (member : d.entry ∈ w.store.devices) (fetches : q.Fetches d.id)
    (known : g.settings.tenant q = .ok d.tenant) :
    (g.handle ids q w).1 = (Http.Response.ofJson 200 d.json).sized := by
  have answer := Store.run_getDevice_of_uniqueId distinct.uniqueId member
  have ends : (g.service.getDevice d.tenant d.id).Ends w.now w.wallSeconds w.store (.ok d)
      w.store := (Action.ends_call answer).bind (Action.ends_pure d w.store)
  rw [handle_of_ofRequest (Command.ofRequest_of_fetches fetches known)]
  simp only [perform]
  rw [(answer_of_ends ends calm (requestId? q) _).1, send, fetches.method, if_neg (by decide)]

/-- A device that is asked for under another tenant is not found. -/
theorem handle_fetches_absent (calm : w.IsCalm)
    (absent : ∀ e ∈ w.store.devices, e.isDevice tenant id = false) (fetches : q.Fetches id)
    (known : g.settings.tenant q = .ok tenant) :
    (g.handle ids q w).1.status = 404 ∧ (g.handle ids q w).2.store = w.store := by
  have ends : (g.service.getDevice tenant id).Ends w.now w.wallSeconds w.store
      (.error .deviceNotFound) w.store :=
    (Action.ends_call (Store.run_getDevice_none absent)).bind
      (Action.ends_fail .deviceNotFound w.store)
  rw [handle_of_ofRequest (Command.ofRequest_of_fetches fetches known)]
  simp only [perform, status_send]
  exact answer_of_deviceNotFound ends calm _ _

/-- The status of a device is set by who asks for it under its tenant. -/
theorem handle_setsStatus (calm : w.IsCalm) (member : e ∈ w.store.devices)
    (sets : q.SetsStatus e.id status) (known : g.settings.tenant q = .ok e.tenant) :
    (g.handle ids q w).1.status = 204 ∧
      ∃ f ∈ (g.handle ids q w).2.store.devices,
        f.id = e.id ∧ f.tenant = e.tenant ∧ f.status = .ok status := by
  have isIt : e.isDevice e.tenant e.id = true := DeviceEntry.isDevice_iff.mpr ⟨rfl, rfl⟩
  obtain ⟨s', ends, devices⟩ := g.service.exists_ends_setStatus_known status w.now
    w.wallSeconds (List.any_eq_true.mpr ⟨e, member, isIt⟩)
  obtain ⟨told, left⟩ := answer_of_ends ends calm (requestId? q) fun _ => .bare 204
  rw [handle_of_ofRequest (Command.ofRequest_of_setsStatus sets known)]
  simp only [perform, status_send]
  rw [told, left, devices]
  refine ⟨rfl, DeviceEntry.withStatus status (w.store.kind.kept 6 w.now) e, ?_, rfl, rfl, rfl⟩
  exact List.mem_map.mpr ⟨e, member, if_pos isIt⟩

/-- The status of a device is not set by who asks for it under another tenant. -/
theorem handle_setsStatus_absent (calm : w.IsCalm)
    (absent : ∀ e ∈ w.store.devices, e.isDevice tenant id = false)
    (sets : q.SetsStatus id status) (known : g.settings.tenant q = .ok tenant) :
    (g.handle ids q w).1.status = 404 ∧ (g.handle ids q w).2.store = w.store := by
  have none : w.store.devices.any (DeviceEntry.isDevice tenant id) = false := by
    rw [List.any_eq_false]
    intro e member
    rw [absent e member]
    exact Bool.false_ne_true
  have ends := g.service.ends_setStatus_unknown status w.now w.wallSeconds none
  rw [handle_of_ofRequest (Command.ofRequest_of_setsStatus sets known)]
  simp only [perform, status_send]
  exact answer_of_deviceNotFound ends calm _ _

/-! ## The name in the header -/

/-- Whether a device is reached by the name in the header: it is shown to who asks for it, where its
record is readable, and takes the status that is set. -/
structure Reaches (g : Gateway) (w : World) (name : String) (e : DeviceEntry) : Prop where
  shown {ids : FreshIds} {q : Http.Request} {d : Device}
    (header : q.header? g.settings.managementHeader = some (Utf8.encode name))
    (fetches : q.Fetches e.id) (readable : e = d.entry) :
    (g.handle ids q w).1 = (Http.Response.ofJson 200 d.json).sized
  set {ids : FreshIds} {q : Http.Request} {status : DeviceStatus}
    (header : q.header? g.settings.managementHeader = some (Utf8.encode name))
    (sets : q.SetsStatus e.id status) :
    (g.handle ids q w).1.status = 204 ∧
      ∃ f ∈ (g.handle ids q w).2.store.devices,
        f.id = e.id ∧ f.tenant = e.tenant ∧ f.status = .ok status

/-- Whether a device is missed by the name in the header: who asks for it or sets its status is
answered that there is no such device, and nothing changes. -/
structure Misses (g : Gateway) (w : World) (name : String) (e : DeviceEntry) : Prop where
  hidden {ids : FreshIds} {q : Http.Request}
    (header : q.header? g.settings.managementHeader = some (Utf8.encode name))
    (fetches : q.Fetches e.id) :
    (g.handle ids q w).1.status = 404 ∧ (g.handle ids q w).2.store = w.store
  unset {ids : FreshIds} {q : Http.Request} {status : DeviceStatus}
    (header : q.header? g.settings.managementHeader = some (Utf8.encode name))
    (sets : q.SetsStatus e.id status) :
    (g.handle ids q w).1.status = 404 ∧ (g.handle ids q w).2.store = w.store

section Named

variable {name : String}

/-- A name reaches the devices of its tenant unless a space stands around it. -/
theorem reaches_of_tenant (calm : w.IsCalm) (distinct : w.store.Distinct given)
    (member : e ∈ w.store.devices) (tenantEq : e.tenant = ⟨name⟩) (visible : Text.IsVisible name)
    (unpadded : ¬Text.IsPadded name) : g.Reaches w name e := by
  have known {q : Http.Request}
      (header : q.header? g.settings.managementHeader = some (Utf8.encode name)) :
      g.settings.tenant q = .ok e.tenant := by
    rw [GatewaySettings.tenant_of_header visible header, tenantEq,
      (Text.trim_eq_self_iff visible).mpr unpadded]
  constructor
  · rintro ids q d header fetches rfl
    exact handle_fetches calm distinct member fetches (known header)
  · intro ids q status header sets
    exact handle_setsStatus calm member sets (known header)

/-- With a space around it, a name is the one of another tenant in the header. -/
theorem misses_of_tenant (calm : w.IsCalm) (distinct : w.store.Distinct given)
    (member : e ∈ w.store.devices) (tenantEq : e.tenant = ⟨name⟩) (visible : Text.IsVisible name)
    (padded : Text.IsPadded name) : g.Misses w name e := by
  have other : Text.trim name ≠ name := fun same =>
    (Text.trim_eq_self_iff visible).mp same padded
  have absent : ∀ f ∈ w.store.devices, f.isDevice ⟨Text.trim name⟩ e.id = false := by
    intro f fMem
    rw [Bool.eq_false_iff]
    intro isIt
    obtain ⟨tenant, idEq⟩ := DeviceEntry.isDevice_iff.mp isIt
    rw [distinct.eq_of_id fMem member idEq, tenantEq] at tenant
    exact other (congrArg Tenant.name tenant).symm
  constructor
  · intro ids q header fetches
    exact handle_fetches_absent calm absent fetches
      (GatewaySettings.tenant_of_header visible header)
  · intro ids q status header sets
    exact handle_setsStatus_absent calm absent sets
      (GatewaySettings.tenant_of_header visible header)

end Named

/-- Where tenant tokens are passed through, a device that is registered under a tenant token belongs
to the tenant with that name from then on. A management request with the same name in its header
reaches the device unless a space stands at the beginning or the end of the name, and misses it
if one does. -/
theorem reach_of_tenantToken {kind : StoreKind} {r r' : Run} {st : Step} {ids : FreshIds}
    {request : AuthRequest} {tenant : Tenant} {name : String} {w : World}
    (passes : g.service.tenants = .passthrough) (reached : r.Reached g.service kind)
    (submits : st.Submits g.service ids request tenant)
    (registers : ∃ e ∈ (r.next g.service st).store.devices, e.id = ids.device)
    (follows : (r.next g.service st).Follows g.service r') (fresh : (deviceIds r'.past).Nodup)
    (named : request.tenantToken.getD "" = name) (visible : Text.IsVisible name)
    (calm : w.IsCalm) (met : w.store = r'.store) :
    ∃ e ∈ w.store.devices, e.id = ids.device ∧ e.tenant = ⟨name⟩ ∧
      (¬Text.IsPadded name → g.Reaches w name e) ∧ (Text.IsPadded name → g.Misses w name e) := by
  have tenantName := submits.tenant_of_passthrough passes
  rw [named] at tenantName
  obtain ⟨e, member, idEq⟩ := registers
  have distinct := (follows.reached (reached.step st)).distinct fresh
  have tenantEq := reached.tenant_of_submits (follows.nodup_deviceIds fresh) submits member idEq
  obtain ⟨f, fMem, namesEq⟩ := List.mem_map.mp
    (follows.mem_names (reached.step st) fresh (List.mem_map_of_mem member))
  obtain ⟨fIdentity, fIdEq⟩ := Prod.mk.inj namesEq
  rw [← met] at fMem distinct
  have fTenant : f.tenant = ⟨name⟩ := (Prod.mk.inj fIdentity).1.trans (tenantEq.trans tenantName)
  exact ⟨f, fMem, fIdEq.trans idEq, fTenant,
    reaches_of_tenant calm distinct fMem fTenant visible,
    misses_of_tenant calm distinct fMem fTenant visible⟩

end Gateway

namespace Sample

/-- The small service where tenant tokens are passed through, behind a gateway. -/
def passing : Gateway :=
  { gateway with service := { admission with tenants := .passthrough } }

/-- The request of the device with a tenant token. -/
def claiming (name : String) : Bytes :=
  Utf8.encode
    ("\x7b\"id_data\":\"mac\",\"pubkey\":\"key\",\"tenant_token\":\"" ++ name ++ "\"\x7d")

/-- The device is registered under a tenant token of four characters. -/
def claim (name : String) : Step :=
  step (.submit ⟨"d", "t0"⟩ (claiming name) (some "Ng==")) 130 (by decide)

def claimed (name : String) : Run :=
  Run.next ⟨.empty .memory, []⟩ passing.service (claim name)

def afterwards (name : String) : World :=
  World.quiet (claimed name).store (.ofSeconds 140) 140

/-- The device is accepted over HTTP. -/
def approval (tenant : Bytes) : Http.Request where
  method := "PUT"
  target := "/api/management/v1/devauth/devices/d/status"
  headers := [("x-tenant-id", tenant)]
  body := Utf8.encode "\x7b\"status\":\"accepted\"\x7d"

theorem pathId_d : pathId "d" = .ok "d" := by
  have read : Utf8.decode? (Http.Percent.decode (Utf8.encode "d")) = some "d" := by decide +kernel
  rw [pathId, read]

theorem fetches_inquiry (tenant : Bytes) : (inquiry tenant).Fetches "d" := by
  have names : Endpoint.ofTarget? (.ofText "/api/management/v1/devauth/devices/d") =
      some (.device "d") := by decide +kernel
  exact ⟨rfl, "d", names, pathId_d⟩

theorem setsStatus_approval (tenant : Bytes) : (approval tenant).SetsStatus "d" .accepted := by
  have names : Endpoint.ofTarget? (.ofText "/api/management/v1/devauth/devices/d/status") =
      some (.deviceStatus "d") := by decide +kernel
  have small : (approval []).body.length ≤ maxBody := by decide +kernel
  have status : statusOfBody (approval []).body = .ok .accepted := by decide +kernel
  exact ⟨rfl, ⟨"d", names, pathId_d⟩, small, status⟩

/-- A device that is registered under the name of a tenant is accepted by that name. -/
theorem approval_acme :
    (passing.handle ⟨"e", "t"⟩ (approval (Utf8.encode "acme")) (afterwards "acme")).1.status =
      204 := by
  have submits : (claim "acme").Submits passing.service ⟨"d", "t0"⟩ ⟨"mac", "key", some "acme"⟩
      ⟨"acme"⟩ :=
    ⟨claiming "acme", some "Ng==", [54], rfl, by decide +kernel, by decide +kernel,
      by decide +kernel, by decide +kernel, rfl⟩
  obtain ⟨e, -, idEq, -, reaches, -⟩ := Gateway.reach_of_tenantToken (w := afterwards "acme") rfl
    .start submits (by decide +kernel) .refl (by decide +kernel) rfl (by decide +kernel)
    (fun _ _ => rfl) rfl
  have sets : (approval (Utf8.encode "acme")).SetsStatus e.id .accepted := by
    rw [idEq]
    exact setsStatus_approval _
  exact ((reaches (by decide +kernel)).set rfl sets).1

/-- A device that is registered under a name between spaces can neither be seen nor be accepted by
that name. -/
theorem padded_out_of_reach :
    (claim " t1 ").Submits passing.service ⟨"d", "t0"⟩ ⟨"mac", "key", some " t1 "⟩ ⟨" t1 "⟩ ∧
      (∃ e ∈ (afterwards " t1 ").store.devices, e.id = "d" ∧ e.tenant = ⟨" t1 "⟩) ∧
      Text.IsVisible " t1 " ∧
      (inquiry (Utf8.encode " t1 ")).Fetches "d" ∧
      (inquiry (Utf8.encode " t1 ")).header? passing.settings.managementHeader =
        some (Utf8.encode " t1 ") ∧
      (passing.handle ⟨"e", "t"⟩ (inquiry (Utf8.encode " t1 ")) (afterwards " t1 ")).1.status =
        404 ∧
      (approval (Utf8.encode " t1 ")).SetsStatus "d" .accepted ∧
      (approval (Utf8.encode " t1 ")).header? passing.settings.managementHeader =
        some (Utf8.encode " t1 ") ∧
      (passing.handle ⟨"e", "t"⟩ (approval (Utf8.encode " t1 ")) (afterwards " t1 ")).1.status =
        404 :=
  ⟨⟨claiming " t1 ", some "Ng==", [54], rfl, by decide +kernel, by decide +kernel,
      by decide +kernel, by decide +kernel, rfl⟩,
    by decide +kernel, by decide +kernel, fetches_inquiry _, rfl, by decide +kernel,
    setsStatus_approval _, rfl, by decide +kernel⟩

end Sample

end DeviceAdmission
