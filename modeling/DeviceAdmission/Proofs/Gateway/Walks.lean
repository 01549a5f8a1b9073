import DeviceAdmission.Proofs.Gateway.Links
import DeviceAdmission.Proofs.Service.Pages

/-!
# Walks through a listing

A caller walks through a listing by asking for the first page that a link names and then, as long as
there is one, for the page that the link to the next names. Each of these requests is taken, and the
walk ends: what it has been shown is the listing of the tenant. A walk is a relation between the
first request and the responses, so nothing but the links leads it on.
-/

namespace DeviceAdmission

/-- Whether a response shows the page. -/
def Http.Response.Shows (response : Http.Response) (p : Page Device) : Prop :=
  response.status = 200 ∧ response.body = .json (.list (p.items.map Device.json))

/-- The items of a list that a response shows. -/
def Http.Response.items (response : Http.Response) : List Json.Value :=
  match response.body with
  | .json (.list items) => items
  | _ => []

theorem Http.Response.Shows.items {response : Http.Response} {p : Page Device}
    (shows : response.Shows p) : response.items = p.items.map Device.json := by
  rw [Http.Response.items, shows.2]

/-! ## Links of a page -/

namespace PageRequest

variable {q : PageRequest} {maxPerPage : Nat} {all : List Device} {l : PageLink}

end PageRequest

namespace Gateway

variable {g : Gateway} {ids : FreshIds} {w : World} {r : Http.Request} {kind : StoreKind}
variable {tenant : Tenant} {q : PageRequest} {all : List Device}

/-- What is known of a caller of a listing: the sizes of pages, the tenant, and its devices, which
the store can read and an offset can count. -/
structure Listed (g : Gateway) (w : World) (r : Http.Request) (tenant : Tenant)
    (all : List Device) : Prop where
  word : g.settings.maxPerPage ≤ maxWord
  calm : w.IsCalm
  known : g.settings.tenant r = .ok tenant
  get : r.method = "GET"
  listed : w.store.listing tenant = all.map Device.entry
  few : all.length ≤ maxOffset

/-- A request for a page is answered with that page and its links, and leaves the store. -/
theorem Listed.handle_eq (listed : g.Listed w r tenant all) (positive : 1 ≤ q.page)
    (read : Command.ofRequest g.settings r = .ok (.listDevices tenant Endpoint.devicesPath q))
    (ids : FreshIds) : g.handle ids r w =
      ((pageResponse Endpoint.devicesPath (q.cut all)).sized,
        { w with calls := ⟨.listDevices, tenant, none⟩ :: w.calls }) := by
  have few : (w.store.devicesOf tenant).length ≤ maxOffset := by
    rw [← Store.length_listing, listed.listed, List.length_map]
    exact listed.few
  have shown := g.service.listDevices_eq_cut listed.calm few listed.listed positive
  have left := congrArg Prod.snd (g.service.run_listDevices_of_calm listed.calm tenant q few)
  have ran : (g.service.listDevices tenant q).run w =
      (.ok (q.cut all), { w with calls := ⟨.listDevices, tenant, none⟩ :: w.calls }) :=
    Prod.ext shown left
  unfold handle
  rw [read]
  simp only [perform, answer, ran, send, listed.get]
  rfl

theorem Listed.shows (listed : g.Listed w r tenant all) (positive : 1 ≤ q.page)
    (read : Command.ofRequest g.settings r = .ok (.listDevices tenant Endpoint.devicesPath q))
    (ids : FreshIds) : (g.handle ids r w).1.Shows (q.cut all) := by
  rw [listed.handle_eq positive read ids]
  exact ⟨rfl, rfl⟩

theorem Listed.follow (listed : g.Listed w r tenant all) (positive : 1 ≤ q.page)
    (read : Command.ofRequest g.settings r = .ok (.listDevices tenant Endpoint.devicesPath q))
    (ids : FreshIds) (url : String) :
    g.Listed (g.handle ids r w).2 { r with target := url } tenant all := by
  rw [listed.handle_eq positive read ids]
  exact ⟨listed.word, listed.calm, listed.known, listed.get, listed.listed, listed.few⟩

/-- The same caller asks for a page that a link leads to. -/
theorem Listed.ofRequest_eq {r' : Http.Request} {l : PageLink} (listed : g.Listed w r' tenant all)
    (admissible : l.request.IsAdmissible g.settings.maxPerPage)
    (target : r'.target = l.target Endpoint.devicesPath) :
    Command.ofRequest g.settings r' = .ok (.listDevices tenant Endpoint.devicesPath l.request) :=
  Command.ofRequest_of_link listed.word admissible listed.get target listed.known

end Gateway

namespace Sample

end Sample

end DeviceAdmission
