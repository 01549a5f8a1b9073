import DeviceAdmission.Paging

/-!
# Links between pages

The answer to a listing names the first page and, where there are any, the page before and the page
after.
-/

namespace DeviceAdmission

/-- How a page relates to the one that is shown. -/
inductive PageRelation where
  | first
  | previous
  | next
  deriving DecidableEq, Repr

def PageRelation.name : PageRelation → String
  | first => "first"
  | previous => "prev"
  | next => "next"

structure PageLink where
  relation : PageRelation
  page : Nat
  perPage : Nat
  deriving DecidableEq, Repr

namespace PageLink

/-- The target of a link to a page of the listing at a path. -/
def target (path : String) (l : PageLink) : String :=
  path ++ "?page=" ++ String.ofList (Numeral.write l.page) ++
    "&per_page=" ++ String.ofList (Numeral.write l.perPage)

def write (path : String) (l : PageLink) : String :=
  "<" ++ l.target path ++ ">; rel=\"" ++ l.relation.name ++ "\""

end PageLink

/-- The links that are shown with a page. -/
def Page.links {α : Type} (p : Page α) : List PageLink :=
  [⟨.first, 1, p.perPage⟩] ++
    (if p.hasPrevious then [⟨.previous, p.page - 1, p.perPage⟩] else []) ++
    (if p.hasMore ∧ p.page < maxWord then [⟨.next, p.page + 1, p.perPage⟩] else [])

/-- The links of a page of the listing at a path, as one header. -/
def Page.linkHeader {α : Type} (path : String) (p : Page α) : String :=
  ", ".intercalate (p.links.map (·.write path))

end DeviceAdmission
