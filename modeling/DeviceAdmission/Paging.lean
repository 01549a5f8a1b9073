import DeviceAdmission.Number.Word
import DeviceAdmission.Text.Blank
import DeviceAdmission.Text.Numeral

/-!
# Pages of a listing

A listing is handed out in pages counted from one. A page asks for one record more than it shows: if
that record is there, another page follows. Numbers have 64 bits, and an offset has to fit in 63.
-/

namespace DeviceAdmission

/-- The greatest offset into a listing. -/
def maxOffset : Nat := maxSigned

structure PageRequest where
  page : Nat
  perPage : Nat
  deriving DecidableEq, Repr

/-- Which parameter of a page request is refused. -/
inductive PageFault where
  | page
  | perPage
  deriving DecidableEq, Repr

def PageFault.message : PageFault → String
  | page => "invalid page parameter"
  | perPage => "invalid per_page parameter"

/-- The items that a page shows. -/
structure Page (α : Type) where
  items : List α
  hasMore : Bool
  page : Nat
  perPage : Nat
  deriving DecidableEq, Repr

namespace PageRequest

/-- The page size where neither the caller nor the configuration gives one. -/
def defaultPerPage : Nat := 20

/-- The greatest page size where the configuration does not give one. -/
def defaultMaxPerPage : Nat := 500

/-- The first page of the default size. -/
def first : PageRequest := ⟨1, defaultPerPage⟩

/-- Read a number of at least one, with blanks around it ignored. -/
def readPositive? (text : String) : Option Nat :=
  (Numeral.readUpTo? maxWord (Text.trimChars text.toList)).filter (1 ≤ ·)

/-- Read the parameters of a page request. Without them it is the first page, of the default
size. -/
def ofQuery (page perPage : Option String) (defaultPerPage maxPerPage : Nat) :
    Except PageFault PageRequest := do
  let page ← match page with
    | none => pure 1
    | some text => (readPositive? text).elim (.error .page) .ok
  let perPage ← match perPage with
    | none => pure defaultPerPage
    | some text => ((readPositive? text).filter (· ≤ maxPerPage)).elim (.error .perPage) .ok
  if (page - 1) * perPage ≤ maxOffset then .ok ⟨page, perPage⟩ else .error .page

/-- The number of records before the page. -/
def skip (r : PageRequest) : Nat :=
  min ((r.page - 1) * r.perPage) maxWord

/-- The number of records that the page asks for: one more than it shows. -/
def limit (r : PageRequest) : Nat :=
  min (r.perPage + 1) maxWord

/-- The page that shows the first of the records that were found. -/
def paginate {α : Type} (r : PageRequest) (found : List α) : Page α :=
  { items := found.take r.perPage
    hasMore := r.perPage < found.length
    page := r.page
    perPage := r.perPage }

end PageRequest

/-- Whether a page comes before this one. -/
def Page.hasPrevious {α : Type} (p : Page α) : Bool :=
  1 < p.page

end DeviceAdmission
