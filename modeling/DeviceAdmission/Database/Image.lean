import DeviceAdmission.Database.Header

/-!
# Images of databases

The contents of a database file as pages of one size. The rows of a table lie in a tree of pages, a
row that is too long for its page with the rest of it in a chain of other pages.
-/

namespace DeviceAdmission.Database

/-- A database file that can be read. -/
structure Image where
  contents : Bytes
  pageSize : Nat
  pageCount : Nat
  /-- How many bytes at the end of each page are not used. -/
  reserved : Nat
  deriving DecidableEq, Repr

namespace Image

/-- The image in a file whose header has been checked. -/
def ofContents (contents : Bytes) : Image :=
  let pageSize := Header.pageSize contents
  { contents, pageSize, reserved := byteAt contents 20
    pageCount := (Header.toldPages? contents).getD (Header.pagesIn contents.length pageSize) }

variable (im : Image)

/-- How many bytes of a page are used. -/
def usable : Nat := im.pageSize - im.reserved

/-- A page by its number, which starts at 1. -/
def page? (number : Nat) : Option Bytes :=
  if number = 0 ∨ im.pageCount < number then none
  else
    let page := (im.contents.drop ((number - 1) * im.pageSize)).take im.pageSize
    some (page ++ List.replicate (im.pageSize - page.length) 0)

/-- The pages are those from the first to the last. -/
theorem isSome_page?_iff {number : Nat} :
    (im.page? number).isSome = true ↔ number ≠ 0 ∧ number ≤ im.pageCount := by
  unfold page?
  split
  · rename_i h
    simp only [Option.isSome_none, Bool.false_eq_true, false_iff, not_and]
    omega
  · rename_i h
    simp only [Option.isSome_some, true_iff]
    omega

/-- All pages have the same size. -/
theorem length_of_page?_eq_some {number : Nat} {page : Bytes} (h : im.page? number = some page) :
    page.length = im.pageSize := by
  unfold page? at h
  split at h
  · cases h
  · cases h
    simp only [List.length_append, List.length_replicate, List.length_take]
    omega

/-- How many bytes of a row of some size lie in its page. -/
def localSize (size : Nat) : Nat :=
  let most := im.usable - 35
  let least := (im.usable - 12) * 32 / 255 - 23
  let fitting := least + (size - least) % (im.usable - 4)
  if size ≤ most then size else if fitting ≤ most then fitting else least

/-- The next `size` bytes of a chain that begins with a page, over at most `most` pages. -/
def chain : (most number size : Nat) → Option Bytes
  | _, _, 0 => some []
  | 0, _, _ + 1 => none
  | most + 1, number, size + 1 => do
    let page ← im.page? number
    let part := (page.drop 4).take (min (size + 1) (im.usable - 4))
    let rest ← chain most (numberAt page 0 4) (size + 1 - part.length)
    pure (part ++ rest)

/-- The row in a cell of a page, which begins with the size of the row and its key. -/
def row? (cell : Bytes) : Option Bytes := do
  let (size, rest) := readNumber cell
  let (_, rest) := readNumber rest
  let here := im.localSize size
  let continued ← im.chain im.pageCount (numberAt rest here 4) (size - here)
  pure (rest.take here ++ continued)

/-- What a page of a tree holds. -/
inductive Node where
  | rows (rows : List Bytes)
  | pages (numbers : List Nat)
  deriving DecidableEq, Repr

/-- The page of a tree under a number. On the first page it comes after the header. -/
def node? (number : Nat) : Option Node := do
  let page ← im.page? number
  let start := if number = 1 then 100 else 0
  let count := numberAt page (start + 3) 2
  let cells (width : Nat) : List Bytes := (List.range count).map fun i =>
    page.drop (numberAt page (start + width + 2 * i) 2)
  match byteAt page start with
  | 13 => do pure (.rows (← (cells 8).mapM im.row?))
  | 5 =>
    pure (.pages ((cells 12).map (numberAt · 0 4) ++ [numberAt page (start + 8) 4]))
  | _ => none

/-- The rows in the trees under some pages, over at most `most` pages, and whether these are all.
They end before a page that cannot be read. -/
def rowsUnder : (most : Nat) → (numbers : List Nat) → List Bytes × Bool
  | _, [] => ([], true)
  | 0, _ :: _ => ([], false)
  | most + 1, number :: numbers =>
    match im.node? number with
    | none => ([], false)
    | some (.rows rows) =>
      let (others, complete) := rowsUnder most numbers
      (rows ++ others, complete)
    | some (.pages below) => rowsUnder most (below ++ numbers)

/-- The rows of the table whose tree is under a page, and whether these are all. -/
def table (root : Nat) : List (List Cell) × Bool :=
  let (rows, complete) := im.rowsUnder im.pageCount [root]
  (rows.map Record.cells, complete)

end Image

end DeviceAdmission.Database
