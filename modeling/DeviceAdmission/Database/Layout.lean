import DeviceAdmission.Database.Fault
import DeviceAdmission.Database.Schema

/-!
# The layout of a database

A database keeps devices and tokens in a table each, with an index for each table. What is missing
of these is made when the database is opened, in order; what is there under their names is taken as
it is. The first step that cannot be taken is the problem.
-/

namespace DeviceAdmission.Database

/-- An index that is to be there, with the statement that makes it in pieces. -/
structure IndexPlan where
  name : String
  table : Table
  opening : String
  columns : List String
  /-- The column that is zero in the rows that count. No two of these may agree. -/
  zeroColumn? : Option String
  deriving DecidableEq, Repr

namespace IndexPlan

def conditionOpening : String := ") WHERE "

/-- The end of the statement, after the columns. -/
def closing (plan : IndexPlan) : String :=
  match plan.zeroColumn? with
  | none => ");"
  | some column => conditionOpening ++ column ++ " = 0;"

def separator : String := ", "

def statement (plan : IndexPlan) : String :=
  plan.opening ++ separator.intercalate plan.columns ++ plan.closing

/-- The columns of the index with their places in the statement. -/
def placed (place : Nat) : List String → List (String × Nat)
  | [] => []
  | column :: columns =>
    (column, place) :: placed (place + (column ++ separator).utf8ByteSize) columns

/-- The columns that the statement names, in the order in which they are looked for: the first one,
the one of the condition, and the others. -/
def lookedFor (plan : IndexPlan) : List (String × Nat) :=
  let columns := placed plan.opening.utf8ByteSize plan.columns
  let conditionPlace :=
    (plan.opening ++ separator.intercalate plan.columns ++ conditionOpening).utf8ByteSize
  columns.take 1 ++ (plan.zeroColumn?.map (·, conditionPlace)).toList ++ columns.drop 1

/-- The rows that count, by their cells in the columns. Where a cell is empty, a row agrees with no
other. -/
def keys (plan : IndexPlan) (t : FoundTable) : List (List Cell) :=
  let counting := match plan.zeroColumn? with
    | none => []
    | some column => t.rows.filter fun row => (t.cell row column).isZero
  (counting.map fun row => plan.columns.map (t.cell row)).filter (!·.contains .null)

end IndexPlan

/-- Whether some entry of a list occurs again. -/
def hasRepetition {α : Type} [DecidableEq α] : List α → Bool
  | [] => false
  | a :: rest => rest.contains a || hasRepetition rest

inductive Step where
  | table (t : Table) (statement : String)
  | index (plan : IndexPlan)
  deriving DecidableEq, Repr

namespace Step

def statement : Step → String
  | table _ statement => statement
  | index plan => plan.statement

/-- All that is to be there, in the order in which it is made. -/
def all : List Step :=
  [.table .devices <| "
    CREATE TABLE IF NOT EXISTS devices (
        id          TEXT PRIMARY KEY,
        tenant_id   TEXT NOT NULL,
        id_data     TEXT NOT NULL,
        pubkey      TEXT NOT NULL,
        status      TEXT NOT NULL,
        created_ts  TEXT NOT NULL,
        updated_ts  TEXT NOT NULL,
        UNIQUE(tenant_id, id_data)
    );",
    .index
      { name := "idx_devices_tenant", table := .devices, columns := ["tenant_id", "id"]
        opening := "\n    CREATE INDEX IF NOT EXISTS idx_devices_tenant ON devices("
        zeroColumn? := none },
    .table .tokens <| "
    CREATE TABLE IF NOT EXISTS tokens (
        id          TEXT PRIMARY KEY,
        tenant_id   TEXT NOT NULL,
        device_id   TEXT NOT NULL,
        token       TEXT NOT NULL,
        issued_at   TEXT NOT NULL,
        expires_at  TEXT NOT NULL,
        revoked     INTEGER NOT NULL DEFAULT 0
    );",
    .index
      { name := "idx_tokens_live", table := .tokens, columns := ["tenant_id", "device_id"]
        opening :=
          "\n    CREATE UNIQUE INDEX IF NOT EXISTS idx_tokens_live\n        ON tokens("
        zeroColumn? := some "revoked" }]

end Step

namespace Schema

/-- Look for a table; whether it has to be made. -/
def lacksTable (s : Schema) (t : Table) : Except Problem Bool :=
  if (s.relation? t.name).isSome then .ok false
  else if s.hasIndex t.name then .error (.nameTaken .index t.name)
  else .ok true

/-- Check that an index of a table can be made, where `statements` are to be carried out. -/
def checkIndex (s : Schema) (plan : IndexPlan) (statements : String) (o : Object) :
    Except Problem Unit :=
  let t := FoundTable.ofObject s o
  match plan.lookedFor.find? (!t.has ·.1) with
  | some (column, place) => .error (.columnMissing column statements place)
  | none => .ok ()

/-- Check that the rows of a table suit an index. -/
def checkRows (s : Schema) (plan : IndexPlan) (o : Object) : Except Problem Unit :=
  let t := FoundTable.ofObject s o
  if !t.isComplete then .error .malformed
  else if hasRepetition (plan.keys t) then .error (.notUnique plan.table plan.columns)
  else .ok ()

/-- Carry out a step, with the statements from it on. The result tells whether something is
written, for which `writing` says whether it can be. -/
def take (s : Schema) (writing : Except Problem Unit) (statements : String) :
    Step → Except Problem Bool
  | .table t _ => do
    if ← s.lacksTable t then do writing; pure true
    else pure false
  | .index plan => do
    let relation? := s.relation? plan.table.name
    if relation?.any (·.kind = "view") then .error .viewIndexed
    else if (s.relation? plan.name).isSome then .error (.nameTaken .table plan.name)
    else if s.hasIndex plan.name then pure false
    else
      relation?.forM (s.checkIndex plan statements)
      writing
      relation?.forM (s.checkRows plan)
      pure true

/-- Carry out steps; whether something is written. -/
def takeAll (s : Schema) (writing : Except Problem Unit) : List Step → Except Problem Bool
  | [] => pure false
  | step :: steps => do
    let wrote ← s.take writing (String.join ((step :: steps).map Step.statement)) step
    let wroteMore ← s.takeAll writing steps
    pure (wrote || wroteMore)

end Schema

end DeviceAdmission.Database
