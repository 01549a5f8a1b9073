import DeviceAdmission.Database.Schema
import DeviceAdmission.Store.Gap

/-!
# What a database holds

The store in a database that has been laid out: the rows of its tables, and the gaps of tables that
others made.
-/

namespace DeviceAdmission.Database

/-- The texts of a row by column, and whether every cell is one. -/
structure RowTexts where
  text : String → String
  isWhole : Bool

/-- The texts in the columns of a row. -/
def rowTexts (t : FoundTable) (form : TextForm) (columns : List String) (row : List Cell) :
    RowTexts :=
  let text? (column : String) := Object.textOf? form (t.cell row column)
  ⟨fun column => (text? column).getD "", columns.all fun column => (text? column).isSome⟩

/-- The device in a row. Unless every cell is a text, it is kept without a status and cannot be
read. -/
def deviceRow (t : FoundTable) (form : TextForm) (row : List Cell) : DeviceRow :=
  let texts := rowTexts t form Table.devices.columns row
  { id := texts.text "id", tenant := ⟨texts.text "tenant_id"⟩
    identityData := texts.text "id_data", publicKey := texts.text "pubkey"
    status := if texts.isWhole then texts.text "status" else ""
    createdAt := texts.text "created_ts", updatedAt := texts.text "updated_ts" }

/-- Whether a cell is an integer. -/
def isInteger : Cell → Bool
  | .integer _ => true
  | _ => false

/-- The token in a row. Unless every cell but the last is a text and that one an integer, it is kept
without a time and cannot be read. -/
def tokenRow (t : FoundTable) (form : TextForm) (row : List Cell) : TokenRow :=
  let texts := rowTexts t form Table.tokens.columns.dropLast row
  let revoked := t.cell row "revoked"
  { id := texts.text "id", tenant := ⟨texts.text "tenant_id"⟩, deviceId := texts.text "device_id"
    raw := texts.text "token", expiresAt := texts.text "expires_at", revoked := !revoked.isZero
    issuedAt := if texts.isWhole && isInteger revoked then texts.text "issued_at" else "" }

namespace Schema

def found? (s : Schema) (t : Table) : Option FoundTable :=
  (s.relation? t.name).map (FoundTable.ofObject s)

/-- What a table lacks, if it is there. -/
def gapsOf (s : Schema) (t : Table) : List StoreGap :=
  match s.found? t with
  | none => []
  | some found =>
    (if found.isComplete then [] else [.rows t]) ++
      (t.columns.filter (!found.has ·)).map (.column t)

/-- The columns that tell the devices of a database apart. -/
def identity : List String := ["tenant_id", "id_data"]

/-- Whether two groups have the same columns. -/
def agrees (a b : List String) : Bool :=
  a.all b.contains && b.all a.contains

/-- Whether no two devices of a tenant may have the same identity data. A table that is not there is
made so. -/
def hasIdentity (s : Schema) : Bool :=
  match s.found? .devices with
  | none => true
  | some found =>
    let ofIndexes := (s.objects.filter (·.kind = "index")).filterMap fun o =>
      if o.table = Table.devices.name then Declaration.identityOfIndex? o.statement else none
    (found.declaration.identities ++ ofIndexes).any (agrees identity)

/-- The store in a database that has been laid out. -/
def store (s : Schema) : FoundStore :=
  let rows {α : Type} (t : Table) (read : FoundTable → TextForm → List Cell → α) : List α :=
    ((s.found? t).map fun found => found.rows.map (read found s.form)).getD []
  { store := .tables ⟨rows .devices deviceRow, rows .tokens tokenRow⟩
    gaps := s.gapsOf .devices ++ s.gapsOf .tokens ++ if s.hasIdentity then [] else [.identity] }

end Schema

end DeviceAdmission.Database
