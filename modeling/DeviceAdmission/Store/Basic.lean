import DeviceAdmission.Store.Memory
import DeviceAdmission.Store.Tables

/-!
# Stores

A store is one of the two kinds. Both answer the same calls.
-/

namespace DeviceAdmission

inductive StoreKind where
  | tables
  | memory
  deriving DecidableEq, Repr, Inhabited

inductive Store where
  | memory (s : MemoryStore)
  | tables (s : TableStore)
  deriving DecidableEq, Repr

namespace Store

/-- A store of the kind with nothing in it. -/
def empty : StoreKind → Store
  | .memory => memory .empty
  | .tables => tables .empty

/-- Answer a call. -/
def run {α : Type} (s : Store) (call : StoreCall α) : Except StoreFault α × Store :=
  match s with
  | memory m =>
    let r := m.run call
    (.ok r.1, memory r.2)
  | tables t =>
    let r := t.run call
    (r.1, tables r.2)

/-- The number of devices in a store. -/
def deviceCount : Store → Nat
  | memory s => s.devices.length
  | tables s => s.devices.length

end Store

end DeviceAdmission
