import DeviceAdmission.Failure

/-!
# Bounded calls

A call to the store answers, fails or never comes back. It is waited for up to a limit; a call that
answers at once is in time whatever the limit.
-/

namespace DeviceAdmission

/-- How a call to the store ends. -/
inductive CallOutcome (α : Type) where
  | answered (value : α)
  | failed (fault : StoreFault)
  | neverEnds
  deriving DecidableEq, Repr

/-- The result of a call that is waited for up to `limit` milliseconds. -/
def CallOutcome.bounded {α : Type} (limit : Nat) (call : String) :
    CallOutcome α → Except Failure α
  | answered value => .ok value
  | failed fault => .error (.internal (.storeFailed call fault))
  | neverEnds => .error (.internal (.storeTimedOut call limit))

/-- The limit where the configuration does not give one, in milliseconds. -/
def defaultStorageTimeout : Nat := 5000

end DeviceAdmission
