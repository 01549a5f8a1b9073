import DeviceAdmission.Store.Bounded
import DeviceAdmission.Store.Gap

/-!
# What an operation runs in

An operation of the service calls the store several times. Between its calls other parties may set
the status of a device, and a call may fail or never end; a call that does so has no effect. An
action is a computation that makes such calls and ends with a value or a failure, the first failure
ending it.
-/

namespace DeviceAdmission

/-- What a call is about, as far as others can see it. -/
structure CallSite where
  method : StoreMethod
  tenant : Tenant
  deviceId? : Option String
  deriving DecidableEq, Repr

/-- A status that another party sets. -/
structure StatusWrite where
  tenant : Tenant
  deviceId : String
  status : DeviceStatus
  now : Instant
  deriving DecidableEq, Repr

/-- What becomes of a call. -/
inductive Fate where
  | proceeds
  | fails (fault : StoreFault)
  | hangs
  deriving DecidableEq, Repr

/-- What happens just before a call takes effect, and whether it does. -/
structure Interference where
  writes : List StatusWrite
  fate : Fate
  deriving DecidableEq, Repr

def Interference.none : Interference := ⟨[], .proceeds⟩

structure World where
  store : Store
  /-- The clock of the service. -/
  now : Instant
  /-- The clock that tenant tokens are judged by, in seconds since 1970. -/
  wallSeconds : Int
  /-- What happens before a call, given the calls made earlier, the latest first. -/
  interference : (earlier : List CallSite) → CallSite → Interference
  /-- The calls made so far, the latest first. -/
  calls : List CallSite

/-- A world in which nobody interferes. -/
def World.quiet (store : Store) (now : Instant) (wallSeconds : Int) : World :=
  { store, now, wallSeconds, interference := fun _ _ => .none, calls := [] }

/-- What happens to a call by the gaps of a store alone. -/
def FoundStore.interference (s : FoundStore) (site : CallSite) : Interference :=
  ⟨[], (s.refusal? site.method).elim .proceeds .fails⟩

/-- A world in which nobody interferes with a store as it was found. -/
def World.overFound (s : FoundStore) (now : Instant) (wallSeconds : Int) : World :=
  { World.quiet s.store now wallSeconds with interference := fun _ site => s.interference site }

/-- Nobody at all interferes with a store that lacks nothing. -/
theorem World.overFound_whole (store : Store) (now : Instant) (wallSeconds : Int) :
    World.overFound (.whole store) now wallSeconds = World.quiet store now wallSeconds := rfl

def StoreCall.site {α : Type} (c : StoreCall α) : CallSite :=
  ⟨c.method, c.tenant, c.deviceId?⟩

/-- Set a status as another party does. -/
def StatusWrite.apply (store : Store) (w : StatusWrite) : Store :=
  (store.run (.updateStatus w.tenant w.deviceId w.status w.now)).2

/-- A computation that calls the store. -/
def Action (α : Type) : Type :=
  World → Except Failure α × World

namespace Action

variable {α β : Type}

/-- Run an action. -/
def run (x : Action α) (w : World) : Except Failure α × World := x w

instance : Monad Action where
  pure a := fun w => (.ok a, w)
  bind x f := fun w =>
    match x w with
    | (.ok a, w) => f a w
    | (.error e, w) => (.error e, w)

/-- End with a failure. -/
def fail (e : Failure) : Action α :=
  fun w => (.error e, w)

/-- End with the failure of a result, or go on with its value. -/
def ofExcept (r : Except Failure α) : Action α :=
  fun w => (r, w)

/-- The clock of the service. -/
def now : Action Instant :=
  fun w => (.ok w.now, w)

/-- The clock that tenant tokens are judged by. -/
def wallSeconds : Action Int :=
  fun w => (.ok w.wallSeconds, w)

/-- Go on with the value of an action, or with its failure as a value. -/
def attempt (x : Action α) : Action (Except Failure α) :=
  fun w =>
    let r := x w
    (.ok r.1, r.2)

/-- How a call ends and what it leaves, given what interferes. -/
def outcome (store : Store) (c : StoreCall α) : Fate → CallOutcome α × Store
  | .proceeds =>
    match store.run c with
    | (.ok a, store) => (.answered a, store)
    | (.error fault, store) => (.failed fault, store)
  | .fails fault => (.failed fault, store)
  | .hangs => (.neverEnds, store)

/-- Call the store and wait for up to `limit` milliseconds. -/
def call (limit : Nat) (c : StoreCall α) : Action α :=
  fun w =>
    let i := w.interference w.calls c.site
    let r := outcome (i.writes.foldl StatusWrite.apply w.store) c i.fate
    (r.1.bounded limit c.method.name, { w with store := r.2, calls := c.site :: w.calls })

@[simp] theorem run_pure (a : α) (w : World) : (pure a : Action α).run w = (.ok a, w) := rfl

@[simp] theorem run_fail (e : Failure) (w : World) :
    (fail e : Action α).run w = (.error e, w) := rfl

@[simp] theorem run_ofExcept (r : Except Failure α) (w : World) : (ofExcept r).run w = (r, w) := rfl

@[simp] theorem run_now (w : World) : now.run w = (.ok w.now, w) := rfl

@[simp] theorem run_wallSeconds (w : World) : wallSeconds.run w = (.ok w.wallSeconds, w) := rfl

@[simp] theorem run_attempt (x : Action α) (w : World) :
    (attempt x).run w = (.ok (x.run w).1, (x.run w).2) := rfl

/-- A sequence runs its second action where the first one succeeds. -/
theorem run_bind (x : Action α) (f : α → Action β) (w : World) :
    (x >>= f).run w =
      match x.run w with
      | (.ok a, w) => (f a).run w
      | (.error e, w) => (.error e, w) := rfl

/-- A sequence after a success is its second action. -/
theorem run_bind_ok {x : Action α} {f : α → Action β} {w w' : World} {a : α}
    (h : x.run w = (.ok a, w')) : (x >>= f).run w = (f a).run w' := by
  rw [run_bind, h]

/-- A sequence after a failure is that failure. -/
theorem run_bind_error {x : Action α} {f : α → Action β} {w w' : World} {e : Failure}
    (h : x.run w = (.error e, w')) : (x >>= f).run w = (.error e, w') := by
  rw [run_bind, h]

end Action

end DeviceAdmission
