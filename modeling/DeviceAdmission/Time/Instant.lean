import DeviceAdmission.Number.Word
import DeviceAdmission.Time.Calendar

/-!
# Instants and spans of time

An instant is a number of nanoseconds since 1970 in UTC, and a span is a difference of instants.
Instants that the service handles lie in a range of whole years around the epoch.
-/

namespace DeviceAdmission

/-- A span of time in nanoseconds. -/
structure Span where
  nanos : Int
  deriving DecidableEq, Repr

/-- A moment, in nanoseconds since 1 January 1970 in UTC. -/
structure Instant where
  nanos : Int
  deriving DecidableEq, Repr

def nanosPerSecond : Int := 1000000000

def nanosPerMilli : Int := 1000000

namespace Span

def ofMillis (ms : Int) : Span := ⟨ms * nanosPerMilli⟩

def ofSeconds (s : Int) : Span := ⟨s * nanosPerSecond⟩

/-- The longest span in whole seconds: its milliseconds fit a signed 64-bit number. -/
def maxSeconds : Nat := maxSigned / 1000

/-- The span of some seconds, unless it is too long. -/
def ofSeconds? (s : Int) : Option Span :=
  if s.natAbs ≤ maxSeconds then some (ofSeconds s) else none

/-- The whole milliseconds of a span, without the rest. -/
def wholeMillis (s : Span) : Int := Int.tdiv s.nanos nanosPerMilli

/-- The whole seconds of a span, without the rest. -/
def wholeSeconds (s : Span) : Int := Int.tdiv s.nanos nanosPerSecond

end Span

namespace Instant

def ofMillis (ms : Int) : Instant := ⟨ms * nanosPerMilli⟩

def ofSeconds (s : Int) : Instant := ⟨s * nanosPerSecond⟩

/-- The whole second that an instant lies in, since 1970. -/
def seconds (t : Instant) : Int := t.nanos / nanosPerSecond

/-- The nanoseconds of an instant within its second. -/
def subsecond (t : Instant) : Nat := (t.nanos % nanosPerSecond).toNat

def add (t : Instant) (s : Span) : Instant := ⟨t.nanos + s.nanos⟩

instance : LE Instant where
  le a b := a.nanos ≤ b.nanos

instance : LT Instant where
  lt a b := a.nanos < b.nanos

instance (a b : Instant) : Decidable (a ≤ b) :=
  inferInstanceAs (Decidable (a.nanos ≤ b.nanos))

instance (a b : Instant) : Decidable (a < b) :=
  inferInstanceAs (Decidable (a.nanos < b.nanos))

/-- The first second of the range. -/
def firstSecond : Int := Date.toDay ⟨-262143, 1, 1⟩ * 86400

/-- The last second of the range. -/
def lastSecond : Int := Date.toDay ⟨262142, 12, 31⟩ * 86400 + 86399

/-- Whether an instant lies in the range that instants are kept to. -/
def isInRange (t : Instant) : Bool :=
  firstSecond ≤ t.seconds && t.seconds ≤ lastSecond

/-- The date of an instant. -/
def date (t : Instant) : Date := Date.ofDay (t.seconds / 86400)

/-- The second of the day of an instant. -/
def secondOfDay (t : Instant) : Nat := (t.seconds % 86400).toNat

theorem le_iff {a b : Instant} : a ≤ b ↔ a.nanos ≤ b.nanos := Iff.rfl

theorem lt_iff {a b : Instant} : a < b ↔ a.nanos < b.nanos := Iff.rfl

@[simp] theorem seconds_ofSeconds (s : Int) : (ofSeconds s).seconds = s := by
  simp only [seconds, ofSeconds, nanosPerSecond]
  omega

/-- A second has begun exactly when the instant is not before it. -/
theorem le_seconds_iff {s : Int} {t : Instant} : s ≤ t.seconds ↔ ofSeconds s ≤ t := by
  simp only [seconds, ofSeconds, nanosPerSecond, le_iff]
  omega

end Instant

end DeviceAdmission
