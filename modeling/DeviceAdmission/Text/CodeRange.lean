/-!
# Ranges of code points

Properties of characters are given by closed ranges of code points, as of Unicode 17.0.
-/

namespace DeviceAdmission.Text

/-- A first and a last code point. -/
abbrev CodeRange := Nat × Nat

/-- Whether a character lies in one of the ranges. -/
def isInRanges (ranges : List CodeRange) (c : Char) : Bool :=
  ranges.any fun r => r.1 ≤ c.toNat && c.toNat ≤ r.2

/-- Whether ranges are ascending and apart. -/
def areAscending : List CodeRange → Bool
  | [] => true
  | [r] => r.1 ≤ r.2
  | r :: s :: rest => r.1 ≤ r.2 && r.2 < s.1 && areAscending (s :: rest)

end DeviceAdmission.Text
