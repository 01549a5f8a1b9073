/-!
# Decimal numerals

Natural numbers as decimal digits. A numeral is one or more of the ten ASCII digits; leading zeros
are allowed when reading and never written. The main statements are that reading undoes writing and
that a padded numeral has at least the width asked for.
-/

namespace DeviceAdmission.Numeral

/-- The numeral of `n`, without leading zeros. -/
def write (n : Nat) : List Char :=
  Nat.toDigits 10 n

/-- The numeral of `n`, with zeros in front until it has `width` digits. -/
def writePadded (width n : Nat) : List Char :=
  List.replicate (width - (write n).length) '0' ++ write n

/-- The numeral of an integer, with a sign only when it is negative. -/
def writeInt : Int → List Char
  | .ofNat n => write n
  | .negSucc n => '-' :: write (n + 1)

/-- The number that a numeral stands for. -/
def read? (cs : List Char) : Option Nat :=
  if cs ≠ [] ∧ cs.all Char.isDigit then some (Nat.ofDigitChars 10 cs 0) else none

/-- A numeral without its plus sign, if it has one. -/
def dropPlus : List Char → List Char
  | '+' :: rest => rest
  | cs => cs

/-- The number of a numeral that may carry a plus sign, when it is at most `limit`. -/
def readUpTo? (limit : Nat) (cs : List Char) : Option Nat :=
  (read? (dropPlus cs)).filter (· ≤ limit)

/-- Reading the numeral of a number gives the number. -/
@[simp] theorem read?_write (n : Nat) : read? (write n) = some n := by
  have hdigits : (write n).all Char.isDigit = true := by
    rw [List.all_eq_true]
    intro c hc
    exact Nat.isDigit_of_mem_toDigits (by decide) (by decide) hc
  have hne : write n ≠ [] := Nat.toDigits_ne_nil
  simp only [read?, hne, hdigits, ne_eq, not_false_eq_true, and_self, if_true]
  exact congrArg some (Nat.ofDigitChars_toDigits (by decide) (by decide))

/-- A numeral is read exactly when it is not empty and holds digits only. -/
theorem read?_eq_some_iff {cs : List Char} {n : Nat} :
    read? cs = some n ↔ cs ≠ [] ∧ cs.all Char.isDigit = true ∧ Nat.ofDigitChars 10 cs 0 = n := by
  unfold read?
  split
  · rename_i h
    simp [h.1, h.2]
  · rename_i h
    constructor
    · intro hn
      cases hn
    · rintro ⟨h1, h2, _⟩
      exact absurd ⟨h1, h2⟩ h

/-- A written numeral has no plus sign. -/
@[simp] theorem dropPlus_write (n : Nat) : dropPlus (write n) = write n := by
  unfold dropPlus
  split
  · rename_i rest hw
    have hmem : '+' ∈ write n := by simp [hw]
    have hdigit : Char.isDigit '+' = true :=
      Nat.isDigit_of_mem_toDigits (b := 10) (by decide) (by decide) hmem
    exact absurd hdigit (by decide)
  · rfl

/-- The numeral of a number within the limit is read as that number. -/
theorem readUpTo?_write {limit n : Nat} (h : n ≤ limit) : readUpTo? limit (write n) = some n := by
  simp [readUpTo?, h]

/-- A padded numeral has at least the width asked for. -/
theorem le_length_writePadded (width n : Nat) : width ≤ (writePadded width n).length := by
  simp only [writePadded, List.length_append, List.length_replicate]
  omega

end DeviceAdmission.Numeral
