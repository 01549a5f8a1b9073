import DeviceAdmission.Text.Utf8

/-!
# Percent escapes

A percent sign with two hexadecimal digits stands for one byte. A percent sign without them stands
for itself.
-/

namespace DeviceAdmission.Http.Percent

/-- The value of a hexadecimal digit. -/
def hexValue? (b : UInt8) : Option UInt8 :=
  if 48 ≤ b ∧ b ≤ 57 then some (b - 48)
  else if 65 ≤ b ∧ b ≤ 70 then some (b - 55)
  else if 97 ≤ b ∧ b ≤ 102 then some (b - 87)
  else none

/-- The byte that two characters after a percent sign stand for. -/
def escaped? (high low : UInt8) : Option UInt8 := do
  pure (16 * (← hexValue? high) + (← hexValue? low))

/-- Bytes with their escapes resolved. -/
def decode : Bytes → Bytes
  | 37 :: high :: low :: rest =>
    match escaped? high low with
    | some b => b :: decode rest
    | none => 37 :: decode (high :: low :: rest)
  | b :: rest => b :: decode rest
  | [] => []

/-- Bytes without a percent sign stand for themselves. -/
theorem decode_of_notMem {bytes : Bytes} (h : 37 ∉ bytes) : decode bytes = bytes := by
  induction bytes with
  | nil => rfl
  | cons b rest ih =>
    have hb : b ≠ 37 := fun hb => h (by simp [hb])
    have hrest : (37 : UInt8) ∉ rest := fun hr => h (List.mem_cons_of_mem b hr)
    unfold decode
    split
    · rename_i heq
      cases heq
      exact absurd rfl hb
    · rename_i heq
      cases heq
      rw [ih hrest]
    · rename_i heq
      cases heq

end DeviceAdmission.Http.Percent
