/-!
# Texts in pieces

A list cut at each occurrence of a separator. The main statement is that the pieces with the
separator between them are the list again.
-/

namespace DeviceAdmission.Text

variable {α : Type} [DecidableEq α]

/-- The stretches between the occurrences of `sep`; one more than there are occurrences. -/
def splitAt (sep : α) : List α → List (List α)
  | [] => [[]]
  | c :: rest =>
    if c = sep then [] :: splitAt sep rest
    else
      match splitAt sep rest with
      | [] => [[c]]
      | piece :: pieces => (c :: piece) :: pieces

/-- The pieces with `sep` between them. -/
def joinWith (sep : α) : List (List α) → List α
  | [] => []
  | [piece] => piece
  | piece :: next :: pieces => piece ++ sep :: joinWith sep (next :: pieces)

theorem splitAt_ne_nil (sep : α) (cs : List α) : splitAt sep cs ≠ [] := by
  cases cs with
  | nil => simp [splitAt]
  | cons c rest =>
    unfold splitAt
    split
    · simp
    · split <;> simp

/-- Joining the pieces gives what was cut. -/
@[simp] theorem joinWith_splitAt (sep : α) (cs : List α) : joinWith sep (splitAt sep cs) = cs := by
  induction cs with
  | nil => rfl
  | cons c rest ih =>
    by_cases hc : c = sep
    · rw [splitAt, if_pos hc]
      cases hsplit : splitAt sep rest with
      | nil => exact absurd hsplit (splitAt_ne_nil sep rest)
      | cons piece pieces =>
        rw [hsplit] at ih
        simp [joinWith, ih, hc]
    · rw [splitAt, if_neg hc]
      cases hsplit : splitAt sep rest with
      | nil => exact absurd hsplit (splitAt_ne_nil sep rest)
      | cons piece pieces =>
        rw [hsplit] at ih
        cases pieces with
        | nil => simpa [joinWith] using ih
        | cons next pieces => simpa [joinWith] using ih

/-- A list without the separator is one piece. -/
theorem splitAt_of_notMem {sep : α} {cs : List α} (h : sep ∉ cs) : splitAt sep cs = [cs] := by
  induction cs with
  | nil => rfl
  | cons c rest ih =>
    have hne : c ≠ sep := fun hc => h (by simp [hc])
    have hrest : sep ∉ rest := fun hr => h (List.mem_cons_of_mem c hr)
    simp [splitAt, hne, ih hrest]

end DeviceAdmission.Text
