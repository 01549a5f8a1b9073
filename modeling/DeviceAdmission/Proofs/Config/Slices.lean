import DeviceAdmission.Proofs.Config.References

/-!
# Replacement by slices

The references of a text can be replaced by moving a cursor over it: the parts between the
references are cut out by their offsets in bytes and put together with the values. An offset inside
a character or in front of the text, and offsets out of order, cut out nothing. The main statement
is that this never happens, and that the outcome is that of the replacement piece by piece.
-/

namespace DeviceAdmission

namespace Text

/-- The part of a text from one offset to another, in bytes; nothing if they are out of order, or if
one of them is inside a character or behind the text. -/
def slice? (s : String) (start stop : Nat) : Option String := do
  let first ← s.pos? ⟨start⟩
  let last ← s.pos? ⟨stop⟩
  let part ← s.slice? first last
  pure part.copy

/-- The offset one byte in front of another; nothing in front of the beginning. -/
def offsetBefore? : Nat → Option Nat
  | 0 => none
  | offset + 1 => some offset

/-- The number of bytes of characters. -/
def size (cs : List Char) : Nat :=
  (String.ofList cs).utf8ByteSize

theorem size_append (front back : List Char) : size (front ++ back) = size front + size back := by
  rw [size, String.ofList_append, String.utf8ByteSize_append, size, size]

theorem pos?_offset {s : String} (p : s.Pos) : s.pos? p.offset = some p := by
  have valid : p.offset.isValidForSlice s.toSlice = true :=
    String.Pos.Raw.isValidForSlice_eq_true_iff.mpr p.toSlice.isValidForSlice
  rw [String.pos?, String.Slice.pos?, dif_pos valid]
  rfl

/-- The position behind the first of two parts is found by its offset. -/
theorem exists_pos? {s front back : String} (parts : s = front ++ back) :
    ∃ p : s.Pos, p.Splits front back ∧ s.pos? ⟨front.utf8ByteSize⟩ = some p := by
  have splits := String.Pos.splits_ofEqAppend parts
  have found := pos?_offset (String.Pos.ofEqAppend parts)
  rw [splits.offset_eq_rawEndPos] at found
  exact ⟨_, splits, found⟩

@[simp] theorem size_nil : size [] = 0 :=
  rfl

/-- A part is cut out by the offsets between which it stands. -/
theorem slice?_of_parts {cs part : List Char} {start stop : Nat} (before behind : List Char)
    (parts : cs = before ++ (part ++ behind)) (first : start = size before)
    (last : stop = size (before ++ part)) :
    slice? (String.ofList cs) start stop = some (String.ofList part) := by
  subst parts first last
  have front : String.ofList (before ++ part) = String.ofList before ++ String.ofList part :=
    String.ofList_append
  have whole : String.ofList (before ++ (part ++ behind)) =
      String.ofList before ++ (String.ofList part ++ String.ofList behind) := by
    rw [String.ofList_append, String.ofList_append]
  have whole' : String.ofList (before ++ (part ++ behind)) =
      String.ofList before ++ String.ofList part ++ String.ofList behind := by
    rw [whole, String.append_assoc]
  obtain ⟨first, firstSplits, firstFound⟩ := exists_pos? whole
  obtain ⟨last, lastSplits, lastFound⟩ := exists_pos? whole'
  obtain ⟨ordered, copied⟩ :=
    String.copy_slice_eq_iff_splits.mpr ⟨_, _, firstSplits, lastSplits⟩
  rw [← front] at lastFound
  simp only [slice?, size, firstFound, lastFound, String.slice?, dif_pos ordered,
    Option.bind_eq_bind, Option.bind_some, copied]
  rfl

end Text

namespace Reference

open Text (size slice? offsetBefore?)

/-- A reference that was found in a text: the offsets at which it begins and ends, in bytes, and the
name in it. -/
structure Found where
  start : Nat
  stop : Nat
  name : List Char
  deriving DecidableEq, Repr

/-- The references that a search finds in a text behind `offset` bytes. -/
def Cuts.found (offset : Nat) : Cuts → List Found
  | last _ => []
  | cut gap name later =>
    let start := offset + size gap
    let stop := start + size (Reference.write name)
    ⟨start, stop, name⟩ :: later.found stop

/-- Replace the references that were found, from the cursor on, behind what has been put out. -/
def replaceFrom (env : Environment) (s : String) (cursor : Nat) (out : String) :
    List Found → Option (Except String String)
  | [] => do
    let rest ← slice? s cursor s.utf8ByteSize
    pure (.ok (out ++ rest))
  | f :: later => do
    let before ← slice? s 0 f.start
    if before.toList.getLast? = some '$' then
      let dollar ← offsetBefore? f.start
      let kept ← slice? s cursor dollar
      let reference ← slice? s f.start f.stop
      replaceFrom env s f.stop (out ++ kept ++ reference) later
    else
      let kept ← slice? s cursor f.start
      match (Piece.reference f.name).expand env with
      | .error name => pure (.error name)
      | .ok value => replaceFrom env s f.stop (out ++ kept ++ String.ofList value) later

/-- A text with the references in it replaced slice by slice. -/
def replaceBySlices (env : Environment) (s : String) : Option (Except String String) :=
  replaceFrom env s 0 "" ((Cuts.ofText s.toList).found 0)

/-- From a cursor behind which no reference is open, the loop replaces what the cuts do. -/
theorem replaceFrom_eq (env : Environment) {done : List Char} (edge : done.getLast? ≠ some '$')
    (out : String) (cuts : Cuts) :
    replaceFrom env (String.ofList (done ++ cuts.write)) (size done) out (cuts.found (size done)) =
      some ((cuts.expand env).map fun text => out ++ String.ofList text) := by
  induction cuts generalizing done out with
  | last text =>
    have rest : slice? (String.ofList (done ++ text)) (size done)
        (String.ofList (done ++ text)).utf8ByteSize = some (String.ofList text) :=
      Text.slice?_of_parts done [] (by rw [List.append_nil]) rfl rfl
    simp only [Cuts.found, replaceFrom, Cuts.write, rest]
    rfl
  | cut gap name later ih =>
    -- The cursor moves behind the reference, where none is open again.
    have next := ih (Cuts.getLast?_write done gap name)
    have start_eq : size done + size gap = size (done ++ gap) := (Text.size_append done gap).symm
    have stop_eq : size (done ++ gap) + size (Reference.write name) =
        size (done ++ (gap ++ Reference.write name)) := by
      rw [← Text.size_append, List.append_assoc]
    have whole : done ++ (Cuts.cut gap name later).write =
        done ++ (gap ++ Reference.write name) ++ later.write := by
      simp [Cuts.write]
    rw [whole]
    have before : slice? (String.ofList (done ++ (gap ++ Reference.write name) ++ later.write)) 0
        (size (done ++ gap)) = some (String.ofList (done ++ gap)) :=
      Text.slice?_of_parts [] (Reference.write name ++ later.write) (by simp) rfl rfl
    have reference : slice? (String.ofList (done ++ (gap ++ Reference.write name) ++ later.write))
        (size (done ++ gap)) (size (done ++ (gap ++ Reference.write name))) =
          some (String.ofList (Reference.write name)) :=
      Text.slice?_of_parts (done ++ gap) later.write (by simp) rfl (by simp)
    simp only [Cuts.found, start_eq, stop_eq, replaceFrom, before, Option.bind_eq_bind,
      Option.bind_some, String.toList_ofList, Cuts.getLast?_append edge, Cuts.expand]
    split
    · rename_i escaped
      obtain ⟨front, rfl⟩ := List.getLast?_eq_some_iff.mp escaped
      have dollar : offsetBefore? (size (done ++ (front ++ ['$']))) =
          some (size (done ++ front)) := by
        rw [← List.append_assoc, Text.size_append]
        rfl
      have kept : slice? (String.ofList (done ++ (front ++ ['$'] ++ Reference.write name) ++
          later.write)) (size done) (size (done ++ front)) = some (String.ofList front) :=
        Text.slice?_of_parts done ('$' :: (Reference.write name ++ later.write)) (by simp) rfl rfl
      rw [dollar, Option.bind_some, kept, Option.bind_some, reference, Option.bind_some, next,
        List.dropLast_concat]
      cases later.expand env <;> simp [Except.map, String.append_assoc]
    · have kept : slice? (String.ofList (done ++ (gap ++ Reference.write name) ++ later.write))
          (size done) (size (done ++ gap)) = some (String.ofList gap) :=
        Text.slice?_of_parts done (Reference.write name ++ later.write) (by simp) rfl rfl
      rw [kept, Option.bind_some]
      cases (Piece.reference name).expand env with
      | error missing => rfl
      | ok value =>
        simp only [next]
        cases later.expand env <;> simp [Except.map, bind, Except.bind, String.append_assoc]

/-- No part is ever cut out of order or inside a character, and slice by slice a text is replaced as
piece by piece. -/
theorem replaceBySlices_eq (env : Environment) (s : String) :
    replaceBySlices env s = some (expand env s) := by
  have edge : ([] : List Char).getLast? ≠ some '$' := nofun
  have loop := replaceFrom_eq env edge "" (Cuts.ofText s.toList)
  rw [List.nil_append, Cuts.write_ofText, String.ofList_toList, Text.size_nil] at loop
  rw [replaceBySlices, expand_eq_cuts, loop]
  simp

end Reference

end DeviceAdmission
