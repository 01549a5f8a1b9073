import DeviceAdmission.Http.Target
import DeviceAdmission.Proofs.Text.Utf8
import Mathlib.Data.List.TakeWhile

/-!
# Queries that are read back

A query is written as names with values, and it is read back where they are made of plain
characters, which stand for themselves and end nothing. The same holds of a target that is a path
with such a query.
-/

namespace DeviceAdmission

namespace Text

variable {α β : Type} [DecidableEq α] [DecidableEq β] {sep : α}

theorem splitAt_append_cons {piece : List α} (rest : List α) (uncut : sep ∉ piece) :
    splitAt sep (piece ++ sep :: rest) = piece :: splitAt sep rest := by
  induction piece with
  | nil => rw [List.nil_append, splitAt, if_pos rfl]
  | cons c piece ih =>
      have other : c ≠ sep := fun same => uncut (same ▸ List.mem_cons_self)
      have later := ih fun member => uncut (List.mem_cons_of_mem c member)
      rw [List.cons_append, splitAt, if_neg other, later]

/-- Pieces without the separator are what they are joined to is cut into. -/
theorem splitAt_joinWith {pieces : List (List α)} (some : pieces ≠ [])
    (uncut : ∀ piece ∈ pieces, sep ∉ piece) : splitAt sep (joinWith sep pieces) = pieces := by
  induction pieces with
  | nil => exact absurd rfl some
  | cons piece rest ih =>
      have pieceUncut := uncut piece List.mem_cons_self
      cases rest with
      | nil => exact splitAt_of_notMem pieceUncut
      | cons next rest =>
          have later := ih (List.cons_ne_nil _ _) fun p member =>
            uncut p (List.mem_cons_of_mem piece member)
          rw [joinWith, splitAt_append_cons _ pieceUncut, later]

omit [DecidableEq α] [DecidableEq β] in
theorem map_joinWith (f : α → β) (pieces : List (List α)) :
    (joinWith sep pieces).map f = joinWith (f sep) (pieces.map (List.map f)) := by
  induction pieces with
  | nil => rfl
  | cons piece rest ih =>
      cases rest with
      | nil => rfl
      | cons next rest =>
          rw [joinWith, List.map_append, List.map_cons, ih]
          rfl

omit [DecidableEq α] in
theorem mem_of_mem_joinWith {pieces : List (List α)} {c : α} (member : c ∈ joinWith sep pieces) :
    c = sep ∨ ∃ piece ∈ pieces, c ∈ piece := by
  induction pieces with
  | nil => cases member
  | cons piece rest ih =>
      cases rest with
      | nil => exact .inr ⟨piece, List.mem_cons_self, member⟩
      | cons next rest =>
          rcases List.mem_append.mp member with first | later
          · exact .inr ⟨piece, List.mem_cons_self, first⟩
          · rcases List.mem_cons.mp later with same | later
            · exact .inl same
            · rcases ih later with same | ⟨p, pMem, cMem⟩
              · exact .inl same
              · exact .inr ⟨p, List.mem_cons_of_mem piece pMem, cMem⟩

end Text

namespace Http

namespace Form

/-- Whether a character stands for itself in a query. -/
def isPlain (c : Char) : Bool :=
  c.toNat < 128 && c ≠ '&' && c ≠ '=' && c ≠ '+' && c ≠ '%' && c ≠ '#'

theorem isPlain_iff {c : Char} : isPlain c = true ↔
    c.toNat < 128 ∧ c ≠ '&' ∧ c ≠ '=' ∧ c ≠ '+' ∧ c ≠ '%' ∧ c ≠ '#' := by
  simp [isPlain, and_assoc]

/-- A name with its value. -/
structure Parameter where
  name : List Char
  value : List Char

/-- Whether a name and its value are made of plain characters. -/
def Parameter.IsPlain (p : Parameter) : Prop :=
  (∀ c ∈ p.name, isPlain c = true) ∧ ∀ c ∈ p.value, isPlain c = true

def Parameter.write (p : Parameter) : List Char :=
  p.name ++ '=' :: p.value

/-- The query of parameters. -/
def write (parameters : List Parameter) : List Char :=
  Text.joinWith '&' (parameters.map Parameter.write)

variable {cs : List Char} {p : Parameter} {parameters : List Parameter}

theorem notMem_ascii {c : Char} (small : c.toNat < 128) (plain : ∀ d ∈ cs, isPlain d = true)
    (marks : isPlain c = false) : UInt8.ofNat c.toNat ∉ Utf8.ascii cs := by
  rw [Utf8.mem_ascii_iff (fun d member => (isPlain_iff.mp (plain d member)).1) small]
  intro member
  rw [plain c member] at marks
  cases marks

/-- Plain characters stand for themselves. -/
theorem decode_ascii (plain : ∀ c ∈ cs, isPlain c = true) :
    decode (Utf8.ascii cs) = String.ofList cs := by
  have noPlus : (Utf8.ascii cs).map (fun b => if b = 43 then 32 else b) = Utf8.ascii cs := by
    have same : ∀ b ∈ Utf8.ascii cs, (if b = 43 then 32 else b) = b := by
      intro b member
      apply if_neg
      rintro rfl
      exact notMem_ascii (c := '+') (by decide) plain rfl member
    rw [List.map_congr_left same]
    exact List.map_id' _
  rw [decode, noPlus, Percent.decode_of_notMem (notMem_ascii (c := '%') (by decide) plain rfl),
    Utf8.decodeLossy_ascii fun c member => (isPlain_iff.mp (plain c member)).1]

/-- A parameter is divided where it was put together. -/
theorem pair_write (plain : p.IsPlain) :
    pair (Utf8.ascii p.write) = (String.ofList p.name, String.ofList p.value) := by
  have bytes : Utf8.ascii p.write = Utf8.ascii p.name ++ 61 :: Utf8.ascii p.value := by
    rw [Utf8.ascii, Parameter.write, List.map_append]
    rfl
  have before : ∀ b ∈ Utf8.ascii p.name, decide (b ≠ 61) = true := by
    intro b member
    rw [decide_eq_true_eq]
    rintro rfl
    exact notMem_ascii (c := '=') (by decide) plain.1 rfl member
  rw [pair, bytes, List.takeWhile_append_of_pos before, List.dropWhile_append_of_pos before]
  simp [decode_ascii plain.1, decode_ascii plain.2]

theorem Parameter.IsPlain.isPlain_or {c : Char} (plain : p.IsPlain) (member : c ∈ p.write) :
    isPlain c = true ∨ c = '=' := by
  rcases List.mem_append.mp member with name | rest
  · exact .inl (plain.1 c name)
  · rcases List.mem_cons.mp rest with same | value
    · exact .inr same
    · exact .inl (plain.2 c value)

theorem isPlain_or_of_mem_write {c : Char} (plain : ∀ p ∈ parameters, p.IsPlain)
    (member : c ∈ write parameters) : isPlain c = true ∨ c = '=' ∨ c = '&' := by
  rcases Text.mem_of_mem_joinWith member with same | ⟨piece, pieceMem, cMem⟩
  · exact .inr (.inr same)
  · obtain ⟨p, pMem, rfl⟩ := List.mem_map.mp pieceMem
    rcases (plain p pMem).isPlain_or cMem with isPlain | same
    · exact .inl isPlain
    · exact .inr (.inl same)

/-- A written parameter has no byte that ends it, and has at least one byte. -/
theorem Parameter.IsPlain.uncut (plain : p.IsPlain) :
    (38 : UInt8) ∉ Utf8.ascii p.write ∧ Utf8.ascii p.write ≠ [] := by
  constructor
  · intro member
    have small : ∀ c ∈ p.write, c.toNat < 128 := by
      intro c member
      rcases plain.isPlain_or member with isPlain | rfl
      · exact (isPlain_iff.mp isPlain).1
      · decide
    have marked : '&' ∈ p.write := (Utf8.mem_ascii_iff (d := '&') small (by decide)).mp member
    rcases plain.isPlain_or marked with isPlain | same
    · exact absurd isPlain (by decide)
    · exact absurd same (by decide)
  · rw [Utf8.ascii, Ne, List.map_eq_nil_iff, write]
    exact List.append_ne_nil_of_right_ne_nil _ (List.cons_ne_nil _ _)

/-- Parameters are read back as they were written. -/
theorem pairs_write (plain : ∀ p ∈ parameters, p.IsPlain) :
    pairs (String.ofList (write parameters)) =
      parameters.map fun p => (String.ofList p.name, String.ofList p.value) := by
  have small : ∀ c ∈ (String.ofList (write parameters)).toList, c.toNat < 128 := by
    rw [String.toList_ofList]
    intro c member
    rcases isPlain_or_of_mem_write plain member with isPlain | rfl | rfl
    · exact (isPlain_iff.mp isPlain).1
    · decide
    · decide
  rw [pairs, Utf8.encode_eq_ascii small, String.toList_ofList]
  have bytes : Utf8.ascii (write parameters) =
      Text.joinWith 38 (parameters.map fun p => Utf8.ascii p.write) := by
    rw [Utf8.ascii, write, Text.map_joinWith, List.map_map]
    rfl
  have uncut : ∀ piece ∈ parameters.map (fun p => Utf8.ascii p.write),
      (38 : UInt8) ∉ piece ∧ piece ≠ [] := by
    intro piece member
    obtain ⟨q, qMem, rfl⟩ := List.mem_map.mp member
    exact (plain q qMem).uncut
  have full : (parameters.map fun p => Utf8.ascii p.write).filter (· ≠ []) =
      parameters.map fun p => Utf8.ascii p.write :=
    List.filter_eq_self.mpr fun piece member => decide_eq_true (uncut piece member).2
  rw [bytes]
  by_cases some : parameters.map (fun p => Utf8.ascii p.write) = []
  · rw [some]
    rw [List.map_eq_nil_iff] at some
    rw [some]
    rfl
  · rw [Text.splitAt_joinWith some fun piece member => (uncut piece member).1, full, List.map_map]
    apply List.map_congr_left
    intro q member
    exact pair_write (plain q member)

end Form

namespace Target

/-- A path with a query is read as these if no character in them ends them. -/
theorem ofText_append {path query : List Char} (pathWhole : ∀ c ∈ path, c ≠ '?' ∧ c ≠ '#')
    (queryWhole : '#' ∉ query) :
    ofText (String.ofList ('/' :: path ++ '?' :: query)) =
      ⟨String.ofList ('/' :: path), String.ofList query⟩ := by
  have whole : ∀ c ∈ '/' :: path ++ '?' :: query, decide (c ≠ '#') = true := by
    intro c member
    rw [decide_eq_true_eq]
    rintro rfl
    rcases List.mem_append.mp member with inPath | inQuery
    · rcases List.mem_cons.mp inPath with same | inPath
      · exact absurd same (by decide)
      · exact (pathWhole _ inPath).2 rfl
    · rcases List.mem_cons.mp inQuery with same | inQuery
      · exact absurd same (by decide)
      · exact queryWhole inQuery
  have pathOnly : ∀ c ∈ '/' :: path, decide (c ≠ '?') = true := by
    intro c member
    rcases List.mem_cons.mp member with rfl | inPath
    · decide
    · exact decide_eq_true (pathWhole c inPath).1
  have noHost : afterHost? ('/' :: path ++ '?' :: query) = none := rfl
  rw [ofText, String.toList_ofList, ofChars, noHost, Option.getD_none,
    List.takeWhile_eq_self_iff.mpr whole]
  simp only [List.takeWhile_append_of_pos pathOnly, List.dropWhile_append_of_pos pathOnly]
  simp

end Target

end Http

end DeviceAdmission
