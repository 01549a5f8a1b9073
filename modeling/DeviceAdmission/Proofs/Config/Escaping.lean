import DeviceAdmission.Proofs.Config.Substitution

/-!
# Escaped trees

A text is escaped by a dollar sign in front of every reference in it, whether that is escaped or
not. The escaped text has the same references at the same places among its characters, and each of
them has its own dollar sign in front, so that a replacement takes away these signs and nothing
else. The main statement is that an escaped tree is resolved to the tree itself, in every
environment.
-/

namespace DeviceAdmission

namespace Reference

variable {cs gap rest name : List Char}

/-- A text with a dollar sign in front of every reference. -/
def escapeChars : List Char → List Char
  | [] => []
  | c :: cs =>
    if (read? (c :: cs)).isSome then '$' :: c :: escapeChars cs else c :: escapeChars cs

def escape (s : String) : String :=
  String.ofList (escapeChars s.toList)

theorem escapeChars_of_unread {c : Char} (unread : read? (c :: cs) = none) :
    escapeChars (c :: cs) = c :: escapeChars cs := by
  simp [escapeChars, unread]

theorem escapeChars_of_isBare (bare : IsBare cs) : escapeChars cs = cs := by
  induction cs with
  | nil => rfl
  | cons c cs ih => rw [escapeChars_of_unread bare.read?_eq_none, ih bare.tail]

/-- Nothing is put in front of a character that is no dollar sign. -/
theorem escapeChars_append_of_notMem (plain : '$' ∉ cs) (rest : List Char) :
    escapeChars (cs ++ rest) = cs ++ escapeChars rest := by
  induction cs with
  | nil => rfl
  | cons c cs ih =>
    obtain ⟨other, plain⟩ := not_or.mp (List.mem_cons.not.mp plain)
    have unread : read? (c :: (cs ++ rest)) = none := by
      rw [Option.eq_none_iff_forall_ne_some]
      rintro ⟨name, behind⟩ read
      have first := (read?_eq_some_iff.mp read).2
      exact other (List.cons.inj first).1.symm
    rw [List.cons_append, escapeChars_of_unread unread, ih plain, List.cons_append]

/-- The dollar sign stands between the part before the first reference and that reference. -/
theorem escapeChars_append (bare : IsBare gap) (named : isName name = true) (rest : List Char) :
    escapeChars (gap ++ (write name ++ rest)) =
      gap ++ ['$'] ++ (write name ++ escapeChars rest) := by
  induction gap with
  | nil =>
    have inner : '$' ∉ '\x7b' :: name ++ ['\x7d'] := by simp [dollar_notMem named]
    have read : read? ('$' :: ('\x7b' :: name ++ ['\x7d'] ++ rest)) = some (name, rest) :=
      read?_write_append named rest
    show escapeChars ('$' :: ('\x7b' :: name ++ ['\x7d'] ++ rest)) = _
    rw [escapeChars, read, Option.isSome_some, if_pos rfl,
      escapeChars_append_of_notMem inner rest]
    rfl
  | cons c gap ih =>
    rw [List.cons_append, escapeChars_of_unread (read?_cons_append bare named), ih bare.tail]
    rfl

/-- No reference ends with a dollar sign. -/
theorem IsBare.concat_dollar (bare : IsBare gap) : IsBare (gap ++ ['$']) := by
  rintro before name ⟨named, found⟩
  rcases List.prefix_concat_iff.mp found with whole | inside
  · exact Cuts.getLast?_write [] before name (by rw [List.nil_append, whole, List.getLast?_concat])
  · exact bare before name ⟨named, inside⟩

namespace Cuts

variable {cuts : Cuts}

/-- Every reference with a dollar sign in front. -/
def escaped : Cuts → Cuts
  | last text => last text
  | cut gap name later => cut (gap ++ ['$']) name later.escaped

theorem Exact.escaped (exact : cuts.Exact) : cuts.escaped.Exact := by
  induction cuts with
  | last text => exact exact
  | cut gap name later ih => exact ⟨exact.1.concat_dollar, exact.2.1, ih exact.2.2⟩

/-- The text is escaped as its cuts are. -/
theorem Exact.escapeChars_write (exact : cuts.Exact) :
    escapeChars cuts.write = cuts.escaped.write := by
  induction cuts with
  | last text => exact escapeChars_of_isBare exact
  | cut gap name later ih =>
    rw [write, escapeChars_append exact.1 exact.2.1, ih exact.2.2, Cuts.escaped, write]

/-- Replacing takes away the dollar signs that were put in front. -/
theorem expand_escaped (env : Environment) (cuts : Cuts) :
    cuts.escaped.expand env = .ok cuts.write := by
  induction cuts with
  | last text => rfl
  | cut gap name later ih =>
    rw [Cuts.escaped, expand, List.getLast?_concat, if_pos rfl, List.dropLast_concat, ih, write,
      ← List.append_assoc]
    rfl

end Cuts

/-- An escaped text stands for the text, whatever is set. -/
theorem expand_escape (env : Environment) (s : String) : expand env (escape s) = .ok s := by
  have exact := Cuts.exact_ofText s.toList
  have escaped : (escape s).toList = (Cuts.ofText s.toList).escaped.write := by
    rw [escape, String.toList_ofList, ← exact.escapeChars_write, Cuts.write_ofText]
  rw [expand_eq_cuts, escaped, Cuts.ofText_write exact.escaped, Cuts.expand_escaped,
    Cuts.write_ofText, Except.map, String.ofList_toList]

end Reference

namespace Substitution

/-- An escaped tree is resolved to the tree, in every environment. -/
theorem resolve_escape (env : Environment) (v : Json.Value) :
    resolve env (v.mapTexts Reference.escape) = .ok v := by
  have undone (s : String) := Reference.expand_eq_ok_iff.mp (Reference.expand_escape env s)
  have met : ∀ leaf ∈ (v.mapTexts Reference.escape).leaves, ∀ m,
      ¬Reference.Unmet env leaf.text m := by
    intro leaf member
    rw [Json.Value.leaves_mapTexts] at member
    obtain ⟨leaf, -, rfl⟩ := List.mem_map.mp member
    exact (undone leaf.text).1
  obtain ⟨w, resolved⟩ := exists_resolve_iff.mpr met
  rw [resolved, eq_of_resolve resolved, Json.Value.mapTexts_mapTexts fun s => (undone s).2.symm]

end Substitution

end DeviceAdmission
