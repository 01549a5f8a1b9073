import DeviceAdmission.Config.Reference
import Mathlib.Data.List.TakeWhile

/-!
# Where the references of a text stand

A reference occurs in a text wherever it is written there. Occurrences do not overlap, since a
dollar sign stands in a reference at its beginning only, so a text is cut at them in one way. The
pieces of a text are those of its cuts: an occurrence with a dollar sign in front is escaped, every
other is a reference. The main statements are what a text stands for, said on its cuts, and which of
its occurrences is the first that lacks its variable.
-/

namespace DeviceAdmission

/-- Whether a variable is set and not empty. -/
def Environment.supplies (env : Environment) (name : String) : Bool :=
  (env.get? name).any (!·.isEmpty)

/-- In a list in order, the first hit of a search stands before every other. -/
theorem eq_or_of_first {α : Type} {R : α → α → Prop} {P : α → Prop} {before after : List α}
    {hit x : α} (ordered : (before ++ hit :: after).Pairwise R) (none : ∀ y ∈ before, ¬P y)
    (member : x ∈ before ++ hit :: after) (holds : P x) : x = hit ∨ R hit x := by
  rcases List.mem_append.mp member with earlier | later
  · exact absurd holds (none x earlier)
  · rcases List.mem_cons.mp later with same | behind
    · exact .inl same
    · exact .inr ((List.pairwise_cons.mp (List.pairwise_append.mp ordered).2.1).1 x behind)

namespace Reference

/-! ## Reading -/

variable {cs rest gap before name behind : List Char}

theorem isNameChar_of_mem (named : isName name = true) {c : Char} (member : c ∈ name) :
    isNameChar c = true := by
  cases name with
  | nil => cases named
  | cons first others =>
    simp only [isName, Bool.and_eq_true, List.all_eq_true] at named
    rcases List.mem_cons.mp member with rfl | later
    · exact named.1.1
    · exact named.2 c later

/-- No dollar sign stands in a name. -/
theorem dollar_notMem (named : isName name = true) : '$' ∉ name := fun member =>
  absurd (isNameChar_of_mem named member) (by decide)

/-- A reference that is written is read, whatever follows it. -/
theorem read?_write_append (named : isName name = true) (behind : List Char) :
    read? (write name ++ behind) = some (name, behind) := by
  have chars : ∀ c ∈ name, isNameChar c = true := fun _ => isNameChar_of_mem named
  have ends : ¬isNameChar '\x7d' = true := by decide
  have taken : (name ++ '\x7d' :: behind).takeWhile isNameChar = name := by
    rw [List.takeWhile_append_of_pos chars, List.takeWhile_cons_of_neg ends, List.append_nil]
  have dropped : (name ++ '\x7d' :: behind).dropWhile isNameChar = '\x7d' :: behind := by
    rw [List.dropWhile_append_of_pos chars, List.dropWhile_cons_of_neg ends]
  have shape : write name ++ behind = '$' :: '\x7b' :: (name ++ '\x7d' :: behind) := by
    simp [write]
  simp only [shape, read?, taken, dropped, named, if_true]

/-- Reading gives the name of the reference that a text begins with, and what follows it. -/
theorem read?_eq_some_iff :
    read? cs = some (name, behind) ↔ isName name = true ∧ cs = write name ++ behind := by
  constructor
  · intro read
    refine ⟨?_, eq_of_read? read⟩
    unfold read? at read
    split at read
    · dsimp only at read
      split at read
      · split at read
        · rename_i named
          cases read
          exact named
        · cases read
      · cases read
    · cases read
  · rintro ⟨named, rfl⟩
    exact read?_write_append named behind

/-! ## Occurrences -/

/-- A reference to `name` stands in a text behind `before`. -/
def Occurs (before name cs : List Char) : Prop :=
  isName name = true ∧ before ++ write name <+: cs

/-- An occurrence that is not escaped: no dollar sign stands in front of it. -/
def Refers (before name cs : List Char) : Prop :=
  Occurs before name cs ∧ before.getLast? ≠ some '$'

/-- No reference stands in a text. -/
def IsBare (cs : List Char) : Prop :=
  ∀ before name, ¬Occurs before name cs

theorem Occurs.cons (c : Char) (occurs : Occurs before name cs) :
    Occurs (c :: before) name (c :: cs) :=
  ⟨occurs.1, List.cons_prefix_cons.mpr ⟨rfl, occurs.2⟩⟩

theorem IsBare.tail {c : Char} (bare : IsBare (c :: cs)) : IsBare cs :=
  fun before name occurs => bare (c :: before) name (occurs.cons c)

/-- Nothing is read from a text without a reference. -/
theorem IsBare.read?_eq_none (bare : IsBare cs) : read? cs = none := by
  rw [Option.eq_none_iff_forall_ne_some]
  rintro ⟨name, behind⟩ read
  obtain ⟨named, rfl⟩ := read?_eq_some_iff.mp read
  exact bare [] name ⟨named, List.prefix_append _ _⟩

theorem isBare_nil : IsBare [] := by
  rintro before name ⟨-, found⟩
  have empty := List.prefix_nil.mp found
  simp [write] at empty

theorem isBare_of_notMem (plain : '$' ∉ cs) : IsBare cs := by
  rintro before name ⟨-, found⟩
  exact plain (found.subset (by simp [write]))

/-- A reference that reaches a later dollar sign ends before it. -/
theorem exists_of_write_append_eq (named : isName name = true) {before : List Char}
    (some : before ≠ []) (eq : write name ++ behind = before ++ '$' :: rest) :
    ∃ between, before = write name ++ between ∧ behind = between ++ '$' :: rest := by
  rcases List.append_eq_append_iff.mp eq with ⟨between, ends, later⟩ | ⟨inside, ends, later⟩
  · exact ⟨between, ends, later⟩
  · cases inside with
    | nil => exact ⟨[], by simpa using ends.symm, by simpa using later.symm⟩
    | cons c inside =>
      obtain ⟨rfl, -⟩ := List.cons.inj later
      obtain ⟨d, before, rfl⟩ := List.exists_cons_of_ne_nil some
      have tail : '\x7b' :: name ++ ['\x7d'] = before ++ '$' :: inside := (List.cons.inj ends).2
      have member : '$' ∈ '\x7b' :: name ++ ['\x7d'] := by
        rw [tail]
        simp
      simp [dollar_notMem named] at member

/-- The occurrences in a text whose first reference follows a part without any: that reference, and
the occurrences behind it. -/
theorem occurs_append_iff (bare : IsBare gap) (named : isName name = true) {b n : List Char} :
    Occurs b n (gap ++ (write name ++ rest)) ↔
      (b = gap ∧ n = name) ∨ ∃ b', b = gap ++ (write name ++ b') ∧ Occurs b' n rest := by
  constructor
  · rintro ⟨other, behind, eq⟩
    rw [List.append_assoc] at eq
    rcases List.append_eq_append_iff.mp eq with ⟨between, rfl, later⟩ | ⟨between, rfl, later⟩
    · by_cases here : between = []
      · subst here
        have first := read?_write_append named rest
        rw [← List.nil_append (write name ++ rest), ← later, read?_write_append other] at first
        exact .inl ⟨by simp, (Prod.mk.inj (Option.some.inj first)).1⟩
      · obtain ⟨inside, rfl, -⟩ := exists_of_write_append_eq other here later
        exact absurd ⟨other, inside, by simp⟩ (bare b n)
    · by_cases here : between = []
      · subst here
        have first := read?_write_append other behind
        rw [← List.nil_append (write n ++ behind), ← later, read?_write_append named] at first
        exact .inl ⟨by simp, (Prod.mk.inj (Option.some.inj first)).1.symm⟩
      · obtain ⟨b', rfl, rest_eq⟩ := exists_of_write_append_eq named here later
        refine .inr ⟨b', rfl, other, behind, ?_⟩
        rw [rest_eq, List.append_assoc]
        rfl
  · rintro (⟨rfl, rfl⟩ | ⟨b', rfl, other, behind, rfl⟩)
    · exact ⟨named, rest, by simp⟩
    · exact ⟨other, behind, by simp⟩

/-- Nothing is read where the first reference of a text stands further behind. -/
theorem read?_cons_append {c : Char} (bare : IsBare (c :: gap)) (named : isName name = true) :
    read? (c :: (gap ++ (write name ++ rest))) = none := by
  rw [Option.eq_none_iff_forall_ne_some]
  rintro ⟨n, behind⟩ read
  obtain ⟨other, eq⟩ := read?_eq_some_iff.mp read
  have first : Occurs [] n (c :: gap ++ (write name ++ rest)) :=
    ⟨other, behind, by rw [List.cons_append, eq]; rfl⟩
  rcases (occurs_append_iff bare named).mp first with ⟨empty, -⟩ | ⟨b', empty, -⟩
  · cases empty
  · cases empty

/-- A text has no reference if none begins with its first character and none stands behind. -/
theorem isBare_cons {c : Char} (behind : List Char) (unread : read? (c :: (cs ++ behind)) = none)
    (bare : IsBare cs) : IsBare (c :: cs) := by
  rintro (_ | ⟨b, before⟩) name ⟨named, behind', eq⟩
  · have shape : c :: (cs ++ behind) = write name ++ (behind' ++ behind) := by
      rw [← List.cons_append, ← eq, List.nil_append, List.append_assoc]
    rw [shape, read?_write_append named] at unread
    cases unread
  · exact bare before name ⟨named, behind', (List.cons.inj eq).2⟩

/-! ## Cuts -/

/-- A text cut at its references: a part of the text and the name in the reference behind it, again
and again, and then the last part. -/
inductive Cuts where
  | last (text : List Char)
  | cut (gap name : List Char) (later : Cuts)
  deriving DecidableEq, Repr

namespace Cuts

/-- The text that was cut. -/
def write : Cuts → List Char
  | last text => text
  | cut gap name later => gap ++ (Reference.write name ++ later.write)

/-- Put a character in front. -/
def cons (c : Char) : Cuts → Cuts
  | last text => last (c :: text)
  | cut gap name later => cut (c :: gap) name later

/-- Cut a text at its references: search for the first one, and go on behind it. -/
def ofText : List Char → Cuts
  | [] => last []
  | c :: cs =>
    match _read : read? (c :: cs) with
    | some (name, behind) => cut [] name (ofText behind)
    | none => (ofText cs).cons c
termination_by cs => cs.length
decreasing_by
  · exact length_of_read? _read
  · exact Nat.lt_succ_self _

/-- Whether all references of the text are cut out. -/
def Exact : Cuts → Prop
  | last text => IsBare text
  | cut gap name later => IsBare gap ∧ isName name = true ∧ later.Exact

variable {c : Char} {cuts : Cuts}

@[simp] theorem write_cons (c : Char) (cuts : Cuts) : (cuts.cons c).write = c :: cuts.write := by
  cases cuts <;> rfl

theorem ofText_of_read? (read : read? (c :: cs) = some (name, behind)) :
    ofText (c :: cs) = cut [] name (ofText behind) := by
  rw [ofText]
  split
  · rename_i read'
    rw [read] at read'
    cases read'
    rfl
  · rename_i unread
    rw [read] at unread
    cases unread

theorem ofText_of_unread (unread : read? (c :: cs) = none) :
    ofText (c :: cs) = (ofText cs).cons c := by
  rw [ofText]
  split
  · rename_i read
    rw [unread] at read
    cases read
  · rfl

@[simp] theorem write_ofText (cs : List Char) : (ofText cs).write = cs := by
  induction cs using ofText.induct with
  | case1 => simp [ofText, write]
  | case2 c cs name behind read ih =>
    rw [ofText_of_read? read, write, ih, List.nil_append, ← eq_of_read? read]
  | case3 c cs unread ih => rw [ofText_of_unread unread, write_cons, ih]

theorem Exact.cons (exact : cuts.Exact) (unread : read? (c :: cuts.write) = none) :
    (cuts.cons c).Exact := by
  cases cuts with
  | last text => exact isBare_cons [] (by rwa [List.append_nil]) exact
  | cut gap name later => exact ⟨isBare_cons _ unread exact.1, exact.2⟩

/-- The search leaves no reference uncut. -/
theorem exact_ofText (cs : List Char) : (ofText cs).Exact := by
  induction cs using ofText.induct with
  | case1 =>
    rw [ofText]
    exact isBare_nil
  | case2 c cs name behind read ih =>
    rw [ofText_of_read? read]
    exact ⟨isBare_nil, (read?_eq_some_iff.mp read).1, ih⟩
  | case3 c cs unread ih =>
    rw [ofText_of_unread unread]
    exact ih.cons (by rwa [write_ofText])

theorem ofText_of_isBare (bare : IsBare cs) : ofText cs = last cs := by
  induction cs with
  | nil => simp [ofText]
  | cons c cs ih => rw [ofText_of_unread bare.read?_eq_none, ih bare.tail, Cuts.cons]

theorem ofText_append (bare : IsBare gap) (named : isName name = true) (rest : List Char) :
    ofText (gap ++ (Reference.write name ++ rest)) = cut gap name (ofText rest) := by
  induction gap with
  | nil => exact ofText_of_read? (read?_write_append named rest)
  | cons c gap ih =>
    rw [List.cons_append, ofText_of_unread (read?_cons_append bare named), ih bare.tail, Cuts.cons]

/-- A text is cut in one way only. -/
theorem ofText_write (exact : cuts.Exact) : ofText cuts.write = cuts := by
  induction cuts with
  | last text => exact ofText_of_isBare exact
  | cut gap name later ih => rw [write, ofText_append exact.1 exact.2.1, ih exact.2.2]

/-! ## Pieces -/

/-- The pieces of a part of a text and the reference behind it, which is escaped if that part ends
with a dollar sign. -/
def piecesOf (gap name : List Char) : List Piece :=
  if gap.getLast? = some '$' then gap.dropLast.map .plain ++ [.escaped name]
  else gap.map .plain ++ [.reference name]

def pieces : Cuts → List Piece
  | last text => text.map .plain
  | cut gap name later => piecesOf gap name ++ later.pieces

end Cuts

theorem pieces_of_read? (read : read? cs = some (name, behind)) :
    pieces cs = .reference name :: pieces behind := by
  cases cs with
  | nil => cases read
  | cons c cs => simp only [pieces, nextPiece, read]

/-- A character is plain unless a reference begins with it or it escapes one. -/
theorem pieces_of_unread {c : Char} (unread : read? (c :: cs) = none)
    (unescaping : c = '$' → read? cs = none) : pieces (c :: cs) = .plain c :: pieces cs := by
  by_cases dollar : c = '$'
  · simp only [pieces, nextPiece, unread, if_pos dollar, unescaping dollar]
  · simp only [pieces, nextPiece, unread, if_neg dollar]

/-- A dollar sign in front of a reference escapes it. -/
theorem pieces_of_escaped (read : read? cs = some (name, behind)) :
    pieces ('$' :: cs) = .escaped name :: pieces behind := by
  obtain ⟨named, rfl⟩ := read?_eq_some_iff.mp read
  have bare : IsBare ['$'] := isBare_cons [] rfl isBare_nil
  have unread : read? ('$' :: (write name ++ behind)) = none := read?_cons_append bare named
  simp only [pieces, nextPiece, unread, if_true, read]

theorem pieces_of_isBare (bare : IsBare cs) : pieces cs = cs.map .plain := by
  induction cs with
  | nil => rw [pieces, List.map_nil]
  | cons c cs ih =>
    rw [pieces_of_unread bare.read?_eq_none fun _ => bare.tail.read?_eq_none, ih bare.tail,
      List.map_cons]

theorem pieces_append (bare : IsBare gap) (named : isName name = true) (rest : List Char) :
    pieces (gap ++ (write name ++ rest)) = Cuts.piecesOf gap name ++ pieces rest := by
  have read := read?_write_append named rest
  induction gap with
  | nil => exact pieces_of_read? read
  | cons c gap ih =>
    have unread : read? (c :: (gap ++ (write name ++ rest))) = none := read?_cons_append bare named
    cases gap with
    | nil =>
      by_cases dollar : c = '$'
      · rw [dollar]
        exact pieces_of_escaped read
      · rw [List.cons_append, pieces_of_unread unread fun same => absurd same dollar, ih bare.tail]
        simp [Cuts.piecesOf, dollar]
    | cons d gap =>
      have unescaping : read? (d :: gap ++ (write name ++ rest)) = none :=
        read?_cons_append bare.tail named
      rw [List.cons_append, pieces_of_unread unread fun _ => unescaping, ih bare.tail]
      unfold Cuts.piecesOf
      rw [List.getLast?_cons_cons]
      split <;> rfl

/-- The pieces of a text are those of its cuts. -/
theorem Cuts.Exact.pieces_write {cuts : Cuts} (exact : cuts.Exact) :
    Reference.pieces cuts.write = cuts.pieces := by
  induction cuts with
  | last text => exact pieces_of_isBare exact
  | cut gap name later ih =>
    rw [Cuts.write, pieces_append exact.1 exact.2.1, ih exact.2.2, Cuts.pieces]

/-! ## Mentions -/

/-- An occurrence of a reference: what stands before it, and the name in it. -/
structure Mention where
  before : List Char
  name : List Char
  deriving DecidableEq, Repr

namespace Mention

def isEscaped (m : Mention) : Bool :=
  m.before.getLast? = some '$'

/-- Whether a mention is a reference to a variable that is missing. -/
def lacks (env : Environment) (m : Mention) : Bool :=
  !m.isEscaped && !env.supplies (String.ofList m.name)

end Mention

namespace Cuts

variable {cuts : Cuts} {done : List Char} {env : Environment}

/-- The mentions in a text behind `done`, in their order. -/
def mentions (done : List Char) : Cuts → List Mention
  | last _ => []
  | cut gap name later =>
    ⟨done ++ gap, name⟩ :: later.mentions (done ++ (gap ++ Reference.write name))

/-- The mentions in a text are its occurrences. -/
theorem Exact.mem_mentions_iff (exact : cuts.Exact) {m : Mention} :
    m ∈ cuts.mentions done ↔ ∃ b, m.before = done ++ b ∧ Occurs b m.name cuts.write := by
  induction cuts generalizing done with
  | last text =>
    constructor
    · intro member
      cases member
    · rintro ⟨b, -, occurs⟩
      exact absurd occurs (exact b m.name)
  | cut gap name later ih =>
    obtain ⟨bare, named, exact⟩ := exact
    simp only [mentions, write, List.mem_cons, ih exact, occurs_append_iff bare named]
    constructor
    · rintro (rfl | ⟨b, before, occurs⟩)
      · exact ⟨gap, rfl, .inl ⟨rfl, rfl⟩⟩
      · exact ⟨gap ++ (Reference.write name ++ b), by simpa using before, .inr ⟨b, rfl, occurs⟩⟩
    · rintro ⟨b, before, ⟨rfl, same⟩ | ⟨b', rfl, occurs⟩⟩
      · obtain ⟨_, _⟩ := m
        cases before
        cases same
        exact .inl rfl
      · exact .inr ⟨b', by simpa using before, occurs⟩

theorem length_le_of_mem_mentions {m : Mention} (member : m ∈ cuts.mentions done) :
    done.length ≤ m.before.length := by
  induction cuts generalizing done with
  | last text => cases member
  | cut gap name later ih =>
    rcases List.mem_cons.mp member with rfl | member
    · simp
    · have further := ih member
      rw [List.length_append] at further
      omega

/-- The mentions in a text are listed from left to right. -/
theorem mentions_pairwise (done : List Char) (cuts : Cuts) :
    (cuts.mentions done).Pairwise fun m m' => m.before.length < m'.before.length := by
  induction cuts generalizing done with
  | last text => exact .nil
  | cut gap name later ih =>
    refine .cons (fun m member => ?_) (ih _)
    have further := length_le_of_mem_mentions member
    simp only [List.length_append, Reference.write, List.length_cons] at further ⊢
    omega

/-! ## What a text stands for -/

/-- The text that a reference to a name stands for. -/
def valueOf (env : Environment) (name : List Char) : List Char :=
  ((env.get? (String.ofList name)).getD "").toList

/-- The text with every reference replaced by the value of its variable, and every escaped reference
by the reference without the dollar sign in front. -/
def replaced (env : Environment) : Cuts → List Char
  | last text => text
  | cut gap name later =>
    (if gap.getLast? = some '$' then gap.dropLast ++ Reference.write name
      else gap ++ valueOf env name) ++ later.replaced env

/-- The replacement from left to right, up to the first variable that is missing. -/
def expand (env : Environment) : Cuts → Except String (List Char)
  | last text => .ok text
  | cut gap name later =>
    if gap.getLast? = some '$' then
      (later.expand env).map (gap.dropLast ++ Reference.write name ++ ·)
    else do
      let value ← (Piece.reference name).expand env
      (later.expand env).map (gap ++ value ++ ·)

end Cuts

/-- A reference is replaced by the value of its variable, unless that is missing. -/
theorem Piece.expand_reference (env : Environment) (name : List Char) :
    (reference name).expand env =
      if env.supplies (String.ofList name) then .ok (Cuts.valueOf env name)
      else .error (String.ofList name) := by
  cases found : env.get? (String.ofList name) with
  | none => simp [expand, Environment.supplies, found]
  | some value =>
    have supplies : env.supplies (String.ofList name) = !value.isEmpty := by
      rw [Environment.supplies, found, Option.any_some]
    have given : Cuts.valueOf env name = value.toList := by
      rw [Cuts.valueOf, found, Option.getD_some]
    rw [supplies, given]
    simp only [expand, found, Option.filter_some]
    cases value.isEmpty <;> rfl

namespace Cuts

variable {cuts : Cuts} {done : List Char}

/-- A text with a reference at its end does not end with a dollar sign. -/
theorem getLast?_write (done gap name : List Char) :
    (done ++ (gap ++ Reference.write name)).getLast? ≠ some '$' := by
  have ends : done ++ (gap ++ Reference.write name) =
      done ++ (gap ++ '$' :: '\x7b' :: name) ++ ['\x7d'] := by
    simp [Reference.write]
  rw [ends, List.getLast?_concat]
  decide

/-- Whether a dollar sign stands at the end of a part is decided in that part, behind a text that
does not end with one. -/
theorem getLast?_append (edge : done.getLast? ≠ some '$') (gap : List Char) :
    (done ++ gap).getLast? = some '$' ↔ gap.getLast? = some '$' := by
  rw [List.getLast?_append]
  cases gap.getLast? <;> simp [edge]

/-- The replacement stops at the first mention that lacks its variable. -/
theorem expand_eq (env : Environment) (edge : done.getLast? ≠ some '$') :
    cuts.expand env = match (cuts.mentions done).find? (·.lacks env) with
      | none => .ok (cuts.replaced env)
      | some m => .error (String.ofList m.name) := by
  induction cuts generalizing done with
  | last text => rfl
  | cut gap name later ih =>
    have edge' := getLast?_write done gap name
    have here := getLast?_append edge gap
    rw [expand, mentions, List.find?_cons, replaced, ih edge', Mention.lacks, Mention.isEscaped]
    generalize (later.mentions (done ++ (gap ++ Reference.write name))).find? _ = first
    by_cases escaped : gap.getLast? = some '$'
    · simp only [here, escaped, if_true, decide_true, Bool.not_true, Bool.false_and]
      cases first <;> rfl
    · simp only [here, escaped, if_false, decide_false, Bool.not_false, Bool.true_and,
        Piece.expand_reference]
      cases env.supplies (String.ofList name) with
      | false => rfl
      | true => cases first <;> rfl

theorem mapM_plain (env : Environment) (cs : List Char) :
    (cs.map Piece.plain).mapM (Piece.expand env) = .ok (cs.map fun c => [c]) := by
  induction cs with
  | nil => rfl
  | cons c cs ih =>
    rw [List.map_cons, List.mapM_cons, ih]
    rfl

theorem flatten_singletons (cs : List Char) : (cs.map fun c => [c]).flatten = cs := by
  rw [← List.flatMap_def, List.flatMap_singleton']

/-- The pieces of the cuts are replaced as the cuts are. -/
theorem mapM_pieces (env : Environment) (cuts : Cuts) :
    (cuts.pieces.mapM (Piece.expand env)).map List.flatten = cuts.expand env := by
  induction cuts with
  | last text =>
    rw [pieces, mapM_plain, Except.map, flatten_singletons]
    rfl
  | cut gap name later ih =>
    rw [pieces, List.mapM_append, expand, ← ih, piecesOf]
    split
    · generalize gap.dropLast = front
      rw [List.mapM_append, mapM_plain, List.mapM_cons]
      cases later.pieces.mapM (Piece.expand env) with
      | error name => rfl
      | ok values =>
        simp [Piece.expand, bind, Except.bind, pure, Except.pure, Except.map, flatten_singletons]
    · rw [List.mapM_append, mapM_plain, List.mapM_cons]
      cases (Piece.reference name).expand env with
      | error name => rfl
      | ok value =>
        cases later.pieces.mapM (Piece.expand env) with
        | error name => rfl
        | ok values =>
          simp [bind, Except.bind, pure, Except.pure, Except.map, flatten_singletons]

end Cuts

/-- A text is replaced as its cuts are. -/
theorem expand_eq_cuts (env : Environment) (s : String) :
    expand env s = ((Cuts.ofText s.toList).expand env).map String.ofList := by
  have pieces_eq := (Cuts.exact_ofText s.toList).pieces_write
  rw [Cuts.write_ofText] at pieces_eq
  rw [expand, pieces_eq, ← Cuts.mapM_pieces]
  cases (Cuts.ofText s.toList).pieces.mapM (Piece.expand env) <;> rfl

/-- A text with every reference in it replaced. -/
def replaced (env : Environment) (s : String) : String :=
  String.ofList ((Cuts.ofText s.toList).replaced env)

/-- The mentions in a text, from left to right. -/
def mentions (s : String) : List Mention :=
  (Cuts.ofText s.toList).mentions []

/-- A text is replaced unless a mention lacks its variable, and then the first one is told. -/
theorem expand_eq (env : Environment) (s : String) :
    expand env s = match (mentions s).find? (·.lacks env) with
      | none => .ok (replaced env s)
      | some m => .error (String.ofList m.name) := by
  have edge : ([] : List Char).getLast? ≠ some '$' := nofun
  rw [expand_eq_cuts, Cuts.expand_eq env edge, mentions, replaced]
  split <;> rfl

/-- A text without dollar signs stands for itself. -/
theorem expand_of_plain {s : String} (plain : '$' ∉ s.toList) (env : Environment) :
    expand env s = .ok s := by
  rw [expand_eq_cuts, Cuts.ofText_of_isBare (isBare_of_notMem plain), Cuts.expand, Except.map,
    String.ofList_toList]

theorem mem_mentions_iff {s : String} {m : Mention} :
    m ∈ mentions s ↔ Occurs m.before m.name s.toList := by
  rw [mentions, (Cuts.exact_ofText s.toList).mem_mentions_iff, Cuts.write_ofText]
  simp

/-- The names that a text mentions are those of its mentions. -/
theorem names_eq (s : String) : names s = (mentions s).map (String.ofList ·.name) := by
  have named (gap name : List Char) :
      (Cuts.piecesOf gap name).filterMap (fun p => p.name?.map String.ofList) =
        [String.ofList name] := by
    unfold Cuts.piecesOf
    generalize gap.dropLast = front
    split <;> simp [Piece.name?, List.filterMap_map]
  have all (cuts : Cuts) (done : List Char) :
      cuts.pieces.filterMap (fun p => p.name?.map String.ofList) =
        (cuts.mentions done).map (String.ofList ·.name) := by
    induction cuts generalizing done with
    | last text => simp [Cuts.pieces, Cuts.mentions, Piece.name?, List.filterMap_map]
    | cut gap name later ih =>
      rw [Cuts.pieces, List.filterMap_append, named, Cuts.mentions, List.map_cons, ih]
      rfl
  have pieces_eq := (Cuts.exact_ofText s.toList).pieces_write
  rw [Cuts.write_ofText] at pieces_eq
  rw [names, pieces_eq, all, mentions]

/-! ## Unmet references -/

/-- A reference in a text that is not escaped and whose variable is missing. -/
def Unmet (env : Environment) (s : String) (m : Mention) : Prop :=
  Refers m.before m.name s.toList ∧ env.supplies (String.ofList m.name) = false

/-- The mentions that lack their variables are the unmet references. -/
theorem unmet_iff {env : Environment} {s : String} {m : Mention} :
    Unmet env s m ↔ m ∈ mentions s ∧ m.lacks env = true := by
  rw [mem_mentions_iff, Unmet, Refers, and_assoc]
  simp [Mention.lacks, Mention.isEscaped]

/-- No reference is unmet if every one that is not escaped is to a variable that is supplied. -/
theorem forall_not_unmet_iff {env : Environment} {s : String} :
    (∀ m, ¬Unmet env s m) ↔ ∀ before name, Refers before name s.toList →
      env.supplies (String.ofList name) = true := by
  constructor
  · intro met before name refers
    exact (Bool.not_eq_false _).mp fun missing => met ⟨before, name⟩ ⟨refers, missing⟩
  · rintro supplied m ⟨refers, missing⟩
    rw [supplied m.before m.name refers] at missing
    cases missing

/-- A text is resolved to what stands for it if none of its references is unmet. -/
theorem expand_eq_ok_iff {env : Environment} {s t : String} :
    expand env s = .ok t ↔ (∀ m, ¬Unmet env s m) ∧ t = replaced env s := by
  rw [expand_eq]
  cases missing : (mentions s).find? (·.lacks env) with
  | none =>
    have met : ∀ m, ¬Unmet env s m := by simpa [unmet_iff] using missing
    simp [met, eq_comm]
  | some m =>
    have unmet : Unmet env s m := unmet_iff.mpr
      ⟨List.mem_of_find?_eq_some missing, List.find?_some missing⟩
    exact iff_of_false nofun fun met => met.1 m unmet

/-- The first mention that lacks its variable is the leftmost unmet reference. -/
theorem leftmost_of_find? {env : Environment} {s : String} {m : Mention}
    (found : (mentions s).find? (·.lacks env) = some m) :
    Unmet env s m ∧ ∀ m', Unmet env s m' → m.before.length ≤ m'.before.length := by
  obtain ⟨lacks, before, after, split, supplied⟩ := List.find?_eq_some_iff_append.mp found
  have ordered := Cuts.mentions_pairwise [] (Cuts.ofText s.toList)
  rw [← mentions, split] at ordered
  refine ⟨unmet_iff.mpr ⟨by rw [split]; simp, lacks⟩, fun m' unmet => ?_⟩
  obtain ⟨member, lacks'⟩ := unmet_iff.mp unmet
  have none : ∀ n ∈ before, ¬n.lacks env = true := fun n earlier lacks => by
    simpa [lacks] using supplied n earlier
  rw [split] at member
  rcases eq_or_of_first ordered none member lacks' with rfl | less
  · exact Nat.le_refl _
  · exact Nat.le_of_lt less

end Reference

end DeviceAdmission
