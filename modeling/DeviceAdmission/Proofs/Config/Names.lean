import DeviceAdmission.Proofs.Config.Substitution

/-!
# The names that a tree reports

The names of a tree are those in its references, escaped or not, in their order and each of them
once. A name is needed if a reference that is not escaped has it. A tree that mentions a name in
escaped references only reports that name all the same, so that the names are enough to resolve the
tree and may be more than that takes. The main statement is when they are exactly what is needed.
-/

namespace DeviceAdmission

/-- The environment in which given names are set. -/
def Environment.ofNames (names : List String) : Environment :=
  names.map fun name => (name, "set")

theorem Environment.supplies_ofNames {names : List String} {name : String} :
    (ofNames names).supplies name = true ↔ name ∈ names := by
  induction names with
  | nil => exact iff_of_false nofun nofun
  | cons first rest ih =>
    rw [ofNames, List.map_cons, supplies, get?, List.find?_cons, List.mem_cons]
    by_cases same : first = name
    · simp [same]
    · rw [← ih]
      simp [same, Ne.symm same, ofNames, supplies, get?]

namespace Substitution

open Json (Value leavesOfItems leavesOfFields)

variable {env : Environment} {v : Value} {name : String}

/-- A reference to the name stands in a text of the tree, escaped or not. -/
def Mentions (v : Value) (name : String) : Prop :=
  ∃ leaf ∈ v.leaves, ∃ m : Reference.Mention,
    Reference.Occurs m.before m.name leaf.text.toList ∧ String.ofList m.name = name

/-- A reference to the name that is not escaped stands in a text of the tree. -/
def Needs (v : Value) (name : String) : Prop :=
  ∃ leaf ∈ v.leaves, ∃ m : Reference.Mention,
    Reference.Refers m.before m.name leaf.text.toList ∧ String.ofList m.name = name

theorem Needs.mentions (needs : Needs v name) : Mentions v name :=
  let ⟨leaf, member, m, refers, eq⟩ := needs
  ⟨leaf, member, m, refers.1, eq⟩

/-! ## The names -/

/-- The names of a tree are those of its texts. -/
theorem mentions_eq (v : Value) :
    mentions v = v.leaves.flatMap fun leaf => Reference.names leaf.text := by
  have under (step : TreeStep) (leaves : List Leaf) :
      (leaves.map (Leaf.under step)).flatMap (fun leaf => Reference.names leaf.text) =
        leaves.flatMap fun leaf => Reference.names leaf.text :=
    List.flatMap_map _ _ _
  induction v using Value.induct with
  | null => rfl
  | bool b => rfl
  | number n => rfl
  | text s => exact (List.flatMap_singleton _ _).symm
  | list items ih =>
    have each (index : Nat) : mentionsOfItems items =
        (leavesOfItems index items).flatMap fun leaf => Reference.names leaf.text := by
      induction items generalizing index with
      | nil => rfl
      | cons v rest ihRest =>
        rw [mentionsOfItems, leavesOfItems, List.flatMap_append, under, ih v List.mem_cons_self,
          ihRest (fun w member => ih w (.tail v member)) (index + 1)]
    exact each 0
  | object fields ih =>
    show mentionsOfFields fields =
      (leavesOfFields fields).flatMap fun leaf => Reference.names leaf.text
    induction fields with
    | nil => rfl
    | cons entry rest ihRest =>
      obtain ⟨key, v⟩ := entry
      rw [mentionsOfFields, leavesOfFields, List.flatMap_append, under,
        ih (key, v) List.mem_cons_self, ihRest fun w member => ih w (.tail (key, v) member)]

theorem mem_mentions_iff : name ∈ mentions v ↔ Mentions v name := by
  simp only [mentions_eq, List.mem_flatMap, Reference.names_eq, List.mem_map,
    Reference.mem_mentions_iff, Mentions]

/-- The names that are reported are those that the tree mentions, in order and each of them once. -/
theorem mentioned_spec (v : Value) :
    (mentioned v).Pairwise (· < ·) ∧ ∀ name, name ∈ mentioned v ↔ Mentions v name := by
  have from_names (names sofar : List String) (ordered : sofar.Pairwise (· < ·)) :
      (names.foldl (fun sofar name => insertName name sofar) sofar).Pairwise (· < ·) ∧
      ∀ name, name ∈ names.foldl (fun sofar name => insertName name sofar) sofar ↔
        name ∈ names ∨ name ∈ sofar := by
    induction names generalizing sofar with
    | nil => exact ⟨ordered, fun name => (or_iff_right nofun).symm⟩
    | cons first rest ih =>
      obtain ⟨ordered', members⟩ := ih _ (pairwise_insertName first ordered)
      refine ⟨ordered', fun name => (members name).trans ?_⟩
      rw [mem_insertName, List.mem_cons, or_assoc, or_left_comm]
  obtain ⟨ordered, members⟩ := from_names (mentions v) [] .nil
  refine ⟨ordered, fun name => (members name).trans ?_⟩
  rw [or_iff_left nofun, mem_mentions_iff]

/-! ## What is needed -/

/-- A tree is resolved if every name that it needs is supplied. -/
theorem exists_resolve_iff_needs :
    (∃ w, resolve env v = .ok w) ↔ ∀ name, Needs v name → env.supplies name = true := by
  simp only [exists_resolve_iff, Reference.forall_not_unmet_iff]
  constructor
  · rintro supplied name ⟨leaf, member, m, refers, rfl⟩
    exact supplied leaf member m.before m.name refers
  · intro supplied leaf member before name refers
    exact supplied _ ⟨leaf, member, ⟨before, name⟩, refers, rfl⟩

/-- A name is needed if the tree is not resolved without it. -/
theorem needs_iff :
    Needs v name ↔ ∀ env, (∃ w, resolve env v = .ok w) → env.supplies name = true := by
  constructor
  · exact fun needs env resolved => exists_resolve_iff_needs.mp resolved name needs
  · intro required
    by_contra unneeded
    -- In this environment all names are set that the tree mentions, except for this one.
    have others := required (.ofNames ((mentioned v).filter (· ≠ name)))
      (exists_resolve_iff_needs.mpr fun n needs => by
        rw [Environment.supplies_ofNames, List.mem_filter, (mentioned_spec v).2]
        exact ⟨needs.mentions, decide_eq_true fun same => unneeded (same ▸ needs)⟩)
    simp [Environment.supplies_ofNames] at others

/-- The names that a tree reports are in order and each of them once. They are those in its
references, escaped or not, and to supply them is enough to resolve it. What it takes are the names
in references that are not escaped, so the reported names are what it takes, in every environment,
exactly if each of them has such a reference. -/
theorem mentioned_exact (v : Value) :
    (mentioned v).Pairwise (· < ·) ∧
    (∀ name, name ∈ mentioned v ↔ Mentions v name) ∧
    (∀ env, (∃ w, resolve env v = .ok w) ↔ ∀ name, Needs v name → env.supplies name = true) ∧
    (∀ env, (∀ name ∈ mentioned v, env.supplies name = true) → ∃ w, resolve env v = .ok w) ∧
    ((∀ env, (∃ w, resolve env v = .ok w) ↔ ∀ name ∈ mentioned v, env.supplies name = true) ↔
      ∀ name ∈ mentioned v, Needs v name) := by
  obtain ⟨ordered, members⟩ := mentioned_spec v
  have enough (env : Environment) (supplied : ∀ name ∈ mentioned v, env.supplies name = true) :
      ∃ w, resolve env v = .ok w :=
    exists_resolve_iff_needs.mpr fun name needs =>
      supplied name ((members name).mpr needs.mentions)
  refine ⟨ordered, members, fun env => exists_resolve_iff_needs, enough,
    fun exact name member => ?_, fun needed env => ⟨fun resolved name member => ?_, enough env⟩⟩
  · exact needs_iff.mpr fun env resolved => (exact env).mp resolved name member
  · exact exists_resolve_iff_needs.mp resolved name (needed name member)

end Substitution

/-- A configuration with an escaped reference and no other. -/
def Sample.escapingTree : Json.Value :=
  .object [("a", .text "$${NOT_A_VAR}")]

/-- The name of an escaped reference is reported, and nothing has to be set to resolve the tree. -/
theorem Sample.not_always_needed :
    (Substitution.mentioned Sample.escapingTree = ["NOT_A_VAR"] ∧
      Substitution.resolve [] Sample.escapingTree =
        .ok (.object [("a", .text "${NOT_A_VAR}")])) ∧
    ¬∀ (env : Environment) (v : Json.Value), (∃ w, Substitution.resolve env v = .ok w) ↔
      ∀ name ∈ Substitution.mentioned v, env.supplies name = true := by
  have reported : Substitution.mentioned Sample.escapingTree = ["NOT_A_VAR"] := by decide +kernel
  have replaced : Reference.replaced [] "$${NOT_A_VAR}" = "${NOT_A_VAR}" := by decide +kernel
  have succeeds : (Substitution.resolve [] Sample.escapingTree).isOk = true := by decide +kernel
  have resolved : Substitution.resolve [] Sample.escapingTree =
      .ok (.object [("a", .text "${NOT_A_VAR}")]) := by
    cases outcome : Substitution.resolve [] Sample.escapingTree with
    | ok w => rw [Substitution.eq_of_resolve outcome, ← replaced]; rfl
    | error u =>
      rw [outcome] at succeeds
      cases succeeds
  refine ⟨⟨reported, resolved⟩, fun always => ?_⟩
  have supplied := (always [] Sample.escapingTree).mp ⟨_, resolved⟩ "NOT_A_VAR" (by simp [reported])
  cases supplied

end DeviceAdmission
