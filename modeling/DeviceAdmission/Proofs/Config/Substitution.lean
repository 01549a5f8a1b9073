import DeviceAdmission.Proofs.Config.Leaves
import DeviceAdmission.Proofs.Config.Slices

/-!
# What substitution does to a tree

A tree is resolved if every reference in its texts that is not escaped is to a variable that is set
and not empty. Then its texts are replaced and nothing else in it is changed. Otherwise the first
reference that lacks its variable is told, in the order of the places and from left to right. The
main statement puts this together for every tree and every environment.
-/

namespace DeviceAdmission

/-- What a leaf lacks first: the name in its first reference without a variable, at its place. -/
def Leaf.unset? (env : Environment) (leaf : Leaf) : Option UnsetVariable :=
  ((Reference.mentions leaf.text).find? (·.lacks env)).map fun m =>
    ⟨String.ofList m.name, leaf.steps.reverse⟩

/-- The same variable, with more steps in front of its place. -/
def UnsetVariable.behind (steps : List TreeStep) (u : UnsetVariable) : UnsetVariable :=
  { u with steps := u.steps ++ steps }

theorem Leaf.unset?_under (env : Environment) (step : TreeStep) (leaf : Leaf) :
    (leaf.under step).unset? env = (leaf.unset? env).map (.behind [step]) := by
  simp only [unset?, under, Option.map_map, Function.comp_def, UnsetVariable.behind,
    List.reverse_cons]

open Reference (Unmet)

/-- What leaves lack first, seen from one step above. -/
theorem findSome?_unset?_under (env : Environment) (step : TreeStep) (leaves : List Leaf) :
    (leaves.map (Leaf.under step)).findSome? (Leaf.unset? env) =
      (leaves.findSome? (Leaf.unset? env)).map (.behind [step]) := by
  rw [List.findSome?_map, List.map_findSome?]
  exact congrArg (List.findSome? · leaves) (funext (Leaf.unset?_under env step))

theorem Leaf.unset?_eq_none_iff {env : Environment} {leaf : Leaf} :
    leaf.unset? env = none ↔ ∀ m, ¬Unmet env leaf.text m := by
  rw [unset?, Option.map_eq_none_iff, List.find?_eq_none]
  simp only [Reference.unmet_iff, not_and]

/-- What a leaf lacks first is the variable of its leftmost unmet reference. -/
theorem Leaf.exists_of_unset?_eq_some {env : Environment} {leaf : Leaf} {u : UnsetVariable}
    (found : leaf.unset? env = some u) :
    ∃ m, Unmet env leaf.text m ∧ u = ⟨String.ofList m.name, leaf.steps.reverse⟩ ∧
      ∀ m', Unmet env leaf.text m' → m.before.length ≤ m'.before.length := by
  obtain ⟨m, first, rfl⟩ := Option.map_eq_some_iff.mp found
  obtain ⟨unmet, leftmost⟩ := Reference.leftmost_of_find? first
  exact ⟨m, unmet, rfl, leftmost⟩

namespace Substitution

open Json (Value leavesOfItems leavesOfFields mapTextsOfItems mapTextsOfFields)

variable {α β : Type} {env : Environment} {v : Value}

/-! ## The first missing variable -/

/-- A result, unless a variable is missing at a place behind `steps`. -/
def barring (missing : Option UnsetVariable) (steps : List TreeStep) (result : α) :
    Except UnsetVariable α :=
  match missing with
  | none => .ok result
  | some u => .error (u.behind steps)

theorem barring_map (f : α → β) (missing : Option UnsetVariable) (steps : List TreeStep)
    (result : α) : (barring missing steps result).map f = barring missing steps (f result) := by
  cases missing <;> rfl

/-- Of two parts that are resolved one after the other, the first one to miss a variable counts. -/
theorem barring_bind {γ : Type} (f : α → β → γ) (first second : Option UnsetVariable)
    (step : TreeStep) (steps : List TreeStep) (a : α) (b : β) :
    (do
      let a ← barring first (step :: steps) a
      let b ← barring second steps b
      pure (f a b)) = barring ((first.map (.behind [step])).or second) steps (f a b) := by
  cases first with
  | some u =>
    show Except.error _ = Except.error _
    simp only [UnsetVariable.behind, List.append_assoc, List.singleton_append]
  | none => cases second <;> rfl

/-- A tree is resolved by replacing its texts, unless one of them lacks a variable. -/
theorem resolveAt_eq (env : Environment) (steps : List TreeStep) (v : Value) :
    resolveAt env steps v = barring (v.leaves.findSome? (Leaf.unset? env)) steps
      (v.mapTexts (Reference.replaced env)) := by
  induction v using Value.induct generalizing steps with
  | null => rfl
  | bool b => rfl
  | number n => rfl
  | text s =>
    rw [resolveAt, Reference.expand_eq, Value.leaves, List.findSome?_singleton, Leaf.unset?]
    generalize (Reference.mentions s).find? _ = missing
    cases missing <;> rfl
  | list items ih =>
    have each (index : Nat) : resolveItems env steps index items =
        barring ((leavesOfItems index items).findSome? (Leaf.unset? env)) steps
          (mapTextsOfItems (Reference.replaced env) items) := by
      induction items generalizing index with
      | nil => rfl
      | cons v rest ihRest =>
        rw [resolveItems, ih v List.mem_cons_self, ihRest fun w member => ih w (.tail v member),
          barring_bind, leavesOfItems, List.findSome?_append, findSome?_unset?_under]
        rfl
    rw [resolveAt, each, barring_map]
    rfl
  | object fields ih =>
    have each : resolveFields env steps fields =
        barring ((leavesOfFields fields).findSome? (Leaf.unset? env)) steps
          (mapTextsOfFields (Reference.replaced env) fields) := by
      induction fields with
      | nil => rfl
      | cons entry rest ihRest =>
        obtain ⟨key, v⟩ := entry
        rw [resolveFields, ih (key, v) List.mem_cons_self,
          ihRest fun w member => ih w (.tail (key, v) member),
          barring_bind (fun v rest => (key, v) :: rest), leavesOfFields, List.findSome?_append,
          findSome?_unset?_under]
        rfl
    rw [resolveAt, each, barring_map]
    rfl

/-- A tree is resolved if none of its texts has an unmet reference. -/
theorem exists_resolve_iff :
    (∃ w, resolve env v = .ok w) ↔ ∀ leaf ∈ v.leaves, ∀ m, ¬Unmet env leaf.text m := by
  rw [resolve, resolveAt_eq]
  cases missing : v.leaves.findSome? (Leaf.unset? env) with
  | none =>
    have met := List.findSome?_eq_none_iff.mp missing
    exact iff_of_true ⟨_, rfl⟩ fun leaf member => Leaf.unset?_eq_none_iff.mp (met leaf member)
  | some u =>
    obtain ⟨leaf, member, found⟩ := List.exists_of_findSome?_eq_some missing
    refine iff_of_false nofun fun met => ?_
    rw [Leaf.unset?_eq_none_iff.mpr (met leaf member)] at found
    cases found

theorem eq_of_resolve {w : Value} (resolved : resolve env v = .ok w) :
    w = v.mapTexts (Reference.replaced env) := by
  rw [resolve, resolveAt_eq] at resolved
  cases missing : v.leaves.findSome? (Leaf.unset? env) with
  | none =>
    rw [missing] at resolved
    exact (Except.ok.inj resolved).symm
  | some u =>
    rw [missing] at resolved
    cases resolved

/-- The variable that is told is that of the first unmet reference. -/
theorem exists_of_resolve_error {u : UnsetVariable} (failed : resolve env v = .error u) :
    ∃ leaf ∈ v.leaves, ∃ m, Unmet env leaf.text m ∧
      u = ⟨String.ofList m.name, leaf.steps.reverse⟩ ∧
      (v.IsSorted → ∀ leaf' ∈ v.leaves, ∀ m', Unmet env leaf'.text m' →
        TreeStep.Precedes leaf.steps leaf'.steps ∨
          leaf' = leaf ∧ m.before.length ≤ m'.before.length) := by
  rw [resolve, resolveAt_eq] at failed
  cases missing : v.leaves.findSome? (Leaf.unset? env) with
  | none =>
    rw [missing] at failed
    cases failed
  | some first =>
    obtain ⟨before, leaf, after, split, found, none⟩ := List.findSome?_eq_some_iff.mp missing
    obtain ⟨m, unmet, rfl, leftmost⟩ := Leaf.exists_of_unset?_eq_some found
    rw [missing] at failed
    cases failed
    refine ⟨leaf, by rw [split]; simp, m, unmet, by simp [UnsetVariable.behind], ?_⟩
    intro sorted leaf' member m' unmet'
    have ordered := sorted.leaves_pairwise
    rw [split] at ordered member
    have met : ∀ other ∈ before, ¬∃ n, Unmet env other.text n := fun other earlier =>
      not_exists.mpr (Leaf.unset?_eq_none_iff.mp (none other earlier))
    rcases eq_or_of_first ordered met member ⟨m', unmet'⟩ with rfl | later
    · exact .inr ⟨rfl, leftmost m' unmet'⟩
    · exact .inl later

/-- Substitution does what the references say. A tree is resolved if every reference that is not
escaped, in every text, is to a variable that is set and not empty. Then each text is replaced and
nothing else is changed: the text is cut at its references in one way, the values and the escaped
references are put in their places, and no slice is cut out of order or inside a character.
Otherwise the first unmet reference is told, by the order of the places and from left to right, with
its variable and its place. -/
theorem resolve_exact (env : Environment) (v : Value) :
    ((∃ w, resolve env v = .ok w) ↔ ∀ leaf ∈ v.leaves, ∀ before name,
      Reference.Refers before name leaf.text.toList →
        env.supplies (String.ofList name) = true) ∧
    (∀ w, resolve env v = .ok w → w = v.mapTexts (Reference.replaced env)) ∧
    (∀ leaf ∈ v.leaves,
      (∃ cuts : Reference.Cuts, cuts.Exact ∧ cuts.write = leaf.text.toList ∧
        Reference.replaced env leaf.text = String.ofList (cuts.replaced env)) ∧
      Reference.replaceBySlices env leaf.text = some (Reference.expand env leaf.text)) ∧
    (∀ u, resolve env v = .error u → ∃ leaf ∈ v.leaves, ∃ m, Unmet env leaf.text m ∧
      u.name = String.ofList m.name ∧ u.place = TreeStep.write leaf.steps ∧
      (v.IsSorted → ∀ leaf' ∈ v.leaves, ∀ m', Unmet env leaf'.text m' →
        TreeStep.Precedes leaf.steps leaf'.steps ∨
          leaf' = leaf ∧ m.before.length ≤ m'.before.length)) := by
  refine ⟨?_, fun w => eq_of_resolve, fun leaf _ => ⟨?_, ?_⟩, ?_⟩
  · exact exists_resolve_iff.trans (forall₂_congr fun leaf _ => Reference.forall_not_unmet_iff)
  · exact ⟨.ofText leaf.text.toList, Reference.Cuts.exact_ofText _, Reference.Cuts.write_ofText _,
      rfl⟩
  · exact Reference.replaceBySlices_eq env leaf.text
  · intro u failed
    obtain ⟨leaf, member, m, unmet, rfl, first⟩ := exists_of_resolve_error failed
    refine ⟨leaf, member, m, unmet, rfl, ?_, first⟩
    rw [UnsetVariable.place, List.reverse_reverse]

end Substitution

/-- A configuration whose texts refer to three variables. -/
def Sample.referringTree : Json.Value :=
  .object [("jwt", .object [("paths", .list [.text "$${HOME}", .text "${DIR}/${KEY}"])]),
    ("storage", .text "${DB}")]

/-- Of two variables that are not set, the first one in the tree is told. -/
theorem Sample.resolve_exact_referringTree :
    (∃ u, Substitution.resolve [("DIR", "/etc")] Sample.referringTree = .error u ∧
      u.message = "jwt.paths[1]: environment variable KEY is not set") ∧
    ∃ leaf ∈ Sample.referringTree.leaves, ∃ m, Unmet [("DIR", "/etc")] leaf.text m ∧
      "KEY" = String.ofList m.name ∧ "jwt.paths[1]" = TreeStep.write leaf.steps ∧
      ∀ leaf' ∈ Sample.referringTree.leaves, ∀ m', Unmet [("DIR", "/etc")] leaf'.text m' →
        TreeStep.Precedes leaf.steps leaf'.steps ∨
          leaf' = leaf ∧ m.before.length ≤ m'.before.length := by
  have told : (Substitution.resolve [("DIR", "/etc")] Sample.referringTree).map (fun _ => ()) =
      .error ⟨"KEY", [.item 1, .field "paths", .field "jwt"]⟩ := by decide +kernel
  have failed : Substitution.resolve [("DIR", "/etc")] Sample.referringTree =
      .error ⟨"KEY", [.item 1, .field "paths", .field "jwt"]⟩ := by
    cases outcome : Substitution.resolve [("DIR", "/etc")] Sample.referringTree with
    | ok w =>
      rw [outcome] at told
      cases told
    | error u =>
      rw [outcome] at told
      cases told
      rfl
  have less : "jwt" < "storage" := by decide
  have sorted : Sample.referringTree.IsSorted :=
    ⟨List.pairwise_pair.mpr less, ⟨List.pairwise_singleton _ _, by trivial⟩, by trivial⟩
  refine ⟨⟨_, failed, by decide⟩, ?_⟩
  obtain ⟨leaf, member, m, unmet, name, place, first⟩ :=
    (Substitution.resolve_exact [("DIR", "/etc")] Sample.referringTree).2.2.2 _ failed
  exact ⟨leaf, member, m, unmet, name, place, first sorted⟩

end DeviceAdmission
