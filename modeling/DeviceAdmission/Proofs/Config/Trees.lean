import DeviceAdmission.Config.File
import DeviceAdmission.Proofs.Config.Leaves

/-!
# Trees that are read are sorted

A mapping of a document becomes an object whose fields are put in their places one after the other.
So in the tree of a document, and in the tree of a configuration file, the keys of every object
ascend.
-/

namespace DeviceAdmission

open Json (Value Fields)

namespace Yaml

/-! ## Scalars -/

variable {s : String} {v : Value}

theorem isSorted_of_plainValue? (read : plainValue? s = some v) : v.IsSorted := by
  have double (x : Option Binary64) :
      ((x.map fun x => Value.number (.real x)).getD (.text s)).IsSorted := by
    cases x <;> trivial
  unfold plainValue? at read
  repeat' split at read
  all_goals
    cases read <;> first | trivial | exact double _

theorem isSorted_of_untaggedValue? {style : ScalarStyle} (read : untaggedValue? s style = some v) :
    v.IsSorted := by
  cases style with
  | plain => exact isSorted_of_plainValue? read
  | quoted =>
    cases read
    trivial

theorem isSorted_of_taggedInteger? (read : taggedInteger? s = some v) : v.IsSorted := by
  obtain ⟨i, -, kept⟩ := Option.bind_eq_some_iff.mp read
  split at kept
  · cases kept
    trivial
  · cases kept

theorem isSorted_of_taggedDouble? (read : taggedDouble? s = some v) : v.IsSorted := by
  unfold taggedDouble? at read
  split at read
  · cases read
    trivial
  · obtain ⟨x, -, rfl⟩ := Option.map_eq_some_iff.mp read
    trivial

/-- The value of a scalar has no fields. -/
theorem isSorted_of_value? {s : Scalar} (read : s.value? = some v) : v.IsSorted := by
  unfold Scalar.value? at read
  split at read
  · cases read
  · split at read
    · exact isSorted_of_untaggedValue? read
    · split at read
      · exact isSorted_of_untaggedValue? read
      · split at read
        · obtain ⟨b, -, rfl⟩ := Option.map_eq_some_iff.mp read
          trivial
        · split at read
          · exact isSorted_of_taggedInteger? read
          · split at read
            · exact isSorted_of_taggedDouble? read
            · repeat' split at read
              all_goals
                cases read <;> trivial

/-! ## Documents -/

/-- What a step of making a tree gives, if it gives anything. -/
def Yields {α : Type} (P : α → Prop) (x : TreeReader α) : Prop :=
  ∀ aliases a aliases', x.run aliases = some (a, aliases') → P a

section

variable {α β : Type} {P : α → Prop} {Q : β → Prop}

theorem yields_true (x : TreeReader α) : Yields (fun _ => True) x :=
  fun _ _ _ _ => trivial

theorem yields_pure {a : α} (holds : P a) : Yields P (pure a) := by
  intro aliases b aliases' run
  cases run
  exact holds

theorem yields_failure : Yields P failure := by
  intro aliases a aliases' run
  cases run

theorem yields_lift {x : Option α} (holds : ∀ a, x = some a → P a) :
    Yields P (liftM x : TreeReader α) := by
  intro aliases a aliases' run
  cases x with
  | none => cases run
  | some b =>
    cases run
    exact holds a rfl

theorem Yields.bind {x : TreeReader α} {f : α → TreeReader β} (first : Yields P x)
    (next : ∀ a, P a → Yields Q (f a)) : Yields Q (x >>= f) := by
  intro aliases b aliases' run
  rw [StateT.run_bind] at run
  obtain ⟨⟨a, between⟩, firstRun, nextRun⟩ := Option.bind_eq_some_iff.mp run
  exact next a (first _ _ _ firstRun) _ _ _ nextRun

theorem Yields.mapM {f : β → TreeReader α} (each : ∀ b, Yields P (f b)) (bs : List β) :
    Yields (fun as => ∀ a ∈ as, P a) (bs.mapM f) := by
  induction bs with
  | nil => exact yields_pure nofun
  | cons b rest ih =>
    rw [List.mapM_cons]
    exact (each b).bind fun a first => ih.bind fun as others =>
      yields_pure (List.forall_mem_cons.mpr ⟨first, others⟩)

end

/-- The tree of a node is sorted, at any depth. -/
theorem Document.yields_value (d : Document) (depth : Nat) (n : Node) :
    Yields Value.IsSorted (d.value depth n) := by
  have scalar (s : Scalar) : Yields Value.IsSorted (liftM s.value? : TreeReader Value) :=
    yields_lift fun v read => isSorted_of_value? read
  induction depth generalizing n with
  | zero =>
    refine (yields_true (d.follow n)).bind fun followed _ => ?_
    cases followed with
    | scalar s => exact scalar s
    | _ => exact yields_failure
  | succ depth ih =>
    refine (yields_true (d.follow n)).bind fun followed _ => ?_
    cases followed with
    | scalar s => exact scalar s
    | sequence tag items =>
      have list := (Yields.mapM ih items).bind fun vs each =>
        yields_pure (show (Value.list vs).IsSorted from Json.itemsSorted_iff.mpr each)
      dsimp only
      split
      · exact (yields_true failure).bind fun _ _ => list
      · exact list
    | mapping tag pairs =>
      have field (pair : Node × Node) := (yields_true (d.key pair.1)).bind fun key _ =>
        (ih pair.2).bind fun v sorted =>
          yields_pure (P := fun f : String × Value => f.2.IsSorted) (a := (key, v)) sorted
      have object := (Yields.mapM field pairs).bind fun fields each =>
        yields_pure (Json.Fields.isSorted_sorted each)
      dsimp only
      split
      · exact (yields_true failure).bind fun _ _ => object
      · exact object
    | aliasOf number => exact yields_failure

/-- The tree of a document is sorted. -/
theorem isSorted_of_read? (read : read? s = some v) : v.IsSorted := by
  obtain ⟨tokens, -, read⟩ := Option.bind_eq_some_iff.mp read
  obtain ⟨document, -, read⟩ := Option.bind_eq_some_iff.mp read
  obtain ⟨⟨tree, aliases⟩, run, rfl⟩ := Option.map_eq_some_iff.mp read
  exact document.yields_value _ _ _ _ _ run

end Yaml

namespace Config

/-- The tree of a configuration file is sorted, whatever reading the file gave. -/
theorem isSorted_of_treeOfFile {path : String} {contents : Except FileFault String} {v : Value}
    (read : treeOfFile path contents = .ok v) : v.IsSorted := by
  have empty : emptyTree.IsSorted := ⟨.nil, trivial⟩
  cases contents with
  | error fault =>
    rw [treeOfFile] at read
    split at read
    · cases read
      exact empty
    · cases read
  | ok text =>
    rw [treeOfFile, treeOfText?] at read
    split at read
    · cases read
      exact empty
    · cases found : Yaml.read? text with
      | none =>
        rw [found] at read
        cases read
      | some tree =>
        rw [found] at read
        cases read
        have sorted := Yaml.isSorted_of_read? found
        unfold treeOfDocument
        split
        · exact empty
        · exact sorted

end Config

end DeviceAdmission
