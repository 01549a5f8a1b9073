import DeviceAdmission.Config.Substitution
import Mathlib.Data.List.Basic

/-!
# The texts of a tree

The texts of a tree are listed with the steps that lead to them. Both walks over a tree, the one
that resolves references and the one that collects names, are told by this list: the first stops at
the first text that cannot be resolved, and the second goes through all of them. A change of the
texts leaves their places. In a tree whose objects have their keys in order, the list is in the
order of the steps.
-/

namespace DeviceAdmission

/-- A text in a tree, with the steps that lead to it, the first step first. -/
structure Leaf where
  steps : List TreeStep
  text : String
  deriving DecidableEq, Repr

/-- The leaf as it is seen from one step above. -/
def Leaf.under (step : TreeStep) (leaf : Leaf) : Leaf :=
  { leaf with steps := step :: leaf.steps }

/-- The leaf with its text changed. -/
def Leaf.map (f : String → String) (leaf : Leaf) : Leaf :=
  { leaf with text := f leaf.text }

/-- Steps come before others if the first difference between them is a smaller key or a smaller
index. -/
inductive TreeStep.Precedes : List TreeStep → List TreeStep → Prop
  | field {key key' : String} {steps steps' : List TreeStep} (less : key < key') :
      Precedes (.field key :: steps) (.field key' :: steps')
  | item {index index' : Nat} {steps steps' : List TreeStep} (less : index < index') :
      Precedes (.item index :: steps) (.item index' :: steps')
  | deeper {step : TreeStep} {steps steps' : List TreeStep} (later : Precedes steps steps') :
      Precedes (step :: steps) (step :: steps')

/-! ## Names in order -/

namespace Substitution

variable {name n : String} {names : List String}

theorem mem_insertName : n ∈ insertName name names ↔ n = name ∨ n ∈ names := by
  induction names with
  | nil => simp [insertName]
  | cons first rest ih =>
    unfold insertName
    by_cases less : name < first
    · rw [if_pos less, List.mem_cons]
    · rw [if_neg less]
      by_cases same : name = first
      · rw [if_pos same, same, List.mem_cons, or_self_left]
      · rw [if_neg same, List.mem_cons, ih, List.mem_cons, or_left_comm]

/-- A name that is put in its place leaves names in order. -/
theorem pairwise_insertName (name : String) (ordered : names.Pairwise (· < ·)) :
    (insertName name names).Pairwise (· < ·) := by
  induction names with
  | nil => exact List.pairwise_singleton _ _
  | cons first rest ih =>
    obtain ⟨above, others⟩ := List.pairwise_cons.mp ordered
    unfold insertName
    by_cases less : name < first
    · rw [if_pos less]
      refine List.pairwise_cons.mpr ⟨List.forall_mem_cons.mpr ⟨less, fun n member => ?_⟩, ordered⟩
      exact String.lt_trans less (above n member)
    · rw [if_neg less]
      by_cases same : name = first
      · rwa [if_pos same]
      · rw [if_neg same]
        have greater : first < name :=
          String.not_le.mp fun le => same (String.le_antisymm le (String.not_lt.mp less))
        refine List.pairwise_cons.mpr ⟨fun n member => ?_, ih others⟩
        rcases mem_insertName.mp member with rfl | later
        · exact greater
        · exact above n later

end Substitution

namespace Json

/-! ## Induction -/

/-- What holds of a list if it holds of its items, and of an object if it holds of the values of its
fields, holds of every value. -/
@[elab_as_elim]
theorem Value.induct {motive : Value → Prop} (null : motive .null)
    (bool : ∀ b, motive (.bool b)) (number : ∀ n, motive (.number n))
    (text : ∀ s, motive (.text s))
    (list : ∀ items, (∀ v ∈ items, motive v) → motive (.list items))
    (object : ∀ fields, (∀ f ∈ fields, motive f.2) → motive (.object fields)) (v : Value) :
    motive v :=
  @Value.rec motive (fun items => ∀ v ∈ items, motive v) (fun fields => ∀ f ∈ fields, motive f.2)
    (fun f => motive f.2) null bool number text list object
    (fun _ member => by cases member)
    (fun _ _ first rest => List.forall_mem_cons.mpr ⟨first, rest⟩)
    (fun _ member => by cases member)
    (fun _ _ first rest => List.forall_mem_cons.mpr ⟨first, rest⟩)
    (fun _ _ value => value) v

/-! ## Texts -/

mutual

/-- The texts of a tree, in the order in which they are written. -/
def Value.leaves : Value → List Leaf
  | .null => []
  | .bool _ => []
  | .number _ => []
  | .text s => [⟨[], s⟩]
  | .list items => leavesOfItems 0 items
  | .object fields => leavesOfFields fields

/-- The texts of the items of a list from `index` on. -/
def leavesOfItems : (index : Nat) → List Value → List Leaf
  | _, [] => []
  | index, v :: rest => v.leaves.map (.under (.item index)) ++ leavesOfItems (index + 1) rest

/-- The texts of the fields of an object. -/
def leavesOfFields : List (String × Value) → List Leaf
  | [] => []
  | (key, v) :: rest => v.leaves.map (.under (.field key)) ++ leavesOfFields rest

end

mutual

/-- The same tree with each of its texts changed. -/
def Value.mapTexts (f : String → String) : Value → Value
  | .null => .null
  | .bool b => .bool b
  | .number n => .number n
  | .text s => .text (f s)
  | .list items => .list (mapTextsOfItems f items)
  | .object fields => .object (mapTextsOfFields f fields)

def mapTextsOfItems (f : String → String) : List Value → List Value
  | [] => []
  | v :: rest => v.mapTexts f :: mapTextsOfItems f rest

def mapTextsOfFields (f : String → String) : List (String × Value) → List (String × Value)
  | [] => []
  | (key, v) :: rest => (key, v.mapTexts f) :: mapTextsOfFields f rest

end

/-- The texts of the changed tree are the changed texts, at the same places. -/
theorem Value.leaves_mapTexts (f : String → String) (v : Value) :
    (v.mapTexts f).leaves = v.leaves.map (Leaf.map f) := by
  have under (step : TreeStep) (leaves : List Leaf) :
      (leaves.map (Leaf.map f)).map (Leaf.under step) =
        (leaves.map (Leaf.under step)).map (Leaf.map f) := by
    simp only [List.map_map, Function.comp_def, Leaf.under, Leaf.map]
  induction v using Value.induct with
  | null => rfl
  | bool b => rfl
  | number n => rfl
  | text s => rfl
  | list items ih =>
    have each (index : Nat) : leavesOfItems index (mapTextsOfItems f items) =
        (leavesOfItems index items).map (Leaf.map f) := by
      induction items generalizing index with
      | nil => rfl
      | cons v rest ihRest =>
        rw [mapTextsOfItems, leavesOfItems, leavesOfItems, List.map_append,
          ih v List.mem_cons_self, under, ihRest fun w member => ih w (.tail v member)]
    exact each 0
  | object fields ih =>
    show leavesOfFields (mapTextsOfFields f fields) = (leavesOfFields fields).map (Leaf.map f)
    induction fields with
    | nil => rfl
    | cons entry rest ihRest =>
      obtain ⟨key, v⟩ := entry
      rw [mapTextsOfFields, leavesOfFields, leavesOfFields, List.map_append,
        ih (key, v) List.mem_cons_self, under, ihRest fun w member => ih w (.tail (key, v) member)]

/-- Changes of the texts that undo each other leave the tree. -/
theorem Value.mapTexts_mapTexts {f g : String → String} (undone : ∀ s, g (f s) = s) (v : Value) :
    (v.mapTexts f).mapTexts g = v := by
  induction v using Value.induct with
  | null => rfl
  | bool b => rfl
  | number n => rfl
  | text s => simp only [mapTexts, undone]
  | list items ih =>
    have each : mapTextsOfItems g (mapTextsOfItems f items) = items := by
      induction items with
      | nil => rfl
      | cons v rest ihRest =>
        rw [mapTextsOfItems, mapTextsOfItems, ih v List.mem_cons_self,
          ihRest fun w member => ih w (List.mem_cons_of_mem v member)]
    rw [mapTexts, mapTexts, each]
  | object fields ih =>
    have each : mapTextsOfFields g (mapTextsOfFields f fields) = fields := by
      induction fields with
      | nil => rfl
      | cons entry rest ihRest =>
        obtain ⟨key, v⟩ := entry
        rw [mapTextsOfFields, mapTextsOfFields, ih (key, v) List.mem_cons_self,
          ihRest fun w member => ih w (List.mem_cons_of_mem (key, v) member)]
    rw [mapTexts, mapTexts, each]

/-! ## Order -/

mutual

/-- Whether the keys of every object in a tree ascend. -/
def Value.IsSorted : Value → Prop
  | .list items => ItemsSorted items
  | .object fields => (fields.map (·.1)).Pairwise (· < ·) ∧ FieldsSorted fields
  | _ => True

def ItemsSorted : List Value → Prop
  | [] => True
  | v :: rest => v.IsSorted ∧ ItemsSorted rest

def FieldsSorted : List (String × Value) → Prop
  | [] => True
  | (_, v) :: rest => v.IsSorted ∧ FieldsSorted rest

end

/-- Putting a field in its place puts its key in its place. -/
theorem Fields.keys_insertSorted (key : String) (v : Value) (fields : Fields) :
    (Fields.insertSorted key v fields).map (·.1) =
      Substitution.insertName key (fields.map (·.1)) := by
  induction fields with
  | nil => rfl
  | cons field rest ih =>
    obtain ⟨k, w⟩ := field
    simp only [Fields.insertSorted, Substitution.insertName, List.map_cons]
    by_cases less : key < k
    · rw [if_pos less, if_pos less, List.map_cons, List.map_cons]
    · rw [if_neg less, if_neg less]
      by_cases same : key = k
      · rw [if_pos same, if_pos same, List.map_cons, same]
      · rw [if_neg same, if_neg same, List.map_cons, ih]

theorem itemsSorted_iff {items : List Value} : ItemsSorted items ↔ ∀ v ∈ items, v.IsSorted := by
  induction items with
  | nil => exact iff_of_true trivial fun _ member => by cases member
  | cons v rest ih => rw [ItemsSorted, ih, List.forall_mem_cons]

theorem fieldsSorted_iff {fields : Fields} : FieldsSorted fields ↔ ∀ f ∈ fields, f.2.IsSorted := by
  induction fields with
  | nil => exact iff_of_true trivial fun _ member => by cases member
  | cons field rest ih => rw [FieldsSorted, ih, List.forall_mem_cons]

theorem Fields.mem_insertSorted {fields : Fields} {key : String} {v : Value} {f : String × Value}
    (member : f ∈ Fields.insertSorted key v fields) : f = (key, v) ∨ f ∈ fields := by
  induction fields with
  | nil => exact .inl (List.mem_singleton.mp member)
  | cons field rest ih =>
    unfold Fields.insertSorted at member
    split at member
    · exact List.mem_cons.mp member
    · split at member
      · exact (List.mem_cons.mp member).imp_right (List.mem_cons_of_mem field)
      · rcases List.mem_cons.mp member with rfl | later
        · exact .inr List.mem_cons_self
        · exact (ih later).imp_right (List.mem_cons_of_mem field)

/-- Fields that are put in their places one after the other are in order. -/
theorem Fields.isSorted_sorted {fields : Fields} (values : ∀ f ∈ fields, f.2.IsSorted) :
    (Value.object (Fields.sorted fields)).IsSorted := by
  have from_sorted (sofar : Fields) (sorted : (Value.object sofar).IsSorted) :
      (Value.object (fields.foldl
        (fun sofar field => Fields.insertSorted field.1 field.2 sofar) sofar)).IsSorted := by
    induction fields generalizing sofar with
    | nil => exact sorted
    | cons field rest ih =>
      obtain ⟨first, others⟩ := List.forall_mem_cons.mp values
      refine ih others _ ⟨?_, fieldsSorted_iff.mpr fun f member => ?_⟩
      · rw [keys_insertSorted]
        exact Substitution.pairwise_insertName _ sorted.1
      · rcases mem_insertSorted member with rfl | before
        · exact first
        · exact fieldsSorted_iff.mp sorted.2 f before
  exact from_sorted [] ⟨.nil, trivial⟩

/-- The texts of the items from an index on are behind that index or a later one. -/
theorem exists_of_mem_leavesOfItems {items : List Value} {index : Nat} {leaf : Leaf}
    (member : leaf ∈ leavesOfItems index items) :
    ∃ j steps, index ≤ j ∧ leaf.steps = .item j :: steps := by
  induction items generalizing index with
  | nil => cases member
  | cons v rest ih =>
    rcases List.mem_append.mp member with here | later
    · obtain ⟨inner, -, rfl⟩ := List.mem_map.mp here
      exact ⟨index, inner.steps, Nat.le_refl _, rfl⟩
    · obtain ⟨j, steps, le, eq⟩ := ih later
      exact ⟨j, steps, Nat.le_of_succ_le le, eq⟩

/-- The texts of fields are behind the keys of these. -/
theorem exists_of_mem_leavesOfFields {fields : List (String × Value)} {leaf : Leaf}
    (member : leaf ∈ leavesOfFields fields) :
    ∃ key steps, key ∈ fields.map (·.1) ∧ leaf.steps = .field key :: steps := by
  induction fields with
  | nil => cases member
  | cons entry rest ih =>
    obtain ⟨key, v⟩ := entry
    rcases List.mem_append.mp member with here | later
    · obtain ⟨inner, -, rfl⟩ := List.mem_map.mp here
      exact ⟨key, inner.steps, List.mem_cons_self, rfl⟩
    · obtain ⟨k, steps, mem, eq⟩ := ih later
      exact ⟨k, steps, List.mem_cons_of_mem key mem, eq⟩

theorem pairwise_under {leaves : List Leaf} (step : TreeStep)
    (ordered : leaves.Pairwise fun a b : Leaf => TreeStep.Precedes a.steps b.steps) :
    (leaves.map (Leaf.under step)).Pairwise fun a b => TreeStep.Precedes a.steps b.steps :=
  List.pairwise_map.mpr (ordered.imp fun before => .deeper before)

/-- The texts of a sorted tree are listed in the order of their steps. -/
theorem Value.IsSorted.leaves_pairwise {v : Value} (sorted : v.IsSorted) :
    v.leaves.Pairwise fun a b => TreeStep.Precedes a.steps b.steps := by
  induction v using Value.induct with
  | null => exact .nil
  | bool b => exact .nil
  | number n => exact .nil
  | text s => exact List.pairwise_singleton _ _
  | list items ih =>
    have ordered : ∀ index, (leavesOfItems index items).Pairwise fun a b =>
        TreeStep.Precedes a.steps b.steps := by
      have sorted : ItemsSorted items := sorted
      induction items with
      | nil => exact fun _ => .nil
      | cons v rest ihRest =>
        intro index
        have first := ih v List.mem_cons_self sorted.1
        have others := ihRest (fun w member => ih w (List.mem_cons_of_mem v member)) sorted.2
          sorted.2 (index + 1)
        refine List.pairwise_append.mpr ⟨pairwise_under _ first, others, ?_⟩
        intro a here b later
        obtain ⟨inner, -, rfl⟩ := List.mem_map.mp here
        obtain ⟨j, steps, le, eq⟩ := exists_of_mem_leavesOfItems later
        rw [eq]
        exact .item le
    exact ordered 0
  | object fields ih =>
    obtain ⟨keys, sorted⟩ := sorted
    show (leavesOfFields fields).Pairwise _
    induction fields with
    | nil => exact .nil
    | cons entry rest ihRest =>
      obtain ⟨key, v⟩ := entry
      obtain ⟨less, keys⟩ := List.pairwise_cons.mp keys
      have first := ih (key, v) List.mem_cons_self sorted.1
      have others := ihRest (fun w member => ih w (List.mem_cons_of_mem _ member)) keys sorted.2
      refine List.pairwise_append.mpr ⟨pairwise_under _ first, others, ?_⟩
      intro a here b later
      obtain ⟨inner, -, rfl⟩ := List.mem_map.mp here
      obtain ⟨k, steps, mem, eq⟩ := exists_of_mem_leavesOfFields later
      rw [eq]
      exact .field (less k mem)

end Json

end DeviceAdmission
