import DeviceAdmission.Device
import Mathlib.Data.List.Basic

/-!
# What belongs to a tenant

A list of records is filtered down to those of one tenant. What is looked up, changed or put for
this tenant may as well be looked up, changed or put in the part that is kept, and what is changed
or put for another tenant leaves this part.
-/

namespace DeviceAdmission

section Filtering

variable {α : Type} {l : List α} {p q : α → Bool} {f : α → α}

theorem filter_filter_of_imp (narrower : ∀ a ∈ l, q a = true → p a = true) :
    (l.filter p).filter q = l.filter q := by
  rw [List.filter_filter]
  apply List.filter_congr
  intro a member
  cases wanted : q a with
  | false => rfl
  | true => rw [narrower a member wanted]; rfl

theorem find?_filter_of_imp (narrower : ∀ a ∈ l, q a = true → p a = true) :
    (l.filter p).find? q = l.find? q := by
  rw [← List.head?_filter, ← List.head?_filter, filter_filter_of_imp narrower]

theorem any_filter_of_imp (narrower : ∀ a ∈ l, q a = true → p a = true) :
    (l.filter p).any q = l.any q := by
  rw [← List.isSome_find?, ← List.isSome_find?, find?_filter_of_imp narrower]

/-- A change after which elements are kept as before may be made before or after. -/
theorem filter_map_of_same (same : ∀ a, p (f a) = p a) :
    (l.map f).filter p = (l.filter p).map f := by
  rw [List.filter_map]
  congr 1
  exact List.filter_congr fun a _ => same a

/-- A change of elements that are not kept leaves those that are. -/
theorem filter_map_of_fixed (same : ∀ a, p (f a) = p a) (fixed : ∀ a ∈ l, p a = true → f a = a) :
    (l.map f).filter p = l.filter p := by
  rw [filter_map_of_same same]
  have kept : ∀ a ∈ l.filter p, f a = id a := fun a member =>
    fixed a (List.mem_filter.mp member).1 (List.mem_filter.mp member).2
  rw [List.map_congr_left kept, List.map_id]

/-- Put an element in place of the first that `q` picks, or behind the others. -/
def putBy (q : α → Bool) (a : α) : List α → List α
  | [] => [a]
  | b :: rest => if q b then a :: rest else b :: putBy q a rest

variable {a : α}

/-- An element that is kept is put among those that are kept. -/
theorem filter_putBy (own : p a = true) (narrower : ∀ b, q b = true → p b = true) (l : List α) :
    (putBy q a l).filter p = putBy q a (l.filter p) := by
  induction l with
  | nil => rw [putBy, List.filter_cons_of_pos own, List.filter_nil, putBy]
  | cons b rest ih =>
      rw [putBy]
      split
      · rename_i same
        rw [List.filter_cons_of_pos own, List.filter_cons_of_pos (narrower b same), putBy,
          if_pos same]
      · rename_i other
        by_cases kept : p b = true
        · rw [List.filter_cons_of_pos kept, List.filter_cons_of_pos kept, putBy, if_neg other, ih]
        · rw [List.filter_cons_of_neg kept, List.filter_cons_of_neg kept, ih]

/-- An element that is not kept is put where it replaces none that is. -/
theorem filter_putBy_of_not (other : ¬p a = true) (apart : ∀ b, q b = true → ¬p b = true)
    (l : List α) : (putBy q a l).filter p = l.filter p := by
  induction l with
  | nil => rw [putBy, List.filter_cons_of_neg other]
  | cons b rest ih =>
      rw [putBy]
      split
      · rename_i same
        rw [List.filter_cons_of_neg other, List.filter_cons_of_neg (apart b same)]
      · rw [List.filter_cons, List.filter_cons, ih]

end Filtering

/-! ## Records of a tenant -/

section Records

variable {α : Type} {tenantOf : α → Tenant} {t tenant : Tenant} {p : α → Bool} {change : α → α}

/-- Whether a record belongs to a tenant. -/
def isOf (tenantOf : α → Tenant) (t : Tenant) (a : α) : Bool :=
  tenantOf a = t

theorem isOf_self (tenantOf : α → Tenant) (a : α) : isOf tenantOf (tenantOf a) a = true :=
  decide_eq_true rfl

theorem not_isOf_of_ne {a : α} (own : isOf tenantOf tenant a = true) (other : tenant ≠ t) :
    ¬isOf tenantOf t a = true := by
  rw [isOf, decide_eq_true_eq] at own ⊢
  rw [own]
  exact other

/-- A change of records within their tenants is a change of each part. -/
theorem filter_change (same : ∀ a, tenantOf (change a) = tenantOf a) (l : List α) :
    (l.map fun a => if p a then change a else a).filter (isOf tenantOf t) =
      (l.filter (isOf tenantOf t)).map fun a => if p a then change a else a := by
  apply filter_map_of_same
  intro a
  split
  · rw [isOf, same, isOf]
  · rfl

/-- A change of a tenant's records leaves the parts of other tenants. -/
theorem filter_change_of_ne {l : List α} (same : ∀ a, tenantOf (change a) = tenantOf a)
    (own : ∀ a ∈ l, p a = true → isOf tenantOf tenant a = true) (other : tenant ≠ t) :
    (l.map fun a => if p a then change a else a).filter (isOf tenantOf t) =
      l.filter (isOf tenantOf t) := by
  apply filter_map_of_fixed
  · intro a
    split
    · rw [isOf, same, isOf]
    · rfl
  · intro a member kept
    exact if_neg fun picked => not_isOf_of_ne (own a member picked) other kept

end Records

end DeviceAdmission
