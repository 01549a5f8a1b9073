import DeviceAdmission.Proofs.Store.Parts.Memory
import DeviceAdmission.Proofs.Store.Parts.Tables
import DeviceAdmission.Proofs.Store.Shuffles

/-!
# The part of a store that belongs to a tenant

Every call is about one tenant. What it answers and what it leaves of the part of this tenant is
what it would be if the store had nothing else, and it leaves the parts of all other tenants as they
were.
-/

namespace DeviceAdmission

open TokenEntry

namespace Store

variable {s s' : Store} {t : Tenant} {α : Type}

/-- The part of a tenant: its devices, what the index says of them, and its tokens. -/
def part (s : Store) (t : Tenant) : Store :=
  match s with
  | memory m => memory (m.part t)
  | tables b => tables (b.part t)

theorem tokens_part (s : Store) (t : Tenant) :
    (s.part t).tokens = s.tokens.filter (·.tenant = t) := by
  cases s with
  | memory m =>
      rw [tokens, List.filter_map]
      rfl
  | tables b =>
      rw [tokens, List.filter_map]
      rfl

theorem kind_part (s : Store) (t : Tenant) : (s.part t).kind = s.kind := by
  cases s <;> rfl

/-- A part of a sound store is sound. -/
theorem Sound.part (sound : s.Sound) (t : Tenant) : (s.part t).Sound := by
  have fewer : ((s.part t).tokens).Sublist s.tokens := by
    rw [tokens_part]
    exact List.filter_sublist
  constructor
  · intro tenant deviceId
    exact Nat.le_trans fewer.countP_le (sound.single tenant deviceId)
  · intro isTables
    exact (sound.unique (kind_part s t ▸ isTables)).sublist (fewer.map TokenEntry.id)

theorem keyed_part (keyed : Keyed s.tokens) (t : Tenant) : Keyed (s.part t).tokens := by
  rw [tokens_part]
  exact List.Nodup.sublist (List.filter_sublist.map key) keyed

theorem Shuffled.part (h : s.Shuffled s') (t : Tenant) : (s.part t).Shuffled (s'.part t) := by
  rcases h with rfl | ⟨⟨perm⟩⟩
  · exact .refl _
  · exact .inr (.memory (perm.filter (isOf Token.tenant t)))

/-- Whether the ids that a call brings are those of no other tenant's records. -/
structure Allots (s : Store) (c : StoreCall α) : Prop where
  device : ∀ d, c.newDevice? = some d → ∀ e ∈ s.devices, e.id = d.id → e.tenant = c.tenant
  token : ∀ u, c.candidate? = some u → ∀ e ∈ s.tokens, e.id = u.id → e.tenant = c.tenant

/-- A call is answered out of the part of its tenant, and changes it as if it were alone. -/
theorem run_part {c : StoreCall α} (ordered : s.Ordered) (allots : s.Allots c)
    (own : c.tenant = t) : (s.part t).run c = ((s.run c).1, (s.run c).2.part t) := by
  cases s with
  | memory m =>
      simp only [part, run, MemoryStore.run_part ordered own]
  | tables b =>
      have ran := TableStore.run_part (s := b) own
        (fun d candidate r member idEq => own ▸ allots.device d candidate r.entry
          (List.mem_map_of_mem member) idEq)
        (fun u candidate r member idEq => own ▸ allots.token u candidate r.entry
          (List.mem_map_of_mem member) idEq)
      simp only [part, run, ran]

/-- A call leaves the parts of other tenants. -/
theorem part_run_of_ne {c : StoreCall α} (sound : s.Sound) (other : c.tenant ≠ t) :
    (s.run c).2.part t = s.part t := by
  cases s with
  | memory m => simp only [part, run, MemoryStore.part_run_of_ne other]
  | tables b =>
      have unique := sound.unique rfl
      rw [tokens, List.map_map] at unique
      simp only [part, run, TableStore.part_run_of_ne other unique]

end Store

end DeviceAdmission
