import DeviceAdmission.Proofs.Service.Run
import DeviceAdmission.Proofs.Store.Listing
import DeviceAdmission.Proofs.Store.Readback

/-!
# Pages of a listing

A page is asked for by its number and its size, and the call for it counts with saturation and asks
for one device more than it shows. This file compares its answer with what the page is meant to be:
the devices at its places in the listing, and whether the listing goes on behind them. The main
statement is that the pages of a size, from the first to the one that nothing follows, are the
listing of the tenant. The counterexample behind its condition is a device that was accepted in the
year 10000.
-/

namespace DeviceAdmission

/-- A page with its items changed. -/
def Page.map {α β : Type} (f : α → β) (p : Page α) : Page β :=
  ⟨p.items.map f, p.hasMore, p.page, p.perPage⟩

namespace PageRequest

variable {α β : Type} {r : PageRequest} {all : List α}

/-- The page that is meant: the items behind those of the pages before, as many as it shows, and
whether there are items behind them. -/
def cut (r : PageRequest) (all : List α) : Page α where
  items := (all.drop ((r.page - 1) * r.perPage)).take r.perPage
  hasMore := r.page * r.perPage < all.length
  page := r.page
  perPage := r.perPage

theorem map_paginate (f : α → β) (r : PageRequest) (found : List α) :
    (r.paginate found).map f = r.paginate (found.map f) := by
  simp only [Page.map, paginate, List.map_take, List.length_map]

/-- The places of a page end where the number says. -/
theorem pred_mul_add (positive : 1 ≤ r.page) :
    (r.page - 1) * r.perPage + r.perPage = r.page * r.perPage := by
  rw [← Nat.succ_mul, Nat.succ_eq_add_one, Nat.sub_add_cancel positive]

/-- Saturation drops no more and no less than is there to be dropped. -/
theorem drop_skip (r : PageRequest) (few : all.length ≤ maxOffset) :
    all.drop r.skip = all.drop ((r.page - 1) * r.perPage) := by
  unfold skip
  have word : maxOffset < maxWord := by decide
  rcases Nat.le_total ((r.page - 1) * r.perPage) maxWord with fits | exceeds
  · rw [Nat.min_eq_left fits]
  · rw [Nat.min_eq_right exceeds, List.drop_eq_nil_of_le (by omega),
      List.drop_eq_nil_of_le (by omega)]

/-- The page that shows what the call for it found is the one that is meant. -/
theorem paginate_eq_cut (positive : 1 ≤ r.page) (few : all.length ≤ maxOffset) :
    r.paginate ((all.drop r.skip).take r.limit) = r.cut all := by
  have word : maxOffset < maxWord := by decide
  have places := pred_mul_add positive
  rw [drop_skip r few, paginate, cut, Page.mk.injEq, List.take_take, List.length_take,
    List.length_drop, limit, decide_eq_decide]
  refine ⟨?_, ?_, rfl, rfl⟩
  · rcases Nat.lt_or_ge r.perPage maxWord with fits | exceeds
    · rw [Nat.min_eq_left (by omega)]
    · have short : (all.drop ((r.page - 1) * r.perPage)).length ≤ maxWord := by
        rw [List.length_drop]
        omega
      rw [List.take_of_length_le (by omega), List.take_of_length_le (by omega)]
  · omega

/-- The first pages of a size, one after the other, are the beginning of the listing. -/
theorem flatMap_cut (perPage : Nat) (all : List α) (count : Nat) :
    ((List.range count).flatMap fun i => (cut ⟨i + 1, perPage⟩ all).items) =
      all.take (count * perPage) := by
  induction count with
  | zero => rw [List.range_zero, List.flatMap_nil, Nat.zero_mul, List.take_zero]
  | succ count ih =>
      rw [List.range_succ, List.flatMap_append, ih, List.flatMap_singleton, cut, Nat.succ_mul,
        List.take_add, Nat.add_sub_cancel]

/-- The number of pages of a size that a listing has, of which an empty listing has one. -/
def pageCount (perPage length : Nat) : Nat :=
  (length - 1) / perPage + 1

theorem lt_pageCount_iff {perPage length page : Nat} (shows : 1 ≤ perPage) (positive : 1 ≤ page) :
    page < pageCount perPage length ↔ page * perPage < length := by
  rw [pageCount, Nat.lt_add_one_iff, Nat.le_div_iff_mul_le shows]
  have : 1 ≤ page * perPage := Nat.mul_pos positive shows
  omega

theorem pageCount_le {perPage length : Nat} : pageCount perPage length ≤ length + 1 := by
  rw [pageCount]
  have := Nat.div_le_self (length - 1) perPage
  omega

/-- The pages of a size up to the one that nothing follows are the listing. -/
theorem flatMap_cut_pageCount {perPage : Nat} (shows : 1 ≤ perPage) (all : List α) :
    ((List.range (pageCount perPage all.length)).flatMap
      fun i => (cut ⟨i + 1, perPage⟩ all).items) = all := by
  rw [flatMap_cut, List.take_of_length_le]
  by_contra short
  have positive : 1 ≤ pageCount perPage all.length := Nat.succ_le_succ (Nat.zero_le _)
  exact Nat.lt_irrefl _ ((lt_pageCount_iff shows positive).mpr (Nat.not_le.mp short))

end PageRequest

/-! ## Answers -/

/-- Whether nobody interferes with a call. -/
def World.IsCalm (w : World) : Prop :=
  ∀ earlier site, w.interference earlier site = .none

namespace Admission

variable {a : Admission} {w : World} {kind : StoreKind} {tenant : Tenant}

/-- The answer to a request for a page is the page of what the store reads. -/
theorem run_listDevices_of_calm (a : Admission) (calm : w.IsCalm) (tenant : Tenant)
    (r : PageRequest) (few : (w.store.devicesOf tenant).length ≤ maxOffset) :
    (a.listDevices tenant r).run w =
      ((((((w.store.listing tenant).drop r.skip).take r.limit).mapM DeviceEntry.read).mapError
          fun fault => .internal (.storeFailed "list_devices" fault)).map r.paginate,
        { w with calls := ⟨.listDevices, tenant, none⟩ :: w.calls }) := by
  have short : (w.store.listing tenant).length ≤ maxOffset := by
    rw [Store.length_listing]
    exact few
  have answer := Store.run_listDevices_eq short r.skip r.limit
  unfold Admission.listDevices Admission.call
  rw [Action.run_bind]
  simp only [Action.run, Action.call, calm w.calls, Interference.none, List.foldl_nil,
    Action.outcome, answer]
  cases (((w.store.listing tenant).drop r.skip).take r.limit).mapM DeviceEntry.read with
  | ok found => rfl
  | error fault => rfl

/-- A page that is answered is the one that is meant. -/
theorem map_entry_of_listDevices {r : PageRequest} {page : Page Device} (calm : w.IsCalm)
    (few : (w.store.devicesOf tenant).length ≤ maxOffset) (positive : 1 ≤ r.page)
    (answered : ((a.listDevices tenant r).run w).1 = .ok page) :
    page.map Device.entry = r.cut (w.store.listing tenant) := by
  rw [a.run_listDevices_of_calm calm tenant r few] at answered
  cases read : (((w.store.listing tenant).drop r.skip).take r.limit).mapM DeviceEntry.read with
  | error fault =>
      rw [read] at answered
      cases answered
  | ok found =>
      rw [read] at answered
      cases answered
      rw [PageRequest.map_paginate, ← Store.mapM_read_eq_ok_iff.mp read]
      exact PageRequest.paginate_eq_cut positive (by rw [Store.length_listing]; exact few)

/-- Where all devices of the tenant can be read, every page is answered. -/
theorem listDevices_eq_cut {r : PageRequest} {all : List Device} (a : Admission) (calm : w.IsCalm)
    (few : (w.store.devicesOf tenant).length ≤ maxOffset)
    (listed : w.store.listing tenant = all.map Device.entry) (positive : 1 ≤ r.page) :
    ((a.listDevices tenant r).run w).1 = .ok (r.cut all) := by
  have read : (((w.store.listing tenant).drop r.skip).take r.limit).mapM DeviceEntry.read =
      .ok ((all.drop r.skip).take r.limit) := by
    rw [Store.mapM_read_eq_ok_iff, listed, List.map_take, List.map_drop]
  rw [a.run_listDevices_of_calm calm tenant r few, read]
  rw [← Store.length_listing, listed, List.length_map] at few
  exact congrArg Except.ok (PageRequest.paginate_eq_cut positive few)

/-- Paging partitions the listing. In every store that calls lead to, the listing of a tenant has
its devices, each once and in the strict order of the bytes of ids, and every page that is answered
is the page of the listing that its number and size mean. If the store is in memory, or the times in
the rows of the tenant can be read, then every page is answered, and the pages of a size up to the
first that nothing follows are the listing. -/
theorem pages_partition (a : Admission) (reached : Store.Reached kind w.store) (calm : w.IsCalm)
    (tenant : Tenant) (few : (w.store.devicesOf tenant).length ≤ maxOffset) :
    (w.store.listing tenant).Perm (w.store.devicesOf tenant) ∧
      (w.store.listing tenant).Pairwise
        (fun e f => Utf8.encode e.id < Utf8.encode f.id) ∧
      (∀ r page, 1 ≤ r.page → ((a.listDevices tenant r).run w).1 = .ok page →
        page.map Device.entry = r.cut (w.store.listing tenant)) ∧
      ((kind = .tables → ∀ e ∈ w.store.devicesOf tenant, ∃ d : Device, e = d.entry) →
        ∃ all : List Device, w.store.listing tenant = all.map Device.entry ∧
          (∀ r, 1 ≤ r.page → ((a.listDevices tenant r).run w).1 = .ok (r.cut all)) ∧
          ∀ perPage, 1 ≤ perPage → ∃ pages : List (Page Device),
            pages ≠ [] ∧ pages.length ≤ maxWord ∧
              (∀ i (h : i < pages.length),
                ((a.listDevices tenant ⟨i + 1, perPage⟩).run w).1 = .ok pages[i] ∧
                  (pages[i].hasMore = true ↔ i + 1 < pages.length)) ∧
              pages.flatMap Page.items = all) := by
  refine ⟨Store.perm_listing w.store tenant, reached.hasKeys.listing tenant,
    fun r page positive => map_entry_of_listDevices calm few positive, fun legible => ?_⟩
  obtain ⟨all, listed⟩ := reached.exists_map_entry_listing legible
  have answered : ∀ r : PageRequest, 1 ≤ r.page →
      ((a.listDevices tenant r).run w).1 = .ok (r.cut all) := fun r positive =>
    a.listDevices_eq_cut calm few listed positive
  refine ⟨all, listed, answered, fun perPage shows => ?_⟩
  have length_all : all.length ≤ maxOffset := by
    rw [← Store.length_listing, listed, List.length_map] at few
    exact few
  have positive : 1 ≤ PageRequest.pageCount perPage all.length := Nat.succ_le_succ (Nat.zero_le _)
  refine ⟨(List.range (PageRequest.pageCount perPage all.length)).map fun i =>
    PageRequest.cut ⟨i + 1, perPage⟩ all, ?_, ?_, ?_, ?_⟩
  · rw [Ne, List.map_eq_nil_iff, List.range_eq_nil]
    omega
  · have := @PageRequest.pageCount_le perPage all.length
    have word : maxOffset < maxWord := by decide
    rw [List.length_map, List.length_range]
    omega
  · intro i h
    rw [List.length_map, List.length_range] at h ⊢
    rw [List.getElem_map, List.getElem_range,
      PageRequest.lt_pageCount_iff shows (Nat.succ_le_succ (Nat.zero_le i))]
    exact ⟨answered _ (Nat.succ_le_succ (Nat.zero_le i)), decide_eq_true_iff⟩
  · rw [List.flatMap_map]
    exact PageRequest.flatMap_cut_pageCount shows all

end Admission

namespace Sample

/-- A device that is registered in the first second of 1970 under an id and with its own identity
data. -/
def guest (tenant : Tenant) (id : String) : Device :=
  .firstSeen id tenant id "key" (.ofSeconds 0)

/-- Tables with three devices of a tenant, which were not registered in the order of their ids, and
one of another. -/
def guests : Store :=
  [guest .default "b", guest ⟨"acme"⟩ "aa", guest .default "c", guest .default "a"].foldl
    (fun s d => (s.run (.getOrCreate d)).2) (.empty .tables)

theorem reached_guests : Store.Reached .tables guests :=
  (((Store.Reached.empty.call _).call _).call _).call _

theorem readable_guests : ∀ e ∈ guests.devices, ∃ d : Device, e = d.entry := by
  have read : ∀ e ∈ guests.devices, e.read.toOption.isSome = true := by decide +kernel
  intro e member
  have some := read e member
  cases answer : e.read with
  | error fault =>
      rw [answer] at some
      cases some
  | ok d => exact ⟨d, DeviceEntry.entry_of_read answer⟩

/-- The devices of the tenant are in the order of their ids, not in that of their registration. -/
theorem ids_listing_guests : (guests.listing .default).map DeviceEntry.id = ["a", "b", "c"] := by
  have perm : ((guests.listing .default).map DeviceEntry.id).Perm ["a", "b", "c"] :=
    ((Store.perm_listing guests .default).map DeviceEntry.id).trans (by decide +kernel)
  have order : ((guests.listing .default).map DeviceEntry.id).Pairwise (· ≤ ·) :=
    List.pairwise_map.mpr (reached_guests.hasKeys.ordered.listing .default)
  have ids : ["a", "b", "c"].Pairwise (· ≤ ·) := by decide +kernel
  exact perm.eq_of_pairwise (fun _ _ _ _ => String.le_antisymm) order ids

/-- Pages of two devices show the three devices of the tenant in the order of their ids. -/
theorem pages_guests : ∃ pages : List (Page Device),
    (∀ i (h : i < pages.length), ((admission.listDevices .default ⟨i + 1, 2⟩).run
        (World.quiet guests (.ofSeconds 1) 1)).1 = .ok pages[i]) ∧
      pages.flatMap (fun p => p.items.map Device.id) = ["a", "b", "c"] := by
  have few : (guests.devicesOf .default).length ≤ maxOffset := by decide +kernel
  obtain ⟨-, -, -, answers⟩ := admission.pages_partition
    (w := World.quiet guests (.ofSeconds 1) 1) reached_guests (fun _ _ => rfl) .default few
  obtain ⟨all, listed, -, paged⟩ := answers fun _ e member =>
    readable_guests e (List.mem_filter.mp member).1
  obtain ⟨pages, -, -, answered, shown⟩ := paged 2 (by decide)
  have listed : guests.listing .default = all.map Device.entry := listed
  refine ⟨pages, fun i h => (answered i h).1, ?_⟩
  rw [← List.map_flatMap, shown, ← ids_listing_guests, listed, List.map_map]
  rfl

/-- The early device is accepted in the first second of the year 10000. -/
def overdue : Store :=
  (((Store.empty .tables).run (.getOrCreate earlyDevice)).2.run
    (.updateStatus .default "d" .accepted (.ofSeconds 253402300800))).2

/-- Not every page of every listing is answered: the device that was accepted then cannot be
read. -/
theorem not_always_listed : ¬∀ (kind : StoreKind) (w : World) (tenant : Tenant) (r : PageRequest),
    Store.Reached kind w.store → w.IsCalm → (w.store.devicesOf tenant).length ≤ maxOffset →
      1 ≤ r.page → 1 ≤ r.perPage →
        ∃ page, ((admission.listDevices tenant r).run w).1 = .ok page := by
  intro claim
  obtain ⟨page, answered⟩ := claim .tables (World.quiet overdue (.ofSeconds 253402300800) 0)
    .default ⟨1, 20⟩ ((Store.Reached.empty.call _).call _) (fun _ _ => rfl) (by decide +kernel)
    (by decide) (by decide)
  have failed : ((admission.listDevices .default ⟨1, 20⟩).run
      (World.quiet overdue (.ofSeconds 253402300800) 0)).1 =
        .error (.internal (.storeFailed "list_devices" (.timeUnreadable 6))) := by
    decide +kernel
  rw [failed] at answered
  cases answered

end Sample

end DeviceAdmission
