import CatalogSearch.Merge.Basic
import CatalogSearch.Proofs.Merge.Comparison
import CatalogSearch.Proofs.Merge.StableSort

/-! # The window of a page

Every source is asked only for the items up to the end of a page. If each source keeps the order
that is merged by, that is all the page needs.

* **`SourceResult.truncate`**: a result cut off after some items;
* **`items_merge_external`**: the page as a window of the merged items;
* **`merge_truncate_reach`**: results cut off at the end of the page give the same page, and the end
  of the page fits 64 bits. -/

namespace CatalogSearch

/-! ## Where a page begins and ends -/

namespace PageRequest

/-- The end of a page fits 64 bits. -/
theorem reach_lt_size (p : PageRequest) : p.reach < UInt64.size := by
  have hnumber : p.number.toNat + 1 ≤ 4294967296 := p.number.toNat_lt
  have hsize : p.size.toNat ≤ 4294967295 := Nat.le_of_lt_succ p.size.toNat_lt
  calc p.reach ≤ 4294967296 * 4294967295 := Nat.mul_le_mul hnumber hsize
    _ < UInt64.size := by decide

/-- The beginning of a page fits 64 bits. -/
theorem offset_lt_size (p : PageRequest) : p.offset < UInt64.size := by
  have h := p.offset_add_size
  have hreach := p.reach_lt_size
  omega

/-- Words of 64 bits hold the beginning of a page. -/
theorem toNat_mul_toUInt64 (p : PageRequest) :
    (p.number.toUInt64 * p.size.toUInt64).toNat = p.offset := by
  rw [UInt64.toNat_mul, UInt32.toNat_toUInt64, UInt32.toNat_toUInt64]
  exact Nat.mod_eq_of_lt p.offset_lt_size

/-- Words of 64 bits hold the end of a page. -/
theorem toNat_succ_mul_toUInt64 (p : PageRequest) :
    ((p.number.toUInt64 + 1) * p.size.toUInt64).toNat = p.reach := by
  have hnumber : (p.number.toUInt64 + 1).toNat = p.number.toNat + 1 := by
    have hlt := p.number.toNat_lt
    rw [UInt64.toNat_add, UInt32.toNat_toUInt64]
    exact Nat.mod_eq_of_lt (by simp only [UInt64.toNat_one]; omega)
  rw [UInt64.toNat_mul, hnumber, UInt32.toNat_toUInt64]
  exact Nat.mod_eq_of_lt p.reach_lt_size

end PageRequest

/-! ## Results cut off -/

namespace SourceResult

/-- **A result cut off** after `n` items. What it declares stays. -/
def truncate (n : Nat) (r : SourceResult) : SourceResult := { r with items := r.items.take n }

@[simp] theorem items_truncate (n : Nat) (r : SourceResult) :
    (r.truncate n).items = r.items.take n := rfl

@[simp] theorem totalElements_truncate (n : Nat) (r : SourceResult) :
    (r.truncate n).totalElements = r.totalElements := rfl

/-- **A result whose items are in an order.** -/
def Ordered (sort : Option SortKey) (r : SourceResult) : Prop :=
  r.items.Pairwise fun a b => (Resource.compare sort a b).isLE

instance (sort : Option SortKey) (r : SourceResult) : Decidable (r.Ordered sort) := by
  unfold Ordered
  infer_instance

end SourceResult

/-- Cutting results off leaves what they declare. -/
theorem declaredTotal_map_truncate (n : Nat) (results : List SourceResult) :
    declaredTotal (results.map (·.truncate n)) = declaredTotal results := by
  simp [declaredTotal, Function.comp_def]

/-- **A page of an order that the caller chose** is a window of the merged items, found among those
up to its end. -/
theorem items_merge_external (results : List SourceResult) (page : PageRequest) :
    (merge results page .external).items =
      ((mergedItems results page.sort .external).take page.reach).drop page.offset := by
  rw [List.drop_take, ← page.offset_add_size, Nat.add_sub_cancel_left]
  rfl

/-- The first merged items of ordered results are among the first of each. -/
theorem take_mergedItems_truncate {results : List SourceResult} {sort : Option SortKey}
    (h : ∀ r ∈ results, r.Ordered sort) (n : Nat) :
    (mergedItems (results.map (·.truncate n)) sort .external).take n =
      (mergedItems results sort .external).take n := by
  have hlists : ∀ items ∈ results.map (·.items),
      items.Pairwise fun a b => (Resource.compare sort a b).isLE := by
    intro items hitems
    obtain ⟨r, hr, rfl⟩ := List.mem_map.mp hitems
    exact h r hr
  have htake := take_mergeSort_flatten hlists n
  rw [List.map_map] at htake
  unfold mergedItems
  rw [List.flatMap_def, List.flatMap_def, List.map_map]
  exact htake

/-- **The window of a page is all it needs.** When the items of every source are in the order that
the caller chose, the items up to the end of the page make the same page as all items do, ties
included. The page begins and ends at numbers that words of 64 bits hold. -/
theorem merge_truncate_reach (results : List SourceResult) (page : PageRequest)
    (h : ∀ r ∈ results, r.Ordered page.sort) :
    merge (results.map (·.truncate page.reach)) page .external = merge results page .external ∧
      page.offset + page.size.toNat = page.reach ∧
      (page.number.toUInt64 * page.size.toUInt64).toNat = page.offset ∧
      ((page.number.toUInt64 + 1) * page.size.toUInt64).toNat = page.reach := by
  refine ⟨?_, page.offset_add_size, page.toNat_mul_toUInt64, page.toNat_succ_mul_toUInt64⟩
  have hitems : (merge (results.map (·.truncate page.reach)) page .external).items =
      (merge results page .external).items := by
    rw [items_merge_external, items_merge_external, take_mergedItems_truncate h]
  have htotal := declaredTotal_map_truncate page.reach results
  unfold merge at hitems ⊢
  rw [ResultPage.mk.injEq]
  exact ⟨hitems, htotal, rfl, rfl⟩

/-- Two sources whose undated items are all equal in the order of dates. -/
def tiedResults : List SourceResult :=
  [ ⟨"a", "A", 3, [{ id := "a1" }, { id := "a2" }, { id := "a3" }]⟩,
    ⟨"b", "B", 2, [{ id := "b1", publishDate := Date.of? 2024 5 1 }, { id := "b2" }]⟩ ]

/-- The second page of one item: what is cut off is equal to what is shown. -/
theorem merge_truncate_reach_tied :
    (∀ r ∈ tiedResults, r.Ordered none) ∧
      merge (tiedResults.map (·.truncate 2)) ⟨1, 1, none⟩ .external =
        merge tiedResults ⟨1, 1, none⟩ .external ∧
      (merge tiedResults ⟨1, 1, none⟩ .external).items = [{ id := "a1" }] := by
  have h : ∀ r ∈ tiedResults, r.Ordered none := by decide
  refine ⟨h, (merge_truncate_reach tiedResults ⟨1, 1, none⟩ h).1, ?_⟩
  have hmerged : mergedItems tiedResults none .external =
      [ { id := "b1", publishDate := Date.of? 2024 5 1 }, { id := "a1" }, { id := "a2" },
        { id := "a3" }, { id := "b2" } ] := by
    show (tiedResults.flatMap (·.items)).mergeSort
      (fun a b => (Resource.compare none a b).isLE) = _
    simp only [tiedResults, List.flatMap_cons, List.flatMap_nil, List.cons_append, List.nil_append,
      mergeSort_cons_eq_orderedInsert, List.mergeSort_nil]
    decide +kernel
  exact congrArg (fun items => (items.drop 1).take 1) hmerged

end CatalogSearch
