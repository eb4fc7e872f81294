import CatalogSearch.Merge.Basic
import CatalogSearch.Proofs.Merge.Comparison
import CatalogSearch.Proofs.Merge.StableSort

/-! # Remembered orders

A list of keys puts resources into its own order, whatever order they come in.

* **`rank_le_of_compare`**: both remembered orders go by the places in the list;
* **`pairwise_idxOf_le`**: a list without repetitions is in the order of its places;
* **`map_sortingKey_mergedItems`**: the merged items are the keys that have one. -/

namespace CatalogSearch

/-- What comes before in a remembered order has its place in the list before, or the same. -/
theorem rank_le_of_compare {order : MergeOrder} {keys : List ItemKey}
    (horder : order.keys? = some keys) {sort : Option SortKey} {a b : Resource}
    (h : (order.compare sort a b).isLE) : rank keys a ≤ rank keys b := by
  cases order with
  | external => cases horder
  | remembered keys' =>
    obtain rfl := Option.some.inj horder
    exact Nat.isLE_compare.mp h
  | rememberedThenExternal keys' =>
    obtain rfl := Option.some.inj horder
    exact Nat.isLE_compare.mp (Ordering.isLE_left_of_isLE_then h)

/-- A list without repetitions is in the order of its places. -/
theorem pairwise_idxOf_le {α : Type} [BEq α] [LawfulBEq α] {l : List α} (h : l.Nodup) :
    l.Pairwise fun a b => l.idxOf a ≤ l.idxOf b := by
  rw [List.pairwise_iff_getElem]
  intro i j hi hj hij
  rw [h.idxOf_getElem i hi, h.idxOf_getElem j hj]
  exact Nat.le_of_lt hij

/-- **Merged in a remembered order, items are in the order of their keys.** If their keys are some
of the list, each once, these are the keys of the merged items. -/
theorem map_sortingKey_mergedItems {order : MergeOrder} {keys : List ItemKey}
    (horder : order.keys? = some keys) (hkeys : keys.Nodup) {results : List SourceResult}
    {has : ItemKey → Bool}
    (h : ((results.flatMap (·.items)).map (·.sortingKey)).Perm (keys.filter has))
    (sort : Option SortKey) :
    (mergedItems results sort order).map (·.sortingKey) = keys.filter has := by
  have hperm : ((mergedItems results sort order).map (·.sortingKey)).Perm (keys.filter has) :=
    ((perm_mergedItems results sort order).map _).trans h
  have hmerged : ((mergedItems results sort order).map (·.sortingKey)).Pairwise fun a b =>
      keys.idxOf a ≤ keys.idxOf b := by
    rw [List.pairwise_map]
    have hordered := pairwise_mergeSort_isLE (order.compare sort) (results.flatMap (·.items))
    exact hordered.imp fun hle => rank_le_of_compare horder hle
  have hlisted : (keys.filter has).Pairwise fun a b => keys.idxOf a ≤ keys.idxOf b :=
    (pairwise_idxOf_le hkeys).sublist List.filter_sublist
  refine hperm.eq_of_pairwise ?_ hmerged hlisted
  intro a b ha _ hab hba
  have hmem : a ∈ keys := (List.mem_filter.mp (hperm.mem_iff.mp ha)).1
  exact (List.idxOf_inj hmem).mp (Nat.le_antisymm hab hba)

end CatalogSearch
