import CatalogSearch.Merge.Order
import CatalogSearch.Source.Answer

/-! # The orders are total preorders

Every order that merging goes by is oriented and transitive, which is what `Std.TransCmp` says of a
comparison. Sorting by it then gives an ordered list, and a list of equal elements stays as it is.

* **`transCmp_missingLast`**: an order of values is one of values that may be missing;
* **`transCmp_resourceCompare`**: the orders a caller can choose;
* **`transCmp_mergeOrderCompare`**: the orders of lists of keys as well;
* **`Resource.compare_stamp`**: an order does not depend on the source of a resource. -/

namespace CatalogSearch

/-- A comparison of images is oriented and transitive if that of the values is. -/
theorem transCmp_comap {α β : Type} (f : α → β) (cmp : β → β → Ordering) [Std.TransCmp cmp] :
    Std.TransCmp fun a b => cmp (f a) (f b) where
  eq_swap := Std.OrientedCmp.eq_swap
  isLE_trans := Std.TransCmp.isLE_trans

/-! ## The orders of values -/

instance transCmp_textCompare : Std.TransCmp Text.compare :=
  transCmp_comap String.toList Ord.compare

instance transCmp_singleCompare : Std.TransCmp Single.compare :=
  transCmp_comap Single.key Ord.compare

/-- Dates go by year, month and day in turn. -/
theorem Date.compare_eq_compareLex :
    Date.compare = compareLex (compareOn Date.year)
      (compareLex (compareOn Date.month) (compareOn Date.day)) := rfl

instance transCmp_dateCompare : Std.TransCmp Date.compare := by
  rw [Date.compare_eq_compareLex]
  infer_instance

/-- **Values that may be missing** are in order with the missing ones last. -/
instance transCmp_missingLast {α : Type} {cmp : α → α → Ordering} [Std.TransCmp cmp] :
    Std.TransCmp (missingLast cmp) where
  eq_swap {a b} := by
    cases a with
    | none => cases b <;> rfl
    | some x =>
      cases b with
      | none => rfl
      | some y => exact (Std.OrientedCmp.eq_swap : cmp x y = (cmp y x).swap)
  isLE_trans {a b c} hab hbc := by
    cases a with
    | none =>
      -- After a missing value only missing values come.
      cases b with
      | none => exact hbc
      | some y => exact absurd hab (by simp [missingLast])
    | some x =>
      cases b with
      | none =>
        cases c with
        | none => rfl
        | some z => exact absurd hbc (by simp [missingLast])
      | some y =>
        cases c with
        | none => rfl
        | some z =>
          have hxy : (cmp x y).isLE := hab
          have hyz : (cmp y z).isLE := hbc
          show (cmp x z).isLE
          exact Std.TransCmp.isLE_trans hxy hyz

/-! ## The orders of resources -/

/-- **The orders a caller can choose** are oriented and transitive. -/
instance transCmp_resourceCompare (sort : Option SortKey) :
    Std.TransCmp (Resource.compare sort) := by
  unfold Resource.compare
  cases sort.getD .newest with
  | alphabetic => exact transCmp_comap Resource.name Text.compare
  | mostViewed => exact transCmp_comap Resource.relevance (missingLast Single.compare)
  | newest => exact transCmp_comap Resource.publishDate (missingLast fun x y => Date.compare y x)
  | oldest => exact transCmp_comap Resource.publishDate (missingLast Date.compare)

/-- The place in a list of keys is an order of resources. -/
instance transCmp_rank (keys : List ItemKey) :
    Std.TransCmp fun a b : Resource => Ord.compare (rank keys a) (rank keys b) :=
  transCmp_comap (rank keys) Ord.compare

/-- **The orders of merging** are oriented and transitive. -/
instance transCmp_mergeOrderCompare (order : MergeOrder) (sort : Option SortKey) :
    Std.TransCmp (order.compare sort) := by
  cases order with
  | external => exact transCmp_resourceCompare sort
  | remembered keys => exact transCmp_rank keys
  | rememberedThenExternal keys =>
    exact inferInstanceAs (Std.TransCmp (compareLex
      (fun a b : Resource => Ord.compare (rank keys a) (rank keys b)) (Resource.compare sort)))

/-- **An order does not depend on the sources** that resources are from. -/
@[simp] theorem Resource.compare_stamp (sort : Option SortKey) (s t : Source) (a b : Resource) :
    Resource.compare sort (a.stamp s) (b.stamp t) = Resource.compare sort a b := rfl

end CatalogSearch
