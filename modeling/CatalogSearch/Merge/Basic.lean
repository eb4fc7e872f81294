import CatalogSearch.Merge.Order
import CatalogSearch.Source.Answer

/-! # Merging results

The results of several sources become one page. Every source is asked for all items up to the end of
the page, so the page is cut out here, after sorting.

* **`ResultPage`**: a page of items;
* **`mergedItems`**: all items in one order;
* **`merge`**: the page of some results. -/

namespace CatalogSearch

/-- **A page of items.** -/
structure ResultPage where
  items : List Resource
  /-- How many items the sources have in all, as far as they say. -/
  totalElements : UInt64
  pageNumber : UInt32
  pageSize : UInt32
  deriving DecidableEq, Repr

namespace ResultPage

/-- The page of no results. -/
def empty (page : PageRequest) : ResultPage := ⟨[], 0, page.number, page.size⟩

/-- The JSON value of a page. -/
def toJson (p : ResultPage) : Json :=
  .object
    [ ("items", .array (p.items.map Resource.codec.encode)),
      ("totalElements", .ofNat p.totalElements.toNat),
      ("pageNumber", .ofNat p.pageNumber.toNat),
      ("pageSize", .ofNat p.pageSize.toNat) ]

end ResultPage

/-- A number as a word of 64 bits, the largest one if it is too large. -/
def clamp64 (n : Nat) : UInt64 := UInt64.ofNat (min n (UInt64.size - 1))

/-- A clamped number is the number, or the largest word. -/
@[simp] theorem toNat_clamp64 (n : Nat) : (clamp64 n).toNat = min n (UInt64.size - 1) := by
  simp only [clamp64, UInt64.toNat_ofNat', UInt64.size]
  omega

/-- What all results declare in total. -/
def declaredTotal (results : List SourceResult) : UInt64 :=
  clamp64 ((results.map (·.totalElements.toNat)).foldr (· + ·) 0)

/-- **All items of some results in one order.** Equal items stay in the order of the sources, and
within a source in the order of its answer. -/
def mergedItems (results : List SourceResult) (sort : Option SortKey) (order : MergeOrder) :
    List Resource :=
  (results.flatMap (·.items)).mergeSort fun a b => (order.compare sort a b).isLE

/-- Merging neither loses nor adds items. -/
theorem perm_mergedItems (results : List SourceResult) (sort : Option SortKey)
    (order : MergeOrder) : (mergedItems results sort order).Perm (results.flatMap (·.items)) :=
  List.mergeSort_perm ..

/-- How many items come before the page. A list of keys is one page already. -/
def skipped (page : PageRequest) (order : MergeOrder) : Nat :=
  if order.keys?.isSome then 0 else page.offset

/-- **The page of some results.** -/
def merge (results : List SourceResult) (page : PageRequest) (order : MergeOrder) : ResultPage where
  items := ((mergedItems results page.sort order).drop (skipped page order)).take page.size.toNat
  totalElements := declaredTotal results
  pageNumber := page.number
  pageSize := page.size

/-- A page holds no more items than it was asked for. -/
theorem length_items_merge_le (results : List SourceResult) (page : PageRequest)
    (order : MergeOrder) : (merge results page order).items.length ≤ page.size.toNat := by
  simp only [merge, List.length_take]
  omega

end CatalogSearch
