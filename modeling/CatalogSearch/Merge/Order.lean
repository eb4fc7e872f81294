import CatalogSearch.Page
import CatalogSearch.Resource.Basic

/-! # The order of resources

Resources of several sources are put into one order: the one the caller chose, or the one of a list
of keys that the caller remembers.

* **`Resource.compare`**: the order a caller chose, newest first if none;
* **`rank`**: the place of a resource in a list of keys;
* **`MergeOrder`**: which of the two counts;
* **`MergeOrder.compare`**: the order itself. -/

namespace CatalogSearch

/-! ## The order a caller chose -/

/-- The order of values that may be missing; those come last. -/
def missingLast {α : Type} (cmp : α → α → Ordering) : Option α → Option α → Ordering
  | some a, some b => cmp a b
  | some _, none => .lt
  | none, some _ => .gt
  | none, none => .eq

/-- **The order a caller chose**, newest first if none. Names go by code points, and the most viewed
come by ascending relevance. -/
def Resource.compare (sort : Option SortKey) (a b : Resource) : Ordering :=
  match sort.getD .newest with
  | .alphabetic => Text.compare a.name b.name
  | .mostViewed => missingLast Single.compare a.relevance b.relevance
  | .newest => missingLast (fun x y => Date.compare y x) a.publishDate b.publishDate
  | .oldest => missingLast Date.compare a.publishDate b.publishDate

/-! ## The order of a list of keys -/

/-- **The place of a resource in a list of keys**, the end of the list if it is not there. -/
def rank (keys : List ItemKey) (r : Resource) : Nat := keys.idxOf r.sortingKey

/-- A resource whose key is in the list has a place before its end. -/
theorem rank_lt_length_iff {keys : List ItemKey} {r : Resource} :
    rank keys r < keys.length ↔ r.sortingKey ∈ keys := List.idxOf_lt_length_iff

/-- **Which order counts** in merging. -/
inductive MergeOrder where
  /-- The order the caller chose. -/
  | external
  /-- The order of a list of keys; resources not in it come last. -/
  | remembered (keys : List ItemKey)
  /-- The order of a list of keys, and the one the caller chose among equals. -/
  | rememberedThenExternal (keys : List ItemKey)
  deriving DecidableEq, Repr, Inhabited

namespace MergeOrder

/-- Favorites come in the order they were added in when the newest are wanted first. -/
def favorites (keys : List ItemKey) (page : PageRequest) : MergeOrder :=
  if page.sort = some .newest then .remembered keys else .external

/-- History comes in the order of the visits. -/
def history (keys : List ItemKey) : MergeOrder := .rememberedThenExternal keys

/-- The keys an order remembers. -/
def keys? : MergeOrder → Option (List ItemKey)
  | .external => none
  | .remembered keys | .rememberedThenExternal keys => some keys

/-- **The order of resources** in merging. -/
def compare (order : MergeOrder) (sort : Option SortKey) (a b : Resource) : Ordering :=
  match order with
  | .external => Resource.compare sort a b
  | .remembered keys => Ord.compare (rank keys a) (rank keys b)
  | .rememberedThenExternal keys =>
    (Ord.compare (rank keys a) (rank keys b)).then (Resource.compare sort a b)

end MergeOrder

end CatalogSearch
