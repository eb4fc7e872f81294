import CatalogSearch.Proofs.Merge.Listed
import CatalogSearch.Proofs.Number.TotalOrder

/-! # Comparisons that a sort can rely on

A sort keeps its promises if the comparison it goes by is a total preorder. Those a caller can
choose are, and so are those that go by a list of keys first. What an item may lack puts it behind
all items that have it.

* **`TotalPreorder`**: a comparison that a sort can rely on;
* **`PutsLast`**: a comparison with some items behind all others, and equal to one another;
* **`Resource.HasKey`**: a resource that has what the chosen order goes by;
* **`missingLast_putsLast`**, **`Resource.compare_putsLast`**: those without it come last;
* **`MergeOrder.compare_eq_lt_of_listed`**, **`MergeOrder.compare_of_sameRank`**: what a list of
  keys decides, and what it leaves open;
* **`compare_totalPreorder`**: both kinds of orders. -/

namespace CatalogSearch

/-- **A total preorder**, as a comparison: exchanging two items reverses its answer, and both not
coming after and being equal go on from item to item. -/
structure TotalPreorder {α : Type} (cmp : α → α → Ordering) : Prop where
  reverse : ∀ a b, cmp a b = (cmp b a).swap
  trans_ne_gt : ∀ a b c, cmp a b ≠ .gt → cmp b c ≠ .gt → cmp a c ≠ .gt
  trans_eq : ∀ a b c, cmp a b = .eq → cmp b c = .eq → cmp a c = .eq

/-- An oriented and transitive comparison is a total preorder. -/
theorem totalPreorder_of_transCmp {α : Type} (cmp : α → α → Ordering) [Std.TransCmp cmp] :
    TotalPreorder cmp where
  reverse _ _ := Std.OrientedCmp.eq_swap
  trans_ne_gt a b c hab hbc := by
    rw [ne_eq, Ordering.ne_gt_iff_isLE] at hab hbc ⊢
    exact Std.TransCmp.isLE_trans hab hbc
  trans_eq _ _ _ := Std.TransCmp.eq_trans

/-- **Some items come last**: every one that `has` what is asked for comes before every one that has
not, and among the latter none comes before another. -/
structure PutsLast {α : Type} (cmp : α → α → Ordering) (has : α → Prop) : Prop where
  before : ∀ a b, has a → ¬ has b → cmp a b = .lt
  equal : ∀ a b, ¬ has a → ¬ has b → cmp a b = .eq

/-- **Missing values come last**, whatever the order of the others is. -/
theorem missingLast_putsLast {α β : Type} (value? : β → Option α) (cmp : α → α → Ordering) :
    PutsLast (fun a b => missingLast cmp (value? a) (value? b))
      fun a => (value? a).isSome = true where
  before a b ha hb := by
    obtain ⟨x, hx⟩ := Option.isSome_iff_exists.mp ha
    rw [hx, Option.not_isSome_iff_eq_none.mp hb]
    rfl
  equal a b ha hb := by
    rw [Option.not_isSome_iff_eq_none.mp ha, Option.not_isSome_iff_eq_none.mp hb]
    rfl

/-! ## What a caller chose -/

namespace Resource

/-- **A resource has what the chosen order goes by.** A name is always there. -/
def HasKey (sort : Option SortKey) (r : Resource) : Prop :=
  match sort.getD .newest with
  | .alphabetic => True
  | .mostViewed => r.relevance.isSome = true
  | .newest | .oldest => r.publishDate.isSome = true

/-- **Resources without what the order goes by come last.** -/
theorem compare_putsLast (sort : Option SortKey) : PutsLast (compare sort) (HasKey sort) := by
  unfold compare HasKey
  cases sort.getD .newest with
  | alphabetic => exact ⟨fun _ _ _ hb => absurd trivial hb, fun _ _ ha _ => absurd trivial ha⟩
  | mostViewed => exact missingLast_putsLast relevance Single.compare
  | newest => exact missingLast_putsLast publishDate fun x y => Date.compare y x
  | oldest => exact missingLast_putsLast publishDate Date.compare

/-- The most viewed resources are ordered by the bit patterns of their relevance. -/
theorem compare_mostViewed (a b : Resource) :
    compare (some .mostViewed) a b = missingLast Single.totalCompare a.relevance b.relevance := by
  have hcompare : Single.compare = Single.totalCompare :=
    funext fun x => funext fun y => Single.compare_eq_totalCompare x y
  rw [← hcompare]
  rfl

end Resource

/-! ## What a list of keys decides -/

namespace MergeOrder

variable {keys : List ItemKey} {a b : Resource}

/-- **A listed resource comes before one that is not.** -/
theorem compare_eq_lt_of_listed (sort : Option SortKey) (ha : a.sortingKey ∈ keys)
    (hb : b.sortingKey ∉ keys) : (rememberedThenExternal keys).compare sort a b = .lt := by
  have hrank : rank keys a < rank keys b := by
    rw [rank_of_not_mem hb]
    exact rank_lt_length_iff.mpr ha
  rw [compare, Nat.compare_eq_lt.mpr hrank]
  rfl

/-- **Where a list does not decide**, the chosen order does. -/
theorem compare_of_sameRank (sort : Option SortKey) (h : SameRank keys a b) :
    (rememberedThenExternal keys).compare sort a b = Resource.compare sort a b := by
  rw [compare, Nat.compare_eq_eq.mpr (rank_eq_rank_iff.mpr h)]
  rfl

end MergeOrder

/-- **The orders of merging are total preorders**, whatever is chosen and whatever is remembered.
Those without what the chosen order goes by come last. With a list of keys, resources that are not
listed come after those that are, and where the list does not decide, the chosen order does, so that
again those without what it goes by come last. Relevance counts by its bit pattern, both zeros and
the infinities included. -/
theorem compare_totalPreorder (sort : Option SortKey) (keys : List ItemKey) :
    (TotalPreorder (Resource.compare sort) ∧
        PutsLast (Resource.compare sort) (Resource.HasKey sort)) ∧
      (TotalPreorder ((MergeOrder.rememberedThenExternal keys).compare sort) ∧
        (∀ a b : Resource, a.sortingKey ∈ keys → b.sortingKey ∉ keys →
          (MergeOrder.rememberedThenExternal keys).compare sort a b = .lt) ∧
        ∀ a b, SameRank keys a b →
          (MergeOrder.rememberedThenExternal keys).compare sort a b = Resource.compare sort a b) ∧
      ∀ a b, Resource.compare (some .mostViewed) a b =
        missingLast Single.totalCompare a.relevance b.relevance := by
  refine ⟨⟨totalPreorder_of_transCmp _, Resource.compare_putsLast sort⟩,
    ⟨totalPreorder_of_transCmp _, ?_, ?_⟩, Resource.compare_mostViewed⟩
  · intro a b ha hb
    exact MergeOrder.compare_eq_lt_of_listed sort ha hb
  · intro a b h
    exact MergeOrder.compare_of_sameRank sort h

end CatalogSearch
