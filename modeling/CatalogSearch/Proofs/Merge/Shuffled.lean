import CatalogSearch.Proofs.Merge.Remembered
import Mathlib.Data.List.Perm.Basic

/-! # The order of the sources

In which order the results of the sources are merged matters for ties only. In an order that the
caller chose, the page has equal items at the same places, and the same items if no source has one
that is equal to one of another source. In a remembered order of keys there are no ties between
items of different keys.

* **`filter_flatMap_eq_of_perm`**: parts that meet in one list only do not change their order;
* **`mergedItems_tied_of_perm`**, **`mergedItems_eq_of_perm`**: merged items of shuffled results;
* **`mergedItems_eq_of_nodup`**: the same in a remembered order;
* **`ResultPage.SameButTies`**: pages with equal items at the same places;
* **`merge_shuffled`**: pages of shuffled results. -/

namespace CatalogSearch

/-! ## Lists in another order -/

/-- **What only one of some lists has stays in its order** when the lists are put into another
one. -/
theorem filter_flatMap_eq_of_perm {α β : Type} {f : β → List α} {p : α → Bool} {l l' : List β}
    (h : l.Perm l')
    (hp : l.Pairwise fun b c => (f b).filter p = [] ∨ (f c).filter p = []) :
    (l.flatMap f).filter p = (l'.flatMap f).filter p := by
  induction h with
  | nil => rfl
  | cons b _ ih =>
    rw [List.flatMap_cons, List.flatMap_cons, List.filter_append, List.filter_append,
      ih (List.pairwise_cons.mp hp).2]
  | swap b c l =>
    simp only [List.flatMap_cons, List.filter_append]
    rcases (List.pairwise_cons.mp hp).1 b List.mem_cons_self with hc | hb
    · rw [hc, List.nil_append, List.nil_append]
    · rw [hb, List.nil_append, List.nil_append]
  | trans h _ ih ih' =>
    have hp' := (h.pairwise_iff fun hbc => hbc.symm).mp hp
    rw [ih hp, ih' hp']

/-! ## Merged items -/

variable {results results' : List SourceResult} {sort : Option SortKey} {order : MergeOrder}

/-- What results declare in total does not depend on their order. -/
theorem declaredTotal_eq_of_perm (h : results.Perm results') :
    declaredTotal results = declaredTotal results' := by
  rw [declaredTotal, declaredTotal, (h.map _).foldr_eq]

/-- The merged items of shuffled results are the same, in some order. -/
theorem mergedItems_perm_of_perm (h : results.Perm results') (sort : Option SortKey)
    (order : MergeOrder) :
    (mergedItems results sort order).Perm (mergedItems results' sort order) :=
  (perm_mergedItems results sort order).trans
    ((h.flatMap_right _).trans (perm_mergedItems results' sort order).symm)

/-- Merged items are in order. -/
theorem mergedItems_ordered (results : List SourceResult) (sort : Option SortKey)
    (order : MergeOrder) :
    (mergedItems results sort order).Pairwise fun a b => (order.compare sort a b).isLE :=
  pairwise_mergeSort_isLE (order.compare sort) _

/-- **Merged items of shuffled results** are equal to each other, place by place. -/
theorem mergedItems_tied_of_perm (h : results.Perm results') (sort : Option SortKey)
    (order : MergeOrder) :
    List.Forall₂ (fun a b => order.compare sort a b = .eq) (mergedItems results sort order)
      (mergedItems results' sort order) := by
  have hties : ∀ x, List.Forall₂ (fun _ _ => True)
      ((mergedItems results sort order).filter fun a => order.compare sort x a = .eq)
      ((mergedItems results' sort order).filter fun a => order.compare sort x a = .eq) := by
    intro x
    -- There are as many ties of an item before as after, though maybe others at each place.
    have hperm := (mergedItems_perm_of_perm h sort order).filter
      fun a => order.compare sort x a = .eq
    exact List.forall₂_of_length_eq_of_get hperm.length_eq fun _ _ _ => trivial
  exact (forall₂_of_ties (mergedItems_ordered results sort order)
    (mergedItems_ordered results' sort order) hties).imp fun _ _ hab => hab.1

/-- **Results without common ties**: in an order that a caller chose, no item of one is equal to an
item of another one. -/
def Untied (sort : Option SortKey) (results : List SourceResult) : Prop :=
  results.Pairwise fun r s => ∀ a ∈ r.items, ∀ b ∈ s.items, Resource.compare sort a b ≠ .eq

instance (sort : Option SortKey) (results : List SourceResult) :
    Decidable (Untied sort results) := by
  unfold Untied
  infer_instance

/-- Of results without common ties, one at most has any ties of an item. -/
theorem filter_tied_eq_nil {r s : SourceResult}
    (h : ∀ a ∈ r.items, ∀ b ∈ s.items, Resource.compare sort a b ≠ .eq) (x : Resource) :
    (r.items.filter fun a => Resource.compare sort x a = .eq) = [] ∨
      (s.items.filter fun a => Resource.compare sort x a = .eq) = [] := by
  by_cases hr : ∃ a ∈ r.items, Resource.compare sort x a = .eq
  · obtain ⟨a, ha, hxa⟩ := hr
    refine Or.inr (List.filter_eq_nil_iff.mpr fun b hb hxb => ?_)
    have hax : Resource.compare sort a x = .eq := Std.OrientedCmp.eq_comm.mp hxa
    exact h a ha b hb (Std.TransCmp.eq_trans hax (of_decide_eq_true hxb))
  · exact Or.inl (List.filter_eq_nil_iff.mpr fun a ha hxa => hr ⟨a, ha, of_decide_eq_true hxa⟩)

/-- **Without common ties the merged items are the same** for shuffled results. -/
theorem mergedItems_eq_of_perm (h : results.Perm results') (huntied : Untied sort results) :
    mergedItems results sort .external = mergedItems results' sort .external := by
  have hties : ∀ x, List.Forall₂ (· = ·)
      ((mergedItems results sort .external).filter fun a => Resource.compare sort x a = .eq)
      ((mergedItems results' sort .external).filter fun a => Resource.compare sort x a = .eq) := by
    intro x
    -- The ties of an item are those of one source, in its order.
    have hties := filter_flatMap_eq_of_perm h (huntied.imp fun hrs => filter_tied_eq_nil hrs x)
    have hsorted := filter_mergeSort_eq (Resource.compare sort) x
    rw [List.forall₂_eq_eq_eq]
    exact (hsorted _).trans (hties.trans (hsorted _).symm)
  have hitems := (forall₂_of_ties (mergedItems_ordered results sort .external)
    (mergedItems_ordered results' sort .external) hties).imp fun _ _ hab => hab.2
  rwa [List.forall₂_eq_eq_eq] at hitems

/-- **In a remembered order the merged items are the same** for shuffled results if all of them are
listed and no two have the same key. -/
theorem mergedItems_eq_of_nodup {keys : List ItemKey} (h : results.Perm results')
    (horder : order.keys? = some keys) (hlisted : ∀ r ∈ results, ∀ a ∈ r.items, a.sortingKey ∈ keys)
    (hkeys : ((results.flatMap (·.items)).map (·.sortingKey)).Nodup) (sort : Option SortKey) :
    mergedItems results sort order = mergedItems results' sort order := by
  refine (mergedItems_perm_of_perm h sort order).eq_of_pairwise ?_
    (mergedItems_ordered results sort order) (mergedItems_ordered results' sort order)
  intro a b ha hb hab hba
  have ha := (perm_mergedItems results sort order).mem_iff.mp ha
  have hb := (perm_mergedItems results sort order).mem_iff.mp
    ((mergedItems_perm_of_perm h sort order).mem_iff.mpr hb)
  obtain ⟨r, hr, har⟩ := List.mem_flatMap.mp ha
  have hrank := Nat.le_antisymm (rank_le_of_compare horder hab) (rank_le_of_compare horder hba)
  exact List.inj_on_of_nodup_map hkeys ha hb ((List.idxOf_inj (hlisted r hr a har)).mp hrank)

/-! ## Pages -/

/-- **Pages that are the same but for ties**: at the same places their items are equal in an order
that a caller chose, and they tell the same of the results. -/
structure ResultPage.SameButTies (sort : Option SortKey) (p q : ResultPage) : Prop where
  totalElements_eq : p.totalElements = q.totalElements
  pageNumber_eq : p.pageNumber = q.pageNumber
  pageSize_eq : p.pageSize = q.pageSize
  length_eq : p.items.length = q.items.length
  items_tied : ∀ i (hp : i < p.items.length) (hq : i < q.items.length),
    Resource.compare sort p.items[i] q.items[i] = .eq

/-- Results with the same merged items have the same page. -/
theorem merge_congr {page : PageRequest} (h : results.Perm results')
    (hitems : mergedItems results page.sort order = mergedItems results' page.sort order) :
    merge results page order = merge results' page order := by
  rw [merge, merge, hitems, declaredTotal_eq_of_perm h]

/-- Shuffled results have the same page but for ties. -/
theorem sameButTies_merge (h : results.Perm results') (page : PageRequest) :
    (merge results page .external).SameButTies page.sort (merge results' page .external) := by
  have hwindow := List.forall₂_take page.size.toNat (List.forall₂_drop (skipped page .external)
    (mergedItems_tied_of_perm h page.sort .external))
  exact
    { totalElements_eq := declaredTotal_eq_of_perm h
      pageNumber_eq := rfl
      pageSize_eq := rfl
      length_eq := hwindow.length_eq
      items_tied := fun i hp hq => hwindow.get hp hq }

/-- **The order of the sources matters for ties only.** Let the results of the sources be shuffled.
In an order that the caller chose, the page has the same total, as many items, and equal items at
the same places; and it is the same page if no item of a source is equal to an item of another one.
In an order of keys that the caller remembers it is the same page if all items are listed and no two
of them have the same key. -/
theorem merge_shuffled (h : results.Perm results') (page : PageRequest) :
    (merge results page .external).SameButTies page.sort (merge results' page .external) ∧
      (Untied page.sort results →
        merge results page .external = merge results' page .external) ∧
      ∀ keys order, MergeOrder.keys? order = some keys →
        (∀ r ∈ results, ∀ a ∈ r.items, a.sortingKey ∈ keys) →
        ((results.flatMap (·.items)).map (·.sortingKey)).Nodup →
        merge results page order = merge results' page order := by
  refine ⟨sameButTies_merge h page, ?_, ?_⟩
  · intro huntied
    exact merge_congr h (mergedItems_eq_of_perm h huntied)
  · intro keys order horder hlisted hkeys
    exact merge_congr h (mergedItems_eq_of_nodup h horder hlisted hkeys page.sort)

/-- Two sources with items of one date and of two names. -/
def sameDayResults : List SourceResult :=
  [ ⟨"a", "A", 2, [{ id := "x", name := "ape", publisherId := some "a" }]⟩,
    ⟨"b", "B", 3, [{ id := "x", name := "bee", publisherId := some "b" }]⟩ ]

/-- By their dates the items of the two sources are tied, by their names and keys they are not. -/
theorem merge_shuffled_sameDayResults :
    sameDayResults.Perm sameDayResults.reverse ∧
      (merge sameDayResults ⟨0, 1, some .oldest⟩ .external).SameButTies (some .oldest)
        (merge sameDayResults.reverse ⟨0, 1, some .oldest⟩ .external) ∧
      Untied (some .alphabetic) sameDayResults ∧
      merge sameDayResults ⟨0, 1, some .alphabetic⟩ .external =
        merge sameDayResults.reverse ⟨0, 1, some .alphabetic⟩ .external ∧
      merge sameDayResults ⟨0, 1, some .oldest⟩ (.remembered [⟨"b", "x"⟩, ⟨"a", "x"⟩]) =
        merge sameDayResults.reverse ⟨0, 1, some .oldest⟩
          (.remembered [⟨"b", "x"⟩, ⟨"a", "x"⟩]) := by
  have hperm : sameDayResults.Perm sameDayResults.reverse := (List.reverse_perm _).symm
  have huntied : Untied (some .alphabetic) sameDayResults := by decide
  refine ⟨hperm, (merge_shuffled hperm ⟨0, 1, some .oldest⟩).1, huntied,
    (merge_shuffled hperm ⟨0, 1, some .alphabetic⟩).2.1 huntied, ?_⟩
  exact (merge_shuffled hperm ⟨0, 1, some .oldest⟩).2.2 _ _ rfl (by decide) (by decide)

/-- Tied items are shown in the order of the sources. -/
example :
    [sameDayResults, sameDayResults.reverse].map (fun results =>
      (merge results ⟨0, 1, some .oldest⟩ .external).items.map (·.name)) = [["ape"], ["bee"]] := by
  have hmerged (results : List SourceResult) :
      (merge results ⟨0, 1, some .oldest⟩ .external).items =
        ((results.flatMap (·.items)).mergeSort fun a b =>
          (Resource.compare (some .oldest) a b).isLE).take 1 := rfl
  simp only [List.map_cons, List.map_nil, hmerged, sameDayResults, List.reverse_cons,
    List.reverse_nil, List.flatMap_cons, List.flatMap_nil, List.cons_append, List.nil_append,
    mergeSort_cons_eq_orderedInsert, List.mergeSort_nil]
  decide +kernel

end CatalogSearch
