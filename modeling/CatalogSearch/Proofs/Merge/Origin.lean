import CatalogSearch.Merge.Basic
import Mathlib.Data.List.Nodup
import Mathlib.Data.List.Perm.Basic

/-! # Where the items of a page come from

Items of a page are items of the results that it is made of, and no two of them are the same one
there.

* **`Origin`**: a place in the items of some results;
* **`exists_origins_flatten`**: all items of some lists, each at a place of its own;
* **`exists_origins_merge`**: the items of a page, each at a place of its own. -/

namespace CatalogSearch

/-- **A place in some lists.** -/
structure Origin where
  /-- The place of a list among all of them. -/
  list : Nat
  /-- The place in this list. -/
  position : Nat
  deriving DecidableEq, Repr

namespace Origin

variable {α : Type}

/-- **The element at a place.** -/
def Holds (o : Origin) (lists : List (List α)) (a : α) : Prop :=
  ∃ l, lists[o.list]? = some l ∧ l[o.position]? = some a

/-- The same place after one more list. -/
def next (o : Origin) : Origin := { o with list := o.list + 1 }

/-- Other places are others after one more list. -/
theorem next_injective : Function.Injective next := by
  rintro ⟨i, p⟩ ⟨j, q⟩ h
  obtain ⟨hij, hpq⟩ := Origin.mk.inj h
  exact congrArg₂ mk (Nat.add_right_cancel hij) hpq

/-- A place in the first list is none after one more list. -/
theorem first_ne_next (p : Nat) (o : Origin) : ⟨0, p⟩ ≠ o.next := by
  intro h
  cases (Origin.mk.inj h).1

end Origin

/-! ## Lists one after another -/

/-- The elements of a list, each at its place. -/
theorem forall₂_range_getElem? {α : Type} (l : List α) :
    List.Forall₂ (fun a p => l[p]? = some a) l (List.range l.length) := by
  rw [List.forall₂_iff_get]
  refine ⟨List.length_range.symm, fun i hi hi' => ?_⟩
  rw [List.get_eq_getElem, List.get_eq_getElem, List.getElem_range]
  exact List.getElem?_eq_getElem hi

/-- **All elements of some lists, each at a place of its own.** -/
theorem exists_origins_flatten {α : Type} (lists : List (List α)) :
    ∃ origins : List Origin, origins.Nodup ∧
      List.Forall₂ (fun a o => o.Holds lists a) lists.flatten origins := by
  induction lists with
  | nil => exact ⟨[], List.nodup_nil, .nil⟩
  | cons l lists ih =>
    obtain ⟨origins, hnodup, hholds⟩ := ih
    refine ⟨(List.range l.length).map (Origin.mk 0) ++ origins.map Origin.next, ?_, ?_⟩
    · have hfirst : ((List.range l.length).map (Origin.mk 0)).Nodup :=
        List.nodup_range.map fun _ _ h => (Origin.mk.inj h).2
      refine hfirst.append (hnodup.map Origin.next_injective) ?_
      intro o ho hnext
      obtain ⟨p, -, rfl⟩ := List.mem_map.mp ho
      obtain ⟨o, -, hsame⟩ := List.mem_map.mp hnext
      exact Origin.first_ne_next p o hsame.symm
    · rw [List.flatten_cons]
      refine List.rel_append ?_ ?_
      · rw [List.forall₂_map_right_iff]
        exact (forall₂_range_getElem? l).imp fun a p hp => ⟨l, rfl, hp⟩
      · rw [List.forall₂_map_right_iff]
        exact hholds.imp fun a o ho => ho

/-! ## Pages -/

/-- **Every item of a page is an item of some result, at a place of its own.** -/
theorem exists_origins_merge (results : List SourceResult) (page : PageRequest)
    (order : MergeOrder) :
    ∃ origins : List Origin, origins.Nodup ∧
      List.Forall₂ (fun item o => o.Holds (results.map (·.items)) item)
        (merge results page order).items origins := by
  obtain ⟨origins, hnodup, hholds⟩ := exists_origins_flatten (results.map (·.items))
  have hperm := perm_mergedItems results page.sort order
  rw [List.flatMap_def] at hperm
  -- Sorting takes the places along, and a page is a part of what is sorted.
  obtain ⟨merged, hmerged, hsame⟩ := List.perm_comp_forall₂ hperm hholds
  refine ⟨(merged.drop (skipped page order)).take page.size.toNat, ?_, ?_⟩
  · exact (hsame.nodup_iff.mpr hnodup).sublist
      ((List.take_sublist _ _).trans (List.drop_sublist _ _))
  · exact List.forall₂_take _ (List.forall₂_drop _ hmerged)

end CatalogSearch
