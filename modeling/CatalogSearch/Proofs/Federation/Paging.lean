import CatalogSearch.Proofs.Federation.Honest
import CatalogSearch.Proofs.Merge.Pages

/-! # Pages of honest sources

Each page asks the sources again, for more. The pages are windows of one order all the same, where
items are merged in the order that was asked for.

* **`MergesAsAsked`**: where they are;
* **`Federation.PagesAreWindows`**: pages that are consecutive windows of one order;
* **`Federation.pagesAreWindows_of_honest`**: those of honest sources are;
* **`Federation.not_pagesAreWindows_of_gt`**: they are not if an item comes before another one that
  is merged first. -/

namespace CatalogSearch

/-! ## The order of merging -/

/-- **Where items are merged in the order that was asked for.** The most viewed are asked for in
descending order and merged in ascending order, and sources that are asked for no order have one of
their own. An item without a name is merged first. -/
def MergesAsAsked : Option SortKey → List Resource → Prop
  | some .newest, _ | some .oldest, _ => True
  | some .alphabetic, catalog => ∀ r ∈ catalog, r.name ≠ ""
  | some .mostViewed, _ | none, _ => False

/-- Dates are merged in the order that they are asked for in. -/
theorem Resource.compareBy_publishDate {k : SortKey} (h : k = .newest ∨ k = .oldest)
    (a b : Resource) :
    compareBy k.property.toList k.direction.toList a b = compare (some k) a b := by
  rcases h with rfl | rfl
  · rfl
  · rfl

/-- Names are merged in the order that they are asked for in, if there are any. -/
theorem Resource.compareBy_name {a b : Resource} (ha : a.name ≠ "") (hb : b.name ≠ "") :
    compareBy SortKey.alphabetic.property.toList SortKey.alphabetic.direction.toList a b =
      compare (some .alphabetic) a b := by
  show missingLast _ a.name? b.name? = _
  rw [name?, name?, if_neg ha, if_neg hb]
  rfl

/-- **A catalog in the order that was asked for is in the order of merging**, where these agree. -/
theorem pairwise_compare_of_sorts {u : Url} {sort : Option SortKey} {catalog : List Resource}
    (hsort : u.parameter? "sort" = sort.map (·.property.toList))
    (horder : u.parameter? "orderBy" = sort.map (·.direction.toList))
    (hmerges : MergesAsAsked sort catalog) (h : u.Sorts catalog) :
    catalog.Pairwise fun a b => (Resource.compare sort a b).isLE := by
  cases sort with
  | none => exact hmerges.elim
  | some k =>
    have hby := h _ hsort _ horder
    cases k with
    | mostViewed => exact hmerges.elim
    | alphabetic =>
      refine hby.imp_of_mem fun {a b} ha hb hle => ?_
      rwa [Resource.compareBy_name (hmerges a ha) (hmerges b hb)] at hle
    | newest =>
      refine hby.imp fun {a b} hle => ?_
      rwa [Resource.compareBy_publishDate (Or.inl rfl)] at hle
    | oldest =>
      refine hby.imp fun {a b} hle => ?_
      rwa [Resource.compareBy_publishDate (Or.inr rfl)] at hle

namespace Federation

variable {f : Federation} {r : SearchRequest} {size : UInt32} {sort : Option SortKey}
  {cancel : Cancellation} {catalog : Source → List Resource}

/-- All items of the catalogs of the sources that a request is for. -/
def catalogItems (f : Federation) (r : SearchRequest) (catalog : Source → List Resource) :
    List Resource :=
  (f.selected r).flatMap fun s => (catalog s).map (Resource.stamp s)

/-- **Pages that are consecutive windows of one order** of some items: page after page they show all
of them, none twice, as far as there are page numbers. -/
def PagesAreWindows (f : Federation) (r : SearchRequest) (size : UInt32) (sort : Option SortKey)
    (cancel : Cancellation) (items : List Resource) : Prop :=
  ∃ (all : List Resource) (pages : UInt32 → List Resource),
    all.Perm items ∧
      (∀ number, ∃ p, (f.search r ⟨number, size, sort⟩ cancel).result = .ok p ∧
        p.items = pages number) ∧
      (∀ number, pages number = (all.drop (number.toNat * size.toNat)).take size.toNat) ∧
      (all.length ≤ UInt32.size * size.toNat →
        ((List.range UInt32.size).flatMap fun n => pages (.ofNat n)) = all)

/-- The catalogs of honest sources are in the order of merging where it is the one asked for. -/
theorem Honest.pairwise_compare (h : f.Honest r size sort cancel catalog) {s : Source}
    (hs : s ∈ f.selected r) (hmerges : MergesAsAsked sort (catalog s)) :
    (catalog s).Pairwise fun a b => (Resource.compare sort a b).isLE := by
  obtain ⟨c, hcall, hserves⟩ := h 0 s hs
  obtain ⟨hsort, horder⟩ := Source.order_of_searchUrl (Gateway.searchCall_eq_ok hcall).2
  exact pairwise_compare_of_sorts hsort horder hmerges hserves.sorted

/-- Pages that are cut out of the merged items up to their ends are cut out of all merged items, if
every catalog is in the order of merging. -/
theorem take_mergedCatalogs (h : ∀ s ∈ f.selected r,
      (catalog s).Pairwise fun a b => (Resource.compare sort a b).isLE) (number size : Nat) :
    ((f.mergedCatalogs r catalog sort ((number + 1) * size)).drop (number * size)).take size =
      ((mergedItems ((f.selected r).map (catalogResult catalog)) sort .external).drop
        (number * size)).take size := by
  have hordered : ∀ result ∈ (f.selected r).map (catalogResult catalog), result.Ordered sort := by
    intro result hresult
    obtain ⟨s, hs, rfl⟩ := List.mem_map.mp hresult
    show ((catalog s).map (Resource.stamp s)).Pairwise _
    rw [List.pairwise_map]
    exact (h s hs).imp fun {a b} hle => by rwa [Resource.compare_stamp]
  have hend : (number + 1) * size - number * size = size := by
    rw [Nat.succ_mul, Nat.add_sub_cancel_left]
  have hwindow (items : List Resource) : (items.drop (number * size)).take size =
      (items.take ((number + 1) * size)).drop (number * size) := by
    rw [List.drop_take, hend]
  rw [hwindow, hwindow, mergedCatalogs, take_mergedItems_truncate hordered]

/-- **The pages of honest sources.** Each is cut out of the first items of all catalogs, merged as
far as the page goes, for which every source is asked again. All the same the pages are windows of
one order, so that no item is on two of them and every item is on one, where items are merged in
the order that was asked for, or every catalog is in the order of merging anyhow. -/
theorem pagesAreWindows_of_honest (hsize : size ≠ 0) (h : f.Honest r size sort cancel catalog) :
    (∀ number : UInt32, ∃ p, (f.search r ⟨number, size, sort⟩ cancel).result = .ok p ∧
        p.items = ((f.mergedCatalogs r catalog sort ((number.toNat + 1) * size.toNat)).drop
          (number.toNat * size.toNat)).take size.toNat) ∧
      ((∀ s ∈ f.selected r, MergesAsAsked sort (catalog s) ∨
          (catalog s).Pairwise fun a b => (Resource.compare sort a b).isLE) →
        f.PagesAreWindows r size sort cancel (f.catalogItems r catalog)) := by
  refine ⟨result_search_of_honest hsize h, fun hmerges => ?_⟩
  have hpairwise : ∀ s ∈ f.selected r,
      (catalog s).Pairwise fun a b => (Resource.compare sort a b).isLE :=
    fun s hs => (hmerges s hs).elim (h.pairwise_compare hs) id
  let all := mergedItems ((f.selected r).map (catalogResult catalog)) sort .external
  refine ⟨all, fun number => (all.drop (number.toNat * size.toNat)).take size.toNat, ?_, ?_,
    fun number => rfl, ?_⟩
  · have hperm := perm_mergedItems ((f.selected r).map (catalogResult catalog)) sort .external
    rw [List.flatMap_map] at hperm
    exact hperm
  · intro number
    obtain ⟨p, hp, hitems⟩ := result_search_of_honest hsize h number
    exact ⟨p, hp, hitems.trans (take_mergedCatalogs hpairwise _ _)⟩
  · intro hlength
    have hpages : ∀ n ∈ List.range UInt32.size,
        (all.drop ((UInt32.ofNat n).toNat * size.toNat)).take size.toNat =
          (all.drop (n * size.toNat)).take size.toNat := by
      intro n hn
      rw [UInt32.toNat_ofNat_of_lt' (List.mem_range.mp hn)]
    rw [List.flatMap_congr hpages, flatMap_range_window, List.take_of_length_le hlength]

/-- An item of the year 2020, in JSON and as it is read. -/
def olderItem : String × Resource :=
  ("\x7b\"id\":\"a\",\"publishDate\":\"2020-05-01\"\x7d",
    { id := "a", publishDate := Date.of? 2020 5 1 })

/-- An item of the year 2021, in JSON and as it is read. -/
def newerItem : String × Resource :=
  ("\x7b\"id\":\"b\",\"publishDate\":\"2021-05-01\"\x7d",
    { id := "b", publishDate := Date.of? 2021 5 1 })

/-- Two hosts that serve the same two items, the newer one first: each page has one of four. -/
theorem pagesAreWindows_two_hosts :
    (serving ["a", "b"] [newerItem.1, olderItem.1]).Honest {} 1 (some .newest) none
        (fun _ => [newerItem.2, olderItem.2]) ∧
      (serving ["a", "b"] [newerItem.1, olderItem.1]).PagesAreWindows {} 1 (some .newest) none
        ((serving ["a", "b"] [newerItem.1, olderItem.1]).catalogItems {}
          fun _ => [newerItem.2, olderItem.2]) ∧
      ((serving ["a", "b"] [newerItem.1, olderItem.1]).catalogItems {}
        fun _ => [newerItem.2, olderItem.2]).length = 4 := by
  have honest : (serving ["a", "b"] [newerItem.1, olderItem.1]).Honest {} 1 (some .newest) none
      fun _ => [newerItem.2, olderItem.2] := by
    refine honest_serving (ResourceSet.readText_textOf rfl (by decide +kernel)) ?_
      (by decide +kernel)
    rintro k ⟨⟩
    decide +kernel
  exact ⟨honest, (pagesAreWindows_of_honest (by decide) honest).2 fun s _ => Or.inl trivial, rfl⟩

/-! ## Items that are merged in another order -/

/-- Two items of which the second one is merged first. -/
theorem mergedItems_of_gt {result : SourceResult} {x y : Resource} (hitems : result.items = [x, y])
    (h : Resource.compare sort x y = .gt) : mergedItems [result] sort .external = [y, x] := by
  unfold mergedItems
  rw [List.flatMap_singleton, hitems]
  show [x, y].mergeSort (fun a b => (Resource.compare sort a b).isLE) = _
  rw [mergeSort_cons_eq_orderedInsert, List.mergeSort_singleton, List.orderedInsert,
    if_neg (by rw [h]; decide)]
  rfl

/-- **The pages of an honest source are no windows of one order** if it has an item before another
one that is merged first. The first item is on the first page, and on the second one again. -/
theorem not_pagesAreWindows_of_gt {s : Source} {x y : Resource} (hselected : f.selected r = [s])
    (hcatalog : catalog s = [x, y]) (hgt : Resource.compare sort x y = .gt)
    (h : f.Honest r 1 sort cancel catalog) :
    ¬ f.PagesAreWindows r 1 sort cancel (f.catalogItems r catalog) := by
  rintro ⟨all, pages, hperm, hresults, hwindows, -⟩
  have hgt' : Resource.compare sort (x.stamp s) (y.stamp s) = .gt := by
    rw [Resource.compare_stamp, hgt]
  have hpages : ∀ number : UInt32, pages number =
      ((mergedItems [(catalogResult catalog s).truncate ((number.toNat + 1) * 1)] sort
        .external).drop (number.toNat * 1)).take 1 := by
    intro number
    obtain ⟨p, hp, hitems⟩ := result_search_of_honest (by decide) h number
    obtain ⟨p', hp', hitems'⟩ := hresults number
    obtain rfl : p = p' := Except.ok.inj (hp.symm.trans hp')
    rw [← hitems', hitems, mergedCatalogs, hselected]
    rfl
  have hwhole : (catalogResult catalog s).items = [x.stamp s, y.stamp s] := by
    show (catalog s).map (Resource.stamp s) = _
    rw [hcatalog]
    rfl
  have hfirst : pages 0 = [x.stamp s] := by
    rw [hpages]
    have hone : ((catalogResult catalog s).truncate 1).items = [x.stamp s] := by
      rw [SourceResult.items_truncate, hwhole]
      rfl
    have hmerged : mergedItems [(catalogResult catalog s).truncate 1] sort .external =
        [x.stamp s] := by
      rw [mergedItems, List.flatMap_singleton, hone, List.mergeSort_singleton]
    exact congrArg (fun items => (items.drop 0).take 1) hmerged
  have hsecond : pages 1 = [x.stamp s] := by
    rw [hpages]
    have hboth : ((catalogResult catalog s).truncate 2).items = [x.stamp s, y.stamp s] := by
      rw [SourceResult.items_truncate, hwhole]
      rfl
    exact congrArg (fun items => (items.drop 1).take 1) (mergedItems_of_gt hboth hgt')
  have hitems : all.Perm [x.stamp s, y.stamp s] := by
    rw [catalogItems, hselected, List.flatMap_singleton, hcatalog] at hperm
    exact hperm
  -- So both items of the order are the first one.
  obtain ⟨a, b, rfl⟩ := List.length_eq_two.mp hitems.length_eq
  have ha : [x.stamp s] = [a] := hfirst.symm.trans (hwindows 0)
  have hb : [x.stamp s] = [b] := hsecond.symm.trans (hwindows 1)
  obtain rfl := (List.cons.inj ha).1
  obtain rfl := (List.cons.inj hb).1
  have hy : y.stamp s ∈ [x.stamp s, x.stamp s] := hitems.mem_iff.mpr (by simp)
  have hsame : y.stamp s = x.stamp s := by simpa using hy
  have hself : Resource.compare sort (x.stamp s) (x.stamp s) = .eq := Std.ReflCmp.compare_self
  rw [hsame, hself] at hgt'
  cases hgt'

/-- **A host that serves some items honestly, with pages that are no windows.** -/
def HonestWithoutWindows (items : List (String × Resource)) (sort : Option SortKey) : Prop :=
  (serving ["a"] (items.map (·.1))).Honest {} 1 sort none (fun _ => items.map (·.2)) ∧
    ¬ (serving ["a"] (items.map (·.1))).PagesAreWindows {} 1 sort none
      ((serving ["a"] (items.map (·.1))).catalogItems {} fun _ => items.map (·.2))

/-- A host that serves two items, of which the second one is merged first, is such a host. -/
theorem honestWithoutWindows_of_gt {x y : String × Resource}
    (hread : ∀ n ≤ 2, ResourceSet.codec.readText (ResourceSet.textOf ([x.1, y.1].take n)) =
      .ok ⟨[x.2, y.2].take n⟩)
    (hsorted : ∀ k ∈ sort, [x.2, y.2].Pairwise fun a b =>
      (Resource.compareBy k.property.toList k.direction.toList a b).isLE)
    (hgt : Resource.compare sort x.2 y.2 = .gt) : HonestWithoutWindows [x, y] sort := by
  have honest : (serving ["a"] [x.1, y.1]).Honest {} 1 sort none fun _ => [x.2, y.2] :=
    honest_serving (ResourceSet.readText_textOf rfl hread) hsorted (by decide +kernel)
  exact ⟨honest, not_pagesAreWindows_of_gt (selected_serving _ _) rfl hgt honest⟩

/-- An item of relevance 1, in JSON and as it is read. -/
def lessViewedItem : String × Resource :=
  ("\x7b\"id\":\"a\",\"relevance\":1.0\x7d", { id := "a", relevance := some ⟨0x3F800000⟩ })

/-- An item of relevance 2, in JSON and as it is read. -/
def moreViewedItem : String × Resource :=
  ("\x7b\"id\":\"b\",\"relevance\":2.0\x7d", { id := "b", relevance := some ⟨0x40000000⟩ })

/-- An item with a name, in JSON and as it is read. -/
def namedItem : String × Resource :=
  ("\x7b\"id\":\"a\",\"name\":\"A\"\x7d", { id := "a", name := "A" })

/-- An item without a name, in JSON and as it is read. -/
def namelessItem : String × Resource := ("\x7b\"id\":\"b\",\"name\":null\x7d", { id := "b" })

/-- **Pages of honest sources need not be windows**: not those of the most viewed, not without an
order, and not in the order of names if one is missing. -/
theorem honestWithoutWindows_three :
    HonestWithoutWindows [moreViewedItem, lessViewedItem] (some .mostViewed) ∧
      HonestWithoutWindows [olderItem, newerItem] none ∧
      HonestWithoutWindows [namedItem, namelessItem] (some .alphabetic) := by
  refine ⟨?_, ?_, ?_⟩
  · refine honestWithoutWindows_of_gt (by decide +kernel) ?_ (by decide +kernel)
    rintro k ⟨⟩
    decide +kernel
  · refine honestWithoutWindows_of_gt (by decide +kernel) ?_ (by decide +kernel)
    rintro k ⟨⟩
  · refine honestWithoutWindows_of_gt (by decide +kernel) ?_ (by decide +kernel)
    rintro k ⟨⟩
    decide +kernel

end Federation

end CatalogSearch
