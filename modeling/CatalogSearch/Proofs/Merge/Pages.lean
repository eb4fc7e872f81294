import CatalogSearch.Proofs.Merge.Window

/-! # The pages of merged results

Every page is cut out of the merged items on its own. Put one after another, the pages of one size
are the merged items again: nothing is lost or doubled where one page ends and the next begins.

* **`flatMap_range_window`**: consecutive windows of one size are what they cover;
* **`declaredTotal_eq_foldl`**: the total, added up source by source;
* **`pageCount`**: how many pages some items fill;
* **`pagedItems`**: the items of the first pages;
* **`pagedItems_partition`**: all items in order, on pages that are full except for the last one. -/

namespace CatalogSearch

/-! ## Windows -/

/-- Consecutive windows of one size are what they cover. -/
theorem flatMap_range_window {α : Type} (all : List α) (size count : Nat) :
    ((List.range count).flatMap fun n => (all.drop (n * size)).take size) =
      all.take (count * size) := by
  induction count with
  | zero => rw [List.range_zero, List.flatMap_nil, Nat.zero_mul, List.take_zero]
  | succ count ih =>
    rw [List.range_succ, List.flatMap_append, ih, List.flatMap_singleton, Nat.succ_mul,
      List.take_add]

/-- **How many pages of one size some items fill**, the last one perhaps in part. -/
def pageCount (items size : Nat) : Nat := (items + size - 1) / size

/-- The pages that items fill have room for all of them. -/
theorem le_pageCount_mul {size : Nat} (hsize : 0 < size) (items : Nat) :
    items ≤ pageCount items size * size := by
  have hdiv := Nat.div_add_mod (items + size - 1) size
  have hmod := Nat.mod_lt (items + size - 1) hsize
  rw [Nat.mul_comm] at hdiv
  unfold pageCount
  omega

/-- Items that fit on some pages fill no more than these. -/
theorem pageCount_le {size items count : Nat} (hsize : 0 < size) (h : items ≤ count * size) :
    pageCount items size ≤ count := by
  unfold pageCount
  apply Nat.le_of_lt_succ
  rw [Nat.div_lt_iff_lt_mul hsize, Nat.succ_mul]
  omega

/-! ## Totals -/

/-- The sum of two words, or the largest word if it is too large. -/
def saturatingAdd (a b : UInt64) : UInt64 := clamp64 (a.toNat + b.toNat)

/-- Clamping a summand does not change a clamped sum. -/
theorem clamp64_clamp64_add (a b : Nat) : clamp64 ((clamp64 a).toNat + b) = clamp64 (a + b) := by
  rw [← UInt64.toNat_inj, toNat_clamp64, toNat_clamp64, toNat_clamp64]
  omega

/-- **The total is the same when it is added up source by source** and kept within 64 bits at every
step. -/
theorem declaredTotal_eq_foldl (results : List SourceResult) :
    declaredTotal results =
      results.foldl (fun total r => saturatingAdd total r.totalElements) 0 := by
  -- The total so far has been clamped already.
  suffices hfrom : ∀ n : Nat,
      results.foldl (fun total r => saturatingAdd total r.totalElements) (clamp64 n) =
        clamp64 (n + (results.map (·.totalElements.toNat)).foldr (· + ·) 0) by
    have hzero := hfrom 0
    rw [Nat.zero_add] at hzero
    exact hzero.symm
  induction results with
  | nil =>
    intro n
    rfl
  | cons r results ih =>
    intro n
    rw [List.foldl_cons, saturatingAdd, clamp64_clamp64_add, ih, List.map_cons, List.foldr_cons,
      Nat.add_assoc]

/-! ## Pages -/

/-- **The items of the first pages** of one size, one page after another. -/
def pagedItems (results : List SourceResult) (sort : Option SortKey) (size : UInt32)
    (count : Nat) : List Resource :=
  (List.range count).flatMap fun n => (merge results ⟨.ofNat n, size, sort⟩ .external).items

variable {results : List SourceResult} {sort : Option SortKey} {size : UInt32}

/-- How many items a page holds. -/
theorem length_items_merge_external (page : PageRequest) :
    (merge results page .external).items.length =
      min page.size.toNat ((results.flatMap (·.items)).length - page.offset) := by
  have hlength := (perm_mergedItems results page.sort .external).length_eq
  show (((mergedItems results page.sort .external).drop page.offset).take
    page.size.toNat).length = _
  rw [List.length_take, List.length_drop, hlength]

/-- **The first pages are the first merged items**, as far as there are page numbers. -/
theorem pagedItems_eq_take {count : Nat} (hcount : count ≤ UInt32.size) :
    pagedItems results sort size count =
      (mergedItems results sort .external).take (count * size.toNat) := by
  have hpages : ∀ n ∈ List.range count, (merge results ⟨.ofNat n, size, sort⟩ .external).items =
      ((mergedItems results sort .external).drop (n * size.toNat)).take size.toNat := by
    intro n hn
    have hnumber : (UInt32.ofNat n).toNat = n :=
      UInt32.toNat_ofNat_of_lt' (Nat.lt_of_lt_of_le (List.mem_range.mp hn) hcount)
    show ((mergedItems results sort .external).drop ((UInt32.ofNat n).toNat * size.toNat)).take
      size.toNat = _
    rw [hnumber]
  rw [pagedItems, List.flatMap_congr hpages, flatMap_range_window]

/-- **The pages that all items fill show the merged items.** -/
theorem pagedItems_eq_mergedItems (hsize : size ≠ 0)
    (hcount : (results.flatMap (·.items)).length ≤ UInt32.size * size.toNat) :
    pagedItems results sort size (pageCount (results.flatMap (·.items)).length size.toNat) =
      mergedItems results sort .external := by
  have hpos : 0 < size.toNat := by
    rw [Nat.pos_iff_ne_zero]
    intro hzero
    exact hsize (UInt32.toNat_inj.mp hzero)
  have hlength := (perm_mergedItems results sort .external).length_eq
  rw [pagedItems_eq_take (pageCount_le hpos hcount), ← hlength,
    List.take_of_length_le (le_pageCount_mul hpos _)]

/-- **The pages partition the merged items.** The pages that all items fill, read one after another,
show each item once, in the order that the caller chose, and equal items in the order of their
sources and of their places within a source. Every page holds as many of the items that are left as
fit on it. It carries what all sources declare in total, added up within 64 bits, which is the
largest word of 64 bits if the sum is larger than that. -/
theorem pagedItems_partition (results : List SourceResult) (sort : Option SortKey) (size : UInt32)
    (hsize : size ≠ 0)
    (hcount : (results.flatMap (·.items)).length ≤ UInt32.size * size.toNat) :
    StablySorts (Resource.compare sort)
        (pagedItems results sort size (pageCount (results.flatMap (·.items)).length size.toNat))
        (results.flatMap (·.items)) ∧
      ∀ number : UInt32,
        let page := merge results ⟨number, size, sort⟩ .external
        page.items.length =
            min size.toNat ((results.flatMap (·.items)).length - number.toNat * size.toNat) ∧
          page.totalElements =
            results.foldl (fun total r => saturatingAdd total r.totalElements) 0 ∧
          page.totalElements.toNat =
            min ((results.map (·.totalElements.toNat)).foldr (· + ·) 0) (UInt64.size - 1) := by
  constructor
  · rw [pagedItems_eq_mergedItems hsize hcount]
    exact stablySorts_mergeSort (Resource.compare sort) _
  · intro number page
    have htotal : page.totalElements = declaredTotal results := rfl
    refine ⟨length_items_merge_external _, ?_, ?_⟩
    · rw [htotal, declaredTotal_eq_foldl]
    · rw [htotal, declaredTotal, toNat_clamp64]

/-- Three sources with five items, which declare more than 64 bits hold. -/
def overdeclaredResults : List SourceResult := ⟨"c", "C", 0xFFFFFFFFFFFFFFFF, []⟩ :: tiedResults

/-- Five items on pages of two: the last page has one, and all of them carry the largest total. -/
theorem pagedItems_partition_five :
    (overdeclaredResults.flatMap (·.items)).length ≤ UInt32.size * 2 ∧
      StablySorts (Resource.compare none) (pagedItems overdeclaredResults none 2 3)
        (tiedResults.flatMap (·.items)) ∧
      (merge overdeclaredResults ⟨2, 2, none⟩ .external).items.length = 1 ∧
      (merge overdeclaredResults ⟨2, 2, none⟩ .external).totalElements.toNat = UInt64.size - 1 := by
  have hcount : (overdeclaredResults.flatMap (·.items)).length ≤
      UInt32.size * (2 : UInt32).toNat := by decide
  have hfill : pageCount (overdeclaredResults.flatMap (·.items)).length (2 : UInt32).toNat = 3 := by
    decide
  obtain ⟨hsorts, hpages⟩ := pagedItems_partition overdeclaredResults none 2 (by decide) hcount
  rw [hfill] at hsorts
  exact ⟨hcount, hsorts, (hpages 2).1, (hpages 2).2.2⟩

end CatalogSearch
