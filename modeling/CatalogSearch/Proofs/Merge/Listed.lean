import CatalogSearch.Proofs.Merge.Remembered

/-! # Listed items come first

A list of keys that a caller remembers puts items into an order: those whose key is listed come
first, each where its key stands first in the list, and all others come after them. What is left
open by the list is settled by another order, if one is given, and else by the sources. A page shows
the first of these items, whatever its number.

* **`FirstAt`**: the first place of a key in a list of keys;
* **`SameRank`**: resources between which the list does not decide;
* **`Remembers`**: items in the order of a list;
* **`remembers_of_stablySorts`**: sorting by rank makes this order;
* **`ResultPage.ShowsRemembered`**, **`merge_shows_remembered`**: the pages of remembered orders. -/

namespace CatalogSearch

variable {keys : List ItemKey} {a b : Resource}

/-! ## Places in a list of keys -/

/-- **The first place of a key in a list of keys**: it stands there, and nowhere before. -/
def FirstAt (keys : List ItemKey) (k : ItemKey) (i : Nat) : Prop :=
  keys[i]? = some k ∧ ∀ j < i, keys[j]? ≠ some k

/-- The rank of a resource is the first place of its key. -/
theorem rank_eq_of_firstAt {i : Nat} (h : FirstAt keys a.sortingKey i) : rank keys a = i := by
  obtain ⟨hi, hfirst⟩ := h
  have hmem : a.sortingKey ∈ keys := List.mem_of_getElem? hi
  have hrank : keys[rank keys a]? = some a.sortingKey := List.getElem?_idxOf hmem
  have htake : a.sortingKey ∈ keys.take (i + 1) := by
    refine List.mem_of_getElem? (i := i) ?_
    rw [List.getElem?_take_of_lt (Nat.lt_succ_self i), hi]
  have hle : rank keys a < i + 1 := (List.mem_take_iff_idxOf_lt hmem).mp htake
  refine Nat.le_antisymm (Nat.le_of_lt_succ hle) (Nat.not_lt.mp fun hlt => ?_)
  exact hfirst _ hlt hrank

/-- **Resources between which a list of keys does not decide**: they have the same key, or both are
not listed. -/
def SameRank (keys : List ItemKey) (a b : Resource) : Prop :=
  a.sortingKey = b.sortingKey ∨ a.sortingKey ∉ keys ∧ b.sortingKey ∉ keys

instance (keys : List ItemKey) (a b : Resource) : Decidable (SameRank keys a b) := by
  unfold SameRank
  infer_instance

/-- The rank of a resource that is not listed is the length of the list. -/
theorem rank_of_not_mem (h : a.sortingKey ∉ keys) : rank keys a = keys.length :=
  List.idxOf_of_notMem h

/-- Resources have the same rank if the list does not decide between them. -/
theorem rank_eq_rank_iff : rank keys a = rank keys b ↔ SameRank keys a b := by
  constructor
  · intro h
    by_cases ha : a.sortingKey ∈ keys
    · exact Or.inl ((List.idxOf_inj ha).mp h)
    · refine Or.inr ⟨ha, fun hb => ?_⟩
      rw [rank_of_not_mem ha] at h
      exact absurd (rank_lt_length_iff.mpr hb) (Nat.not_lt.mpr (Nat.le_of_eq h))
  · rintro (hkey | ⟨ha, hb⟩)
    · rw [rank, hkey]
      rfl
    · rw [rank_of_not_mem ha, rank_of_not_mem hb]

/-! ## The order of a list -/

/-- **Items in the order of a list of keys.** They are the same items. Listed ones come before all
others, and among each other by the first places of their keys. Where the list does not decide, they
come in the order `tie`, and where this does not decide either, as they were. -/
structure Remembers (keys : List ItemKey) (tie : Resource → Resource → Ordering)
    (sorted items : List Resource) : Prop where
  perm : sorted.Perm items
  listed_first : sorted.Pairwise fun a b => b.sortingKey ∈ keys → a.sortingKey ∈ keys
  by_place : sorted.Pairwise fun a b => ∀ i j,
    FirstAt keys a.sortingKey i → FirstAt keys b.sortingKey j → i ≤ j
  by_tie : sorted.Pairwise fun a b => SameRank keys a b → (tie a b).isLE
  stable : ∀ x, sorted.filter (fun a => SameRank keys x a ∧ tie x a = .eq) =
    items.filter fun a => SameRank keys x a ∧ tie x a = .eq

/-- **Items that are sorted by rank, and then by another order,** are in the order of the list. -/
theorem remembers_of_stablySorts {tie : Resource → Resource → Ordering}
    {sorted items : List Resource}
    (h : StablySorts (fun a b => (Ord.compare (rank keys a) (rank keys b)).then (tie a b)) sorted
      items) :
    Remembers keys tie sorted items := by
  -- What sorts is the rank; places in the list are told from it.
  have hrank : sorted.Pairwise fun a b => rank keys a ≤ rank keys b :=
    h.ordered.imp fun hle => Nat.isLE_compare.mp (Ordering.isLE_left_of_isLE_then hle)
  have heq (a b : Resource) :
      SameRank keys a b ↔ Ord.compare (rank keys a) (rank keys b) = .eq := by
    rw [Nat.compare_eq_eq, rank_eq_rank_iff]
  refine
    { perm := h.perm
      listed_first := hrank.imp fun hle hb => ?_
      by_place := hrank.imp fun hle i j hi hj => ?_
      by_tie := h.ordered.imp fun {a b} hle hsame => ?_
      stable := fun x => ?_ }
  · exact rank_lt_length_iff.mp (Nat.lt_of_le_of_lt hle (rank_lt_length_iff.mpr hb))
  · rwa [rank_eq_of_firstAt hi, rank_eq_of_firstAt hj] at hle
  · rwa [(heq a b).mp hsame, Ordering.eq_then] at hle
  · have hties := h.ties x
    simp only [Ordering.then_eq_eq, ← heq] at hties
    exact hties

/-- **Items that are not listed come last**: if one is among the first, all listed ones are. -/
theorem Remembers.perm_listed_take {tie : Resource → Resource → Ordering}
    {sorted items : List Resource} (h : Remembers keys tie sorted items) {n : Nat}
    (hother : ∃ item ∈ sorted.take n, item.sortingKey ∉ keys) :
    ((sorted.take n).filter (·.sortingKey ∈ keys)).Perm (items.filter (·.sortingKey ∈ keys)) := by
  obtain ⟨x, hx, hxkeys⟩ := hother
  have hparts := h.listed_first
  rw [← List.take_append_drop n sorted, List.pairwise_append] at hparts
  -- After an item that is not listed there is none that is.
  have hrest : (sorted.drop n).filter (·.sortingKey ∈ keys) = [] := by
    rw [List.filter_eq_nil_iff]
    intro b hb hbkeys
    exact hxkeys (hparts.2.2 x hx b hb (of_decide_eq_true hbkeys))
  have hall : (sorted.take n).filter (·.sortingKey ∈ keys) =
      sorted.filter (·.sortingKey ∈ keys) := by
    conv_rhs => rw [← List.take_append_drop n sorted, List.filter_append, hrest, List.append_nil]
  rw [hall]
  exact h.perm.filter _

/-! ## Pages -/

/-- **A page of items in the order of a list**: the first of them, up to the size of a page. If one
that is not listed is on the page, so are all listed ones. -/
structure ResultPage.ShowsRemembered (p : ResultPage) (size : Nat) (keys : List ItemKey)
    (tie : Resource → Resource → Ordering) (items : List Resource) : Prop where
  shows_first : ∃ sorted, Remembers keys tie sorted items ∧ p.items = sorted.take size
  shows_listed : (∃ item ∈ p.items, item.sortingKey ∉ keys) →
    (p.items.filter (·.sortingKey ∈ keys)).Perm (items.filter (·.sortingKey ∈ keys))

/-- The first of some items in the order of a list make such a page. -/
theorem ResultPage.showsRemembered_of_take {p : ResultPage} {size : Nat}
    {tie : Resource → Resource → Ordering} {sorted items : List Resource}
    (h : Remembers keys tie sorted items) (hp : p.items = sorted.take size) :
    p.ShowsRemembered size keys tie items where
  shows_first := ⟨sorted, h, hp⟩
  shows_listed hother := by
    rw [hp] at hother ⊢
    exact h.perm_listed_take hother

/-- **Remembered orders.** Whatever the sources answer, and whatever keys a caller remembers, a page
in a remembered order shows the first items in the order of the keys, none of them skipped for its
number. Where the keys do not decide, one of the two orders keeps the items in the order of their
sources and of their places there, and the other one goes by the order of the page first. -/
theorem merge_shows_remembered (results : List SourceResult) (keys : List ItemKey)
    (page : PageRequest) :
    (merge results page (.remembered keys)).ShowsRemembered page.size.toNat keys (fun _ _ => .eq)
        (results.flatMap (·.items)) ∧
      (merge results page (.rememberedThenExternal keys)).ShowsRemembered page.size.toNat keys
        (Resource.compare page.sort) (results.flatMap (·.items)) := by
  have hsorts (order : MergeOrder) : StablySorts (order.compare page.sort)
      (mergedItems results page.sort order) (results.flatMap (·.items)) :=
    stablySorts_mergeSort (order.compare page.sort) _
  constructor
  · -- Ranks alone are ranks with everything tied.
    have hcompare : (MergeOrder.remembered keys).compare page.sort =
        fun a b => (Ord.compare (rank keys a) (rank keys b)).then .eq := by
      funext a b
      exact Ordering.then_eq.symm
    have hremembered := hsorts (.remembered keys)
    rw [hcompare] at hremembered
    exact ResultPage.showsRemembered_of_take (remembers_of_stablySorts hremembered) rfl
  · have hremembered := hsorts (.rememberedThenExternal keys)
    exact ResultPage.showsRemembered_of_take (remembers_of_stablySorts hremembered) rfl

/-- Two sources: the first one has an item that no key is for, and one without a source. -/
def mixedResults : List SourceResult :=
  [ ⟨"a", "A", 2, [{ id := "x", publisherId := some "a" }, { id := "y" }]⟩,
    ⟨"b", "B", 2, [{ id := "x", publisherId := some "b" }, { id := "y" }]⟩ ]

/-- A key that is repeated counts where it stands first, and the page number does not count. -/
example :
    (merge mixedResults ⟨7, 3, none⟩
        (.remembered [⟨"", "y"⟩, ⟨"b", "x"⟩, ⟨"", "y"⟩])).items.map (·.sortingKey) =
      [⟨"", "y"⟩, ⟨"", "y"⟩, ⟨"b", "x"⟩] := by
  show (((mixedResults.flatMap (·.items)).mergeSort fun a b =>
    ((MergeOrder.remembered [⟨"", "y"⟩, ⟨"b", "x"⟩, ⟨"", "y"⟩]).compare none a b).isLE).take 3).map
      (·.sortingKey) = _
  simp only [mixedResults, List.flatMap_cons, List.flatMap_nil, List.cons_append, List.nil_append,
    mergeSort_cons_eq_orderedInsert, List.mergeSort_nil]
  decide +kernel

end CatalogSearch
