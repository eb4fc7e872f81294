import CatalogSearch.Proofs.Federation.Dispatch
import CatalogSearch.Proofs.Merge.Remembered

/-! # Known items come back in the order of their keys

Favorites and history are lists of keys from many sources. Each source is asked for its own items
only, answers in an order of its own, or fails; all the same the page has the items in the order of
the list.

* **`Gateway.Brings`**, **`Federation.Delivers`**: sources that bring what they have, or fail;
* **`Federation.delivered`**: the keys whose items are brought;
* **`Federation.KeepsOrder`**: a page with these items in the order of the keys;
* **`Federation.keepsOrder_of_delivers`**: sources that deliver make such a page. -/

namespace CatalogSearch

/-! ## What is brought -/

/-- **A call that brings what the source has** of the items with some ids: each once, in any
order. -/
def Gateway.Brings (g : Gateway) (cancel : Cancellation) (has : String → Bool) (ids : List String)
    (c : Gateway.Call) : Prop :=
  ∃ a, g.Answers cancel c a ∧ (a.resources.map (·.id)).Perm (ids.filter has)

instance (g : Gateway) (cancel : Cancellation) (has : String → Bool) (ids : List String)
    (c : Gateway.Call) : Decidable (g.Brings cancel has ids c) :=
  decidable_of_iff
    (g.inTime cancel c = true ∧ ∃ a, (g.response c).bind (Gateway.readAnswer c) = .ok a ∧
      (a.resources.map (·.id)).Perm (ids.filter has)) <| by
    unfold Gateway.Brings Gateway.Answers
    simp only [and_assoc, exists_and_left]

namespace Federation

variable {f : Federation} {keys : List ItemKey} {base : SearchRequest} {page : PageRequest}
  {cancel : Cancellation} {failed : Source → Bool} {has : Source → String → Bool}

/-- **Sources that deliver**: every source of the keys can be asked, and fails or brings what it
has. -/
def Delivers (f : Federation) (keys : List ItemKey) (base : SearchRequest) (page : PageRequest)
    (cancel : Cancellation) (failed : Source → Bool) (has : Source → String → Bool) : Prop :=
  ∀ q ∈ f.idQueries keys base,
    ∃ c, f.gateway.searchCall { page with number := 0 } q = .ok c ∧
      (failed q.1 = true ∧ f.gateway.Fails cancel c ∨
        failed q.1 = false ∧ f.gateway.Brings cancel (has q.1) q.2.id c)

instance (f : Federation) (keys : List ItemKey) (base : SearchRequest) (page : PageRequest)
    (cancel : Cancellation) (failed : Source → Bool) (has : Source → String → Bool) :
    Decidable (f.Delivers keys base page cancel failed has) := by
  unfold Delivers
  infer_instance

/-- **A key whose item is brought**: its source is known, does not fail, and has the item. -/
def delivered (f : Federation) (failed : Source → Bool) (has : Source → String → Bool)
    (k : ItemKey) : Bool :=
  (f.registry.source? k.sourceId).any fun s => !failed s && has s k.itemId

/-- The keys that a source delivers: none if it fails, else those of the items that it has. -/
theorem filter_delivered {id : String} {s : Source} (hs : f.registry.source? id = some s)
    (keys : List ItemKey) :
    ((keys.filter (f.delivered failed has)).filter fun k => k.sourceId = id) =
      if failed s then [] else ((idsAt keys id).filter (has s)).map (ItemKey.mk id) := by
  have hdelivered : ∀ k : ItemKey, k.sourceId = id →
      f.delivered failed has k = (!failed s && has s k.itemId) := by
    rintro k rfl
    rw [delivered, hs, Option.any_some]
  cases hfailed : failed s with
  | true =>
    rw [if_pos rfl, List.filter_filter, List.filter_eq_nil_iff]
    intro k _ hk
    obtain ⟨hid, hk⟩ := Bool.and_eq_true_iff.mp hk
    rw [hdelivered k (of_decide_eq_true hid), hfailed] at hk
    cases hk
  | false =>
    rw [if_neg Bool.false_ne_true, idsAt, List.filter_map, List.map_map, List.filter_filter,
      List.filter_filter]
    have hsame : ∀ k : ItemKey, (decide (k.sourceId = id) && f.delivered failed has k) =
        ((has s ∘ ItemKey.itemId) k && decide (k.sourceId = id)) := by
      intro k
      by_cases hid : k.sourceId = id
      · rw [hdelivered k hid, hfailed, Bool.and_comm]
        rfl
      · rw [decide_eq_false hid, Bool.false_and, Bool.and_false]
    rw [List.filter_congr fun k _ => hsame k]
    refine (List.map_id _).symm.trans (List.map_congr_left fun k hk => ?_)
    obtain rfl := of_decide_eq_true (Bool.and_eq_true_iff.mp (List.mem_filter.mp hk).2).2
    rfl

/-! ## The items of the page -/

/-- The keys of the items that a query brings. -/
theorem map_sortingKey_outcome {g : Gateway} {page : PageRequest} {q : Source × SearchRequest}
    {c : Gateway.Call} (hcall : g.searchCall page q = .ok c)
    (h : failed q.1 = true ∧ g.Fails cancel c ∨
      failed q.1 = false ∧ g.Brings cancel (has q.1) q.2.id c) :
    ((g.outcome page cancel q).items.map (·.sortingKey)).Perm
      (if failed q.1 then [] else (q.2.id.filter (has q.1)).map (ItemKey.mk q.1.id)) := by
  rcases h with ⟨hfailed, hfails⟩ | ⟨hfailed, a, hanswers, hperm⟩
  · rw [if_pos hfailed, Gateway.outcome, hcall]
    simp only [Gateway.yielded_of_fails hfails]
    exact List.Perm.refl []
  · rw [hfailed, if_neg Bool.false_ne_true, Gateway.outcome, hcall]
    simp only [Gateway.yielded_of_answers hanswers]
    have hkeys : (SourceResult.ofAnswer q.1 a).items.map (·.sortingKey) =
        (a.resources.map (·.id)).map (ItemKey.mk q.1.id) := by
      rw [SourceResult.ofAnswer, List.map_map, List.map_map]
      rfl
    rw [hkeys]
    exact hperm.map _

/-- Items that are brought have keys. -/
theorem key?_of_mem_items_outcome {g : Gateway} {page : PageRequest} {q : Source × SearchRequest}
    {item : Resource} (h : item ∈ (g.outcome page cancel q).items) :
    item.key? = some item.sortingKey := by
  have hstamped : ∀ a : SourceAnswer, item ∈ (SourceResult.ofAnswer q.1 a).items →
      item.key? = some item.sortingKey := by
    intro a ha
    obtain ⟨r, -, rfl⟩ := List.mem_map.mp ha
    rfl
  unfold Gateway.outcome at h
  split at h
  · exact hstamped _ h
  · exact hstamped _ h

/-- **What sources deliver** are the keys of the items that are brought, in the order of their
answers. -/
theorem Delivers.perm (h : f.Delivers keys base page cancel failed has) :
    ((((f.idQueries keys base).map
        (f.gateway.outcome { page with number := 0 } cancel)).flatMap (·.items)).map
          (·.sortingKey)).Perm (keys.filter (f.delivered failed has)) := by
  rw [List.flatMap_map, List.map_flatMap]
  have hgroups : ∀ q ∈ f.idQueries keys base,
      ((f.gateway.outcome { page with number := 0 } cancel q).items.map (·.sortingKey)).Perm
        ((keys.filter (f.delivered failed has)).filter fun k => k.sourceId = q.1.id) := by
    intro q hq
    obtain ⟨c, hcall, hends⟩ := h q hq
    obtain ⟨k, -, hs, hr⟩ := mem_idQueries.mp hq
    have hid := Registry.id_of_source? hs
    rw [← hid] at hs hr
    rw [filter_delivered hs]
    have hbrings := map_sortingKey_outcome hcall hends
    rw [hr] at hbrings
    exact hbrings
  -- What is delivered is made up of these groups, since it names known sources only.
  refine (List.Perm.flatMap_left _ hgroups).trans ?_
  have hknown : ∀ k ∈ keys.filter (f.delivered failed has),
      k.sourceId ∈ (f.idQueries keys base).map (·.1.id) := by
    intro k hk
    obtain ⟨hkeys, hdelivered⟩ := List.mem_filter.mp hk
    obtain ⟨s, hs, -⟩ := (Option.any_eq_true _ _).mp hdelivered
    have hquery : (s, { base with id := idsAt keys k.sourceId }) ∈ f.idQueries keys base :=
      mem_idQueries.mpr ⟨k, hkeys, hs, rfl⟩
    exact List.mem_map.mpr ⟨_, hquery, Registry.id_of_source? hs⟩
  have hnames := perm_flatMap_filter ItemKey.sourceId (nodup_ids_idQueries f keys base) hknown
  rw [List.flatMap_map] at hnames
  exact hnames

/-! ## The order of the page -/

/-- **A page that keeps the order of the keys**, of favorites and of history: the keys of its items
are those that are delivered, and it has the number that was asked for. -/
def KeepsOrder (f : Federation) (keys : List ItemKey) (base : SearchRequest) (page : PageRequest)
    (cancel : Cancellation) (failed : Source → Bool) (has : Source → String → Bool) : Prop :=
  ∀ order ∈ [MergeOrder.remembered keys, MergeOrder.history keys],
    ∃ p, (f.searchByIds keys base page order cancel).result = .ok p ∧
      p.items.map (·.key?) = (keys.filter (f.delivered failed has)).map some ∧
      p.pageNumber = page.number

/-- **Known items come back in the order of their keys.** Of keys that are all different and not
blank, and fit on a page with items, those are left out whose source is unknown, fails, or does not
have the item. -/
theorem keepsOrder_of_delivers (hpage : page.HasItems) (hkeys : keys.Nodup)
    (hblank : ∀ k ∈ keys, ¬ k.IsBlank) (hlength : keys.length ≤ page.size.toNat)
    (h : f.Delivers keys base page cancel failed has) :
    f.KeepsOrder keys base page cancel failed has := by
  intro order horder
  have hremembers : order.keys? = some keys := by
    rcases List.mem_pair.mp horder with rfl | rfl
    · rfl
    · rfl
  have hprepared : f.gateway.Prepared { page with number := 0 } (f.idQueries keys base) := by
    intro q hq
    obtain ⟨c, hcall, -⟩ := h q hq
    exact ⟨c, hcall⟩
  refine ⟨_, result_searchByIds hpage (checkKeys_of_forall hblank) hprepared cancel, ?_, rfl⟩
  have hmerged := map_sortingKey_mergedItems hremembers hkeys h.perm page.sort
  -- All merged items are on the page, because there are no more of them than keys.
  have hcount := congrArg List.length hmerged
  rw [List.length_map] at hcount
  have hfits : (mergedItems ((f.idQueries keys base).map
      (f.gateway.outcome { page with number := 0 } cancel)) page.sort order).length ≤
        page.size.toNat := by
    rw [hcount]
    exact (List.length_filter_le _ _).trans hlength
  have hskipped : skipped { page with number := 0 } order = 0 := by
    rw [skipped, hremembers]
    rfl
  show (((mergedItems _ page.sort order).drop (skipped { page with number := 0 } order)).take
    page.size.toNat).map (·.key?) = _
  rw [hskipped, List.drop_zero, List.take_of_length_le hfits, ← hmerged, List.map_map]
  refine List.map_congr_left fun item hitem => ?_
  have hbrought := (perm_mergedItems _ _ _).mem_iff.mp hitem
  rw [List.flatMap_map] at hbrought
  obtain ⟨q, -, hq⟩ := List.mem_flatMap.mp hbrought
  exact key?_of_mem_items_outcome hq

/-- Three sources: one answers in an order of its own, one hangs up, and one lacks an item. -/
def unevenSources : Federation :=
  .ofHosts ["a", "b", "c"]
    (.ofRoutes
      [ .ofHost "a" "\x7b\"resources\":[\x7b\"id\":\"a2\"\x7d,\x7b\"id\":\"a1\"\x7d]\x7d" .answers,
        .ofHost "b" "" .drops,
        .ofHost "c" "\x7b\"resources\":[\x7b\"id\":\"c2\"\x7d]\x7d" .answers ])

/-- Keys of these sources in no order, one of a source that is unknown, and one that is missing. -/
def mixedKeys : List ItemKey :=
  [⟨"c", "c2"⟩, ⟨"a", "a1"⟩, ⟨"b", "b1"⟩, ⟨"x", "x1"⟩, ⟨"c", "c1"⟩, ⟨"a", "a2"⟩]

/-- The items of the two sources that answer are on page four, in the order of the keys. -/
theorem keepsOrder_of_delivers_uneven :
    unevenSources.Delivers mixedKeys {} ⟨4, 6, some .oldest⟩ none (·.id == "b")
        (fun _ id => id != "c1") ∧
      mixedKeys.filter (unevenSources.delivered (·.id == "b") fun _ id => id != "c1") =
        [⟨"c", "c2"⟩, ⟨"a", "a1"⟩, ⟨"a", "a2"⟩] ∧
      unevenSources.KeepsOrder mixedKeys {} ⟨4, 6, some .oldest⟩ none (·.id == "b")
        fun _ id => id != "c1" := by
  have hdelivers : unevenSources.Delivers mixedKeys {} ⟨4, 6, some .oldest⟩ none (·.id == "b")
      fun _ id => id != "c1" := by
    decide +kernel
  refine ⟨hdelivers, by decide +kernel, ?_⟩
  exact keepsOrder_of_delivers (by decide) (by decide) (by decide +kernel) (by decide) hdelivers

/-- **Without the items of a page there is nothing to keep.** No keys at all fit on a page without
items, but such a page is refused. -/
theorem not_keepsOrder_of_noItems :
    ([] : List ItemKey).Nodup ∧ (∀ k ∈ ([] : List ItemKey), ¬ k.IsBlank) ∧
      ([] : List ItemKey).length ≤ (0 : UInt32).toNat ∧
      unevenSources.Delivers [] {} ⟨0, 0, none⟩ none (fun _ => false) (fun _ _ => true) ∧
      ¬ unevenSources.KeepsOrder [] {} ⟨0, 0, none⟩ none (fun _ => false) fun _ _ => true := by
  refine ⟨List.nodup_nil, by decide, by decide, by decide +kernel, fun h => ?_⟩
  obtain ⟨p, hp, -⟩ := h (.remembered []) List.mem_cons_self
  cases hp

end Federation

end CatalogSearch
