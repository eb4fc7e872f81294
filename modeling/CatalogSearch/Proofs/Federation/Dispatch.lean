import CatalogSearch.Proofs.Federation.Isolation
import CatalogSearch.Proofs.Federation.Queries
import CatalogSearch.Proofs.Gateway.Dispatch

/-! # Failures come before the first request

Searching, looking for known items and listing the filters fail for what callers or configurations
got wrong, and for nothing else. All of it is found before any source is asked, and no source ever
makes them fail.

* **`Federation.SearchRefusal`**, **`Federation.ItemsRefusal`**, **`Federation.FiltersRefusal`**:
  the ways in which they fail;
* **`Federation.failures_precede_requests`**: there are no others, and no source has been asked
  then; if nothing is wrong, each source is asked once. -/

namespace CatalogSearch

/-! ## Checks -/

/-- **What can be wrong with a key**: one of its parts is blank. -/
inductive ItemKey.Fault (k : ItemKey) : Failure → Prop where
  | blank (hk : k.IsBlank) : Fault k (.invalidRequest (.blankKey k))

/-- Something is wrong with a key if it is blank. -/
theorem ItemKey.exists_fault_iff {k : ItemKey} : (∃ e, k.Fault e) ↔ k.IsBlank := by
  constructor
  · rintro ⟨e, ⟨hk⟩⟩
    exact hk
  · intro hk
    exact ⟨_, .blank hk⟩

/-- Keys of which none is blank are accepted. -/
theorem Federation.checkKeys_of_forall {keys : List ItemKey} (h : ∀ k ∈ keys, ¬ k.IsBlank) :
    checkKeys keys = .ok () := by
  have hnone : (keys.find? fun k => decide k.IsBlank) = none := by
    rw [List.find?_eq_none]
    intro k hk
    rw [decide_eq_true_eq]
    exact h k hk
  rw [checkKeys, hnone]

/-- **The first blank one of some keys** is the one that is refused. -/
theorem Federation.checkKeys_eq_error_iff {keys : List ItemKey} {e : Failure} :
    checkKeys keys = .error e ↔ FirstFault ItemKey.Fault keys e := by
  have hfirst : ∀ e, FirstFault ItemKey.Fault keys e → checkKeys keys = .error e := by
    rintro e ⟨before, k, after, rfl, hbefore, ⟨hk⟩⟩
    have hfind : ((before ++ k :: after).find? fun k => decide k.IsBlank) = some k := by
      rw [List.find?_eq_some_iff_append]
      refine ⟨decide_eq_true hk, before, after, rfl, ?_⟩
      intro b hb
      rw [decide_eq_false fun hblank => hbefore b hb _ (.blank hblank)]
      rfl
    rw [checkKeys, hfind]
  constructor
  · intro h
    by_cases hblank : ∀ k ∈ keys, ¬ k.IsBlank
    · rw [checkKeys_of_forall hblank] at h
      cases h
    · obtain ⟨k, hk, hblank⟩ : ∃ k ∈ keys, k.IsBlank := by simpa using hblank
      obtain ⟨e', he'⟩ : ∃ e, FirstFault ItemKey.Fault keys e :=
        exists_firstFault_iff.mpr ⟨k, hk, _, .blank hblank⟩
      rw [hfirst e' he'] at h
      rw [← Except.error.inj h]
      exact he'
  · exact hfirst e

/-- Keys are accepted if none of them is blank. -/
theorem Federation.checkKeys_eq_ok_iff {keys : List ItemKey} :
    checkKeys keys = .ok () ↔ ∀ k ∈ keys, ¬ k.IsBlank := by
  constructor
  · intro h k hk hblank
    obtain ⟨e, he⟩ : ∃ e, FirstFault ItemKey.Fault keys e :=
      exists_firstFault_iff.mpr ⟨k, hk, _, .blank hblank⟩
    rw [checkKeys_eq_error_iff.mpr he] at h
    cases h
  · exact checkKeys_of_forall

/-! ## Sources -/

/-- In a registry whose sources have different ids, no two active ones share theirs. -/
theorem Registry.Distinct.nodup_active {r : Registry} (h : r.Distinct) :
    (r.active.map (·.id)).Nodup := by
  rw [active, List.map_map]
  exact h.sublist (List.filter_sublist.map _)

namespace Federation

variable {f : Federation} {r : SearchRequest} {page : PageRequest} {keys : List ItemKey}
  {base : SearchRequest} {e : Failure}

/-- A search is for some of the active sources. -/
theorem selected_sublist (f : Federation) (r : SearchRequest) :
    (f.selected r).Sublist f.registry.active := by
  unfold selected
  split
  · split
    · exact List.Sublist.refl _
    · exact List.filter_sublist
  · exact List.Sublist.refl _

/-- No two sources that a search asks share their ids, if none in the registry do. -/
theorem nodup_ids_searchQueries (h : f.registry.Distinct) (r : SearchRequest) :
    ((f.searchQueries r).map (·.1.id)).Nodup := by
  rw [searchQueries, List.map_map]
  exact h.nodup_active.sublist ((f.selected_sublist r).map _)

/-! ## Refusals -/

/-- **The ways in which a search fails**: its page has no items, or something is wrong with a source
that it is for, and with none before. -/
inductive SearchRefusal (f : Federation) (r : SearchRequest) (page : PageRequest) :
    Failure → Prop where
  | emptyPage (hpage : ¬ page.HasItems) : SearchRefusal f r page (.invalidRequest .emptyPage)
  | source (e : Failure) (hpage : page.HasItems)
      (hfault : FirstFault (fun q e => q.1.SearchFault f.gateway.settings q.2 e)
        (f.searchQueries r) e) : SearchRefusal f r page e

/-- **The ways in which a search for known items fails**: its page has no items, a key is blank, and
none before it, or something is wrong with a source of the keys, and with none before. -/
inductive ItemsRefusal (f : Federation) (keys : List ItemKey) (base : SearchRequest)
    (page : PageRequest) : Failure → Prop where
  | emptyPage (hpage : ¬ page.HasItems) : ItemsRefusal f keys base page (.invalidRequest .emptyPage)
  | key (e : Failure) (hpage : page.HasItems) (hfault : FirstFault ItemKey.Fault keys e) :
    ItemsRefusal f keys base page e
  | source (e : Failure) (hpage : page.HasItems) (hkeys : ∀ k ∈ keys, ¬ k.IsBlank)
      (hfault : FirstFault (fun q e => q.1.SearchFault f.gateway.settings q.2 e)
        (f.idQueries keys base) e) : ItemsRefusal f keys base page e

/-- **The ways in which listing the filters fails**: something is wrong with an active source, and
with none before. -/
def FiltersRefusal (f : Federation) (e : Failure) : Prop :=
  FirstFault (fun s e => s.SubjectsFault f.gateway.settings e) f.registry.active e

/-- A search fails if its page has no items, or a source that it is for cannot be searched. -/
theorem exists_searchRefusal_iff :
    (∃ e, f.SearchRefusal r page e) ↔
      page.size = 0 ∨ ∃ s ∈ f.selected r, s.Unsearchable f.gateway.settings r := by
  have hsources : (∃ e, FirstFault (fun q e => q.1.SearchFault f.gateway.settings q.2 e)
        (f.searchQueries r) e) ↔ ∃ s ∈ f.selected r, s.Unsearchable f.gateway.settings r := by
    rw [exists_firstFault_iff, searchQueries]
    simp only [List.mem_map, Source.exists_searchFault_iff]
    constructor
    · rintro ⟨-, ⟨s, hs, rfl⟩, h⟩
      exact ⟨s, hs, h⟩
    · rintro ⟨s, hs, h⟩
      exact ⟨_, ⟨s, hs, rfl⟩, h⟩
  rw [← hsources]
  constructor
  · rintro ⟨e, hpage | ⟨_, -, hfault⟩⟩
    · exact Or.inl (not_not.mp hpage)
    · exact Or.inr ⟨e, hfault⟩
  · intro h
    by_cases hpage : page.HasItems
    · obtain ⟨e, hfault⟩ := h.resolve_left hpage
      exact ⟨e, .source e hpage hfault⟩
    · exact ⟨_, .emptyPage hpage⟩

/-- A search for known items fails if its page has no items, a key is blank, or a source of the keys
cannot be searched for what it is asked. -/
theorem exists_itemsRefusal_iff :
    (∃ e, f.ItemsRefusal keys base page e) ↔
      page.size = 0 ∨ (∃ k ∈ keys, k.IsBlank) ∨
        ∃ k ∈ keys, ∃ s, f.registry.source? k.sourceId = some s ∧
          s.Unsearchable f.gateway.settings { base with id := idsAt keys k.sourceId } := by
  have hsources : (∃ e, FirstFault (fun q e => q.1.SearchFault f.gateway.settings q.2 e)
        (f.idQueries keys base) e) ↔
      ∃ k ∈ keys, ∃ s, f.registry.source? k.sourceId = some s ∧
        s.Unsearchable f.gateway.settings { base with id := idsAt keys k.sourceId } := by
    rw [exists_firstFault_iff]
    simp only [mem_idQueries, Source.exists_searchFault_iff]
    constructor
    · rintro ⟨⟨s, r⟩, ⟨k, hk, hs, rfl⟩, h⟩
      exact ⟨k, hk, s, hs, h⟩
    · rintro ⟨k, hk, s, hs, h⟩
      exact ⟨(s, _), ⟨k, hk, hs, rfl⟩, h⟩
  have hkeys : (∃ e, FirstFault ItemKey.Fault keys e) ↔ ∃ k ∈ keys, k.IsBlank := by
    simp only [exists_firstFault_iff, ItemKey.exists_fault_iff]
  rw [← hsources]
  constructor
  · rintro ⟨e, hpage | ⟨_, -, hfault⟩ | ⟨_, -, -, hfault⟩⟩
    · exact Or.inl (not_not.mp hpage)
    · exact Or.inr (Or.inl (hkeys.mp ⟨e, hfault⟩))
    · exact Or.inr (Or.inr ⟨e, hfault⟩)
  · intro h
    by_cases hpage : page.HasItems
    · by_cases hblank : ∃ k ∈ keys, k.IsBlank
      · obtain ⟨e, hfault⟩ := hkeys.mpr hblank
        exact ⟨e, .key e hpage hfault⟩
      · obtain ⟨e, hfault⟩ := (h.resolve_left hpage).resolve_left hblank
        exact ⟨e, .source e hpage (fun k hk hkblank => hblank ⟨k, hk, hkblank⟩) hfault⟩
    · exact ⟨_, .emptyPage hpage⟩

/-! ## Operations -/

/-- **A search** fails in the ways it may, before any source is asked, or else asks each source that
it is for once. -/
theorem guarded_search (f : Federation) (r : SearchRequest) (page : PageRequest)
    (cancel : Cancellation) :
    (f.search r page cancel).Guarded f.gateway cancel (f.SearchRefusal r page) (f.searchQueries r)
      (fun q => q.1.searchUrl f.gateway.settings page q.2) := by
  by_cases hpage : page.HasItems
  · have hvalid := PageRequest.validate_of_hasItems hpage
    rw [search_eq_searchAll]
    refine ((f.gateway.guarded_searchAll cancel hvalid _).bind_pure _).congr fun e => ?_
    constructor
    · intro hfault
      exact .source e hpage hfault
    · rintro (hempty | ⟨_, -, hfault⟩)
      · exact absurd hpage hempty
      · exact hfault
  · rw [search_eq_searchAll, Gateway.searchAll_of_not_hasItems hpage, Run.ofExcept_error_bind]
    refine (Run.guarded_ofExcept_error rfl _ _ _ _).congr fun e => ?_
    constructor
    · rintro rfl
      exact .emptyPage hpage
    · rintro (- | ⟨_, hitems, -⟩)
      · rfl
      · exact absurd hitems hpage

/-- **A search for known items** fails in the ways it may, before any source is asked, or else asks
each known source of the keys once. -/
theorem guarded_searchByIds (f : Federation) (keys : List ItemKey) (base : SearchRequest)
    (page : PageRequest) (order : MergeOrder) (cancel : Cancellation) :
    (f.searchByIds keys base page order cancel).Guarded f.gateway cancel
      (f.ItemsRefusal keys base page) (f.idQueries keys base)
      (fun q => q.1.searchUrl f.gateway.settings { page with number := 0 } q.2) := by
  rw [searchByIds_eq_searchAll]
  -- The page is checked first, then the keys, and the sources last.
  by_cases hpage : page.HasItems
  · rw [checkItems_of_hasItems hpage]
    cases hcheck : checkKeys keys with
    | error e =>
      have hfault := checkKeys_eq_error_iff.mp hcheck
      have he : e.isSourceFailure = false := by
        obtain ⟨-, -, -, -, -, ⟨-⟩⟩ := hfault
        rfl
      rw [Run.ofExcept_error_bind]
      refine (Run.guarded_ofExcept_error he _ _ _ _).congr fun e' => ?_
      constructor
      · rintro rfl
        exact .key e hpage hfault
      · rintro (hempty | ⟨_, -, hfault'⟩ | ⟨_, -, hkeys, -⟩)
        · exact absurd hpage hempty
        · exact Except.error.inj (hcheck.symm.trans (checkKeys_eq_error_iff.mpr hfault'))
        · rw [checkKeys_of_forall hkeys] at hcheck
          cases hcheck
    | ok _ =>
      have hkeys := checkKeys_eq_ok_iff.mp hcheck
      have hfirst : PageRequest.HasItems { page with number := 0 } := hpage
      have hvalid := PageRequest.validate_of_hasItems hfirst
      rw [Run.ofExcept_ok_bind]
      refine ((f.gateway.guarded_searchAll cancel hvalid _).bind_pure _).congr fun e => ?_
      constructor
      · intro hfault
        exact .source e hpage hkeys hfault
      · rintro (hempty | ⟨_, -, hfault⟩ | ⟨_, -, -, hfault⟩)
        · exact absurd hpage hempty
        · rw [checkKeys_eq_error_iff.mpr hfault] at hcheck
          cases hcheck
        · exact hfault
  · rw [checkItems_of_not_hasItems hpage, Run.ofExcept_error_bind]
    refine (Run.guarded_ofExcept_error rfl _ _ _ _).congr fun e => ?_
    constructor
    · rintro rfl
      exact .emptyPage hpage
    · rintro (- | ⟨_, hitems, -⟩ | ⟨_, hitems, -, -⟩)
      · rfl
      · exact absurd hitems hpage
      · exact absurd hitems hpage

/-- **Listing the filters** fails in the ways it may, before any source is asked, or else asks each
active source once. -/
theorem guarded_filters (f : Federation) (cancel : Cancellation) :
    (f.filters cancel).Guarded f.gateway cancel f.FiltersRefusal f.registry.active
      (fun s => s.subjectsUrl f.gateway.settings) :=
  (f.gateway.guarded_subjects cancel f.registry.active).bind_pure _

/-- **Failures come before the first request.** Whatever the sources do and whenever the caller
cancels: a search fails if its page has no items or a source that it is for cannot be searched; a
search for known items also if a key is blank; and listing the filters if the URL of an active
source cannot be read. The failure is that of the first check that fails: the page, then the keys,
then source by source the filter and the URL. It is no failure of a source, and nobody has been
asked. Otherwise nobody is asked twice, everybody is asked once if there is time and the caller does
not cancel, and nobody if the caller has cancelled before. -/
theorem failures_precede_requests (f : Federation) (cancel : Cancellation) :
    (∀ r page,
      (f.search r page cancel).Guarded f.gateway cancel (f.SearchRefusal r page)
          (f.searchQueries r) (fun q => q.1.searchUrl f.gateway.settings page q.2) ∧
        ((∃ e, (f.search r page cancel).result = .error e) ↔
          page.size = 0 ∨ ∃ s ∈ f.selected r, s.Unsearchable f.gateway.settings r) ∧
        (f.registry.Distinct → ((f.searchQueries r).map (·.1.id)).Nodup)) ∧
      (∀ keys base page order,
        (f.searchByIds keys base page order cancel).Guarded f.gateway cancel
            (f.ItemsRefusal keys base page) (f.idQueries keys base)
            (fun q => q.1.searchUrl f.gateway.settings { page with number := 0 } q.2) ∧
          ((∃ e, (f.searchByIds keys base page order cancel).result = .error e) ↔
            page.size = 0 ∨ (∃ k ∈ keys, k.IsBlank) ∨
              ∃ k ∈ keys, ∃ s, f.registry.source? k.sourceId = some s ∧
                s.Unsearchable f.gateway.settings { base with id := idsAt keys k.sourceId }) ∧
          ((f.idQueries keys base).map (·.1.id)).Nodup) ∧
      (f.filters cancel).Guarded f.gateway cancel f.FiltersRefusal f.registry.active
          (fun s => s.subjectsUrl f.gateway.settings) ∧
        ((∃ e, (f.filters cancel).result = .error e) ↔
          ∃ s ∈ f.registry.active, ∃ fault, Url.read
            (joinPath s.searchBaseUrl.toList f.gateway.settings.subjectPath.toList) =
              .error fault) ∧
        (f.registry.Distinct → (f.registry.active.map (·.id)).Nodup) := by
  refine ⟨fun r page => ?_, fun keys base page order => ?_, f.guarded_filters cancel, ?_,
    Registry.Distinct.nodup_active⟩
  · have hguarded := f.guarded_search r page cancel
    refine ⟨hguarded, ?_, fun h => nodup_ids_searchQueries h r⟩
    simp only [hguarded.error_iff]
    exact exists_searchRefusal_iff
  · have hguarded := f.guarded_searchByIds keys base page order cancel
    refine ⟨hguarded, ?_, nodup_ids_idQueries f keys base⟩
    simp only [hguarded.error_iff]
    exact exists_itemsRefusal_iff
  · simp only [(f.guarded_filters cancel).error_iff, FiltersRefusal, exists_firstFault_iff,
      Source.exists_subjectsFault_iff]

/-- A source that would answer, and one whose name is no host. -/
def misnamedHost : Federation := .ofHosts ["a", "b c"] (.ofRoutes [.ofHost "a" "\x7b\x7d" .answers])

/-- Nobody is asked because of the second one, not even the first one. -/
theorem failures_precede_requests_misnamedHost :
    (∃ e, (misnamedHost.search {} {} none).result = .error e ∧ e.isSourceFailure = false ∧
        (misnamedHost.search {} {} none).asked = []) ∧
      misnamedHost.registry.Distinct ∧
      ((misnamedHost.searchQueries {}).map (·.1.id)).Nodup := by
  obtain ⟨hsearch, -⟩ := misnamedHost.failures_precede_requests none
  obtain ⟨hguarded, hfails, hnodup⟩ := hsearch {} {}
  have hids : misnamedHost.registry.Distinct := by decide +kernel
  have hurl : Url.read (joinPath "http://b c".toList "/resources".toList) = .error .domainName := by
    decide +kernel
  have hselected : Source.ofHost "b c" ∈ misnamedHost.selected {} := by decide +kernel
  obtain ⟨e, he⟩ := hfails.mpr (Or.inr ⟨_, hselected, Or.inr ⟨_, hurl⟩⟩)
  exact ⟨⟨e, he, hguarded.unasked e he⟩, hids, hnodup hids⟩

end Federation

end CatalogSearch
