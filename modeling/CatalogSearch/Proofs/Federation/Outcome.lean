import CatalogSearch.Federation
import CatalogSearch.Proofs.Gateway.Endings

/-! # What a search returns

Once everything is checked, a search returns the merged outcomes of its queries. That there is no
source to ask makes no difference: it is the same as asking none.

* **`Federation.ofHosts`**: sources that differ in their hosts only;
* **`Federation.searchQueries`**: the queries of a search;
* **`Federation.search_eq_searchAll`**, **`Federation.searchByIds_eq_searchAll`**: both searches as
  one, at many sources, after **`Federation.checkItems`**;
* **`Federation.result_search`**: the page of a search;
* **`Federation.result_searchByIds`**: the page of items that are known by their keys. -/

namespace CatalogSearch

/-- A page request with items is valid. -/
theorem PageRequest.validate_of_hasItems {page : PageRequest} (h : page.HasItems) :
    page.validate = .ok () := if_pos h

/-- A page request without items is refused. -/
theorem PageRequest.validate_of_not_hasItems {page : PageRequest} (h : ¬ page.HasItems) :
    page.validate = .error (.invalidRequest .emptyPage) := if_neg h

/-- No source is asked for a page without items. -/
theorem Gateway.searchAll_of_not_hasItems {g : Gateway} {page : PageRequest}
    (h : ¬ page.HasItems) (queries : List (Source × SearchRequest)) (cancel : Cancellation) :
    g.searchAll queries page cancel = Run.ofExcept (.error (.invalidRequest .emptyPage)) := by
  rw [searchAll, PageRequest.validate_of_not_hasItems h, Run.ofExcept_error_bind]

/-- No results make an empty page. -/
theorem merge_nil (page : PageRequest) (order : MergeOrder) :
    merge [] page order = .empty page := by
  have hitems : mergedItems [] page.sort order = [] := by
    rw [mergedItems, List.flatMap_nil, List.mergeSort_nil]
  rw [merge, hitems, List.drop_nil, List.take_nil]
  rfl

/-- To search at no source is to ask nobody. -/
theorem Gateway.searchAll_nil {g : Gateway} {page : PageRequest} (h : page.HasItems)
    (cancel : Cancellation) : g.searchAll [] page cancel = pure [] := by
  rw [searchAll, PageRequest.validate_of_hasItems h, Run.ofExcept_ok_bind]
  show (⟨(if cancel = some 0 then [] else []) ++ [] ++ [], .ok []⟩ : Run (List SourceResult)) = _
  rw [ite_self]
  rfl

/-- A source at a host, with the host for a name. -/
def Source.ofHost (host : String) : Source where
  id := host
  displayName := host
  searchBaseUrl := "http://" ++ host
  detailsBaseUrl := "http://" ++ host

namespace Federation

/-- **The federation of the sources at some hosts.** -/
def ofHosts (hosts : List String) (network : Network) : Federation where
  registry := ⟨hosts.map fun host => ⟨.ofHost host, true⟩⟩
  gateway := ⟨{}, network⟩

variable {f : Federation} {page : PageRequest}

/-- The queries of a search: the same request to every source it is for. -/
def searchQueries (f : Federation) (r : SearchRequest) : List (Source × SearchRequest) :=
  (f.selected r).map fun s => (s, r)

/-- **A search** asks all its sources and merges their results. No source at all is no exception. -/
theorem search_eq_searchAll (f : Federation) (r : SearchRequest) (page : PageRequest)
    (cancel : Cancellation) :
    f.search r page cancel =
      f.gateway.searchAll (f.searchQueries r) page cancel >>= fun results =>
        pure (merge results page .external) := by
  by_cases hpage : page.HasItems
  · rw [search, PageRequest.validate_of_hasItems hpage, Run.ofExcept_ok_bind]
    unfold searchQueries
    cases f.selected r with
    | nil =>
      rw [List.map_nil, Gateway.searchAll_nil hpage]
      show pure (ResultPage.empty page) = (pure (merge [] page .external) : Run ResultPage)
      rw [merge_nil]
    | cons s sources => rfl
  · rw [search, PageRequest.validate_of_not_hasItems hpage, Run.ofExcept_error_bind,
      Gateway.searchAll_of_not_hasItems hpage, Run.ofExcept_error_bind]

/-- **What is checked before any source is asked for known items**: the page, and then the keys. -/
def checkItems (keys : List ItemKey) (page : PageRequest) : Except Failure Unit :=
  page.validate.bind fun _ => checkKeys keys

/-- Known items are asked for if their page has items and their keys are accepted. -/
theorem checkItems_of_hasItems {keys : List ItemKey} (hpage : page.HasItems) :
    checkItems keys page = checkKeys keys := by
  rw [checkItems, PageRequest.validate_of_hasItems hpage]
  rfl

/-- Known items are not asked for if their page has none. -/
theorem checkItems_of_not_hasItems {keys : List ItemKey} (hpage : ¬ page.HasItems) :
    checkItems keys page = .error (.invalidRequest .emptyPage) := by
  rw [checkItems, PageRequest.validate_of_not_hasItems hpage]
  rfl

/-- **A search for known items**, after its checks, asks their sources from the first item on, and
merges the results. -/
theorem searchByIds_eq_searchAll (f : Federation) (keys : List ItemKey) (base : SearchRequest)
    (page : PageRequest) (order : MergeOrder) (cancel : Cancellation) :
    f.searchByIds keys base page order cancel =
      Run.ofExcept (checkItems keys page) >>= fun _ =>
        f.gateway.searchAll (f.idQueries keys base) { page with number := 0 } cancel >>=
          fun results => pure
            { merge results { page with number := 0 } order with pageNumber := page.number } := by
  by_cases hpage : page.HasItems
  · rw [searchByIds, PageRequest.validate_of_hasItems hpage, Run.ofExcept_ok_bind,
      checkItems_of_hasItems hpage]
    refine congrArg (Run.ofExcept (checkKeys keys) >>= ·) (funext fun _ => ?_)
    cases f.idQueries keys base with
    | nil =>
      have hfirst : PageRequest.HasItems { page with number := 0 } := hpage
      rw [Gateway.searchAll_nil hfirst]
      show pure (ResultPage.empty page) = (pure _ : Run ResultPage)
      rw [merge_nil]
      rfl
    | cons q queries => rfl
  · rw [searchByIds, PageRequest.validate_of_not_hasItems hpage, Run.ofExcept_error_bind,
      checkItems_of_not_hasItems hpage, Run.ofExcept_error_bind]

/-- **The page of a search** is what the outcomes of its queries make. -/
theorem result_search {r : SearchRequest} (hpage : page.HasItems)
    (h : f.gateway.Prepared page (f.searchQueries r)) (cancel : Cancellation) :
    (f.search r page cancel).result =
      .ok (merge ((f.searchQueries r).map (f.gateway.outcome page cancel)) page .external) := by
  rw [search_eq_searchAll]
  exact Run.result_bind
    (Gateway.result_searchAll (PageRequest.validate_of_hasItems hpage) h cancel) _

/-- **The page of items that are known by their keys** is what the outcomes of the queries make from
their first items on. -/
theorem result_searchByIds {keys : List ItemKey} {base : SearchRequest} {order : MergeOrder}
    (hpage : page.HasItems) (hkeys : checkKeys keys = .ok ())
    (h : f.gateway.Prepared { page with number := 0 } (f.idQueries keys base))
    (cancel : Cancellation) :
    (f.searchByIds keys base page order cancel).result =
      .ok
        { merge ((f.idQueries keys base).map
              (f.gateway.outcome { page with number := 0 } cancel))
            { page with number := 0 } order with
          pageNumber := page.number } := by
  have hfirst : PageRequest.HasItems { page with number := 0 } := hpage
  rw [searchByIds_eq_searchAll, checkItems_of_hasItems hpage, hkeys, Run.ofExcept_ok_bind]
  exact Run.result_bind
    (Gateway.result_searchAll (PageRequest.validate_of_hasItems hfirst) h cancel) _

end Federation

end CatalogSearch
