import CatalogSearch.Proofs.Gateway.Parameters

/-! # The query of a search says the search

The texts of a request stand in the query of its URL, inside one parameter. None of them can add a
parameter, end one or change another: the query has the same parameters for all requests, in the
same order, and the filter is read off it as the request makes it.

* **`Source.query_says_search`**: the parameters of a search, whatever its request says. -/

namespace CatalogSearch

namespace Source

variable {st : Gateway.Settings} {page : PageRequest} {s : Source} {r : SearchRequest} {u : Url}

/-- No two parameters of a search have the same name. -/
theorem nodup_searchParameters (filter : List Char) (page : PageRequest) :
    ((searchParameters filter page).map (·.1)).Nodup := by
  unfold searchParameters
  cases page.sort with
  | none =>
    change (["limit", "filters", "offset", "fields"].map String.toList).Nodup
    decide +kernel
  | some k =>
    change (["limit", "filters", "offset", "sort", "orderBy", "fields"].map String.toList).Nodup
    decide +kernel

/-- **The query of a search says the search, and nothing else**, whatever the texts of the request
and whatever query the source's own URL has. Between its `&`, it has the parameters `limit`,
`filters` and `offset`, then `sort` and `orderBy` if an order is asked for, then `fields`, each once
and in this order. The limit is the end of the page, the offset is zero, and the filter is made of
unreserved characters and percent-encoded bytes, which spell the filter of the request. All else in
the URL is the source's. -/
theorem query_says_search (h : s.searchUrl st page r = .ok u) :
    ∃ endpoint query params limit filters text,
      s.endpoint s.searchBaseUrl st.searchPath = .ok endpoint ∧
      u = { endpoint with query := some query } ∧
      Text.splitOn (· == '&') query = params.map Parameter.text ∧
      u.parameters = params ∧
      params = [("limit".toList, limit), ("filters".toList, filters), ("offset".toList, ['0'])] ++
        orderParameters page.sort ++ [("fields".toList, [])] ∧
      (params.map (·.1)).Nodup ∧
      Text.readNat? limit = some ((page.number.toNat + 1) * page.size.toNat) ∧
      r.filter s.dialect = .ok text ∧
      Text.IsPercentEncoded filters ∧
      Text.percentDecode filters = .ok text := by
  obtain ⟨filters, endpoint, hfilters, hendpoint, hu⟩ := query_of_searchUrl h
  obtain ⟨text, htext, hencoded⟩ := map_eq_ok_iff.mp hfilters
  have hparams : u.parameters = searchParameters filters page := by
    obtain ⟨filters', hfilters', hparams⟩ := parameters_of_searchUrl h
    rw [hparams, Except.ok.inj (hfilters'.symm.trans hfilters)]
  have hsplit : Text.splitOn (· == '&') (searchQuery filters page) =
      (searchParameters filters page).map Parameter.text := by
    rw [searchQuery_eq_joinWith]
    exact Parameter.splitOn_joinWith_text (List.cons_ne_nil _ _)
      (isPlain_of_encodedFilter hfilters page)
  have hdecode : Text.percentDecode filters = .ok text := by
    rw [← hencoded, Text.percentDecode_percentEncode (by decide)]
  exact ⟨endpoint, searchQuery filters page, searchParameters filters page,
    Text.natDigits page.reach, filters, text, hendpoint, hu, hsplit, hparams, rfl,
    nodup_searchParameters filters page, Text.readNat?_natDigits _, htext,
    hencoded ▸ Text.isPercentEncoded_percentEncode text, hdecode⟩

/-- A source whose URL has a query and a fragment of its own. -/
def queriedSource : Source where
  id := "a"
  displayName := "A"
  searchBaseUrl := "http://a/x?limit=9&filters=#y"
  detailsBaseUrl := "http://a"
  dialect := .duf

/-- A request whose texts look like parts of a query. -/
def queryingRequest : SearchRequest where
  search := some "&limit=1 #%26"
  id := ["ä+\x00"]

/-- The texts stay inside the filter, and the query of the source's URL is gone. -/
theorem query_says_search_marked :
    ∃ u, queriedSource.searchUrl {} ⟨2, 5, some .newest⟩ queryingRequest = .ok u ∧
      ∃ filters, u.parameters =
          [("limit".toList, "15".toList), ("filters".toList, filters), ("offset".toList, ['0']),
            ("sort".toList, "publishDate".toList), ("orderBy".toList, "desc".toList),
            ("fields".toList, [])] ∧
        Text.IsPercentEncoded filters ∧
        Text.percentDecode filters =
          .ok "search='&limit=1,#%26' AND name='&limit=1,#%26' AND id='ä+\x00'".toList := by
  obtain ⟨u, hu, hlimit, hfilter⟩ :
      ∃ u, queriedSource.searchUrl {} ⟨2, 5, some .newest⟩ queryingRequest = .ok u ∧
        u.parameter? "limit" = some "15".toList ∧
        queryingRequest.filter .duf =
          .ok "search='&limit=1,#%26' AND name='&limit=1,#%26' AND id='ä+\x00'".toList := by
    decide +kernel
  obtain ⟨endpoint, query, params, limit, filters, text, -, -, -, rfl, hparams, -, -, htext,
    hencoded, hdecode⟩ := query_says_search hu
  rw [Url.parameter?, hparams] at hlimit
  obtain rfl : limit = "15".toList := Option.some.inj hlimit
  have htext' := htext.symm.trans hfilter
  exact ⟨u, hu, filters, hparams, hencoded, hdecode.trans (congrArg _ (Except.ok.inj htext'))⟩

end Source

end CatalogSearch
