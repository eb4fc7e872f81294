import CatalogSearch.Gateway.Endpoint
import CatalogSearch.Proofs.Attempt
import CatalogSearch.Proofs.Text.Decimal
import CatalogSearch.Proofs.Text.Percent
import CatalogSearch.Proofs.Text.Pieces

/-! # What a URL asks for

A source reads the parameters of a search off the query of its URL. They arrive as they were put
into it: no filter, whatever it says, adds a parameter or changes another one.

* **`Url.parameter?`**: a parameter of a URL, as a source reads it;
* **`Source.query_of_searchUrl`**: the query of a search stands in its URL as it is;
* **`Source.parameters_of_searchUrl`**: the parameters that are read off it. -/

namespace CatalogSearch

/-! ## Characters of queries -/

/-- The characters that the query of a search is made of. -/
def isSearchChar (c : Char) : Bool := Text.isUnreserved c || c == '%' || c == '&' || c == '='

/-- A query keeps the characters of a search. -/
theorem keepsInQuery_of_isSearchChar {c : Char} (h : isSearchChar c = true) (kind : SchemeKind) :
    Url.keepsInQuery kind c = true ∧ UrlPath.isDropped c = false := by
  have hbounds : 0x20 < c.toNat ∧ c.toNat < 0x7F := by
    simp only [isSearchChar, Bool.or_eq_true, beq_iff_eq] at h
    rcases h with ((h | rfl) | rfl) | rfl
    · exact Text.toNat_of_isUnreserved h
    · decide
    · decide
    · decide
  constructor
  · have hothers : c ∉ "\"#<>".toList ++ if kind = .other then [] else ['\''] := by
      intro hc
      have hsearch : ("\"#<>".toList ++ ['\'']).any isSearchChar = false := by decide +kernel
      have hmem : c ∈ "\"#<>".toList ++ ['\''] := by
        rcases List.mem_append.mp hc with hc | hc
        · exact List.mem_append_left _ hc
        · by_cases hkind : kind = .other
          · rw [if_pos hkind] at hc
            exact absurd hc List.not_mem_nil
          · rw [if_neg hkind] at hc
            exact List.mem_append_right _ hc
      exact absurd h (List.any_eq_false.mp hsearch c hmem)
    rw [← List.contains_iff_mem, Bool.not_eq_true] at hothers
    rw [Url.keepsInQuery, UrlPath.keepsAllBut, decide_eq_true hbounds.1, decide_eq_true hbounds.2,
      hothers]
    rfl
  · cases hc : UrlPath.isDropped c with
    | false => rfl
    | true =>
      simp only [UrlPath.isDropped, Bool.or_eq_true, beq_iff_eq] at hc
      rcases hc with (rfl | rfl) | rfl
      · cases h
      · cases h
      · cases h

/-! ## Parameters -/

/-- A parameter: its name and its value, as they are written. -/
abbrev Parameter := List Char × List Char

/-- A parameter as a text. -/
def Parameter.text (p : Parameter) : List Char := p.1 ++ '=' :: p.2

/-- The parameter of a text. -/
def Parameter.read (cs : List Char) : Parameter :=
  (cs.takeWhile (· != '='), (cs.dropWhile (· != '=')).drop 1)

/-- **The parameters of a URL**, as a source reads them. -/
def Url.parameters (u : Url) : List Parameter :=
  match u.query with
  | some query => (Text.splitOn (· == '&') query).map Parameter.read
  | none => []

/-- **The value of a parameter of a URL**, the first one of that name. -/
def Url.parameter? (u : Url) (name : String) : Option (List Char) :=
  u.parameters.lookup name.toList

/-- A parameter whose name and value have no marks of queries in them. -/
def Parameter.isPlain (p : Parameter) : Bool :=
  p.1.all (fun c => c != '&' && c != '=') && p.2.all (· != '&')

/-- What it means for a parameter to be plain. -/
theorem Parameter.isPlain_iff {p : Parameter} :
    p.isPlain = true ↔ (∀ c ∈ p.1, c ≠ '&' ∧ c ≠ '=') ∧ ∀ c ∈ p.2, c ≠ '&' := by
  simp [isPlain]

/-- A plain parameter is read back. -/
theorem Parameter.read_text {p : Parameter} (h : p.isPlain = true) : read p.text = p := by
  obtain ⟨hname, -⟩ := isPlain_iff.mp h
  obtain ⟨htake, hdrop⟩ := Text.takeWhile_dropWhile_append_cons (p := (· != '='))
    (fun c hc => bne_iff_ne.mpr (hname c hc).2) (bne_self_eq_false '=') p.2
  rw [read, text, htake, hdrop]
  rfl

/-- Plain parameters are what their query is split into. -/
theorem Parameter.splitOn_joinWith_text {params : List Parameter} (hne : params ≠ [])
    (hplain : ∀ p ∈ params, p.isPlain = true) :
    Text.splitOn (· == '&') (Text.joinWith ['&'] (params.map text)) = params.map text := by
  refine Text.splitOn_joinWith (by rfl) (fun he => hne (List.map_eq_nil_iff.mp he)) ?_
  intro piece hpiece c hc
  obtain ⟨p, hp, rfl⟩ := List.mem_map.mp hpiece
  obtain ⟨hname, hvalue⟩ := isPlain_iff.mp (hplain p hp)
  have hc' : c ≠ '&' := by
    rcases List.mem_append.mp hc with hc | hc
    · exact (hname c hc).1
    · rcases List.mem_cons.mp hc with rfl | hc
      · decide
      · exact hvalue c hc
  simpa using hc'

/-- **Plain parameters are read back** from their query. -/
theorem Url.parameters_of_query {u : Url} {params : List Parameter} (hne : params ≠ [])
    (hplain : ∀ p ∈ params, p.isPlain = true)
    (h : u.query = some (Text.joinWith ['&'] (params.map Parameter.text))) :
    u.parameters = params := by
  have hread : ∀ p ∈ params, (Parameter.read ∘ Parameter.text) p = p :=
    fun p hp => Parameter.read_text (hplain p hp)
  rw [parameters, h]
  show (Text.splitOn _ _).map _ = _
  rw [Parameter.splitOn_joinWith_text hne hplain, List.map_map, List.map_congr_left hread,
    List.map_id']

namespace Source

/-- The parameters of an order. -/
def orderParameters : Option SortKey → List Parameter
  | some k => [("sort".toList, k.property.toList), ("orderBy".toList, k.direction.toList)]
  | none => []

/-- **The parameters of a search.** -/
def searchParameters (filter : List Char) (page : PageRequest) : List Parameter :=
  [("limit".toList, Text.natDigits page.reach), ("filters".toList, filter),
    ("offset".toList, ['0'])] ++ orderParameters page.sort ++ [("fields".toList, [])]

/-- The query of a search has its parameters. -/
theorem searchQuery_eq_joinWith (filter : List Char) (page : PageRequest) :
    searchQuery filter page =
      Text.joinWith ['&'] ((searchParameters filter page).map Parameter.text) := by
  have hlimit : "limit=".toList = "limit".toList ++ ['='] := rfl
  have hfilters : "&filters=".toList = '&' :: "filters".toList ++ ['='] := rfl
  have hoffset : "&offset=0".toList = '&' :: "offset".toList ++ ['=', '0'] := rfl
  have hfields : "&fields=".toList = '&' :: "fields".toList ++ ['='] := rfl
  have hsort : "&sort=".toList = '&' :: "sort".toList ++ ['='] := rfl
  have horder : "&orderBy=".toList = '&' :: "orderBy".toList ++ ['='] := rfl
  unfold searchQuery searchParameters
  cases page.sort with
  | none =>
    simp only [sortParameters, orderParameters, Parameter.text, Text.joinWith, List.map_cons,
      List.map_nil, List.cons_append, List.nil_append, List.append_nil, List.append_assoc, hlimit,
      hfilters, hoffset, hfields]
  | some k =>
    simp only [sortParameters, orderParameters, Parameter.text, Text.joinWith, List.map_cons,
      List.map_nil, List.cons_append, List.nil_append, List.append_assoc, String.toList_append,
      hlimit, hfilters, hoffset, hfields, hsort, horder]

/-- The parameters of a search are plain if its filter has no mark of queries in it. -/
theorem isPlain_of_mem_searchParameters {filter : List Char} {page : PageRequest}
    (hfilter : ∀ c ∈ filter, c ≠ '&') :
    ∀ p ∈ searchParameters filter page, p.isPlain = true := by
  have hplain (name : String) (value : List Char)
      (hname : (name.toList.all fun c => c != '&' && c != '=') = true)
      (hvalue : ∀ c ∈ value, c ≠ '&') : Parameter.isPlain (name.toList, value) = true := by
    rw [Parameter.isPlain, hname, Bool.true_and, List.all_eq_true]
    exact fun c hc => bne_iff_ne.mpr (hvalue c hc)
  have hlimit : ∀ c ∈ Text.natDigits page.reach, c ≠ '&' := by
    rintro c hc rfl
    exact absurd (Text.isDigit_of_mem_natDigits hc) (by decide)
  have hsort : (orderParameters page.sort).all Parameter.isPlain = true := by
    cases page.sort with
    | none => rfl
    | some k => cases k <;> decide +kernel
  unfold searchParameters
  rw [List.forall_mem_append, List.forall_mem_append]
  refine ⟨⟨?_, List.all_eq_true.mp hsort⟩, ?_⟩
  · rw [List.forall_mem_cons, List.forall_mem_cons, List.forall_mem_singleton]
    exact ⟨hplain _ _ (by decide +kernel) hlimit, hplain _ _ (by decide +kernel) hfilter,
      by decide +kernel⟩
  · rw [List.forall_mem_singleton]
    decide +kernel

/-- The query of a search is made of the characters of a search. -/
theorem isSearchChar_of_mem_searchQuery {filter : List Char} {page : PageRequest} {c : Char}
    (hfilter : ∀ c ∈ filter, isSearchChar c = true) (h : c ∈ searchQuery filter page) :
    isSearchChar c = true := by
  have hmarks : (["limit=", "&filters=", "&offset=0", "&fields="].all
      fun text => text.toList.all isSearchChar) = true := by decide +kernel
  have hmark (text : String) (htext : text ∈ ["limit=", "&filters=", "&offset=0", "&fields="])
      (hc : c ∈ text.toList) : isSearchChar c = true :=
    List.all_eq_true.mp (List.all_eq_true.mp hmarks text htext) c hc
  have hsort : (sortParameters page.sort).all isSearchChar = true := by
    cases page.sort with
    | none => rfl
    | some k => cases k <;> decide +kernel
  have hlimit : ∀ c ∈ Text.natDigits page.reach, isSearchChar c = true := by
    intro c hc
    rw [isSearchChar, Text.isUnreserved_of_isDigit (Text.isDigit_of_mem_natDigits hc)]
    rfl
  unfold searchQuery at h
  simp only [List.mem_append] at h
  rcases h with (((((h | h) | h) | h) | h) | h) | h
  · exact hmark _ (by simp) h
  · exact hlimit c h
  · exact hmark _ (by simp) h
  · exact hfilter c h
  · exact hmark _ (by simp) h
  · exact List.all_eq_true.mp hsort c h
  · exact hmark _ (by simp) h

/-- A filter in a URL has unreserved characters and percent signs. -/
theorem mem_encodedFilter {d : Dialect} {r : SearchRequest} {filter : List Char} {c : Char}
    (h : r.encodedFilter d = .ok filter) (hc : c ∈ filter) :
    Text.isUnreserved c = true ∨ c = '%' := by
  obtain ⟨text, -, rfl⟩ := map_eq_ok_iff.mp h
  exact Text.mem_percentEncode hc

/-- The parameters of a search are plain, whatever its filter says. -/
theorem isPlain_of_encodedFilter {d : Dialect} {r : SearchRequest} {filter : List Char}
    (h : r.encodedFilter d = .ok filter) (page : PageRequest) :
    ∀ p ∈ searchParameters filter page, p.isPlain = true := by
  refine isPlain_of_mem_searchParameters ?_
  rintro c hc rfl
  exact absurd (mem_encodedFilter h hc) (by decide)

/-- **The query of a search stands in its URL as it is.** All else in the URL is the source's. -/
theorem query_of_searchUrl {st : Gateway.Settings} {page : PageRequest} {s : Source}
    {r : SearchRequest} {u : Url} (h : s.searchUrl st page r = .ok u) :
    ∃ filter endpoint, r.encodedFilter s.dialect = .ok filter ∧
      s.endpoint s.searchBaseUrl st.searchPath = .ok endpoint ∧
      u = { endpoint with query := some (searchQuery filter page) } := by
  obtain ⟨filter, hfilter, h⟩ := bind_eq_ok_iff.mp h
  obtain ⟨endpoint, hendpoint, h⟩ := bind_eq_ok_iff.mp h
  rw [mapError_eq_ok_iff] at hfilter
  obtain rfl : endpoint.setQuery (searchQuery filter page) = u := Except.ok.inj h
  refine ⟨filter, endpoint, hfilter, hendpoint, ?_⟩
  have hchars : ∀ c ∈ searchQuery filter page, isSearchChar c = true := by
    refine fun c hc => isSearchChar_of_mem_searchQuery (fun d hd => ?_) hc
    rcases mem_encodedFilter hfilter hd with hd | rfl
    · rw [isSearchChar, hd]
      rfl
    · rfl
  have hkept : (searchQuery filter page).filter (!UrlPath.isDropped ·) =
      searchQuery filter page := by
    rw [List.filter_eq_self]
    intro c hc
    rw [(keepsInQuery_of_isSearchChar (hchars c hc) endpoint.kind).2]
    rfl
  rw [Url.setQuery, hkept, Text.percentEncode_of_forall fun c hc =>
    (keepsInQuery_of_isSearchChar (hchars c hc) endpoint.kind).1]

/-- **The parameters of a search are read off its URL**, whatever its filter says. -/
theorem parameters_of_searchUrl {st : Gateway.Settings} {page : PageRequest} {s : Source}
    {r : SearchRequest} {u : Url} (h : s.searchUrl st page r = .ok u) :
    ∃ filter, r.encodedFilter s.dialect = .ok filter ∧
      u.parameters = searchParameters filter page := by
  obtain ⟨filter, endpoint, hfilter, -, rfl⟩ := query_of_searchUrl h
  refine ⟨filter, hfilter, Url.parameters_of_query (List.cons_ne_nil _ _)
    (isPlain_of_encodedFilter hfilter page) ?_⟩
  exact congrArg some (searchQuery_eq_joinWith filter page)

/-- The URL of a search asks for the items up to the end of the page. -/
theorem limit_of_searchUrl {st : Gateway.Settings} {page : PageRequest} {s : Source}
    {r : SearchRequest} {u : Url} (h : s.searchUrl st page r = .ok u) :
    u.parameter? "limit" = some (Text.natDigits page.reach) := by
  obtain ⟨filter, -, hparams⟩ := parameters_of_searchUrl h
  rw [Url.parameter?, hparams]
  rfl

/-- The URL of a search asks for the order of the page. -/
theorem order_of_searchUrl {st : Gateway.Settings} {page : PageRequest} {s : Source}
    {r : SearchRequest} {u : Url} (h : s.searchUrl st page r = .ok u) :
    u.parameter? "sort" = page.sort.map (·.property.toList) ∧
      u.parameter? "orderBy" = page.sort.map (·.direction.toList) := by
  obtain ⟨filter, -, hparams⟩ := parameters_of_searchUrl h
  rw [Url.parameter?, Url.parameter?, hparams, searchParameters]
  cases page.sort with
  | none => exact ⟨rfl, rfl⟩
  | some k => exact ⟨rfl, rfl⟩

end Source

end CatalogSearch
