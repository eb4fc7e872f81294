import CatalogSearch.Proofs.Filter.Keyed

/-! # Search terms in a filter

The terms of a search text stand in one clause of a filter, with commas between them. Taken apart at
its commas, the value of the clause gives back the terms, each cut at the commas it has itself: they
are not told from those between the terms.

* **`SearchTermsOf`**: the terms of a text, phrases or words;
* **`searchTermsOf_iff`**: every text has one list of terms;
* **`StatesTerms`**: clauses that state some terms;
* **`SearchRequest.parse_filter_states_terms`**: a filter states the terms of its request. -/

namespace CatalogSearch

/-! ## Phrases and words -/

/-- **The terms of a text**, in their order. -/
inductive SearchTermsOf (cs : List Char) : List (List Char) → Prop where
  /-- Of a text in double quotes, the trimmed pieces between them that are not blank. -/
  | phrases (inner : List Char)
      (htext : Text.trim cs = phraseQuote :: (inner ++ [phraseQuote])) :
    SearchTermsOf cs
      (((Text.splitOn (· == phraseQuote) inner).filter (!Text.isBlank ·)).map Text.trim)
  /-- Of any other text, the words. -/
  | words (htext : ∀ inner, Text.trim cs ≠ phraseQuote :: (inner ++ [phraseQuote])) :
    SearchTermsOf cs (Text.words cs)

/-- A text in double quotes has a quote at each end. -/
theorem isQuotedPhrase_iff {cs : List Char} :
    isQuotedPhrase cs = true ↔ ∃ inner, cs = phraseQuote :: (inner ++ [phraseQuote]) := by
  constructor
  · intro h
    rw [isQuotedPhrase, Bool.and_eq_true, Bool.and_eq_true, decide_eq_true_eq, beq_iff_eq,
      beq_iff_eq] at h
    obtain ⟨⟨hlength, hhead⟩, hlast⟩ := h
    obtain ⟨rest, rfl⟩ := List.head?_eq_some_iff.mp hhead
    obtain ⟨front, hfront⟩ := List.getLast?_eq_some_iff.mp hlast
    cases front with
    | nil =>
      -- The quote at the start is not the one at the end.
      obtain rfl := (List.cons.inj hfront).2
      exact absurd hlength (by decide)
    | cons c inner =>
      obtain ⟨-, rfl⟩ := List.cons.inj hfront
      exact ⟨inner, rfl⟩
  · rintro ⟨inner, rfl⟩
    have hlast : (phraseQuote :: (inner ++ [phraseQuote])).getLast? = some phraseQuote :=
      List.getLast?_concat (l := phraseQuote :: inner)
    simp [isQuotedPhrase, hlast]

/-- The quotes at the ends of a text enclose its phrases. -/
theorem phrases_eq (inner : List Char) :
    ((Text.splitOn (· == phraseQuote) (phraseQuote :: (inner ++ [phraseQuote]))).map
        Text.trim).filter (fun t => !t.isEmpty) =
      ((Text.splitOn (· == phraseQuote) inner).filter (!Text.isBlank ·)).map Text.trim := by
  have hquote : (phraseQuote == phraseQuote) = true := beq_self_eq_true _
  -- The quotes at the ends part off an empty piece each.
  have hpieces : Text.splitOn (· == phraseQuote) (phraseQuote :: (inner ++ [phraseQuote])) =
      [] :: (Text.splitOn (· == phraseQuote) inner ++ [[]]) := by
    rw [← List.nil_append (phraseQuote :: (inner ++ [phraseQuote])),
      Text.splitOn_append_separator (p := (· == phraseQuote)) hquote,
      Text.splitOn_append_separator (p := (· == phraseQuote)) hquote]
    rfl
  have hempty (cs : List Char) : (Text.trim cs).isEmpty = Text.isBlank cs := by
    rw [Bool.eq_iff_iff, List.isEmpty_iff, Text.trim_eq_nil_iff]
  rw [hpieces, List.filter_map, List.filter_cons_of_neg (by decide), List.filter_append]
  simp only [Function.comp_def, hempty]
  rw [List.filter_cons_of_neg (by decide), List.filter_nil, List.append_nil]

/-- The terms of a text in double quotes are its phrases. -/
theorem searchTerms_of_quoted {cs inner : List Char}
    (h : Text.trim cs = phraseQuote :: (inner ++ [phraseQuote])) :
    searchTerms cs =
      ((Text.splitOn (· == phraseQuote) inner).filter (!Text.isBlank ·)).map Text.trim := by
  rw [← phrases_eq, ← h]
  exact if_pos (isQuotedPhrase_iff.mpr ⟨inner, h⟩)

/-- The terms of any other text are its words. -/
theorem searchTerms_of_unquoted {cs : List Char}
    (h : ∀ inner, Text.trim cs ≠ phraseQuote :: (inner ++ [phraseQuote])) :
    searchTerms cs = Text.words cs := by
  rw [← Text.words_trim]
  refine if_neg fun hquoted => ?_
  obtain ⟨inner, hinner⟩ := isQuotedPhrase_iff.mp hquoted
  exact h inner hinner

/-- **Every text has one list of terms.** -/
theorem searchTermsOf_iff {cs : List Char} {terms : List (List Char)} :
    SearchTermsOf cs terms ↔ terms = searchTerms cs := by
  constructor
  · rintro (⟨inner, htext⟩ | ⟨htext⟩)
    · exact (searchTerms_of_quoted htext).symm
    · exact (searchTerms_of_unquoted htext).symm
  · rintro rfl
    by_cases h : ∃ inner, Text.trim cs = phraseQuote :: (inner ++ [phraseQuote])
    · obtain ⟨inner, htext⟩ := h
      rw [searchTerms_of_quoted htext]
      exact .phrases inner htext
    · rw [searchTerms_of_unquoted (not_exists.mp h)]
      exact .words (not_exists.mp h)

/-! ## The clause of the terms -/

/-- The key of the clause that the terms stand in. -/
def searchKey : List Char := "search".toList

/-- **Clauses that state some terms** for a search. -/
structure StatesTerms (clauses : List Clause) (terms : List (List Char)) : Prop where
  /-- There is a clause for them if there are any. -/
  exists_iff : (∃ c ∈ clauses, c.key = searchKey) ↔ terms ≠ []
  /-- There is one clause for them. -/
  unique : ∀ c ∈ clauses, ∀ c' ∈ clauses, c.key = searchKey → c'.key = searchKey → c = c'
  /-- None of them is empty. -/
  ne_nil : ∀ t ∈ terms, t ≠ []
  /-- The value of the clause, taken apart at its commas, is the terms, each taken apart at its
  own. -/
  pieces_eq : ∀ c ∈ clauses, c.key = searchKey → c.orGroup = false ∧ ∃ v, c.values = [v] ∧
    Text.splitOn (· == Clause.comma) v = terms.flatMap (Text.splitOn (· == Clause.comma))
  /-- These are the terms if none of them has a comma, and only then. -/
  pieces_eq_iff : ∀ c ∈ clauses, c.key = searchKey → ∀ v ∈ c.values,
    (Text.splitOn (· == Clause.comma) v = terms ↔ ∀ t ∈ terms, Clause.comma ∉ t)

/-- **A clause with the joined terms states them**, and so do no clauses if there are no terms. -/
theorem statesTerms_of_filter_key {clauses : List Clause} {terms : List (List Char)}
    (hterms : ∀ t ∈ terms, t ≠ [])
    (h : clauses.filter (·.key = searchKey) =
      if terms = [] then []
      else [⟨searchKey, false, [Text.joinWith [Clause.comma] terms]⟩]) :
    StatesTerms clauses terms := by
  have hclause : ∀ c, c ∈ clauses ∧ c.key = searchKey ↔
      terms ≠ [] ∧ c = ⟨searchKey, false, [Text.joinWith [Clause.comma] terms]⟩ := by
    intro c
    have hmem : c ∈ clauses.filter (·.key = searchKey) ↔ c ∈ clauses ∧ c.key = searchKey := by
      rw [List.mem_filter, decide_eq_true_eq]
    rw [← hmem, h]
    by_cases hnil : terms = []
    · simp [hnil]
    · simp [hnil]
  refine
    { exists_iff := ⟨?_, fun hne => ?_⟩
      unique := fun c hc c' hc' hkey hkey' => ?_
      ne_nil := hterms
      pieces_eq := fun c hc hkey => ?_
      pieces_eq_iff := fun c hc hkey v hv => ?_ }
  · rintro ⟨c, hc⟩
    exact ((hclause c).mp hc).1
  · exact ⟨_, (hclause _).mpr ⟨hne, rfl⟩⟩
  · rw [((hclause c).mp ⟨hc, hkey⟩).2, ((hclause c').mp ⟨hc', hkey'⟩).2]
  · obtain ⟨hne, rfl⟩ := (hclause c).mp ⟨hc, hkey⟩
    exact ⟨rfl, _, rfl, Text.splitOn_joinWith_eq_flatMap Clause.comma hne⟩
  · obtain ⟨hne, rfl⟩ := (hclause c).mp ⟨hc, hkey⟩
    rw [List.mem_singleton.mp hv, Text.splitOn_joinWith_eq_flatMap Clause.comma hne]
    exact Text.flatMap_splitOn_eq_self_iff

/-- The terms of a text make a value if there are any. -/
theorem searchValue?_eq (s : String) :
    searchValue? s = if searchTerms s.toList = [] then none
      else some (String.ofList (Text.joinWith [Clause.comma] (searchTerms s.toList))) := by
  rw [searchValue?]
  simp only [List.isEmpty_iff]
  rfl

/-- The clause of a search text has its terms, joined. -/
theorem FilterField.plainClause_search (s : String) :
    (search.plainClause (searchValue? s).toList).toList =
      if searchTerms s.toList = [] then []
      else [⟨searchKey, false, [Text.joinWith [Clause.comma] (searchTerms s.toList)]⟩] := by
  rw [searchValue?_eq]
  by_cases hnil : searchTerms s.toList = []
  · rw [if_pos hnil, if_pos hnil]
    rfl
  · rw [if_neg hnil, if_neg hnil]
    show [(⟨searchKey, false, [(String.ofList _).toList]⟩ : Clause)] = _
    rw [String.toList_ofList]

namespace SearchRequest

variable {d : Dialect} {r : SearchRequest} {s : String} {text : List Char}

/-- **Search terms in a filter.** Let a request with a search text have a filter. The terms of the
text are the pieces between its quotes, if it is wrapped in quotes, and else its words; none of them
is empty. The filter is read as clauses, of which one is for the search if there are any terms, and
none otherwise. Taken apart at its commas, the value of this clause gives back the terms in their
order, each taken apart at its own commas; these are just the terms if none of them has a comma, and
not otherwise. -/
theorem parse_filter_states_terms (hs : r.search = some s) (h : r.filter d = .ok text) :
    ∃ clauses terms, Clause.parse text = .ok clauses ∧
      (∀ ts, SearchTermsOf s.toList ts ↔ ts = terms) ∧ StatesTerms clauses terms := by
  obtain ⟨clauses, hclauses, rfl⟩ := map_eq_ok_iff.mp h
  refine ⟨clauses, searchTerms s.toList,
    Clause.parse_render (clauses_eq_statedClauses hclauses).2, fun _ => searchTermsOf_iff,
    statesTerms_of_filter_key (fun t ht => ne_nil_of_mem_searchTerms ht) ?_⟩
  have hkey := filter_key_clauses (f := FilterField.search) List.mem_cons_self hclauses
  have hvalues : FilterField.search.values d r = (searchValue? s).toList := by
    rw [FilterField.search, FilterField.values_one, hs, Option.bind_some]
  rw [hvalues, FilterField.plainClause_search] at hkey
  exact hkey

/-- A request for phrases, with white space around them, a blank one, and a quote too many. -/
def phraseRequest : SearchRequest where
  search := some " \"a b\"\t\" \" c\" "

/-- The phrases are read back, and nothing else. -/
theorem parse_filter_states_terms_phraseRequest :
    phraseRequest.search = some " \"a b\"\t\" \" c\" " ∧
      phraseRequest.filter .common = .ok "search='a b,c'".toList ∧
      ∃ clauses, Clause.parse "search='a b,c'".toList = .ok clauses ∧
        StatesTerms clauses ["a b".toList, ['c']] := by
  have hfilter : phraseRequest.filter .common = .ok "search='a b,c'".toList := by decide +kernel
  obtain ⟨clauses, terms, hparse, hterms, hstates⟩ := parse_filter_states_terms rfl hfilter
  obtain rfl := (hterms ["a b".toList, ['c']]).mp (searchTermsOf_iff.mpr (by decide +kernel))
  exact ⟨rfl, hfilter, clauses, hparse, hstates⟩

/-- A request for a number with a comma in it. -/
def weightRequest : SearchRequest where
  search := some "1,5 kg"

/-- The clause of this request. -/
def weightClause : Clause := ⟨searchKey, false, ["1,5,kg".toList]⟩

/-- **A term with a comma is not given back.** It has a place in the filter, but looks like two. -/
theorem splitOn_weightClause_ne_terms :
    weightRequest.search = some "1,5 kg" ∧
      weightRequest.filter .common = .ok "search='1,5,kg'".toList ∧
      SearchTermsOf "1,5 kg".toList ["1,5".toList, "kg".toList] ∧
      Clause.parse "search='1,5,kg'".toList = .ok [weightClause] ∧
      ∃ v, weightClause.values = [v] ∧
        Text.splitOn (· == Clause.comma) v = [['1'], ['5'], "kg".toList] ∧
        Text.splitOn (· == Clause.comma) v ≠ ["1,5".toList, "kg".toList] := by
  have hsayable : weightClause.Sayable :=
    { key_plain := FilterField.key_plain (f := FilterField.search) List.mem_cons_self
      values_plain := fun v hv => by
        rw [List.mem_singleton.mp hv]
        decide +kernel
      of_choice := fun h => by cases h
      of_single := fun _ => ⟨_, rfl⟩ }
  have hparse : Clause.parse (Clause.render [weightClause]) = .ok [weightClause] :=
    Clause.parse_render fun c hc => List.mem_singleton.mp hc ▸ hsayable
  refine ⟨rfl, by decide +kernel, searchTermsOf_iff.mpr (by decide +kernel), ?_, _, rfl,
    by decide +kernel, by decide +kernel⟩
  rw [← hparse]
  rfl

end SearchRequest

end CatalogSearch
