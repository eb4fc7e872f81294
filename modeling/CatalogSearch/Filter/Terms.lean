import CatalogSearch.Text.WhiteSpace

/-! # Search terms

The free text of a request as a list of terms: its words, or, when the whole text stands in double
quotes, the phrases between the quotes.

* **`searchTerms`**: the terms of a text;
* **`searchValue?`**: the terms with commas between them; none if there are no terms. -/

namespace CatalogSearch

/-- The character around phrases. -/
def phraseQuote : Char := '"'

/-- A text in double quotes. -/
def isQuotedPhrase (cs : List Char) : Bool :=
  2 ≤ cs.length && cs.head? == some phraseQuote && cs.getLast? == some phraseQuote

/-- **The terms of a text.** None of them is empty. -/
def searchTerms (cs : List Char) : List (List Char) :=
  let cs := Text.trim cs
  if isQuotedPhrase cs then
    ((Text.splitOn (· == phraseQuote) cs).map Text.trim).filter fun t => !t.isEmpty
  else Text.words cs

/-- No term is empty. -/
theorem ne_nil_of_mem_searchTerms {t cs : List Char} (h : t ∈ searchTerms cs) : t ≠ [] := by
  simp only [searchTerms] at h
  split at h
  · simp only [List.mem_filter] at h
    simpa using h.2
  · exact Text.ne_nil_of_mem_words h

/-- **The terms of a text as one value**, with commas between them. -/
def searchValue? (s : String) : Option String :=
  let terms := searchTerms s.toList
  if terms.isEmpty then none else some (String.ofList (Text.joinWith [','] terms))

end CatalogSearch
