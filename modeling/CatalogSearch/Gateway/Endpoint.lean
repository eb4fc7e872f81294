import CatalogSearch.Failure
import CatalogSearch.Source.Basic
import CatalogSearch.Url.Read

/-! # Endpoints

Where a source is asked for what: a base URL of the source and a path that is the same for all
sources.

* **`Gateway.Settings`**: the paths, and how long to wait;
* **`joinPath`**: base and path as one text;
* **`Source.endpoint`**: the URL they make;
* **`Source.searchUrl`**, **`Source.detailsUrl`**, **`Source.subjectsUrl`**: the URLs to ask. -/

namespace CatalogSearch

/-- **The paths at which sources are asked**, and how long to wait for an answer. -/
structure Gateway.Settings where
  timeoutMillis : Nat := 10000
  searchPath : String := "/resources"
  detailsPath : String := "/resources"
  subjectPath : String := "/subjects"
  deriving DecidableEq, Repr, Inhabited

/-- A slash. -/
def isSlash (c : Char) : Bool := c == '/'

/-- **Base and path as one text.** Where a slash would follow a slash, those of the base are left
out. -/
def joinPath (base path : List Char) : List Char :=
  if base.getLast? = some '/' ∧ path.head? = some '/' then
    (base.reverse.dropWhile isSlash).reverse ++ path
  else base ++ path

namespace Source

/-- **The URL of a base and a path.** -/
def endpoint (s : Source) (base path : String) : Except Failure Url :=
  let joined := joinPath base.toList path.toList
  (Url.read joined).mapError fun fault =>
    .invalidSourceUrl s.displayName (.unreadable (String.ofList joined) fault)

/-- The parameters of an order. -/
def sortParameters : Option SortKey → List Char
  | some k => ("&sort=" ++ k.property ++ "&orderBy=" ++ k.direction).toList
  | none => []

/-- The query of a search: all items up to the end of the page. -/
def searchQuery (filter : List Char) (page : PageRequest) : List Char :=
  "limit=".toList ++ Text.natDigits page.reach ++ "&filters=".toList ++ filter ++
    "&offset=0".toList ++ sortParameters page.sort ++ "&fields=".toList

/-- **Where a source is searched.** -/
def searchUrl (st : Gateway.Settings) (page : PageRequest) (s : Source) (r : SearchRequest) :
    Except Failure Url := do
  let filter ← (r.encodedFilter s.dialect).mapError .encoding
  let url ← s.endpoint s.searchBaseUrl st.searchPath
  return url.setQuery (searchQuery filter page)

/-- **Where a source is asked for one item.** -/
def detailsUrl (st : Gateway.Settings) (s : Source) (itemId : String) : Except Failure Url := do
  let url ← s.endpoint s.detailsBaseUrl st.detailsPath
  match url.pushSegment? itemId.toList with
  | some url => return url
  | none => .error (.invalidSourceUrl s.displayName .pathless)

/-- **Where a source is asked for its subjects.** -/
def subjectsUrl (st : Gateway.Settings) (s : Source) : Except Failure Url :=
  s.endpoint s.searchBaseUrl st.subjectPath

end Source

end CatalogSearch
