import CatalogSearch.Json.Codec
import CatalogSearch.Text.WhiteSpace

/-! # Lists of subjects

What a source answers when asked for its subjects: a list of entries, bare or under `subjects`. An
entry has a name, or none.

* **`SubjectEntry`**: an entry;
* **`SubjectList.decode`**, **`SubjectList.readDocument`**: the entries of an answer;
* **`SubjectList.names`**: the names in it that are not blank. -/

namespace CatalogSearch

/-- **An entry of a list of subjects.** -/
structure SubjectEntry where
  name : Option String := none
  deriving DecidableEq, Repr

/-- Entries as JSON. -/
def SubjectEntry.codec : Codec SubjectEntry := Codec.record
  [ .of "name" .always (.optional .text) (·.name) fun v e => { e with name := v } ] {}

namespace SubjectList

/-- Lists under `subjects`. -/
def wrapped : Codec (List SubjectEntry) := Codec.record
  [ .of "subjects" .never (.list SubjectEntry.codec) id fun v _ => v ] []

/-- **The entries of an answer.** The whole of it has to be plain, whatever is used of it. -/
def decode (v : Json) : Decoded (List SubjectEntry) :=
  if v.isFree 0 then
    match v with
    | .array _ => (Codec.list SubjectEntry.codec).decode 0 v
    | .object _ => wrapped.decode 0 v
    | _ => .error .malformed
  else .error .malformed

/-- The entries of a whole document, if nothing follows it. -/
def readDocument (doc : Json.Document) : Decoded (List SubjectEntry) :=
  (decode doc.root).bind fun entries => if doc.trailing then .error .malformed else .ok entries

/-- The names that are not blank. -/
def names (entries : List SubjectEntry) : List String :=
  (entries.filterMap (·.name)).filter fun s => !Text.blank s

end SubjectList

end CatalogSearch
