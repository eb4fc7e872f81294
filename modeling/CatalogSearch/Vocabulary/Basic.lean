import CatalogSearch.Json.Codec
import CatalogSearch.Text.Letters

/-! # Controlled vocabularies

Closed sets of terms that requests and resources draw on. A term has two spellings: the code, by
which callers name it, and the label, which sources send and expect.

* **`Vocabulary`**: a type whose values are the terms of a vocabulary;
* **`Vocabulary.ofCode?`**, **`Vocabulary.ofLabel?`**: the term of a spelling; codes are read
  without regard to case, labels exactly;
* **`Vocabulary.codec`**: terms as JSON, by their labels;
* **`Dialect`**: which labels a source speaks. -/

namespace CatalogSearch

/-- The two spellings of a term. -/
structure Term where
  code : String
  label : String
  deriving DecidableEq, Repr

/-- **A controlled vocabulary**: its name, its terms in order, their spellings. -/
class Vocabulary (α : Type) where
  kind : String
  terms : List α
  term : α → Term

namespace Vocabulary

variable {α : Type} [Vocabulary α]

/-- The code of a term. -/
def code (t : α) : String := (term t).code

/-- The label of a term. -/
def label (t : α) : String := (term t).label

/-- The term with the given label. -/
def ofLabel? (s : String) : Option α := (terms : List α).find? fun t => label t == s

/-- The term with the given code, in upper or lower case. -/
def ofCode? (s : String) : Option α := (terms : List α).find? fun t => Text.sameLetters (code t) s

/-- A term found by its label has that label. -/
theorem label_of_ofLabel? {s : String} {t : α} (h : ofLabel? s = some t) : label t = s := by
  simpa using List.find?_some h

/-- **Terms as JSON**, by their labels. -/
def codec : Codec α where
  encode t := .string (label t)
  decode _
    | .string s =>
      match ofLabel? s with
      | some t => .ok t
      | none => .error (.unsupported (kind α) s)
    | _ => .error .malformed

end Vocabulary

/-- **Which labels a source speaks**: the common ones, or those of the DUF. -/
inductive Dialect where
  | common
  | duf
  deriving DecidableEq, Repr, Inhabited

namespace Dialect

/-- The name of a dialect. -/
def name : Dialect → String
  | .common => "default"
  | .duf => "duf"

/-- Dialects as JSON, by their names. -/
def codec : Codec Dialect := Codec.oneOf [.common, .duf] name

end Dialect

end CatalogSearch
