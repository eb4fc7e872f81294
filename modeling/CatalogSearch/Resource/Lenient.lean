import CatalogSearch.Calendar.Reading
import CatalogSearch.Number.Single
import CatalogSearch.Vocabulary.Basic

/-! # Lenient values

What sources send is taken as it comes: a term no vocabulary knows, or a date that is none, is
passed over instead of spoiling the resource around it.

* **`Codec.free`**: a codec that takes any value there is and makes of it what it can;
* **`termOf?`**: the term a value stands for;
* **`Codec.terms`**, **`Codec.term`**: lists of terms, and at most one term;
* **`dateOf?`**, **`Codec.date`**: dates, as texts or as lists of numbers;
* **`Codec.relevance`**: single-precision numbers. -/

namespace CatalogSearch

/-- A codec that takes any value and reads it by `read`. -/
def Codec.free {α : Type} (encode : α → Json) (read : Json → α) : Codec α where
  encode := encode
  decode around v := if v.isFree around then .ok (read v) else .error .malformed

/-! ## Terms -/

/-- **The term a value stands for**: a string by itself, any other value by its text. -/
def termOf? {α : Type} [Vocabulary α] : Json → Option α
  | .null => none
  | .string s => Vocabulary.ofLabel? s
  | v => Vocabulary.ofLabel? (String.ofList v.freeText)

/-- The JSON value of a term. -/
def termValue {α : Type} [Vocabulary α] (t : α) : Json := .string (Vocabulary.label t)

/-- The value of a term stands for the term, when labels are different. -/
theorem termOf?_termValue {α : Type} [Vocabulary α] {t : α}
    (h : Vocabulary.ofLabel? (Vocabulary.label t) = some t) : termOf? (termValue t) = some t := by
  simpa [termOf?, termValue] using h

/-- **Lists of terms.** Items that stand for no term are left out; null is the empty list. -/
def Codec.terms {α : Type} [Vocabulary α] : Codec (List α) where
  encode ts := .array (ts.map termValue)
  decode around v :=
    ((Codec.nullable (Codec.list (Codec.free id id))).decode around v).map (·.filterMap termOf?)

/-- **At most one term.** -/
def Codec.term {α : Type} [Vocabulary α] : Codec (Option α) :=
  .free (fun t => (t.map termValue).getD .null) termOf?

/-! ## Dates -/

/-- **The date a value stands for**: the one at the start of a string, or the one whose year, month
and day a list begins with. -/
def dateOf? : Json → Option Date
  | .string s => Date.ofLead? s.toList
  | .array (.number year :: .number month :: .number day :: _) =>
    match year.value, month.value, day.value with
    | .whole year, .whole (.ofNat month), .whole (.ofNat day) => Date.ofTriple? year month day
    | _, _, _ => none
  | _ => none

/-- The JSON value of a date. -/
def dateValue (d : Date) : Json := .string (String.ofList d.text)

/-- Dates that may be missing. -/
def Codec.date : Codec (Option Date) := .free (fun d => (d.map dateValue).getD .null) dateOf?

/-! ## Numbers -/

/-- The JSON value of a single; infinities have none. -/
def singleValue (x : Single) : Json := (x.numeral?.map Json.number).getD .null

/-- Single-precision numbers that may be missing. A number too large for a double is refused. -/
def Codec.relevance : Codec (Option Single) where
  encode x := (x.map singleValue).getD .null
  decode _
    | .null => .ok none
    | .number n => ((Single.ofValue? n.value).map fun x => .ok (some x)).getD (.error .malformed)
    | _ => .error .malformed

end CatalogSearch
