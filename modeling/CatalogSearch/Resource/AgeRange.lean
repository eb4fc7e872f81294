import CatalogSearch.Text.Digit

/-! # Age ranges

Sources give ages in years of life, callers expect years at school. A text about ages keeps its
wording and has its numbers converted.

* **`digitRuns`**: a text cut where digits and other characters meet;
* **`schoolYear`**: one such piece converted;
* **`schoolYears`**: the whole text converted. -/

namespace CatalogSearch

/-- The age at which school starts. -/
def schoolAge : Nat := 5

/-- The largest age that is converted. -/
def maxAge : Nat := UInt32.size - 1

/-- **A text cut where decimal digits and other characters meet**: each piece is a maximal run of
either kind. -/
def digitRuns (cs : List Char) : List (List Char) :=
  cs.splitBy fun c d => Text.isDecimalDigit c == Text.isDecimalDigit d

/-- A number of ASCII digits is converted, any other piece stays as it is. -/
def schoolYear (run : List Char) : List Char :=
  match (Text.readNat? run).filter (· ≤ maxAge) with
  | some age => Text.natDigits (age - schoolAge)
  | none => run

/-- **Ages as years at school**: `11-12` becomes `6-7`. -/
def schoolYears (cs : List Char) : List Char := (digitRuns cs).flatMap schoolYear

end CatalogSearch
