import CatalogSearch.Text.Percent
import CatalogSearch.Text.Quoted
import CatalogSearch.Text.Split

/-! # Filter clauses

A filter is a text of clauses with ` AND ` between them. A clause is a key, an operator and a value
in single quotes: `language='de'`, or `subject~'Physik,Chemie'` for a choice of values.

* **`Clause`**: key, operator and values;
* **`Clause.text`**, **`Clause.render`**: the text of one clause, and of a filter;
* **`Clause.scan`**: the clause at the start of a text, with what follows it;
* **`Clause.parse`**, **`Clause.parseEncoded`**: the clauses of a filter, plain or
  percent-encoded. -/

namespace CatalogSearch

/-- **A clause of a filter.** -/
structure Clause where
  key : List Char
  /-- The clause offers a choice of values. -/
  orGroup : Bool
  values : List (List Char)
  deriving DecidableEq, Repr

namespace Clause

/-! ## Writing -/

/-- What stands between two clauses. -/
def separator : List Char := " AND ".toList

/-- The character between the values of a choice. -/
def comma : Char := ','

/-- The character around a value. -/
def quote : Char := '\''

/-- The operator of a clause. -/
def operator (orGroup : Bool) : Char := if orGroup then '~' else '='

/-- The text of a clause. -/
def text (c : Clause) : List Char :=
  c.key ++ operator c.orGroup :: quote :: Text.joinWith [comma] c.values ++ [quote]

/-- **The text of a filter.** -/
def render (clauses : List Clause) : List Char := Text.joinWith separator (clauses.map text)

@[simp] theorem render_nil : render [] = [] := rfl

@[simp] theorem render_singleton (c : Clause) : render [c] = c.text := rfl

/-- Cons reading of `render` for a filter of at least two clauses. -/
theorem render_cons_cons (c d : Clause) (cs : List Clause) :
    render (c :: d :: cs) = c.text ++ separator ++ render (d :: cs) := rfl

/-! ## Reading -/

/-- What is wrong with a filter. -/
inductive Malformation where
  | missingOperator
  | unquotedValue
  | unterminatedValue
  | unjoinedClauses
  deriving DecidableEq, Repr

/-- A malformation in words. -/
def Malformation.message : Malformation → String
  | .missingOperator => "missing operator"
  | .unquotedValue => "value must be quoted"
  | .unterminatedValue => "unterminated value"
  | .unjoinedClauses => "clauses must be joined with AND"

/-- Why a text is no filter: something is wrong with what is left from some place on. -/
structure Fault where
  near : List Char
  why : Malformation
  deriving DecidableEq, Repr

/-- The operators. -/
def isOperator (c : Char) : Bool := c == '=' || c == '~'

/-- **The clause at the start of a text**, and what follows its closing quote. -/
def scan (cs : List Char) : Except Fault (Clause × List Char) :=
  match cs.dropWhile (!isOperator ·) with
  | [] => .error ⟨cs, .missingOperator⟩
  | op :: '\'' :: body =>
    match body.dropWhile (· != quote) with
    | [] => .error ⟨cs, .unterminatedValue⟩
    | _ :: rest =>
      let value := body.takeWhile (· != quote)
      let orGroup := op == operator true
      let values := if orGroup then Text.splitOn (· == comma) value else [value]
      .ok (⟨cs.takeWhile (!isOperator ·), orGroup, values⟩, rest)
  | _ => .error ⟨cs, .unquotedValue⟩

/-- What follows a clause is shorter than the text. -/
theorem length_lt_of_scan {cs rest : List Char} {c : Clause} (h : scan cs = .ok (c, rest)) :
    rest.length < cs.length := by
  unfold scan at h
  split at h
  · cases h
  · next op body hcs =>
    split at h
    · cases h
    · next q rest' hbody =>
      cases h
      have h₁ := (List.dropWhile_suffix (l := cs) (!isOperator ·)).length_le
      have h₂ := (List.dropWhile_suffix (l := body) (· != quote)).length_le
      rw [hcs] at h₁
      rw [hbody] at h₂
      simp only [List.length_cons] at h₁ h₂
      omega
  · cases h

/-- **The clauses of a filter.** -/
def parse (cs : List Char) : Except Fault (List Clause) :=
  if cs.isEmpty then .ok []
  else
    match _hscan : scan cs with
    | .error fault => .error fault
    | .ok (c, []) => .ok [c]
    | .ok (c, rest) =>
      match _hrest : Text.stripPrefix? separator rest with
      | none => .error ⟨rest, .unjoinedClauses⟩
      | some next => (parse next).map (c :: ·)
termination_by cs.length
decreasing_by
  have h₁ := length_lt_of_scan _hscan
  rw [Text.stripPrefix?_eq_some_iff] at _hrest
  have h₂ := congrArg List.length _hrest
  simp only [List.length_append] at h₂
  omega

/-- Why an encoded text is no filter. -/
inductive EncodedFault where
  | notText (fault : Text.Utf8.Fault)
  | malformed (fault : Fault)
  deriving DecidableEq, Repr

/-- The clauses of a percent-encoded filter. -/
def parseEncoded (cs : List Char) : Except EncodedFault (List Clause) :=
  match Text.percentDecode cs with
  | .error fault => .error (.notText fault)
  | .ok cs => (parse cs).mapError .malformed

/-- **An encoded text is read as the text it encodes.** -/
theorem parseEncoded_percentEncode (cs : List Char) :
    parseEncoded (Text.percentEncode Text.isUnreserved cs) = (parse cs).mapError .malformed := by
  have h : Text.isUnreserved '%' = false := rfl
  simp [parseEncoded, Text.percentDecode_percentEncode h]

end Clause

end CatalogSearch
