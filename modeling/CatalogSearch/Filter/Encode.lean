import CatalogSearch.Filter.Clause
import CatalogSearch.Filter.Field

/-! # Requests as filters

A request becomes a filter field by field. Two things cannot be said in a filter: a value with a
single quote, which would end early, and a value with a comma inside a choice, which would be two
values.

* **`ValueFault`**: a value that cannot be said;
* **`FilterField.clause`**: the clause of a field with given values;
* **`SearchRequest.clauses`**: the clauses of a request, or the first value that cannot be said;
* **`SearchRequest.filter`**, **`SearchRequest.encodedFilter`**: the filter as a text, and
  percent-encoded. -/

namespace CatalogSearch

/-- **A value that cannot be said in a filter.** -/
inductive ValueFault where
  /-- The value contains a single quote. -/
  | singleQuote (value : String)
  /-- The value is one of several and contains a comma. -/
  | comma (value : String)
  deriving DecidableEq, Repr

/-- A fault in words. -/
def ValueFault.message : ValueFault → String
  | .singleQuote value => "value " ++ Text.quoted value ++ " contains a single quote"
  | .comma value => "value " ++ Text.quoted value ++ " contains ',' inside an OR-group"

/-- **Why a request has no filter**: the key of a field, and a value of it. -/
structure EncodingFault where
  field : String
  fault : ValueFault
  deriving DecidableEq, Repr

/-- The first value with a given character. -/
def firstWith? (c : Char) (values : List String) : Option String :=
  values.find? fun v => v.toList.contains c

namespace FilterField

/-- **The clause of a field with given values**, none for no values. One value makes a plain clause,
several make a choice. -/
def clause (f : FilterField) (values : List String) : Except EncodingFault (Option Clause) :=
  let orGroup := f.isChoice && 1 < values.length
  match firstWith? Clause.quote values, firstWith? Clause.comma values with
  | some bad, _ => .error ⟨f.key, .singleQuote bad⟩
  | none, some bad => if orGroup then .error ⟨f.key, .comma bad⟩ else .ok (plain values orGroup)
  | none, none => .ok (plain values orGroup)
where
  /-- The clause, when every value can be said. -/
  plain (values : List String) (orGroup : Bool) : Option Clause :=
    if values.isEmpty then none else some ⟨f.key.toList, orGroup, values.map (·.toList)⟩

end FilterField

namespace SearchRequest

/-- The clauses of a request that the given fields make. -/
def clausesOf (d : Dialect) (r : SearchRequest) :
    List FilterField → Except EncodingFault (List Clause)
  | [] => .ok []
  | f :: fields =>
    match f.clause (f.values d r) with
    | .error fault => .error fault
    | .ok c => (clausesOf d r fields).map (c.toList ++ ·)

/-- **The clauses of a request**, in the dialect of a source. -/
def clauses (d : Dialect) (r : SearchRequest) : Except EncodingFault (List Clause) :=
  clausesOf d r FilterField.all

/-- The filter of a request. -/
def filter (d : Dialect) (r : SearchRequest) : Except EncodingFault (List Char) :=
  (r.clauses d).map Clause.render

/-- **The filter of a request, percent-encoded.** -/
def encodedFilter (d : Dialect) (r : SearchRequest) : Except EncodingFault (List Char) :=
  (r.filter d).map (Text.percentEncode Text.isUnreserved)

end SearchRequest

end CatalogSearch
