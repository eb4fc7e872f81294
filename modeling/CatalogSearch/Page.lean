import CatalogSearch.Json.Codec
import CatalogSearch.Text.Letters

/-! # Pages

Which part of a result is asked for, and in which order:

* **`SortKey`**: the orders a caller can choose, with the `sort` and `orderBy` parameters they
  become;
* **`SortKey.ofPair`**, **`SortKey.parse`**: the order named by a pair of parameters, or by a text;
* **`PageRequest`**: page number, page size and order;
* **`PageRequest.offset`**, **`PageRequest.reach`**: the items before the page, and those up to its
  end. -/

namespace CatalogSearch

/-- **An order of the items**, chosen by the caller. -/
inductive SortKey where
  | alphabetic
  | mostViewed
  | newest
  | oldest
  deriving DecidableEq, Repr

/-- No order goes by this text. -/
structure UnsupportedSort where
  text : String
  deriving DecidableEq, Repr

namespace SortKey

/-- All orders. -/
def all : List SortKey := [.alphabetic, .mostViewed, .newest, .oldest]

/-- The `sort` parameter: the property sorted by. -/
def property : SortKey → String
  | .alphabetic => "name"
  | .mostViewed => "relevance"
  | .newest | .oldest => "publishDate"

/-- The `orderBy` parameter: the direction. -/
def direction : SortKey → String
  | .alphabetic | .oldest => "asc"
  | .mostViewed | .newest => "desc"

/-- The code of an order. -/
def code : SortKey → String
  | .alphabetic => "ALPHABETIC"
  | .mostViewed => "MOST_VIEWED"
  | .newest => "NEWEST"
  | .oldest => "OLDEST"

/-- The order of a property and a direction, in upper or lower case. -/
def ofPair (property direction : String) : Except UnsupportedSort SortKey :=
  let found := all.find? fun k =>
    Text.sameLetters k.property property && Text.sameLetters k.direction direction
  match found with
  | some k => .ok k
  | none => .error ⟨property ++ "," ++ direction⟩

/-- Property and direction of an order name it. -/
theorem ofPair_property_direction (k : SortKey) : ofPair k.property k.direction = .ok k := by
  cases k <;> rfl

/-- **The order a text names**: a pair separated by the first comma, or a code, in upper or lower
case and with white space around. -/
def parse (text : String) : Except UnsupportedSort SortKey :=
  let cs := text.toList
  if cs.contains ',' then
    let property := cs.takeWhile (· != ',')
    let direction := (cs.dropWhile (· != ',')).drop 1
    ofPair (String.ofList (Text.trim property)) (String.ofList (Text.trim direction))
  else
    match all.find? fun k => Text.sameLetters k.code (Text.trimmed text) with
    | some k => .ok k
    | none => .error ⟨text⟩

/-- Orders as JSON, by their codes. -/
def codec : Codec SortKey := Codec.oneOf all code

end SortKey

/-- **Which page of a result is asked for**, counted from zero, and in which order. -/
structure PageRequest where
  number : UInt32 := 0
  size : UInt32 := 20
  sort : Option SortKey := none
  deriving DecidableEq, Repr, Inhabited

namespace PageRequest

/-- The number of items before the page. -/
def offset (p : PageRequest) : Nat := p.number.toNat * p.size.toNat

/-- **The number of items up to the end of the page.** Every source is asked for that many. -/
def reach (p : PageRequest) : Nat := (p.number.toNat + 1) * p.size.toNat

/-- A page ends one page size after it begins. -/
theorem offset_add_size (p : PageRequest) : p.offset + p.size.toNat = p.reach := by
  simp [offset, reach, Nat.add_mul]

/-- A page that holds items. -/
def HasItems (p : PageRequest) : Prop := p.size ≠ 0

instance (p : PageRequest) : Decidable p.HasItems := by
  unfold HasItems
  infer_instance

/-- Page requests as JSON. -/
def codec : Codec PageRequest := Codec.record
  [ .of "pageNumber" .never .word32 (·.number) fun n p => { p with number := n },
    .of "pageSize" .never .word32 (·.size) fun n p => { p with size := n },
    .of "sort" .named (.optional SortKey.codec) (·.sort) fun k p => { p with sort := k } ]
  {}

end PageRequest

end CatalogSearch
