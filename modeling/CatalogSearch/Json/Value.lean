import CatalogSearch.Number.Numeral

/-! # JSON values

A JSON text read as a tree. Reading never fails: where a text goes wrong, the tree has a leaf that
says so, and everything read before it stays in place. Whoever decodes the tree meets its leaves in
the order of the text, so the first thing wrong is the first thing reported, and a part nobody looks
at may hold what nobody could use:

* **`Json`**: the tree, with `Json.fault` for such a leaf;
* **`Json.Fault`**: what went wrong;
* **`Json.isWhole`**: a value that breaks off nowhere, the least an ignored part has to satisfy;
* **`Json.depth`**: how deep arrays and objects are nested;
* **`Json.isPlain`**: a value free of faults whose numbers are in range. -/

namespace CatalogSearch

/-- What went wrong in a JSON text. -/
inductive Json.Fault where
  /-- The text ends or goes wrong here; nothing was read after it. -/
  | broken
  /-- A string whose escapes or bytes spell no text. -/
  | string
  /-- A member whose name spells no text. -/
  | name
  deriving DecidableEq, Repr

/-- **A JSON value.** The members of an object are in the order of the text, repeated names
included. -/
inductive Json where
  | null
  | bool (b : Bool)
  | number (n : Numeral)
  | string (s : String)
  | array (items : List Json)
  | object (members : List (String × Json))
  | fault (f : Json.Fault)
  deriving Repr, Inhabited

namespace Json

/-- A natural number as a value. -/
def ofNat (n : Nat) : Json := .number (Numeral.ofNat n)

mutual

/-- **A value that breaks off nowhere.** -/
def isWhole : Json → Bool
  | .array items => areWhole items
  | .object members => haveWhole members
  | .fault f => f != .broken
  | _ => true

/-- Items that break off nowhere. -/
def areWhole : List Json → Bool
  | [] => true
  | item :: items => item.isWhole && areWhole items

/-- Members that break off nowhere. -/
def haveWhole : List (String × Json) → Bool
  | [] => true
  | (_, value) :: members => value.isWhole && haveWhole members

end

mutual

/-- **How deep arrays and objects are nested**; none at all counts zero. -/
def depth : Json → Nat
  | .array items => depthOfItems items + 1
  | .object members => depthOfMembers members + 1
  | _ => 0

/-- The greatest depth among items. -/
def depthOfItems : List Json → Nat
  | [] => 0
  | item :: items => max item.depth (depthOfItems items)

/-- The greatest depth among the values of members. -/
def depthOfMembers : List (String × Json) → Nat
  | [] => 0
  | (_, value) :: members => max value.depth (depthOfMembers members)

end

mutual

/-- **A value free of faults whose numbers are in range.** -/
def isPlain : Json → Bool
  | .number n => n.value != .outOfRange
  | .array items => arePlain items
  | .object members => havePlain members
  | .fault _ => false
  | _ => true

/-- Items free of faults whose numbers are in range. -/
def arePlain : List Json → Bool
  | [] => true
  | item :: items => item.isPlain && arePlain items

/-- Members free of faults whose numbers are in range. -/
def havePlain : List (String × Json) → Bool
  | [] => true
  | (_, value) :: members => value.isPlain && havePlain members

end

/-- How many arrays and objects may stand around each other where any value is taken. -/
def maxDepth : Nat := 127

/-- **A value that may stand where any value is taken**: plain, and with the `around` containers
about it not nested too deep. -/
def isFree (around : Nat) (v : Json) : Bool := v.isPlain && around + v.depth ≤ maxDepth

/-- The value of a member, the last one of that name. -/
def member? (name : String) : Json → Option Json
  | .object members => (members.reverse.find? fun m => m.1 == name).map (·.2)
  | _ => none

end Json

end CatalogSearch
