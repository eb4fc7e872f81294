import CatalogSearch.Url.Domain.Label

/-! # Domain names

* **`Domain.isForbidden`**: the characters of ASCII that no name has;
* **`Domain.labels`**: the labels of a name;
* **`Domain.ascii?`**: a name in ASCII, or nothing if a text is no name. -/

namespace CatalogSearch.Domain

/-- The marks of ASCII that have a meaning in URLs. -/
def forbidden : List Char := " #/:<>?@[\\]^|%".toList

/-- A character of ASCII that no domain name has. -/
def isForbidden (c : Char) : Bool := c.toNat < 0x20 || c.toNat == 0x7F || forbidden.contains c

/-- The labels of a name. -/
def labels (name : List Char) : List (List Char) := Text.splitOn (· == '.') name

/-- Whether labels may stand together: if one of them has a character that is written from right to
left, all of them can be read from one side to the other. -/
def fitTogether (all : List (List Char)) : Bool :=
  !all.any Label.hasTurn || all.all Label.isDirected

/-- **A name in ASCII.** -/
def ascii? (cs : List Char) : Option (List Char) := do
  let name ← (spelling? cs).filter (!·.any isForbidden)
  let meant ← (labels name).mapM Label.meant?
  if meant.all Label.isWellFormed && fitTogether meant then
    some (Text.joinWith ['.'] ((labels name).map Label.toAscii))
  else none

end CatalogSearch.Domain
