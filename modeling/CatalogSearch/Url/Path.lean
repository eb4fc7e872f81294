import CatalogSearch.Text.Percent
import CatalogSearch.Text.Split
import CatalogSearch.Url.Scheme

/-! # Paths

The path of a URL names its steps from the root. Steps that mean the path itself or the one above
are carried out when a path is read.

* **`UrlPath`**: paths with steps, and paths without any structure;
* **`UrlPath.text`**: a path as it stands in a URL;
* **`UrlPath.addSegment`**: a path after one more step;
* **`UrlPath.resolve`**: the steps of a text;
* **`UrlPath.push?`**: a path with a segment added at its end. -/

namespace CatalogSearch

/-- **The path of a URL.** -/
inductive UrlPath where
  /-- Segments, each after a slash. -/
  | segments (all : List (List Char))
  /-- A text without any structure. -/
  | plain (text : List Char)
  deriving DecidableEq, Repr

namespace UrlPath

/-- **A path as it stands in a URL.** -/
def text : UrlPath → List Char
  | .segments all => all.flatMap fun s => '/' :: s
  | .plain text => text

/-- A path that could be taken for a host, as its text starts with two slashes. -/
def startsWithHost : UrlPath → Bool
  | .segments ([] :: _ :: _) => true
  | _ => false

/-! ## Characters -/

/-- A visible ASCII character other than the given ones. -/
def keepsAllBut (others : List Char) (c : Char) : Bool :=
  0x20 < c.toNat && c.toNat < 0x7F && !others.contains c

/-- The characters kept in a path that is read. -/
def keepsInPath : Char → Bool := keepsAllBut "\"<>\x60#?\x7b\x7d".toList

/-- The characters kept in a segment that is added to a path. -/
def keepsInSegment (kind : SchemeKind) : Char → Bool :=
  keepsAllBut ("\"<>\x60#?\x7b\x7d/%".toList ++ if kind = .other then [] else ['\\'])

/-- The characters kept in a path without structure: all of ASCII but the controls. -/
def keepsInPlain (c : Char) : Bool := 0x20 ≤ c.toNat && c.toNat < 0x7F

/-- The characters that are dropped wherever they stand. -/
def isDropped (c : Char) : Bool := c == '\t' || c == '\n' || c == '\r'

/-! ## Segments -/

/-- A segment that means the path itself. -/
def isDot (cs : List Char) : Bool := [".", "%2e", "%2E"].any fun s => s.toList == cs

/-- A segment that means the path one step up. -/
def isDoubleDot (cs : List Char) : Bool :=
  ["..", "%2e%2e", "%2e%2E", "%2E%2e", "%2E%2E", "%2e.", "%2E.", ".%2e", ".%2E"].any fun s =>
    s.toList == cs

/-- A segment that names a drive: a letter and a colon, or a bar in its place. -/
def isDrive : List Char → Bool
  | [c, d] => c.isAlpha && (d == ':' || d == '|')
  | _ => false

/-- The segments one step up. No step leads out of a drive. -/
def stepUp (all : List (List Char)) : List (List Char) :=
  if all.getLast?.any isDrive then all else all.dropLast

/-- A segment as it starts a path: in files, a drive is written with a colon. -/
def firstSegment (kind : SchemeKind) (cs : List Char) : List Char :=
  if kind = .file ∧ isDrive cs then cs.take 1 ++ [':'] else cs

/-- **The segments after one more step**, which is the last one or not. -/
def addSegment (kind : SchemeKind) (isLast : Bool) (all : List (List Char)) (cs : List Char) :
    List (List Char) :=
  -- A path that ends in a step without a name of its own ends in a slash.
  let empty := if isLast then [[]] else []
  if isDoubleDot cs then stepUp all ++ empty
  else if isDot cs then all ++ empty
  else if all.isEmpty then [firstSegment kind cs]
  else all ++ [cs]

/-- The segments after more steps. -/
def addSegments (kind : SchemeKind) (all : List (List Char)) : List (List Char) → List (List Char)
  | [] => all
  | [cs] => addSegment kind true all cs
  | cs :: next :: rest => addSegments kind (addSegment kind false all cs) (next :: rest)

/-- **The segments of a text.** The slash at its start does not count. -/
def resolve (kind : SchemeKind) (cs : List Char) : List (List Char) :=
  let steps (cs : List Char) : List (List Char) :=
    addSegments kind []
      ((Text.splitOn kind.isSlash cs).map (Text.percentEncode keepsInPath))
  match cs with
  | [] => if kind = .other then [] else [[]]
  | c :: rest => steps (if kind.isSlash c then rest else c :: rest)

/-- Segments without empty ones at the start, unless there are no others. -/
def dropEmptyFirst (all : List (List Char)) : List (List Char) :=
  match all.dropWhile (·.isEmpty) with
  | [] => [[]]
  | rest => rest

/-- The segments as they are kept: the path of a file starts with a name. -/
def settle (kind : SchemeKind) (all : List (List Char)) : List (List Char) :=
  if kind = .file then dropEmptyFirst all else all

/-! ## Adding a segment -/

/-- Segments without an empty one at the end, unless it is the only one. -/
def dropEmptyLast (all : List (List Char)) : List (List Char) :=
  if 1 < all.length ∧ all.getLast? = some [] then all.dropLast else all

/-- Two texts that add nothing when they are to be added as a segment. -/
def addsNothing (cs : List Char) : Bool := cs == ['.'] || cs == ['.', '.']

/-- **A path with one more segment**, in place of an empty one at its end; none if it has no
structure. -/
def push? (kind : SchemeKind) (cs : List Char) : UrlPath → Option UrlPath
  | .plain _ => none
  | .segments all =>
    let all := dropEmptyLast all
    if addsNothing cs then some (.segments all)
    else
      -- The only segment of an empty path makes room for the new one.
      let front := if all = [[]] then [] else all
      let cs := Text.percentEncode (keepsInSegment kind) (cs.filter (!isDropped ·))
      some (.segments (settle kind (addSegment kind true front cs)))

end UrlPath

end CatalogSearch
