import CatalogSearch.Url.Read

/-! # References

A text that stands for a URL where another URL is at hand: a whole URL, or what is different in it
from there on. The base is a URL of a server.

* **`Url.place`**: scheme and authority of a URL;
* **`Url.completed`**: a text that is no whole URL, completed from a base;
* **`Url.join`**: the URL of a reference. -/

namespace CatalogSearch.Url

/-- Scheme and authority, as they stand at the start of a URL. -/
def place (u : Url) : List Char :=
  u.scheme.toList ++ ':' ::
    (match u.authority with
    | some a => '/' :: '/' :: a.text
    | none => [])

/-- The text of a path up to its last slash. -/
def folder : UrlPath → List Char
  | .segments all => (UrlPath.segments (all.dropLast ++ [[]])).text
  | .plain text => text

/-- **A text completed from a base**: whatever stands before it is taken from there. -/
def completed (base : Url) (cs : List Char) : List Char :=
  match cs with
  | [] => base.base ++ markedText '?' base.query
  | '#' :: _ => base.base ++ markedText '?' base.query ++ cs
  | '?' :: _ => base.base ++ cs
  | c :: rest =>
    if base.kind.isSlash c then
      -- After two slashes there is another host.
      if rest.head?.any base.kind.isSlash then base.scheme.toList ++ ':' :: cs
      else base.place ++ cs
    else base.place ++ folder base.path ++ cs

/-- **The URL of a reference.** The scheme of the base may stand before a text that is no whole
URL. -/
def join (base : Url) (cs : List Char) : Except UrlFault Url :=
  match scanScheme? (strip cs) with
  | some (scheme, rest) =>
    if scheme = base.scheme ∧ rest.take 2 ≠ ['/', '/'] then read (base.completed rest) else read cs
  | none => read (base.completed (strip cs))

end CatalogSearch.Url
