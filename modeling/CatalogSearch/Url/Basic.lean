import CatalogSearch.Url.Host
import CatalogSearch.Url.Path

/-! # URLs

* **`Url`**: the parts of a URL, each the way it is written;
* **`Url.text`**: a URL as a text;
* **`Url.setQuery`**: a URL with another query;
* **`Url.pushSegment?`**: a URL with one more segment at the end of its path;
* **`Url.isReachable`**, **`Url.requested`**: whether requests can go there, and what a server gets
  to see. -/

namespace CatalogSearch

/-- Where a URL leads. -/
structure Authority where
  /-- Name and password, as they are written. -/
  user : List Char
  host : Host
  /-- The port, if it is not the usual one. -/
  port : Option Nat
  deriving DecidableEq, Repr

/-- **A URL.** -/
structure Url where
  scheme : String
  authority : Option Authority
  path : UrlPath
  query : Option (List Char)
  fragment : Option (List Char)
  deriving DecidableEq, Repr

namespace Authority

/-- An authority as it stands in a URL. -/
def text (a : Authority) : List Char :=
  a.user ++ (if a.user.isEmpty then [] else ['@']) ++ a.host.text ++
    (match a.port with
    | some port => ':' :: Text.natDigits port
    | none => [])

/-- The name of the user. -/
def name (a : Authority) : List Char := a.user.takeWhile (· != ':')

/-- The password of the user, which is never empty. -/
def password? (a : Authority) : Option (List Char) := (a.user.dropWhile (· != ':')).tail?

/-- A text whose percent-encoded bytes are a text as well. -/
def isReadable (cs : List Char) : Bool := (Text.percentDecode cs).toOption.isSome

/-- Whether name and password can be told to a server apart from the URL: there is a name or a
password, and it can be read. -/
def hasCredentials (a : Authority) : Bool :=
  isReadable a.name && (!a.name.isEmpty || a.password?.any isReadable)

/-- An authority without name and password, unless they cannot be told otherwise. -/
def withoutUser (a : Authority) : Authority := if a.hasCredentials then { a with user := [] } else a

end Authority

namespace Url

/-! ## Writing -/

/-- A URL without its query and fragment. Where there is no host, a path does not look like one. -/
def base (u : Url) : List Char :=
  u.scheme.toList ++ ':' ::
    (match u.authority with
    | some a => '/' :: '/' :: a.text
    | none => if u.path.startsWithHost then ['/', '.'] else []) ++ u.path.text

/-- A part of a URL that follows a mark, if there is such a part. -/
def markedText (mark : Char) : Option (List Char) → List Char
  | some cs => mark :: cs
  | none => []

/-- **A URL as a text.** -/
def text (u : Url) : List Char := u.base ++ markedText '?' u.query ++ markedText '#' u.fragment

/-! ## Changing -/

/-- The kind of a URL's scheme. -/
def kind (u : Url) : SchemeKind := .ofScheme u.scheme

/-- The characters kept in a query. -/
def keepsInQuery (kind : SchemeKind) : Char → Bool :=
  UrlPath.keepsAllBut ("\"#<>".toList ++ if kind = .other then [] else ['\''])

/-- **A URL with another query.** -/
def setQuery (u : Url) (cs : List Char) : Url :=
  let kept := cs.filter (!UrlPath.isDropped ·)
  { u with query := some (Text.percentEncode (keepsInQuery u.kind) kept) }

/-- **A URL with one more segment** at the end of its path; none if its path has no segments. -/
def pushSegment? (u : Url) (cs : List Char) : Option Url :=
  (u.path.push? u.kind cs).map fun path => { u with path }

/-! ## Asking -/

/-- A URL without name and password, unless they cannot be told otherwise. -/
def withoutUser (u : Url) : Url := { u with authority := u.authority.map Authority.withoutUser }

/-- How long a URL may be that requests go to. -/
def maxRequested : Nat := 65534

/-- The characters that a name may have, but no host that requests go to. -/
def isUnreachableChar (c : Char) : Bool := "\"\x60\x7b\x7d".toList.contains c

/-- **Whether requests can go to a URL.** -/
def isReachable (u : Url) : Bool :=
  (u.scheme == "http" || u.scheme == "https") &&
    u.authority.all (fun a => !a.host.text.any isUnreachableChar) &&
    u.withoutUser.text.length ≤ maxRequested

/-- **What a server gets to see of a URL**: neither name and password, which are told it apart from
the URL, nor the fragment. -/
def requested (u : Url) : Url := { u.withoutUser with fragment := none }

/-- Setting the query leaves everything else. -/
@[simp] theorem base_setQuery (u : Url) (cs : List Char) : (u.setQuery cs).base = u.base := rfl

end Url

end CatalogSearch
