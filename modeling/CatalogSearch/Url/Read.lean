import CatalogSearch.Url.Basic

/-! # Reading URLs

A text becomes a URL part by part: scheme, host, path, query, fragment. Blanks and controls around
the text and tabs and line breaks inside it do not count. Only whole URLs are read, none that are
relative to another.

* **`Url.scanScheme?`**: the scheme at the start of a text;
* **`Url.readAuthority`**, **`Url.readFileHost`**: user, host and port, or the host of a file, at
  the start of a text;
* **`Url.readPlace`**: whichever of these is there;
* **`Url.read`**: the URL of a text. -/

namespace CatalogSearch.Url

/-! ## Scheme -/

/-- The characters of a scheme after its first letter. -/
def isSchemeChar (c : Char) : Bool := c.isAlphanum || c == '+' || c == '-' || c == '.'

/-- **The scheme at the start of a text**, and what follows its colon. -/
def scanScheme? (cs : List Char) : Option (String × List Char) :=
  match cs.dropWhile isSchemeChar with
  | ':' :: rest =>
    let scheme := cs.takeWhile isSchemeChar
    if (scheme.head?.map Char.isAlpha).getD false then
      some (String.ofList (Text.lower scheme), rest)
    else none
  | _ => none

/-! ## Authority -/

/-- The characters kept in a name or password. -/
def keepsInUser : Char → Bool := UrlPath.keepsAllBut "\"<>\x60#?\x7b\x7d/:;=@[\\]^|".toList

/-- The end of an authority. -/
def endsAuthority (kind : SchemeKind) (c : Char) : Bool := kind.isSlash c || c == '?' || c == '#'

/-- The end of a port. -/
def endsPort (c : Char) : Bool := c == '/' || c == '\\' || c == '?' || c == '#'

/-- Name and password as they are written: the name, and the password after the first colon, unless
it is empty. -/
def userText (cs : List Char) : List Char :=
  let name := Text.percentEncode keepsInUser (cs.takeWhile (· != ':'))
  match (cs.dropWhile (· != ':')).drop 1 with
  | [] => name
  | password => name ++ ':' :: Text.percentEncode keepsInUser password

/-- What stands before the last `@` of a text, and what follows it; nothing and the whole text if
there is none. -/
def splitUser (cs : List Char) : Option (List Char) × List Char :=
  if cs.contains '@' then
    (some ((cs.reverse.dropWhile (· != '@')).drop 1).reverse,
      (cs.reverse.takeWhile (· != '@')).reverse)
  else (none, cs)

/-- The host at the start of an authority, and what follows it: a colon inside brackets does not end
it. -/
def splitHost (inside : Bool) : List Char → List Char × List Char
  | [] => ([], [])
  | c :: cs =>
    if c == ':' && !inside then ([], c :: cs)
    else
      let (host, rest) := splitHost (c == '[' || (inside && c != ']')) cs
      (c :: host, rest)

/-- The port at the start of a text, unless it is the usual one of the scheme, and what follows
it. -/
def readPort (scheme : String) : List Char → Except UrlFault (Option Nat × List Char)
  | ':' :: cs =>
    let isDigit (c : Char) : Bool := (Text.digitValue? c).isSome
    let digits := cs.takeWhile isDigit
    let rest := cs.dropWhile isDigit
    let port := Text.readNat? digits
    if port.any (UInt16.size ≤ ·) || rest.head?.any (!endsPort ·) then .error .port
    else .ok (port.filter (SchemeKind.usualPort? scheme != some ·), rest)
  | cs => .ok (none, cs)

/-- **User, host and port** at the start of a text, and what follows them. -/
def readAuthority (scheme : String) (cs : List Char) : Except UrlFault (Authority × List Char) := do
  let kind := SchemeKind.ofScheme scheme
  let isEnd := endsAuthority kind
  let (user, place) := splitUser (cs.takeWhile (!isEnd ·))
  let after := cs.dropWhile (!isEnd ·)
  let (hostText, portText) := splitHost false place
  let user' := (user.map userText).getD []
  -- Neither a user nor a port is anywhere without a host, nor is the mark of a user.
  let needsHost := kind == .server || !user'.isEmpty || portText.head? == some ':' ||
    (user == some [] && !after.isEmpty)
  if hostText.isEmpty && needsHost then .error .emptyHost
  else
    let host ←
      if kind = .server then Host.read hostText else Host.readOther hostText
    let (port, rest) ← readPort scheme (portText ++ after)
    .ok (⟨user', host, port⟩, rest)

/-! ## Files -/

/-- The host of this machine. -/
def localHost : Host := .domain "localhost".toList

/-- **The host of a file** at the start of a text, and what follows it. A file may be named without
a host, by its path alone; a drive after the slashes is no host. -/
def readFileHost (cs : List Char) : Except UrlFault (Host × List Char) :=
  match cs.splitAt 2 with
  | ([c, d], rest) =>
    if SchemeKind.file.isSlash c && SchemeKind.file.isSlash d then do
      let name := rest.takeWhile (!endsAuthority .file ·)
      if name.isEmpty || UrlPath.isDrive name then .ok (.other [], rest)
      else
        let host ← Host.read name
        .ok (if host = localHost then .other [] else host, rest.drop name.length)
    else .ok (.other [], cs)
  | _ => .ok (.other [], cs)

/-! ## Whole texts -/

/-- **Where the URL of a scheme leads**, and what follows that. -/
def readPlace (scheme : String) (cs : List Char) :
    Except UrlFault (Option Authority × List Char) :=
  match SchemeKind.ofScheme scheme with
  -- However many slashes follow the scheme, the host comes next.
  | .server =>
    (readAuthority scheme (cs.dropWhile SchemeKind.server.isSlash)).map fun (a, rest) =>
      (some a, rest)
  | .file => (readFileHost cs).map fun (host, rest) => (some ⟨[], host, none⟩, rest)
  | .other =>
    match Text.stripPrefix? ['/', '/'] cs with
    | some cs => (readAuthority scheme cs).map fun (a, rest) => (some a, rest)
    | none => .ok (none, cs)

/-- An authority as it goes with a path: a drive is on no other machine. -/
def settleAuthority (kind : SchemeKind) (all : List (List Char)) (a : Authority) : Authority :=
  if kind = .file ∧ all.head?.any UrlPath.isDrive then { a with host := .other [] } else a

/-- What stands before a mark, and what follows it if it is there. -/
def splitMark (mark : Char) (cs : List Char) : List Char × Option (List Char) :=
  (cs.takeWhile (· != mark), (cs.dropWhile (· != mark)).tail?)

/-- The characters kept in a fragment. -/
def keepsInFragment : Char → Bool := UrlPath.keepsAllBut "\"<>\x60".toList

/-- A blank or a control, which does not count at the ends of a text. -/
def isPadding (c : Char) : Bool := c.toNat ≤ 0x20

/-- A text without what does not count. -/
def strip (cs : List Char) : List Char :=
  (((cs.dropWhile isPadding).reverse.dropWhile isPadding).reverse).filter (!UrlPath.isDropped ·)

/-- **The URL of a text.** -/
def read (cs : List Char) : Except UrlFault Url := do
  match scanScheme? (strip cs) with
  | none => .error .relative
  | some (scheme, rest) =>
    let kind := SchemeKind.ofScheme scheme
    let (authority, rest) ← readPlace scheme rest
    let (rest, fragment) := splitMark '#' rest
    let (path, query) := splitMark '?' rest
    let query := query.map (Text.percentEncode (keepsInQuery kind))
    let fragment := fragment.map (Text.percentEncode keepsInFragment)
    if authority.isNone ∧ path.head? ≠ some '/' then
      let path := .plain (Text.percentEncode UrlPath.keepsInPlain path)
      .ok { scheme, authority, path, query, fragment }
    else
      let all := UrlPath.resolve kind path
      let authority := authority.map (settleAuthority kind all)
      .ok { scheme, authority, path := .segments (UrlPath.settle kind all), query, fragment }

end CatalogSearch.Url
