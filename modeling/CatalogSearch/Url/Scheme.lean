/-! # Schemes

The scheme of a URL tells what the rest of it looks like:

* **`SchemeKind`**: the kinds of schemes that differ in this;
* **`SchemeKind.ofScheme`**: the kind of a scheme;
* **`SchemeKind.usualPort?`**: the port that its servers have if none is given. -/

namespace CatalogSearch

/-- **What kind of places a scheme leads to.** -/
inductive SchemeKind where
  /-- Places on servers. There is always a host, and the path is never empty. -/
  | server
  /-- Files. There may be a host, and the path is never empty. -/
  | file
  /-- Other places, with or without host and path. -/
  | other
  deriving DecidableEq, Repr

namespace SchemeKind

/-- The schemes of servers and their usual ports. -/
def usualPorts : List (String × Nat) :=
  [("http", 80), ("https", 443), ("ws", 80), ("wss", 443), ("ftp", 21)]

/-- **The usual port of a scheme**, if its places are on servers. -/
def usualPort? (scheme : String) : Option Nat := usualPorts.lookup scheme

/-- **The kind of a scheme.** -/
def ofScheme (scheme : String) : SchemeKind :=
  if scheme = "file" then .file else if (usualPort? scheme).isSome then .server else .other

/-- Whether a character counts as a slash: a backslash is one in places on servers and in files. -/
def isSlash (kind : SchemeKind) (c : Char) : Bool := c == '/' || (kind != .other && c == '\\')

end SchemeKind

end CatalogSearch
