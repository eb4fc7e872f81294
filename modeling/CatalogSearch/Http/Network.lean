import CatalogSearch.Http.Status
import CatalogSearch.Text.Letters
import CatalogSearch.Text.Percent
import CatalogSearch.Url.Basic

/-! # Networks

What comes back when a URL is asked for, and when. That is what comes back in the end: if the client
is sent on to other URLs and follows, what it gets there.

* **`Response`**: an answer: status, headers and body;
* **`Reply`**: an answer or none, with the time it takes;
* **`Network`**: the reply to every URL;
* **`Network.offline`**: a network that reaches nobody;
* **`Network.ofRoutes`**: a network that answers from a table. -/

namespace CatalogSearch

/-! ## Answers -/

/-- **An answer.** -/
structure Response where
  status : Status
  /-- Names and values, in the order they came in. -/
  headers : List (String × String) := []
  /-- The bytes of the body; none if they broke off. -/
  body : Option (List UInt8) := some []
  deriving DecidableEq, Repr

namespace Response

/-- A character that a readable header value is made of. -/
def isHeaderChar (c : Char) : Bool := c == '\t' || (0x20 ≤ c.toNat && c.toNat < 0x7F)

/-- The blanks around a header value, which do not belong to it. -/
def isHeaderBlank (c : Char) : Bool := c == ' ' || c == '\t'

/-- A header value without the blanks around it. -/
def trimHeader (cs : List Char) : List Char :=
  ((cs.dropWhile isHeaderBlank).reverse.dropWhile isHeaderBlank).reverse

/-- **The value of a header**, the first one of that name in upper or lower case, if it can be
read. -/
def header? (r : Response) (name : String) : Option (List Char) :=
  ((r.headers.find? fun h => Text.sameLetters h.1 name).map fun h => trimHeader h.2.toList).filter
    (·.all isHeaderChar)

end Response

/-- **What comes back when a URL is asked for**, after some milliseconds. -/
inductive Reply where
  /-- Nothing, ever. -/
  | silent
  /-- The request cannot be sent, the other side hangs up, or the client gives up at a redirect. -/
  | unsent (millis : Nat)
  | answered (millis : Nat) (response : Response)
  deriving DecidableEq, Repr

/-- The time a reply takes, if there is one. -/
def Reply.millis? : Reply → Option Nat
  | .silent => none
  | .unsent millis | .answered millis _ => some millis

/-- **The reply to every URL**, after all redirects that the client follows by itself. It is a
function of the URL as servers see it: whoever asks for the same URL gets the same reply, also from
two sources that share it or that differ in name and password only. -/
abbrev Network := Url → Reply

namespace Network

/-- **A network that reaches nobody.** -/
def offline : Network := fun _ => .unsent 0

/-- A network that gives the first reply to a URL in a list, and reaches nobody else. -/
def ofReplies (replies : List (Url × Reply)) : Network := fun u =>
  (replies.lookup u).getD (offline u)

/-! ## Tables of answers -/

/-- How a route treats a request. -/
inductive Manner where
  | answers
  /-- Hangs up at once. -/
  | drops
  /-- Hangs up within the body. -/
  | truncates
  /-- Never answers. -/
  | hangs
  deriving DecidableEq, Repr

/-- **A route**: the answer to a URL, whatever its query. -/
structure Route where
  url : String
  response : Response
  manner : Manner := .answers
  deriving DecidableEq, Repr

/-- What is answered where there is no route. -/
def notFound : Response := { status := ⟨404⟩ }

/-- The answer of a route; some statuses have no body. -/
def Route.sent (r : Route) : Response :=
  if r.response.status.hasNoBody then { r.response with body := some [] } else r.response

/-- The reply of a route. -/
def Route.reply (r : Route) : Reply :=
  match r.manner with
  | .answers => .answered 0 r.sent
  | .drops => .unsent 0
  | .truncates => .answered 0 { r.response with body := none }
  | .hangs => .silent

/-- **A network that answers from a table.** The first route of a URL counts. -/
def ofRoutes (routes : List Route) : Network := fun u =>
  match routes.find? fun r => r.url.toList == u.base with
  | some r => r.reply
  | none => .answered 0 notFound

/-- An empty table knows nothing. -/
@[simp] theorem ofRoutes_nil (u : Url) : ofRoutes [] u = .answered 0 notFound := rfl

end Network

end CatalogSearch
