import CatalogSearch.Http.Network
import CatalogSearch.Url.Reference

/-! # Redirects

An answer may send the client on to another URL. The client follows it there by itself, so that one
call may take several requests, and whoever makes the call gets to see the last answer only.

* **`Sequel`**: what an answer means to the client;
* **`Response.sequel`**: what it means to a client that follows all redirects;
* **`RedirectPolicy`**: which redirects a client follows, and how many for one call;
* **`Servers`**: the reply to every single request;
* **`exchange`**: what a client sends for one call, and what comes back in the end;
* **`Servers.network`**, **`Servers.sent`**: the replies in the end to all calls, and the requests
  for each of them. -/

namespace CatalogSearch

/-! ## Answers that send the client on -/

/-- **What an answer means to the client** that has asked for it. -/
inductive Sequel where
  /-- It is the last one. -/
  | last
  /-- It sends the client on. -/
  | moved (target : Url)
  /-- It sends the client where the client does not go. -/
  | refused
  deriving DecidableEq, Repr

/-- The statuses that send a client on. -/
def Status.isRedirect (s : Status) : Bool := [301, 302, 303, 307, 308].contains s.code

/-- The header that says where to. -/
def locationHeader : String := "Location"

/-- **What an answer to the request for a URL means**: where its header says so, the client goes on
from there. What is no URL, or one that no request can go to, sends it nowhere. -/
def Response.sequel (u : Url) (r : Response) : Sequel :=
  if r.status.isRedirect then
    match (r.header? locationHeader).map u.join with
    | some (.ok target) =>
      if target.scheme != "http" && target.scheme != "https" then .refused
      else if target.isReachable then .moved target
      else .last
    | _ => .last
  else .last

/-- **Which redirects a client follows.** -/
structure RedirectPolicy where
  /-- How many it follows for one call. -/
  limit : Nat := 10
  /-- What an answer to the request for a URL means to it. -/
  sequel : Url → Response → Sequel := fun u r => r.sequel u

/-! ## Calls -/

/-- **What a call comes to.** -/
structure Exchange where
  /-- What is asked for, request by request. -/
  sent : List Url
  /-- What comes back in the end. -/
  reply : Reply
  deriving DecidableEq, Repr

/-- What the reply to a single request leads to. -/
inductive Course where
  /-- The call has ended. -/
  | ended (reply : Reply)
  /-- The client is sent on, so many milliseconds after the call was made. -/
  | moved (now : Nat) (target : Url)

/-- **What the reply to a single request leads to**, when the client has taken `elapsed`
milliseconds to get to its URL. -/
def RedirectPolicy.course (policy : RedirectPolicy) (elapsed : Nat) (u : Url) : Reply → Course
  | .silent => .ended .silent
  | .unsent millis => .ended (.unsent (elapsed + millis))
  | .answered millis r =>
    match policy.sequel u r with
    | .last => .ended (.answered (elapsed + millis) r)
    | .refused => .ended (.unsent (elapsed + millis))
    | .moved target => .moved (elapsed + millis) target

/-- **What a client sends for one call, and what comes back in the end.** Single requests are sent
by `ask`. The first number is how many redirects are left to follow, and the second how many
milliseconds have passed. -/
def exchange {m : Type → Type} [Monad m] (ask : Nat → Url → m Reply) (policy : RedirectPolicy)
    (timeoutMillis : Nat) : Nat → Nat → Url → m Exchange
  | 0, elapsed, u => do
    match policy.course elapsed u (← ask 0 u) with
    | .ended reply => return ⟨[u], reply⟩
    -- One redirect too many is as bad as one to nowhere.
    | .moved now _ => return ⟨[u], .unsent now⟩
  | left + 1, elapsed, u => do
    match policy.course elapsed u (← ask (left + 1) u) with
    | .ended reply => return ⟨[u], reply⟩
    | .moved now target =>
      if now < timeoutMillis then
        let rest ← exchange ask policy timeoutMillis left now target.requested
        return { rest with sent := u :: rest.sent }
      else return ⟨[u], .silent⟩

/-- **The reply to every single request**, when so many redirects are left to follow: who is asked
twice in one call need not reply twice alike. -/
structure Servers where
  reply : Nat → Url → Reply

namespace Servers

/-- A call to servers. -/
def exchange (servers : Servers) (policy : RedirectPolicy) (timeoutMillis : Nat)
    (left elapsed : Nat) (u : Url) : Exchange :=
  let ask (left : Nat) (u : Url) : Id Reply := pure (servers.reply left u)
  Id.run (CatalogSearch.exchange ask policy timeoutMillis left elapsed u)

/-- **The network that a client makes of servers**: what comes back in the end. -/
def network (servers : Servers) (policy : RedirectPolicy) (timeoutMillis : Nat) : Network :=
  fun u => (servers.exchange policy timeoutMillis policy.limit 0 u).reply

/-- **The requests that a client sends for one call**, the one for the URL itself first. -/
def sent (servers : Servers) (policy : RedirectPolicy) (timeoutMillis : Nat) (u : Url) : List Url :=
  (servers.exchange policy timeoutMillis policy.limit 0 u).sent

end Servers

end CatalogSearch
