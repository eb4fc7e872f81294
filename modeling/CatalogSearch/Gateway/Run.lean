import CatalogSearch.Failure
import CatalogSearch.Http.Redirect

/-! # Runs

An operation that asks sources for something leaves two things behind: its result, and what it has
asked for.

* **`Run`**: result and URLs asked for;
* **`Run.ask`**: a run that asks for some URLs;
* **`Run.requests`**: the requests that it starts with;
* **`Run.sent`**: all requests, those after redirects included. -/

namespace CatalogSearch

/-- **The result of an operation and the URLs it has asked for.** -/
structure Run (α : Type) where
  asked : List Url
  result : Except Failure α

namespace Run

variable {α β : Type}

/-- A run that asks for nothing. -/
def ofExcept (r : Except Failure α) : Run α := ⟨[], r⟩

/-- A run that asks for some URLs. -/
def ask (urls : List Url) : Run Unit := ⟨urls, .ok ()⟩

/-- One run after another. A failure ends the first one. -/
def andThen (r : Run α) (f : α → Run β) : Run β :=
  match r.result with
  | .error e => ⟨r.asked, .error e⟩
  | .ok a => ⟨r.asked ++ (f a).asked, (f a).result⟩

instance : Monad Run where
  pure a := ⟨[], .ok a⟩
  bind := andThen

/-- **The requests that are started with**: the URLs asked for that requests can go to, the way
servers see them. A client that is sent on from there sends more of them. -/
def requests (r : Run α) : List Url := (r.asked.filter Url.isReachable).map Url.requested

/-- **All requests that go out** to servers, for one URL asked for after the other, if nobody
cancels. -/
def sent (servers : Servers) (policy : RedirectPolicy) (timeoutMillis : Nat) (r : Run α) :
    List Url :=
  r.requests.flatMap (servers.sent policy timeoutMillis)

@[simp] theorem asked_ofExcept (r : Except Failure α) : (ofExcept r).asked = [] := rfl

@[simp] theorem result_ofExcept (r : Except Failure α) : (ofExcept r).result = r := rfl

/-- A failure before anything is asked is all there is. -/
@[simp] theorem ofExcept_error_bind (e : Failure) (f : α → Run β) :
    (ofExcept (.error e) >>= f) = ofExcept (.error e) := rfl

/-- What succeeds without asking leaves the rest. -/
@[simp] theorem ofExcept_ok_bind (a : α) (f : α → Run β) : (ofExcept (.ok a) >>= f) = f a := by
  simp [ofExcept, bind, andThen]

end Run

end CatalogSearch
