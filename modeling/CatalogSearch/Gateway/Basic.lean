import CatalogSearch.Gateway.Endpoint
import CatalogSearch.Gateway.Run
import CatalogSearch.Gateway.Subjects
import CatalogSearch.Http.Network
import CatalogSearch.Source.Answer

/-! # The gateway to the sources

Asks sources over a network. When many are asked at once, each has its own time, and one that fails
in any way, or is cut off when the caller cancels, counts as having nothing.

* **`Gateway`**: a network and how it is used;
* **`Gateway.ofServers`**: the network that a client makes of servers;
* **`Gateway.response`**: what comes of asking one URL;
* **`Gateway.inTime`**: whether that is before the caller cancels;
* **`Gateway.searchAll`**: searches at many sources;
* **`Gateway.subjects`**: the subjects of many sources;
* **`Gateway.details`**: one item of one source. -/

namespace CatalogSearch

/-- **A network and how it is used.** -/
structure Gateway where
  settings : Gateway.Settings := {}
  network : Network

/-- The gateway over the network that a client makes of servers. -/
def Gateway.ofServers (settings : Gateway.Settings) (policy : RedirectPolicy)
    (servers : Servers) : Gateway :=
  ⟨settings, servers.network policy settings.timeoutMillis⟩

/-- A URL of a source. -/
structure Gateway.Call where
  source : Source
  url : Url

/-- The moment the caller cancels, in milliseconds after the start; none for never. -/
abbrev Cancellation := Option Nat

namespace Gateway

/-! ## One call -/

/-- How many milliseconds a call takes. -/
def duration (g : Gateway) (c : Call) : Nat :=
  if c.url.isReachable then
    match (g.network c.url.requested).millis? with
    | some millis => min g.settings.timeoutMillis millis
    | none => g.settings.timeoutMillis
  else 0

/-- **What comes of asking a URL**: an answer in time, or an outage. -/
def reply (g : Gateway) (u : Url) : Except Outage Response :=
  if u.isReachable then
    match g.network u.requested with
    | .answered millis r =>
      if millis ≤ g.settings.timeoutMillis then .ok r
      else .error (.timedOut g.settings.timeoutMillis)
    | .unsent millis =>
      if millis ≤ g.settings.timeoutMillis then .error .unsent
      else .error (.timedOut g.settings.timeoutMillis)
    | .silent => .error (.timedOut g.settings.timeoutMillis)
  else .error (.unsupportedUrl (String.ofList u.withoutUser.text))

/-- An answer whose status is a success. -/
def ensureSuccess (r : Response) : Except Outage Response :=
  if r.status.isSuccess then .ok r else .error (.status r.status)

/-- The body of an answer. -/
def body (r : Response) : Except Outage (List UInt8) :=
  match r.body with
  | some bytes => .ok bytes
  | none => .error .interrupted

/-- The body of a successful answer, read by `read`. -/
def readBody {α : Type} (s : Source) (read : List UInt8 → Decoded α) (r : Response) :
    Except Failure α := do
  let r ← (ensureSuccess r).mapError (.sourceUnavailable s.displayName)
  let bytes ← (body r).mapError (.sourceUnavailable s.displayName)
  (read bytes).mapError fun _ => .sourceBadResponse s.displayName

/-- The answer to a call. -/
def response (g : Gateway) (c : Call) : Except Failure Response :=
  (g.reply c.url).mapError (.sourceUnavailable c.source.displayName)

/-! ## Many calls -/

/-- **Whether a call ends before the caller cancels.** -/
def inTime (g : Gateway) (cancel : Cancellation) (c : Call) : Bool :=
  match cancel with
  | none => true
  | some moment => g.duration c < moment

/-- What a call yields among many: nothing if it fails or is cut off. -/
def yielded {α : Type} [Inhabited α] (g : Gateway) (cancel : Cancellation)
    (read : Call → Response → Except Failure α) (c : Call) : α :=
  if g.inTime cancel c then
    match (g.response c).bind (read c) with
    | .ok a => a
    | .error _ => default
  else default

/-- **Many calls at once.** All are made at the start, unless the caller has cancelled before. -/
def gather {α : Type} [Inhabited α] (g : Gateway) (cancel : Cancellation)
    (read : Call → Response → Except Failure α) (calls : List Call) : Run (List α) := do
  Run.ask (if cancel = some 0 then [] else calls.map (·.url))
  return calls.map (g.yielded cancel read)

/-! ## Searching -/

/-- The header with the number of matches. -/
def totalHeader : String := "X-Total-Count"

/-- The number of matches that an answer declares; without such a number it counts as zero. -/
def declaredMatches (r : Response) : UInt64 :=
  UInt64.ofNat (((r.header? totalHeader).bind fun cs =>
    Text.readBounded? (UInt64.size - 1) (Text.trim cs)).getD 0)

/-- The answer to a search. -/
def readAnswer (c : Call) (r : Response) : Except Failure SourceAnswer :=
  (readBody c.source ResourceSet.codec.readBytes r).map fun set =>
    ⟨set.resources, declaredMatches r⟩

/-- The call of a search. -/
def searchCall (g : Gateway) (page : PageRequest) (q : Source × SearchRequest) :
    Except Failure Call :=
  (q.1.searchUrl g.settings page q.2).map (⟨q.1, ·⟩)

/-- **Searches at many sources**, each with a request of its own. Everything that is wrong with the
requests or the URLs is found before any source is asked. -/
def searchAll (g : Gateway) (queries : List (Source × SearchRequest)) (page : PageRequest)
    (cancel : Cancellation) : Run (List SourceResult) := do
  Run.ofExcept page.validate
  -- All calls are made up before the first of them is sent.
  let calls ← Run.ofExcept (queries.mapM (g.searchCall page))
  let answers ← g.gather cancel readAnswer calls
  return calls.zipWith (fun c a => SourceResult.ofAnswer c.source a) answers

/-! ## Subjects -/

/-- The names in a list of subjects. -/
def readSubjects (c : Call) (r : Response) : Except Failure (List String) :=
  (readBody c.source (fun bytes => SubjectList.readDocument (Json.readBytes bytes)) r).map
    SubjectList.names

/-- The call for the subjects of a source. -/
def subjectsCall (g : Gateway) (s : Source) : Except Failure Call :=
  (s.subjectsUrl g.settings).map (⟨s, ·⟩)

/-- **The subjects of many sources**, each name at its first place. -/
def subjects (g : Gateway) (sources : List Source) (cancel : Cancellation) : Run (List String) := do
  let calls ← Run.ofExcept (sources.mapM g.subjectsCall)
  let names ← g.gather cancel readSubjects calls
  -- A name that several sources have is listed where the first of them has it.
  return names.flatten.eraseDups

/-! ## Single items -/

/-- The item in an answer. A status that says the request was wrong means there is no such item. -/
def readItem (s : Source) (itemId : String) (r : Response) : Except Failure Resource :=
  if r.status.isClientError then .error (.itemNotFound s.id itemId)
  else (readBody s Resource.codec.readBytes r).map (Resource.stamp s)

/-- **One item of a source.** All failures are the caller's to see. -/
def details (g : Gateway) (s : Source) (itemId : String) : Run Resource := do
  let url ← Run.ofExcept (s.detailsUrl g.settings itemId)
  Run.ask [url]
  Run.ofExcept ((g.response ⟨s, url⟩).bind (readItem s itemId))

end Gateway

end CatalogSearch
