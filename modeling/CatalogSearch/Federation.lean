import CatalogSearch.Config.Layers
import CatalogSearch.Engagement.Basic
import CatalogSearch.FilterCatalog
import CatalogSearch.Gateway.Basic
import CatalogSearch.Merge.Basic

/-! # Federated search

All sources together, as one catalog.

* **`Federation`**: the sources, the way to them, and what users think of their items;
* **`Federation.search`**: a page of what all active sources have;
* **`Federation.searchByIds`**: a page of items that are known by their keys;
* **`Federation.details`**: one item;
* **`Federation.filters`**: what there is to choose from. -/

namespace CatalogSearch

/-- The way to the sources that a configuration describes. -/
def Config.settings (c : Config) : Gateway.Settings where
  timeoutMillis := c.timeoutMillis
  searchPath := c.searchPath
  detailsPath := c.detailsPath
  subjectPath := c.subjectPath

/-- **The sources, the way to them, and what users think of their items.** -/
structure Federation where
  registry : Registry
  gateway : Gateway
  engagement : Engagement := {}

namespace Federation

/-- The federation a configuration describes. -/
def ofConfig (c : Config) (network : Network) : Federation where
  registry := c.registry
  gateway := ⟨c.settings, network⟩

/-- **The same federation over some servers**, with a client that follows redirects. -/
def servedBy (f : Federation) (policy : RedirectPolicy) (servers : Servers) : Federation :=
  { f with gateway := .ofServers f.gateway.settings policy servers }

/-! ## Searching -/

/-- **The sources that a request is for**: the active ones, or the one of them that it names. -/
def selected (f : Federation) (r : SearchRequest) : List Source :=
  match r.publisher.map Text.trimmed with
  -- A blank name selects as none does.
  | some id => if id = "" then f.registry.active else f.registry.active.filter (·.id = id)
  | none => f.registry.active

/-- **A page of what all active sources have.** -/
def search (f : Federation) (r : SearchRequest) (page : PageRequest) (cancel : Cancellation) :
    Run ResultPage := do
  Run.ofExcept page.validate
  match f.selected r with
  | [] => return .empty page
  | sources =>
    let results ← f.gateway.searchAll (sources.map fun s => (s, r)) page cancel
    return merge results page .external

/-! ## Known items -/

/-- The first key that names nothing is refused. -/
def checkKeys (keys : List ItemKey) : Except Failure Unit :=
  match keys.find? fun k => decide k.IsBlank with
  | some k => .error (.invalidRequest (.blankKey k))
  | none => .ok ()

/-- The query that a group of keys becomes, if its source is known. -/
def groupQuery? (f : Federation) (base : SearchRequest) (g : KeyGroup) :
    Option (Source × SearchRequest) :=
  (f.registry.source? g.sourceId).map fun s => (s, { base with id := g.itemIds })

/-- **One request for each known source among some keys**, in the order in which the keys first name
them. -/
def idQueries (f : Federation) (keys : List ItemKey) (base : SearchRequest) :
    List (Source × SearchRequest) :=
  (KeyGroup.ofKeys keys).filterMap (f.groupQuery? base)

/-- **A page of items that are known by their keys.** The keys are one page already, so the sources
are asked from their first item on, and the page number is only passed on. -/
def searchByIds (f : Federation) (keys : List ItemKey) (base : SearchRequest) (page : PageRequest)
    (order : MergeOrder) (cancel : Cancellation) : Run ResultPage := do
  Run.ofExcept page.validate
  Run.ofExcept (checkKeys keys)
  match f.idQueries keys base with
  | [] => return .empty page
  | queries =>
    -- Sources and merging know the first page only; the answer carries the number asked for.
    let first := { page with number := 0 }
    let results ← f.gateway.searchAll queries first cancel
    return { merge results first order with pageNumber := page.number }

/-! ## Single items and filters -/

/-- A source by its id. -/
def requireSource (f : Federation) (id : String) : Except Failure Source :=
  match f.registry.source? id with
  | some s => .ok s
  | none => .error (.unknownSource id)

/-- An item with what users think of it. -/
def engaged (f : Federation) (key : ItemKey) (user : Option String) (r : Resource) :
    ResourceDetails where
  resource := r
  favorite := user.any fun u => f.engagement.isFavorite u key
  rated := user.any fun u => f.engagement.hasRated u key
  totalRatingsCount := (f.engagement.votes key).total
  currentRating := (f.engagement.votes key).average?

/-- **One item**, with what a user thinks of it, if one asks. -/
def details (f : Federation) (sourceId itemId : String) (user : Option String) :
    Run ResourceDetails := do
  if Text.blank itemId then Run.ofExcept (.error (.invalidRequest .blankItemId))
  else
    let s ← Run.ofExcept (f.requireSource sourceId)
    let r ← f.gateway.details s itemId
    return f.engaged ⟨s.id, itemId⟩ user r

/-- **What there is to choose from**: the subjects of all active sources, and everything that is the
same for all. -/
def filters (f : Federation) (cancel : Cancellation) : Run FilterCatalog := do
  let sources := f.registry.active
  let names ← f.gateway.subjects sources cancel
  return .build names sources

end Federation

end CatalogSearch
