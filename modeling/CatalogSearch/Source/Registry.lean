import CatalogSearch.Source.Basic

/-! # The registry of sources

The known sources in the order of their names, each of them active or not.

* **`Registry`**: the sources;
* **`Registry.ofList`**: the registry of a list of sources;
* **`Registry.active`**, **`Registry.source?`**, **`Registry.sources`**: the active sources, and
  sources by their ids;
* **`Registry.setActive?`**: one source switched on or off. -/

namespace CatalogSearch

/-- A source of a registry. -/
structure Registry.Entry where
  source : Source
  active : Bool := true
  deriving DecidableEq, Repr

/-- **The known sources**, in the order of their names. -/
structure Registry where
  entries : List Registry.Entry
  deriving DecidableEq, Repr

namespace Registry

/-- The order of entries: by display name. -/
def Entry.le (a b : Entry) : Bool := (Text.compare a.source.displayName b.source.displayName).isLE

/-- **The registry of a list of sources.** Sources of one name stay in the order of the list. -/
def ofList (entries : List Entry) : Registry := ⟨entries.mergeSort Entry.le⟩

/-- Nothing is lost and nothing added. -/
theorem perm_entries_ofList (entries : List Entry) : (ofList entries).entries.Perm entries :=
  List.mergeSort_perm entries Entry.le

/-- **The active sources.** -/
def active (r : Registry) : List Source := (r.entries.filter (·.active)).map (·.source)

/-- The source with the given id, active or not. -/
def source? (r : Registry) (id : String) : Option Source :=
  (r.entries.find? fun e => e.source.id == id).map (·.source)

/-- The sources with the given ids. Ids of no source are passed over. -/
def sources (r : Registry) (ids : List String) : List Source := ids.filterMap r.source?

/-- A source found by its id has that id. -/
theorem id_of_source? {r : Registry} {id : String} {s : Source} (h : r.source? id = some s) :
    s.id = id := by
  simp only [source?, Option.map_eq_some_iff] at h
  obtain ⟨e, he, rfl⟩ := h
  simpa using List.find?_some he

/-- Entries with the first one of the given id switched on or off. -/
def switch? (id : String) (active : Bool) : List Entry → Option (List Entry)
  | [] => none
  | e :: es =>
    if e.source.id = id then some ({ e with active := active } :: es)
    else (switch? id active es).map (e :: ·)

/-- **The registry with one source switched on or off**; none if there is no such source. -/
def setActive? (r : Registry) (id : String) (active : Bool) : Option Registry :=
  (switch? id active r.entries).map (⟨·⟩)

end Registry

end CatalogSearch
