import CatalogSearch.Json.Value
import CatalogSearch.Source.Registry
import CatalogSearch.Toml.Reader

/-! # Configurations

Which sources there are, and how they are asked.

* **`SourceConfig`**: a source as a configuration describes it;
* **`Config`**: a configuration; what is left out has its usual value;
* **`Config.ofToml?`**: the configuration a TOML text describes;
* **`Config.registry`**: the sources of a configuration. -/

namespace CatalogSearch

/-- **A source as a configuration describes it.** -/
structure SourceConfig where
  id : String
  name : String
  searchUrl : String
  /-- Where single resources are found, if that is somewhere else. -/
  detailsUrl : Option String := none
  active : Bool := true
  deriving DecidableEq, Repr

/-- **A configuration.** -/
structure Config where
  /-- How many seconds a source has for its answer. -/
  requestTimeoutSecs : UInt64 := 10
  searchPath : String := "/resources"
  detailsPath : String := "/resources"
  subjectPath : String := "/subjects"
  /-- The name of the source that speaks the dialect of the DUF. -/
  dufProviderName : Option String := none
  sources : List SourceConfig := []
  deriving DecidableEq, Repr, Inhabited

/-! ## From TOML -/

namespace Toml

/-- A string. -/
def text? : Toml → Option String
  | .string s => some s
  | _ => none

/-- A truth value. -/
def flag? : Toml → Option Bool
  | .boolean b => some b
  | _ => none

/-- A number of 64 bits without sign. -/
def word64? : Toml → Option UInt64
  | .integer (.ofNat n) => if n < UInt64.size then some (UInt64.ofNat n) else none
  | _ => none

/-- The items of an array. -/
def items? : Toml → Option (List Toml)
  | .array items => some items
  | _ => none

/-- A value that may be missing, but not be wrong; if missing, `usual` stands for it. -/
def orUsual {α : Type} (usual : α) (read : Toml → Option α) : Option Toml → Option α
  | none => some usual
  | some v => read v

end Toml

namespace SourceConfig

/-- The source of four or five values; the last two may be missing. -/
def ofParts? (id name searchUrl : Toml) (detailsUrl active : Option Toml) :
    Option SourceConfig := do
  let id ← id.text?
  let name ← name.text?
  let searchUrl ← searchUrl.text?
  let detailsUrl ← Toml.orUsual none (fun v => v.text?.map some) detailsUrl
  let active ← Toml.orUsual true Toml.flag? active
  return { id, name, searchUrl, detailsUrl, active }

/-- **The source a value describes**: a table, or an array of its members in order. -/
def ofToml? : Toml → Option SourceConfig
  | .table ms => do
    ofParts? (← ms.lookup "id") (← ms.lookup "name") (← ms.lookup "search_url")
      (ms.lookup "details_url") (ms.lookup "active")
  | .array (id :: name :: searchUrl :: rest) => ofParts? id name searchUrl rest[0]? rest[1]?
  | _ => none

/-- The source as the registry keeps it, in the given dialect. -/
def toSource (s : SourceConfig) (dialect : Dialect) : Source where
  id := s.id
  displayName := s.name
  searchBaseUrl := s.searchUrl
  detailsBaseUrl := s.detailsUrl.getD s.searchUrl
  dialect := dialect

/-- The JSON value of a source of a configuration. -/
def toJson (s : SourceConfig) : Json :=
  .object
    [ ("id", .string s.id),
      ("name", .string s.name),
      ("search_url", .string s.searchUrl),
      ("details_url", (s.detailsUrl.map Json.string).getD .null),
      ("active", .bool s.active) ]

end SourceConfig

namespace Config

/-- The configuration a table describes. Members of other names are passed over. -/
def ofTable? (ms : Toml.Table) : Option Config := do
  let usual : Config := {}
  let requestTimeoutSecs ←
    Toml.orUsual usual.requestTimeoutSecs Toml.word64? (ms.lookup "request_timeout_secs")
  let searchPath ← Toml.orUsual usual.searchPath Toml.text? (ms.lookup "search_path")
  let detailsPath ← Toml.orUsual usual.detailsPath Toml.text? (ms.lookup "details_path")
  let subjectPath ← Toml.orUsual usual.subjectPath Toml.text? (ms.lookup "subject_path")
  let dufProviderName ←
    Toml.orUsual none (fun v => v.text?.map some) (ms.lookup "duf_provider_name")
  let sources ←
    Toml.orUsual [] (fun v => v.items?.bind (·.mapM SourceConfig.ofToml?)) (ms.lookup "sources")
  return { requestTimeoutSecs, searchPath, detailsPath, subjectPath, dufProviderName, sources }

/-- **The configuration a TOML text describes.** -/
def ofToml? (cs : List Char) : Option Config := (Toml.read? cs).bind ofTable?

/-- The JSON value of a configuration. -/
def toJson (c : Config) : Json :=
  .object
    [ ("request_timeout_secs", .ofNat c.requestTimeoutSecs.toNat),
      ("search_path", .string c.searchPath),
      ("details_path", .string c.detailsPath),
      ("subject_path", .string c.subjectPath),
      ("duf_provider_name", (c.dufProviderName.map Json.string).getD .null),
      ("sources", .array (c.sources.map SourceConfig.toJson)) ]

/-! ## What follows from a configuration -/

/-- The dialect of a source, by its name. -/
def dialectOf (c : Config) (name : String) : Dialect :=
  if c.dufProviderName = some name then .duf else .common

/-- **The sources of a configuration.** -/
def registry (c : Config) : Registry :=
  .ofList (c.sources.map fun s => ⟨s.toSource (c.dialectOf s.name), s.active⟩)

/-- How many milliseconds a source has for its answer. -/
def timeoutMillis (c : Config) : Nat := 1000 * c.requestTimeoutSecs.toNat

end Config

end CatalogSearch
