import CatalogSearch.Config.Basic
import CatalogSearch.Failure

/-! # Layers of a configuration

A configuration is made of three layers, and later ones win: the usual values, a file, and the
environment.

* **`Environment`**: named values and files;
* **`Config.applyEnvironment`**: what the environment does to a configuration, variable by variable;
* **`Config.override`**: a configuration with what the environment says;
* **`Config.validate`**: a configuration that can be used;
* **`Config.load`**: all layers together. -/

namespace CatalogSearch

/-- **What a program finds around it**: named values, and files by their paths. -/
structure Environment where
  lookup : String → Option String
  file : String → Except FileFault (List UInt8)

/-- The text of a file. -/
def Environment.text (env : Environment) (path : String) : Except FileFault (List Char) :=
  match env.file path with
  | .error fault => .error fault
  | .ok bytes => (Text.Utf8.decode bytes).mapError fun _ => .notText

namespace Config

/-- The variable that names the file. -/
def pathVariable : String := "LOR_FEDERATION_CONFIG"

/-- All variables that count. -/
def variableNames : List String :=
  [ pathVariable, "LOR_REQUEST_TIMEOUT_SECS", "LOR_SEARCH_PATH", "LOR_DETAILS_PATH",
    "LOR_SUBJECT_PATH", "LOR_DUF_PROVIDER_NAME" ]

/-- The largest number of seconds. -/
def maxTimeout : Nat := UInt64.size - 1

/-- **What is done to a configuration**, one thing after the other. A fault ends it, and what was
done by then stays done. -/
abbrev Setting := ExceptT ConfigFault (StateM Config)

/-- What is done with a variable of the environment, if it is there. -/
def withVariable (lookup : String → Option String) (name : String) (set : String → Setting Unit) :
    Setting Unit :=
  match lookup name with
  | none => pure ()
  | some raw => set raw

/-- The timeout is set to what a text gives. -/
def setTimeout (raw : String) : Setting Unit :=
  match Text.readBounded? maxTimeout (Text.trim raw.toList) with
  | some n => modify fun c => { c with requestTimeoutSecs := UInt64.ofNat n }
  | none => throw (.timeoutNoNumber raw)

/-- The name of the DUF that a text gives; a blank text gives none. -/
def dufNameOf (raw : String) : Option String := if Text.blank raw then none else some raw

/-- The name of the DUF is set to what a text gives. -/
def setDufName (raw : String) : Setting Unit :=
  modify fun c => { c with dufProviderName := dufNameOf raw }

/-- **What the environment does to a configuration.** -/
def applyEnvironment (lookup : String → Option String) : Setting Unit := do
  withVariable lookup "LOR_REQUEST_TIMEOUT_SECS" setTimeout
  withVariable lookup "LOR_SEARCH_PATH" fun path => modify fun c => { c with searchPath := path }
  withVariable lookup "LOR_DETAILS_PATH" fun path => modify fun c => { c with detailsPath := path }
  withVariable lookup "LOR_SUBJECT_PATH" fun path => modify fun c => { c with subjectPath := path }
  withVariable lookup "LOR_DUF_PROVIDER_NAME" setDufName

/-- **A configuration with what the environment says.** -/
def override (c : Config) (lookup : String → Option String) : Except ConfigFault Config :=
  match (applyEnvironment lookup).run.run c with
  | (.ok (), c) => .ok c
  | (.error fault, _) => .error fault

/-- What is wrong with the first faulty source, when the ids in `seen` are taken. -/
def sourceFault? (seen : List String) : List SourceConfig → Option ConfigFault
  | [] => none
  | s :: ss =>
    if s.id ∈ seen then some (.duplicateSource s.id)
    else if Text.blank s.searchUrl then some (.blankSearchUrl s.id)
    else if s.detailsUrl.any Text.blank then some (.blankDetailsUrl s.id)
    else sourceFault? (s.id :: seen) ss

/-- What is wrong with a configuration. -/
def fault? (c : Config) : Option ConfigFault :=
  if c.requestTimeoutSecs = 0 then some .zeroTimeout else sourceFault? [] c.sources

/-- **A configuration that can be used.** -/
def validate (c : Config) : Except ConfigFault Unit :=
  match c.fault? with
  | none => .ok ()
  | some fault => .error fault

/-- The configuration of a file. -/
def ofFile (env : Environment) (path : String) : Except Failure Config :=
  match env.text path with
  | .error fault => .error (.config (.unreadable path fault))
  | .ok cs =>
    match ofToml? cs with
    | some c => .ok c
    | none => .error .toml

/-- **All layers together.** The file is the given one, or the one that the environment names. -/
def load (env : Environment) (path : Option String) : Except Failure Config := do
  let c ← match path <|> env.lookup pathVariable with
    | some path => ofFile env path
    | none => .ok {}
  -- Only what all layers make together has to be usable.
  let c ← (c.override env.lookup).mapError .config
  c.validate.mapError .config
  return c

end Config

end CatalogSearch
