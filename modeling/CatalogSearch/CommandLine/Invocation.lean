import CatalogSearch.CommandLine.Grammar
import CatalogSearch.Config.Layers

/-! # Invocations

What is asked of the program on its command line:

* **`Command`**: search, the details of an item, or the values to filter by;
* **`Invocation`**: a command with the file that configures it;
* **`Invocation.read`**: the invocation some words stand for. -/

namespace CatalogSearch.CommandLine

/-- **What to search for**, as it is given. -/
structure SearchOptions where
  search : Option String := none
  /-- Codes of subjects. -/
  subjects : List String := []
  /-- Codes of technical formats. -/
  formats : List String := []
  publisher : Option String := none
  page : Option UInt32 := none
  size : Option UInt32 := none
  sort : Option SortKey := none
  deriving DecidableEq, Repr, Inhabited

/-- **What the program is to do.** -/
inductive Command where
  | search (options : SearchOptions)
  | details (sourceId itemId : String)
  | filters
  deriving DecidableEq, Repr

/-- **A command**, and the file that configures it. -/
structure Invocation where
  config : Option String
  command : Command
  deriving DecidableEq, Repr

/-! ## Options of every command -/

/-- What has been read of a level: the options that every command has, and what is its own. -/
structure Level (α : Type) where
  config : Option String := none
  /-- Whether messages are to be lines of JSON. -/
  jsonLogs : Option Unit := none
  own : α

/-- Names the file, which cannot be the empty one. -/
def setConfig {α : Type} (path : String) (l : Level α) : Except Stop (Level α) :=
  if path = "" then .error .misuse
  else (once l.config path).map fun config => { l with config := config }

/-- Asks for more messages. It may be asked for any number of times, and nothing depends on it. -/
def setVerbose {α : Type} (l : Level α) : Except Stop (Level α) := .ok l

/-- Asks for messages as JSON. -/
def setJsonLogs {α : Type} (l : Level α) : Except Stop (Level α) :=
  (once l.jsonLogs ()).map fun jsonLogs => { l with jsonLogs := jsonLogs }

/-- The options that every command has, and some of its own, on what is its own. -/
def Grammar.level {α : Type} (long : String → Option (Effect α)) (plain : Plain α) :
    Grammar (Level α) where
  long name :=
    match name with
    | "config" => some (.valued setConfig)
    | "verbose" => some (.flag setVerbose)
    | "json-logs" => some (.flag setJsonLogs)
    | "help" => some (.flag fun _ => .error .help)
    | name =>
      (long name).map fun
        | .flag set => .flag fun l => (set l.own).map fun own => { l with own := own }
        | .valued set => .valued fun v l => (set v l.own).map fun own => { l with own := own }
  short c :=
    match c with
    | 'v' => some (.flag setVerbose)
    | 'h' => some (.flag fun _ => .error .help)
    | _ => none
  plain :=
    match plain with
    | .leaves => .leaves
    | .takes set => .takes fun v l => (set v l.own).map fun own => { l with own := own }

/-! ## Options of single commands -/

/-- No options. -/
def noOptions {α : Type} : String → Option (Effect α) := fun _ => none

/-- No plain words. -/
def noWords {α : Type} : Plain α := .takes fun _ _ => .error .misuse

/-- The program itself: the version, and then a command. -/
def Grammar.program : Grammar (Level Unit) :=
  let g : Grammar (Level Unit) := .level noOptions .leaves
  let version : Effect (Level Unit) := .flag fun _ => .error .version
  { g with
    long := fun name => if name = "version" then some version else g.long name
    short := fun c => if c = 'V' then some version else g.short c }

/-- A word of 32 bits, with an optional sign. -/
def word32? (text : String) : Option UInt32 :=
  match text.toList with
  | '-' :: cs => (Text.readNat? cs).bind fun n => if n = 0 then some 0 else none
  | cs => (Text.readBounded? (UInt32.size - 1) cs).map UInt32.ofNat

/-- A value that has to be read, for an option that may be given once. -/
def onceRead {α : Type} (before : Option α) (value : Option α) : Except Stop (Option α) :=
  match value with
  | some v => once before v
  | none => .error .misuse

/-- The options of a search. -/
def SearchOptions.effect : String → Option (Effect SearchOptions)
  | "search" => some (.valued fun v o => (once o.search v).map fun x => { o with search := x })
  | "subject" => some (.valued fun v o => .ok { o with subjects := o.subjects ++ [v] })
  | "format" => some (.valued fun v o => .ok { o with formats := o.formats ++ [v] })
  | "publisher" =>
    some (.valued fun v o => (once o.publisher v).map fun x => { o with publisher := x })
  | "page" =>
    some (.valued fun v o => (onceRead o.page (word32? v)).map fun x => { o with page := x })
  | "size" =>
    some (.valued fun v o => (onceRead o.size (word32? v)).map fun x => { o with size := x })
  | "sort" =>
    some (.valued fun v o =>
      (onceRead o.sort (SortKey.parse v).toOption).map fun x => { o with sort := x })
  | _ => none

/-- A search. -/
def Grammar.search : Grammar (Level SearchOptions) := .level SearchOptions.effect noWords

/-- The plain words of an item: its source, and its id there. -/
def Grammar.details : Grammar (Level (List String)) :=
  .level noOptions (.takes fun v own =>
    if own.length < 2 then .ok (own ++ [v]) else .error .misuse)

/-- A command without anything of its own. -/
def Grammar.filters : Grammar (Level Unit) := .level noOptions noWords

/-! ## Invocations -/

/-- The file of two levels, of which the inner one counts more, and both count more than the
environment. A level that leaves it to the environment must not find the empty name there. -/
def configPath (lookup : String → Option String) (outer inner : Option String) :
    Except Stop (Option String) :=
  let usual := lookup Config.pathVariable
  if usual = some "" ∧ (outer = none ∨ inner = none) then .error .misuse
  else .ok (inner <|> outer <|> usual)

/-- A command behind the options of the program. -/
def readCommand {α : Type} (lookup : String → Option String) (outer : Level Unit)
    (g : Grammar (Level α)) (start : α) (words : List String)
    (command : α → Except Stop Command) : Except Stop Invocation := do
  let (inner, _) ← g.read words { own := start }
  let command ← command inner.own
  return ⟨← configPath lookup outer.config inner.config, command⟩

/-- Help on a command, if that is one. -/
def readHelp : List String → Stop
  | [] | ["search"] | ["details"] | ["filters"] | ["help"] => .help
  | _ => .misuse

/-- **The invocation some words stand for.** -/
def Invocation.read (lookup : String → Option String) (words : List String) :
    Except Stop Invocation := do
  let (outer, rest) ← Grammar.program.read words { own := () }
  match rest with
  | "search" :: words =>
    readCommand lookup outer .search {} words fun o => .ok (.search o)
  | "details" :: words =>
    readCommand lookup outer .details [] words fun
      | [sourceId, itemId] => .ok (.details sourceId itemId)
      | _ => .error .misuse
  | "filters" :: words => readCommand lookup outer .filters () words fun _ => .ok .filters
  | "help" :: words => .error (readHelp words)
  | _ => .error .misuse

end CatalogSearch.CommandLine
