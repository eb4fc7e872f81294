import CatalogSearch.CommandLine.Invocation
import CatalogSearch.Federation

/-! # The command line

The program from its words to what it leaves.

* **`CommandFailure`**: why a command fails;
* **`Outcome`**: what the program writes, and the code it ends with;
* **`Command.run`**: the outcome of a command;
* **`run`**: the outcome of some words. -/

namespace CatalogSearch.CommandLine

/-- **Why a command fails.** -/
inductive CommandFailure where
  | configuration (why : Failure)
  /-- No term has this code. -/
  | unknownCode (kind code : String)
  | search (why : Failure)
  | details (sourceId itemId : String) (why : Failure)
  | filters (why : Failure)
  deriving DecidableEq, Repr

/-- A failed command in words. -/
def CommandFailure.message : CommandFailure → String
  | .configuration why => "loading configuration: " ++ why.message
  | .unknownCode kind code => "unknown " ++ kind ++ " code: " ++ code
  | .search why => "search failed: " ++ why.message
  | .details sourceId itemId why =>
    "details of " ++ sourceId ++ "/" ++ itemId ++ ": " ++ why.message
  | .filters why => "collecting filters: " ++ why.message

/-! ## Searches -/

/-- The term of a code. -/
def termOf {α : Type} [Vocabulary α] (code : String) : Except CommandFailure α :=
  match Vocabulary.ofCode? code with
  | some t => .ok t
  | none => .error (.unknownCode (Vocabulary.kind α) code)

namespace SearchOptions

/-- The request of a search. -/
def request (o : SearchOptions) : Except CommandFailure SearchRequest := do
  let subject ← o.subjects.mapM termOf
  let technicalFormat ← o.formats.mapM termOf
  return { search := o.search, publisher := o.publisher, subject, technicalFormat }

/-- The page of a search. -/
def pageRequest (o : SearchOptions) : PageRequest :=
  let usual : PageRequest := {}
  ⟨o.page.getD usual.number, o.size.getD usual.size, o.sort⟩

end SearchOptions

/-! ## Outcomes -/

/-- **What the program leaves.** -/
structure Outcome where
  /-- The code it ends with. -/
  code : UInt8 := 0
  /-- What is written as the result. -/
  output : String := ""
  /-- What is written about a failure. -/
  complaint : String := ""
  /-- The requests it has made. -/
  requests : List Url := []
  /-- How many milliseconds each of them had for its answer. -/
  timeoutMillis : Nat := 0

namespace Outcome

/-- The outcome of a failure. -/
def failed (why : CommandFailure) : Outcome :=
  { code := 1, complaint := "Error: " ++ why.message ++ "\n" }

/-- The outcome of a run. -/
def ofRun {α : Type} (f : Federation) (failure : Failure → CommandFailure) (write : α → Json)
    (r : Run α) : Outcome :=
  let outcome : Outcome :=
    match r.result with
    | .ok a => { output := (write a).pretty ++ "\n" }
    | .error why => failed (failure why)
  { outcome with requests := r.requests, timeoutMillis := f.gateway.settings.timeoutMillis }

end Outcome

/-- **The outcome of a command.** -/
def Command.run (f : Federation) : Command → Outcome
  | .search options =>
    match options.request with
    | .error why => .failed why
    | .ok request =>
      .ofRun f .search ResultPage.toJson (f.search request options.pageRequest none)
  | .details sourceId itemId =>
    .ofRun f (.details sourceId itemId) ResourceDetails.toJson (f.details sourceId itemId none)
  | .filters => .ofRun f .filters FilterCatalog.toJson (f.filters none)

/-- The outcome of a command with its configuration. -/
def Invocation.run (env : Environment) (network : Network) (i : Invocation) : Outcome :=
  match Config.load env i.config with
  | .error why => .failed (.configuration why)
  | .ok c => i.command.run (.ofConfig c network)

/-- The program by name and version. -/
def version : String := "lor-federation 0.1.0"

/-- How the program is used. -/
def usage : String :=
  String.intercalate "\n"
    [ "Usage: lor-federation [--config FILE] [-v]... [--json-logs] COMMAND",
      "",
      "Commands:",
      "  search   [--search TEXT] [--subject CODE]... [--format CODE]... [--publisher ID]",
      "           [--page N] [--size N] [--sort KEY]",
      "  details  SOURCE ITEM",
      "  filters",
      "" ]

/-- **The outcome of some words.** -/
def run (env : Environment) (network : Network) (words : List String) : Outcome :=
  match Invocation.read env.lookup words with
  | .error .version => { output := version ++ "\n" }
  | .error .help => { output := usage }
  | .error .misuse => { code := 2, complaint := usage }
  | .ok i => i.run env network

end CatalogSearch.CommandLine
