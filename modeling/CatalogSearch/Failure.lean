import CatalogSearch.Filter.Encode
import CatalogSearch.Http.Status
import CatalogSearch.Page
import CatalogSearch.Resource.Key
import CatalogSearch.Url.Fault

/-! # Failures

Everything that can go wrong, by its cause. A failure of a source (`Failure.isSourceFailure`) is one
the others make up for when many are asked at once; all other failures are found before anybody is
asked.

* **`Outage`**, **`RequestFault`**, **`SourceUrlFault`**, **`ConfigFault`**: the causes in detail;
* **`Failure`**: all failures;
* **`Failure.message`**: a failure in words. -/

namespace CatalogSearch

/-- Why a source gave no usable answer. -/
inductive Outage where
  /-- The request could not be sent, nothing came back, or redirects led nowhere. -/
  | unsent
  /-- Requests do not go to URLs of this scheme. -/
  | unsupportedUrl (url : String)
  /-- The answer broke off. -/
  | interrupted
  /-- The answer has a status that is no success. -/
  | status (s : Status)
  /-- There was no answer within so many milliseconds. -/
  | timedOut (millis : Nat)
  deriving DecidableEq, Repr

/-- An outage in words. -/
def Outage.message : Outage → String
  | .unsent => "error sending request"
  | .unsupportedUrl url => "builder error for url (" ++ url ++ ")"
  | .interrupted => "error decoding response body"
  | .status s => "HTTP " ++ s.text
  | .timedOut millis => s!"timed out after {millis}ms"

/-- What is wrong with a request. -/
inductive RequestFault where
  /-- A page holds no items. -/
  | emptyPage
  | blankItemId
  | blankKey (key : ItemKey)
  | unsupportedSort (sort : UnsupportedSort)
  | filter (fault : Clause.EncodedFault)
  deriving DecidableEq, Repr

/-- A fault of a request in words. -/
def RequestFault.message : RequestFault → String
  | .emptyPage => "page size must be greater than zero"
  | .blankItemId => "blank item id"
  | .blankKey key => "blank id in item key " ++ key.description
  | .unsupportedSort sort => "unsupported sort: " ++ sort.text
  | .filter (.notText fault) => "filter is not UTF-8: " ++ fault.message
  | .filter (.malformed fault) =>
    "malformed filter near " ++ String.ofList (Text.quote fault.near) ++ ": " ++ fault.why.message

/-- What is wrong with the URL of a source. -/
inductive SourceUrlFault where
  /-- The text is no URL. -/
  | unreadable (text : String) (fault : UrlFault)
  /-- The URL has no path that an item could be named by. -/
  | pathless
  deriving DecidableEq, Repr

/-- A fault of a URL in words. -/
def SourceUrlFault.message : SourceUrlFault → String
  | .unreadable text fault => text ++ ": " ++ fault.message
  | .pathless => "details url cannot carry a path"

/-- Why a file cannot be read. -/
inductive FileFault where
  /-- The system refuses, for a reason it has words and a number for. -/
  | refused (reason : String) (number : Nat)
  /-- The path has a null character, which no file name has. -/
  | notPath
  /-- The bytes are no text. -/
  | notText
  deriving DecidableEq, Repr

namespace FileFault

/-- There is no such file. -/
def missing : FileFault := .refused "No such file or directory" 2

/-- The path leads to a directory. -/
def directory : FileFault := .refused "Is a directory" 21

/-- The path, or a name in it, is too long. -/
def tooLong : FileFault := .refused "File name too long" 36

/-- A fault of a file in words. -/
def message : FileFault → String
  | .refused reason number => s!"{reason} (os error {number})"
  | .notPath => "file name contained an unexpected NUL byte"
  | .notText => "stream did not contain valid UTF-8"

end FileFault

/-- What is wrong with a configuration. -/
inductive ConfigFault where
  | unreadable (path : String) (fault : FileFault)
  /-- The timeout the environment gives is no number. -/
  | timeoutNoNumber (raw : String)
  | zeroTimeout
  | duplicateSource (id : String)
  | blankSearchUrl (id : String)
  | blankDetailsUrl (id : String)
  deriving DecidableEq, Repr

/-- A fault of a configuration in words. -/
def ConfigFault.message : ConfigFault → String
  | .unreadable path fault => "cannot read " ++ path ++ ": " ++ fault.message
  | .timeoutNoNumber raw => "LOR_REQUEST_TIMEOUT_SECS is not a number: " ++ raw
  | .zeroTimeout => "request_timeout_secs must be greater than zero"
  | .duplicateSource id => "duplicate source id: " ++ id
  | .blankSearchUrl id => "source " ++ id ++ " has no search_url"
  | .blankDetailsUrl id => "source " ++ id ++ " has a blank details_url"

/-- **Everything that can go wrong.** Sources are named by their display names. -/
inductive Failure where
  | sourceUnavailable (source : String) (why : Outage)
  /-- The source answered what cannot be read. -/
  | sourceBadResponse (source : String)
  | itemNotFound (sourceId itemId : String)
  | encoding (fault : EncodingFault)
  | invalidRequest (fault : RequestFault)
  | unknownSource (id : String)
  | invalidSourceUrl (source : String) (fault : SourceUrlFault)
  | config (fault : ConfigFault)
  /-- The text of a configuration is no such text. -/
  | toml
  deriving DecidableEq, Repr

namespace Failure

/-- **A failure of a source**, which the other sources make up for. -/
def isSourceFailure : Failure → Bool
  | .sourceUnavailable .. | .sourceBadResponse _ => true
  | _ => false

/-- A failure in words. -/
def message : Failure → String
  | .sourceUnavailable source why => "source " ++ source ++ " unavailable: " ++ why.message
  | .sourceBadResponse source => "source " ++ source ++ " sent an unreadable response"
  | .itemNotFound sourceId itemId => "resource " ++ itemId ++ " not found at source " ++ sourceId
  | .encoding fault =>
    "cannot encode filter field \x60" ++ fault.field ++ "\x60: " ++ fault.fault.message
  | .invalidRequest fault => "invalid request: " ++ fault.message
  | .unknownSource id => "unknown source: " ++ id
  | .invalidSourceUrl source fault => "invalid url for source " ++ source ++ ": " ++ fault.message
  | .config fault => "configuration error: " ++ fault.message
  | .toml => "TOML parse error"

end Failure

/-- A page request that asks for items. -/
def PageRequest.validate (p : PageRequest) : Except Failure Unit :=
  if p.HasItems then .ok () else .error (.invalidRequest .emptyPage)

end CatalogSearch
