import CatalogSearch.Vocabulary.Basic

/-! # Sources

A source is a catalog of learning resources that can be searched.

* **`Source`**: one source;
* **`Source.toJson`**: a source as callers see it. -/

namespace CatalogSearch

/-- **A catalog of learning resources.** -/
structure Source where
  id : String
  /-- The name shown to readers. -/
  displayName : String
  /-- Where searches and the list of subjects are found. -/
  searchBaseUrl : String
  /-- Where single resources are found. -/
  detailsBaseUrl : String
  dialect : Dialect := .common
  deriving DecidableEq, Repr, Inhabited

namespace Source

/-- The JSON value of a source. -/
def toJson (s : Source) : Json :=
  .object
    [ ("id", .string s.id),
      ("displayName", .string s.displayName),
      ("searchBaseUrl", .string s.searchBaseUrl),
      ("detailsBaseUrl", .string s.detailsBaseUrl),
      ("providerType", Dialect.codec.encode s.dialect) ]

end Source

end CatalogSearch
