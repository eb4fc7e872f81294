/-! # TOML values

A TOML text as a tree. Numbers with a fraction, and dates and times, are kept as they are written:
nothing here calculates with them. -/

namespace CatalogSearch

/-- **A TOML value.** -/
inductive Toml where
  | string (s : String)
  | integer (n : Int)
  | float (written : List Char)
  | boolean (b : Bool)
  /-- A date, a time, or both. -/
  | moment (written : List Char)
  | array (items : List Toml)
  | table (members : List (String × Toml))
  deriving Repr, Inhabited

/-- The members of a table. -/
abbrev Toml.Table := List (String × Toml)

end CatalogSearch
