import CatalogSearch.Json.Codec
import CatalogSearch.Text.Quoted

/-! # Item keys

The id of a resource tells it from the others of its source only. Across sources it goes by a pair:

* **`ItemKey`**: the id of the source and the id of the resource there;
* **`ItemKey.IsBlank`**: a key that names nothing, because one of the two is blank;
* **`ItemKey.description`**: the key as messages show it;
* **`KeyGroup.ofKeys`**: keys grouped by their sources. -/

namespace CatalogSearch

/-- **The identity of a resource across sources.** -/
structure ItemKey where
  sourceId : String
  itemId : String
  deriving DecidableEq, Repr, Inhabited

namespace ItemKey

/-- A key with a blank part. -/
def IsBlank (k : ItemKey) : Prop := Text.blank k.sourceId = true ∨ Text.blank k.itemId = true

instance (k : ItemKey) : Decidable k.IsBlank := by
  unfold IsBlank
  infer_instance

/-- The key as messages show it. -/
def description (k : ItemKey) : String :=
  "ItemKey \x7b source_id: " ++ Text.quoted k.sourceId ++ ", item_id: " ++ Text.quoted k.itemId ++
    " \x7d"

/-- Keys as JSON. -/
def codec : Codec ItemKey := Codec.record
  [ .of "sourceId" .never .text (·.sourceId) fun v k => { k with sourceId := v },
    .of "itemId" .never .text (·.itemId) fun v k => { k with itemId := v } ]
  default

end ItemKey

/-! ## Groups of keys -/

/-- **The items that some keys name at one source.** -/
structure KeyGroup where
  sourceId : String
  itemIds : List String
  deriving DecidableEq, Repr

namespace KeyGroup

/-- **One more key**, in the group of its source, or in one of its own at the end. -/
def add (k : ItemKey) : List KeyGroup → List KeyGroup
  | [] => [⟨k.sourceId, [k.itemId]⟩]
  | g :: groups =>
    if g.sourceId = k.sourceId then ⟨g.sourceId, g.itemIds ++ [k.itemId]⟩ :: groups
    else g :: add k groups

/-- **The groups of some keys**, made key by key. -/
def ofKeys (keys : List ItemKey) : List KeyGroup := keys.foldl (fun groups k => add k groups) []

end KeyGroup

end CatalogSearch
